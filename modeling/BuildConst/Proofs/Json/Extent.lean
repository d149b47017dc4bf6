import Mathlib.Data.List.TakeWhile
import BuildConst.Proofs.Json.Grammar
import BuildConst.Proofs.Json.Numerals

/-!
# What is read depends on its own text

A reader takes a document from the front of a text.  Whatever it takes is determined by the
characters of that document: a list and an object end with their closing sign, a string with its
closing quote, and a numeral with its last digit, if nothing follows with which it could go on.  So
the same document is read when the text behind it is exchanged.

## Main definitions

* `Json.Local` — a reader that finds the text of what it reads.
* `Json.Finds` — what a reader of entries has found when it succeeds.

## Main results

* `Json.Finds.exists_inner` — entries are read up to their closing sign, whatever follows it.
* `Json.local_readValue` — documents are read from their own texts.
-/

set_option relaxedAutoImplicit false
set_option autoImplicit false

namespace BuildConst.Json

/-- A reader finds the text of what it reads: behind blanks stands a text that opens, and the same
is read from that text whatever follows it. -/
def LocalAt {α : Type} (reader : List Char → Except Fault (α × List Char)) (cs : List Char) :
    Prop :=
  ∀ a rest, reader cs = .ok (a, rest) → ∃ before text, Blanks before ∧
    cs = before ++ (text ++ rest) ∧ Opens text ∧ Answers reader text (some a)

/-- A reader that always finds the text of what it reads. -/
def Local {α : Type} (reader : List Char → Except Fault (α × List Char)) : Prop :=
  ∀ cs, LocalAt reader cs

/-- Nothing is claimed where nothing is read. -/
theorem LocalAt.of_error {α : Type} {reader : List Char → Except Fault (α × List Char)}
    {cs : List Char} {fault : Fault} (h : reader cs = .error fault) : LocalAt reader cs := by
  intro a rest hread
  rw [h] at hread
  cases hread

/-- A text is blanks and what is left when they are skipped. -/
theorem exists_skipBlanks (cs : List Char) :
    ∃ before, Blanks before ∧ cs = before ++ skipBlanks cs :=
  ⟨cs.takeWhile isBlank, List.all_eq_true.1 List.all_takeWhile,
    List.takeWhile_append_dropWhile.symm⟩

/-- Nothing is left exactly if there are only blanks. -/
theorem skipBlanks_eq_nil_iff {cs : List Char} : skipBlanks cs = [] ↔ Blanks cs :=
  List.dropWhile_eq_nil_iff

/-- Blanks may follow one another. -/
theorem Blanks.append {front cs : List Char} (h : Blanks front) (hcs : Blanks cs) :
    Blanks (front ++ cs) := by
  intro c hc
  rcases List.mem_append.1 hc with hmem | hmem
  · exact h c hmem
  · exact hcs c hmem

/-! ## Entries -/

section Entries

variable {α : Type} {close : Char} {entry : List Char → Except Fault (α × List Char)}
  {more : Nat → List Char → Except Fault (List α × List Char)}
  {whole : List Char → Except Fault (List α × List Char)}

/-- What a reader of entries has found when it succeeds: its closing sign, or an entry and what
`more` reads behind it. -/
structure Finds (close : Char) (entry : List Char → Except Fault (α × List Char))
    (more : Nat → List Char → Except Fault (List α × List Char))
    (whole : List Char → Except Fault (List α × List Char)) : Prop where
  first : ∀ {cs as rest}, whole cs = .ok (as, rest) →
    (∃ blanks, Blanks blanks ∧ cs = blanks ++ close :: rest ∧ as = []) ∨
      ∃ before tail, Blanks before ∧ cs = before ++ tail ∧
        followed entry (fun left => more left.length left) tail = .ok (as, rest)
  next : ∀ {fuel cs as rest}, more fuel cs = .ok (as, rest) →
    (∃ behind, Blanks behind ∧ cs = behind ++ close :: rest ∧ as = []) ∨
      ∃ fuel' behind before tail, fuel = fuel' + 1 ∧ Blanks behind ∧ Blanks before ∧
        cs = behind ++ ',' :: (before ++ tail) ∧ followed entry (more fuel') tail = .ok (as, rest)

/-- What the reader of a list has found. -/
theorem finds_items : Finds ']' entry (readMoreItems entry) (readItems entry) where
  first {cs as rest} h := by
    obtain ⟨before, hbefore, hcs⟩ := exists_skipBlanks cs
    rw [readItems] at h
    split at h
    next => cases h
    next left hclose =>
      cases h
      exact .inl ⟨before, hbefore, hclose ▸ hcs, rfl⟩
    next => exact .inr ⟨before, _, hbefore, hcs, h⟩
  next {fuel cs as rest} h := by
    obtain ⟨behind, hbehind, hcs⟩ := exists_skipBlanks cs
    rw [readMoreItems] at h
    split at h
    next => cases h
    next left hclose =>
      cases h
      exact .inl ⟨behind, hbehind, hclose ▸ hcs, rfl⟩
    next left hcomma =>
      obtain ⟨before, hbefore, hleft⟩ := exists_skipBlanks left
      split at h
      next => cases h
      next => cases h
      next =>
        split at h
        next => cases h
        next fuel =>
          refine .inr ⟨fuel, behind, before, _, rfl, hbehind, hbefore, ?_, h⟩
          rw [← hleft, ← hcomma, ← hcs]
    next => cases h

/-- What the reader of an object has found. -/
theorem finds_members :
    Finds '}' (readMember entry) (readMoreMembers entry) (readMembers entry) where
  first {cs as rest} h := by
    obtain ⟨before, hbefore, hcs⟩ := exists_skipBlanks cs
    rw [readMembers] at h
    split at h
    next => cases h
    next left hclose =>
      cases h
      exact .inl ⟨before, hbefore, hclose ▸ hcs, rfl⟩
    next => exact .inr ⟨before, _, hbefore, hcs, h⟩
  next {fuel cs as rest} h := by
    obtain ⟨behind, hbehind, hcs⟩ := exists_skipBlanks cs
    rw [readMoreMembers] at h
    split at h
    next => cases h
    next left hclose =>
      cases h
      exact .inl ⟨behind, hbehind, hclose ▸ hcs, rfl⟩
    next left hcomma =>
      obtain ⟨before, hbefore, hleft⟩ := exists_skipBlanks left
      split at h
      next => cases h
      next => cases h
      next =>
        split at h
        next => cases h
        next fuel =>
          refine .inr ⟨fuel, behind, before, _, rfl, hbehind, hbefore, ?_, h⟩
          rw [← hleft, ← hcomma, ← hcs]
    next => cases h

/-- A text that opens, from which an entry is read whatever follows it. -/
def IsEntry (entry : List Char → Except Fault (α × List Char)) (text : List Char) (a : α) : Prop :=
  Opens text ∧ Answers entry text (some a)

/-- What stands behind an entry: the closing sign, or a comma and further entries before it. -/
inductive Continues (close : Char) (entry : List Char → Except Fault (α × List Char))
    (rest : List Char) : List Char → List α → Prop
  | close {behind : List Char} (hbehind : Blanks behind) :
      Continues close entry rest (behind ++ close :: rest) []
  | comma {behind inner : List Char} {texts : List (List Char)} {as : List α}
      (hbehind : Blanks behind) (hinner : Separated texts inner)
      (hentries : List.Forall₂ (IsEntry entry) texts as) :
      Continues close entry rest (behind ++ ',' :: (inner ++ close :: rest)) as

/-- Blanks may be added in front of entries. -/
theorem Separated.blanks_append {before inner : List Char} {texts : List (List Char)}
    (hbefore : Blanks before) (h : Separated texts inner) : Separated texts (before ++ inner) := by
  cases h with
  | single hfront hbehind =>
    rw [← List.append_assoc]
    exact .single (hbefore.append hfront) hbehind
  | cons hfront hbehind hmore =>
    rw [← List.append_assoc]
    exact .cons (hbefore.append hfront) hbehind hmore

/-- An entry and what continues it are entries one after the other. -/
theorem exists_separated {read : List Char → Except Fault (List α × List Char)}
    {cs rest : List Char} {as : List α} (hentry : Local entry)
    (hread : ∀ left others, read left = .ok (others, rest) → Continues close entry rest left others)
    (h : followed entry read cs = .ok (as, rest)) :
    ∃ texts inner, Separated texts inner ∧ List.Forall₂ (IsEntry entry) texts as ∧
      cs = inner ++ close :: rest := by
  obtain ⟨⟨first, left⟩, hfirst, hothers⟩ := Except.bind_eq_ok_iff.1 h
  obtain ⟨⟨others, end'⟩, hmore, heq⟩ := Except.bind_eq_ok_iff.1 hothers
  cases heq
  obtain ⟨before, text, hbefore, rfl, hopens, hanswers⟩ := hentry cs first left hfirst
  cases hread left others hmore with
  | close hbehind =>
    refine ⟨[text], _, .single hbefore hbehind, .cons ⟨hopens, hanswers⟩ .nil, ?_⟩
    simp
  | comma hbehind hinner hentries =>
    refine ⟨text :: _, _, .cons hbefore hbehind hinner, .cons ⟨hopens, hanswers⟩ hentries, ?_⟩
    simp

/-- What is read behind an entry continues it. -/
theorem Finds.continues (h : Finds close entry more whole) (hentry : Local entry) {fuel : Nat}
    {cs rest : List Char} {as : List α} (hread : more fuel cs = .ok (as, rest)) :
    Continues close entry rest cs as := by
  induction fuel generalizing cs as with
  | zero =>
    rcases h.next hread with ⟨behind, hbehind, rfl, rfl⟩ | ⟨fuel', _, _, _, hfuel, _⟩
    · exact .close hbehind
    · omega
  | succ fuel ih =>
    rcases h.next hread with ⟨behind, hbehind, rfl, rfl⟩ |
      ⟨fuel', behind, before, tail, hfuel, hbehind, hbefore, rfl, hfollowed⟩
    · exact .close hbehind
    · obtain rfl : fuel = fuel' := by omega
      obtain ⟨texts, inner, hinner, hentries, rfl⟩ :=
        exists_separated hentry (fun left others => ih) hfollowed
      rw [← List.append_assoc before]
      exact .comma hbehind (hinner.blanks_append hbefore) hentries

/-- Entries that were answered one by one are answered together. -/
theorem forall₂_answers_some {texts : List (List Char)} {as : List α}
    (h : List.Forall₂ (IsEntry entry) texts as) :
    List.Forall₂ (fun text answer => Opens text ∧ Answers entry text answer) texts
      (as.map some) := by
  rw [List.forall₂_map_right_iff]
  exact h

/-- **Entries are read up to their closing sign, whatever follows it.** -/
theorem Finds.exists_inner (h : Finds close entry more whole)
    (henumerates : Enumerates close entry more whole) (hentry : Local entry) {cs rest : List Char}
    {as : List α} (hread : whole cs = .ok (as, rest)) :
    ∃ inner, cs = inner ++ close :: rest ∧
      ∀ rest', whole (inner ++ close :: rest') = .ok (as, rest') := by
  rcases h.first hread with ⟨blanks, hblanks, rfl, rfl⟩ | ⟨before, tail, hbefore, rfl, hfollowed⟩
  · exact ⟨blanks, rfl, henumerates.empty hblanks⟩
  · obtain ⟨texts, inner, hinner, hentries, rfl⟩ :=
      exists_separated hentry (fun _ _ => h.continues hentry) hfollowed
    refine ⟨before ++ inner, (List.append_assoc ..).symm, fun rest' => ?_⟩
    have hwhole := henumerates.toOption_whole (hinner.blanks_append hbefore)
      (forall₂_answers_some hentries) rest'
    have hall : (as.map some).mapM id = some as := by
      rw [List.mapM_map]
      exact mapM_some as
    rw [hall] at hwhole
    exact Except.toOption_eq_some_iff.1 hwhole

end Entries

/-! ## Documents -/

/-- A word is read from its own characters. -/
theorem readWord_eq_ok_iff {word cs rest : List Char} :
    readWord word cs = .ok rest ↔ cs = word ++ rest := by
  induction word generalizing cs with
  | nil => simp [readWord]
  | cons w word ih =>
    cases cs with
    | nil => simp [readWord]
    | cons c cs =>
      rw [readWord]
      split
      next hc => simp [hc, ih]
      next hc => simp [hc]

/-- A member is read from its own text if its value is. -/
theorem Local.readMember {d : Nat} (h : Local (readValue d)) :
    Local (readMember (readValue d)) := by
  intro cs member rest hread
  unfold Json.readMember at hread
  split at hread
  next tail =>
    obtain ⟨⟨key, left⟩, hkey, hcolon⟩ := Except.bind_eq_ok_iff.1 hread
    obtain ⟨body, hbody, rfl⟩ := readString_eq_ok_iff.1 hkey
    obtain ⟨behind, hbehind, hleft⟩ := exists_skipBlanks left
    dsimp only at hcolon
    split at hcolon
    next => cases hcolon
    next after hafter =>
      obtain ⟨⟨v, end'⟩, hvalue, heq⟩ := Except.bind_eq_ok_iff.1 hcolon
      cases heq
      obtain ⟨before, text, hbefore, rfl, -, hanswers⟩ := h after v _ hvalue
      have hmember : Member (fun v text => Answers (readValue d) text (some v)) (key, v) _ :=
        .intro hbody hbehind hbefore hanswers
      refine ⟨[], _, nofun, ?_, hmember.opens, hmember.answers fun _ hv => hv⟩
      rw [hleft, hafter]
      simp
    next => cases hcolon
  next => cases hread

/-- Changed results come from the same text. -/
theorem exists_of_map_eq_ok {α β : Type} {read : Except Fault (α × List Char)} {f : α → β} {b : β}
    {rest : List Char} (h : (read.map fun (a, left) => (f a, left)) = .ok (b, rest)) :
    ∃ a, read = .ok (a, rest) ∧ f a = b := by
  obtain ⟨⟨a, left⟩, hread, heq⟩ := Except.map_eq_ok_iff.1 h
  cases heq
  exact ⟨a, hread, rfl⟩

section Documents

variable {d : Nat}

/-- Words are read from their own characters. -/
theorem localAt_word {c : Char} {word : List Char} {v : Json} (hwrites : Writes v (c :: word))
    (heq : ∀ tail, readValue d (c :: tail) = (readWord word tail).map fun left => (v, left))
    (tail : List Char) : LocalAt (readValue d) (c :: tail) := by
  intro a rest h
  rw [heq] at h
  obtain ⟨left, hword, hresult⟩ := Except.map_eq_ok_iff.1 h
  cases hresult
  obtain rfl := readWord_eq_ok_iff.1 hword
  refine ⟨[], c :: word, nofun, rfl, hwrites.opens, ?_⟩
  intro rest' _
  rw [List.cons_append, heq, readWord_eq_ok_iff.2 rfl]
  rfl

/-- Numbers with a minus sign are read from their own characters. -/
theorem localAt_minus (tail : List Char) : LocalAt (readValue d) ('-' :: tail) := by
  intro a rest h
  rw [readValue_minus] at h
  obtain ⟨n, hread, rfl⟩ := exists_of_map_eq_ok h
  obtain ⟨-, text, rfl, htext⟩ := confined_readNumeral true n rest hread
  refine ⟨[], '-' :: text, nofun, rfl, ⟨_, _, rfl, by decide, by decide, by decide⟩, ?_⟩
  intro rest' hrest'
  rw [List.cons_append, readValue_minus, htext rest' (.inr hrest')]
  rfl

/-- Numbers without a sign are read from their own characters. -/
theorem localAt_digit {c : Char} (hc : c.isDigit = true) (tail : List Char) :
    LocalAt (readValue d) (c :: tail) := by
  intro a rest h
  rw [readValue_of_isDigit d hc] at h
  obtain ⟨n, hread, rfl⟩ := exists_of_map_eq_ok h
  obtain ⟨hrest, text, hcs, htext⟩ := confined_readNumeral false n rest hread
  -- No digit is left behind the numeral, so the first one belongs to it.
  cases text with
  | nil =>
    obtain rfl : c :: tail = rest := hcs
    have hnone : c.isDigit = false := hrest
    simp [hnone] at hc
  | cons c' text =>
    obtain ⟨rfl, rfl⟩ := List.cons.inj hcs
    refine ⟨[], c :: text, nofun, rfl, opens_of_isDigit hc text, ?_⟩
    intro rest' hrest'
    have hnumeral := htext rest' (.inr hrest')
    rw [List.cons_append] at hnumeral ⊢
    rw [readValue_of_isDigit d hc, hnumeral]
    rfl

/-- Strings are read up to their closing quote. -/
theorem localAt_quote (tail : List Char) : LocalAt (readValue d) ('"' :: tail) := by
  intro a rest h
  rw [readValue_quote] at h
  obtain ⟨s, hread, rfl⟩ := exists_of_map_eq_ok h
  obtain ⟨body, hbody, rfl⟩ := readString_eq_ok_iff.1 hread
  refine ⟨[], '"' :: (body ++ ['"']), nofun, by simp, (Writes.string hbody).opens, ?_⟩
  intro rest' _
  rw [List.cons_append, List.append_assoc, List.singleton_append, readValue_quote,
    readString_body hbody]
  rfl

/-- What is enclosed is read up to its closing sign, if its entries are read from their own
texts. -/
theorem localAt_enclosed {α : Type} {opening close : Char}
    {entry : List Char → Except Fault (α × List Char)}
    {more : Nat → List Char → Except Fault (List α × List Char)}
    {whole : List Char → Except Fault (List α × List Char)} {f : List α → Json}
    (hopens : ∀ tail, Opens (opening :: tail)) (hfinds : Finds close entry more whole)
    (henumerates : Enumerates close entry more whole) (hentry : Local entry)
    (heq : ∀ cs, (readValue d (opening :: cs)).toOption =
      (whole cs).toOption.map fun (as, rest) => (f as, rest)) (tail : List Char) :
    LocalAt (readValue d) (opening :: tail) := by
  intro a rest h
  have hread := Except.toOption_eq_some_iff.2 h
  rw [heq] at hread
  obtain ⟨⟨as, left⟩, hwhole, hresult⟩ := Option.map_eq_some_iff.1 hread
  cases hresult
  obtain ⟨inner, rfl, hinner⟩ :=
    hfinds.exists_inner henumerates hentry (Except.toOption_eq_some_iff.1 hwhole)
  refine ⟨[], opening :: (inner ++ [close]), nofun, by simp, hopens _, ?_⟩
  intro rest' _
  rw [List.cons_append, List.append_assoc, List.singleton_append, heq, hinner rest']
  rfl

/-- Lists are read up to their closing bracket, if their items are read from their own texts. -/
theorem localAt_bracket (ih : ∀ d' < d, Local (readValue d')) (tail : List Char) :
    LocalAt (readValue d) ('[' :: tail) := by
  obtain _ | _ | d := d
  · exact .of_error (by rw [readValue]; rfl)
  · exact .of_error (by rw [readValue]; rfl)
  · exact localAt_enclosed (fun _ => ⟨_, _, rfl, by decide, by decide, by decide⟩) finds_items
      enumerates_items (ih (d + 1) (by omega)) (toOption_readValue_bracket d.succ_pos) tail

/-- Objects are read up to their closing brace, if their values are read from their own texts. -/
theorem localAt_brace (ih : ∀ d' < d, Local (readValue d')) (tail : List Char) :
    LocalAt (readValue d) ('{' :: tail) := by
  obtain _ | _ | d := d
  · exact .of_error (by rw [readValue]; rfl)
  · exact .of_error (by rw [readValue]; rfl)
  · exact localAt_enclosed (fun _ => ⟨_, _, rfl, by decide, by decide, by decide⟩) finds_members
      enumerates_members (ih (d + 1) (by omega)).readMember (toOption_readValue_brace d.succ_pos)
      tail

/-- Blanks may stand in front. -/
theorem LocalAt.of_skipBlanks {cs : List Char} (h : LocalAt (readValue d) (skipBlanks cs)) :
    LocalAt (readValue d) cs := by
  intro a rest hread
  obtain ⟨front, hfront, hcs⟩ := exists_skipBlanks cs
  rw [hcs, readValue_append d hfront] at hread
  obtain ⟨before, text, hbefore, htext, hopens, hanswers⟩ := h a rest hread
  refine ⟨front ++ before, text, hfront.append hbefore, ?_, hopens, hanswers⟩
  rw [List.append_assoc, ← htext, ← hcs]

end Documents

/-- **Documents are read from their own texts**, whatever follows them.

**Proof sketch.** By induction on the bound of the depth.  The first character behind the blanks
decides what is read.  The items of a list and the members of an object are read with a lower bound,
so they are read from their own texts, and then the list or the object is, up to its closing
sign. -/
theorem local_readValue (d : Nat) : Local (readValue d) := by
  induction d using Nat.strongRecOn with
  | ind d ih =>
    intro cs v rest h
    suffices hlocal : LocalAt (readValue d) (skipBlanks cs) from hlocal.of_skipBlanks v rest h
    rw [readValue] at h
    split at h
    next => cases h
    next tail htail =>
      rw [htail]
      exact localAt_word .null (fun tail => by rw [readValue]; rfl) tail
    next tail htail =>
      rw [htail]
      exact localAt_word .true (fun tail => by rw [readValue]; rfl) tail
    next tail htail =>
      rw [htail]
      exact localAt_word .false (fun tail => by rw [readValue]; rfl) tail
    next tail htail => exact htail ▸ localAt_minus tail
    next tail htail => exact htail ▸ localAt_quote tail
    next tail htail => exact htail ▸ localAt_bracket ih tail
    next tail htail => exact htail ▸ localAt_brace ih tail
    next c tail _ _ _ _ _ _ _ htail =>
      split at h
      next hc => exact htail ▸ localAt_digit hc tail
      next => cases h

end BuildConst.Json
