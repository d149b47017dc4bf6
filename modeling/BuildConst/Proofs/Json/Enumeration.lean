import Mathlib.Data.List.Forall2
import BuildConst.Proofs.Json.Numbers

/-!
# Lists and objects are read entry by entry

Between the brackets of a list and the braces of an object stand entries, with commas between them
and blanks around each.  The two readers for them differ in the closing sign, the entries and the
faults they report, but not in what they do next.  So both are described by the same equations, and
whether they succeed and with what follows from what the reader of one entry answers to each entry.

## Main definitions

* `Json.Separated` — entries one after the other.
* `Json.Answers` — what a reader answers to a text, whatever follows it.
* `Json.Enumerates` — the equations of a reader of entries.

## Main results

* `Json.enumerates_items`, `Json.enumerates_members` — both readers satisfy them.
* `Json.Enumerates.toOption_entries` — the answer to separated entries.
-/

set_option relaxedAutoImplicit false
set_option autoImplicit false

namespace BuildConst.Json

/-! ## Entries -/

/-- Blanks only. -/
def Blanks (cs : List Char) : Prop :=
  ∀ c ∈ cs, isBlank c = true

instance (cs : List Char) : Decidable (Blanks cs) :=
  List.decidableBAll (fun c => isBlank c = true) cs

/-- Texts one after the other, with a comma between each two of them and blanks around each. -/
inductive Separated : List (List Char) → List Char → Prop
  | single {text before behind : List Char} (hbefore : Blanks before) (hbehind : Blanks behind) :
      Separated [text] (before ++ (text ++ behind))
  | cons {text before behind inner : List Char} {more : List (List Char)} (hbefore : Blanks before)
      (hbehind : Blanks behind) (hmore : Separated more inner) :
      Separated (text :: more) (before ++ (text ++ (behind ++ ',' :: inner)))

/-- A text that begins with a sign of its own: with no blank, and not as its list or object ends. -/
def Opens (text : List Char) : Prop :=
  ∃ c rest, text = c :: rest ∧ isBlank c = false ∧ c ≠ ']' ∧ c ≠ '}'

/-- There are no more entries than characters, up to one. -/
theorem Separated.length_le {texts : List (List Char)} {inner : List Char}
    (h : Separated texts inner) : texts.length ≤ inner.length + 1 := by
  induction h with
  | single => simp
  | cons _ _ _ ih =>
    simp only [List.length_cons, List.length_append]
    omega

/-! ## Blanks -/

/-- Blanks at the front are skipped. -/
theorem skipBlanks_append {before : List Char} (h : Blanks before) (cs : List Char) :
    skipBlanks (before ++ cs) = skipBlanks cs :=
  List.dropWhile_append_of_pos h

/-- Blanks are all skipped. -/
theorem skipBlanks_of_blanks {cs : List Char} (h : Blanks cs) : skipBlanks cs = [] := by
  simpa [skipBlanks] using skipBlanks_append h []

/-- Nothing is skipped where a text opens. -/
theorem skipBlanks_of_opens {text : List Char} (h : Opens text) (tail : List Char) :
    skipBlanks (text ++ tail) = text ++ tail := by
  obtain ⟨c, rest, rfl, hc, -, -⟩ := h
  exact List.dropWhile_cons_of_neg (by simp [hc])

/-- No numeral goes on with blanks and the sign behind them. -/
theorem stops_append_cons {behind : List Char} (h : Blanks behind) {c : Char}
    (hc : c ∈ [',', ']', '}']) (rest : List Char) : Stops (behind ++ c :: rest) := by
  have hsign : c.isDigit = false ∧ c ∉ ['.', 'e', 'E'] := by
    simp only [List.mem_cons, List.not_mem_nil, or_false] at hc
    rcases hc with rfl | rfl | rfl <;> decide
  have hblank (d : Char) (hd : isBlank d = true) : d.isDigit = false ∧ d ∉ ['.', 'e', 'E'] := by
    simp only [isBlank, Bool.or_eq_true, beq_iff_eq] at hd
    rcases hd with ((rfl | rfl) | rfl) | rfl <;> decide
  intro d hd
  cases behind with
  | nil => exact Option.mem_some.1 hd ▸ hsign
  | cons b behind => exact Option.mem_some.1 hd ▸ hblank b (h b List.mem_cons_self)

/-! ## Readers of entries -/

section Readers

variable {α : Type} {entry : List Char → Except Fault (α × List Char)}

/-- What a reader answers to a text, whatever follows it: what was read and what follows, or
nothing if it fails. -/
def Answers (reader : List Char → Except Fault (α × List Char)) (text : List Char)
    (answer : Option α) : Prop :=
  ∀ rest, Stops rest → (reader (text ++ rest)).toOption = answer.map fun a => (a, rest)

/-- A reader that answers with what was read has succeeded. -/
theorem Answers.eq_ok {reader : List Char → Except Fault (α × List Char)} {text rest : List Char}
    {a : α} (h : Answers reader text (some a)) (hrest : Stops rest) :
    reader (text ++ rest) = .ok (a, rest) := by
  have hanswer := h rest hrest
  cases hread : reader (text ++ rest) with
  | error fault =>
    rw [hread] at hanswer
    cases hanswer
  | ok result =>
    rw [hread] at hanswer
    rw [Option.some.inj hanswer]

/-- One entry and what follows it. -/
def followed (entry : List Char → Except Fault (α × List Char))
    (more : List Char → Except Fault (List α × List Char)) (cs : List Char) :
    Except Fault (List α × List Char) := do
  let (first, rest) ← entry cs
  let (others, rest) ← more rest
  .ok (first :: others, rest)

/-- The equations of a reader of entries up to a closing sign, where `more` reads what follows an
entry. -/
structure Enumerates (close : Char) (entry : List Char → Except Fault (α × List Char))
    (more : Nat → List Char → Except Fault (List α × List Char))
    (whole : List Char → Except Fault (List α × List Char)) : Prop where
  sign : close ∈ [',', ']', '}']
  empty : ∀ {before}, Blanks before → ∀ rest, whole (before ++ close :: rest) = .ok ([], rest)
  first : ∀ {before text}, Blanks before → Opens text → ∀ tail,
    whole (before ++ (text ++ tail)) =
      followed entry (fun rest => more rest.length rest) (text ++ tail)
  last : ∀ {behind}, Blanks behind → ∀ fuel rest,
    more fuel (behind ++ close :: rest) = .ok ([], rest)
  next : ∀ {behind before text}, Blanks behind → Blanks before → Opens text → ∀ fuel tail,
    more (fuel + 1) (behind ++ ',' :: (before ++ (text ++ tail))) =
      followed entry (more fuel) (text ++ tail)

/-- The items of a list are read one by one. -/
theorem enumerates_items : Enumerates ']' entry (readMoreItems entry) (readItems entry) where
  sign := by decide
  empty hbefore rest := by
    rw [readItems, skipBlanks_append hbefore]
    rfl
  first hbefore hopens tail := by
    rw [readItems, skipBlanks_append hbefore, skipBlanks_of_opens hopens]
    obtain ⟨c, rest, rfl, -, hbracket, -⟩ := hopens
    rw [List.cons_append]
    split
    next hnil => cases hnil
    next hclose => exact absurd (List.cons.inj hclose).1 hbracket
    next => rfl
  last hbehind fuel rest := by
    rw [readMoreItems, skipBlanks_append hbehind]
    rfl
  next hbehind hbefore hopens fuel tail := by
    have hcomma (cs : List Char) : skipBlanks (',' :: cs) = ',' :: cs := rfl
    have hnext := skipBlanks_of_opens hopens tail
    rw [← skipBlanks_append hbefore] at hnext
    obtain ⟨c, rest, rfl, -, hbracket, -⟩ := hopens
    rw [List.cons_append] at hnext ⊢
    rw [readMoreItems, skipBlanks_append hbehind, hcomma]
    simp only [hnext]
    split
    next hnil => cases hnil
    next hclose => exact absurd (List.cons.inj hclose).1 hbracket
    next => rfl

/-- The members of an object are read one by one. -/
theorem enumerates_members :
    Enumerates '}' (readMember entry) (readMoreMembers entry) (readMembers entry) where
  sign := by decide
  empty hbefore rest := by
    rw [readMembers, skipBlanks_append hbefore]
    rfl
  first hbefore hopens tail := by
    rw [readMembers, skipBlanks_append hbefore, skipBlanks_of_opens hopens]
    obtain ⟨c, rest, rfl, -, -, hbrace⟩ := hopens
    rw [List.cons_append]
    split
    next hnil => cases hnil
    next hclose => exact absurd (List.cons.inj hclose).1 hbrace
    next => rfl
  last hbehind fuel rest := by
    rw [readMoreMembers, skipBlanks_append hbehind]
    rfl
  next hbehind hbefore hopens fuel tail := by
    have hcomma (cs : List Char) : skipBlanks (',' :: cs) = ',' :: cs := rfl
    have hnext := skipBlanks_of_opens hopens tail
    rw [← skipBlanks_append hbefore] at hnext
    obtain ⟨c, rest, rfl, -, -, hbrace⟩ := hopens
    rw [List.cons_append] at hnext ⊢
    rw [readMoreMembers, skipBlanks_append hbehind, hcomma]
    simp only [hnext]
    split
    next hnil => cases hnil
    next hclose => exact absurd (List.cons.inj hclose).1 hbrace
    next => rfl

/-! ## Answers -/

variable {close : Char} {more : Nat → List Char → Except Fault (List α × List Char)}
  {whole : List Char → Except Fault (List α × List Char)}

/-- An entry and what follows it are read if both of them are. -/
theorem toOption_followed {read : List Char → Except Fault (List α × List Char)}
    {cs tail rest : List Char} {first : Option α} {others : List (Option α)}
    (hfirst : (entry cs).toOption = first.map fun a => (a, tail))
    (hothers : (read tail).toOption = (others.mapM id).map fun as => (as, rest)) :
    (followed entry read cs).toOption =
      ((first :: others).mapM id).map fun as => (as, rest) := by
  rw [List.mapM_cons]
  generalize others.mapM id = others at hothers
  unfold followed
  cases hentry : entry cs with
  | error fault =>
    rw [hentry] at hfirst
    cases first with
    | none => rfl
    | some a => cases hfirst
  | ok result =>
    rw [hentry] at hfirst
    cases first with
    | none => cases hfirst
    | some a =>
      obtain rfl := Option.some.inj hfirst
      cases hread : read tail with
      | error fault =>
        rw [hread] at hothers
        cases others with
        | none => simp [bind, Except.bind, hread, Except.toOption]
        | some as => cases hothers
      | ok result =>
        rw [hread] at hothers
        cases others with
        | none => cases hothers
        | some as =>
          obtain rfl := Option.some.inj hothers
          simp [bind, Except.bind, hread, Except.toOption]

/-- What is read after an entry are the entries that follow it. -/
theorem Enumerates.toOption_more (h : Enumerates close entry more whole)
    {texts : List (List Char)} {inner : List Char} (hseparated : Separated texts inner)
    {answers : List (Option α)}
    (hentries : List.Forall₂ (fun text answer => Opens text ∧ Answers entry text answer) texts
      answers) {fuel : Nat} (hfuel : texts.length ≤ fuel) {behind : List Char}
    (hbehind : Blanks behind) (rest : List Char) :
    (more fuel (behind ++ ',' :: (inner ++ close :: rest))).toOption =
      (answers.mapM id).map fun as => (as, rest) := by
  induction hseparated generalizing answers fuel behind with
  | @single text before behind' hbefore hbehind' =>
    obtain ⟨fuel, rfl⟩ := Nat.exists_eq_succ_of_ne_zero (Nat.ne_of_gt hfuel)
    cases hentries with
    | cons hentry hnone =>
      cases hnone
      rw [List.append_assoc, List.append_assoc, h.next hbehind hbefore hentry.1]
      refine toOption_followed (hentry.2 _ (stops_append_cons hbehind' h.sign rest)) ?_
      rw [h.last hbehind']
      rfl
  | @cons text before behind' inner others hbefore hbehind' hmore ih =>
    obtain ⟨fuel, rfl⟩ := Nat.exists_eq_succ_of_ne_zero (Nat.ne_of_gt (Nat.zero_lt_of_lt hfuel))
    cases hentries with
    | cons hentry hothers =>
      simp only [List.append_assoc, List.cons_append]
      rw [h.next hbehind hbefore hentry.1]
      exact toOption_followed (hentry.2 _ (stops_append_cons hbehind' (by decide) _))
        (ih hothers (Nat.le_of_succ_le_succ hfuel) hbehind')

/-- **The answer to separated entries** are the answers to all of them, or nothing if there is none
to one of them. -/
theorem Enumerates.toOption_whole (h : Enumerates close entry more whole)
    {texts : List (List Char)} {inner : List Char} (hseparated : Separated texts inner)
    {answers : List (Option α)}
    (hentries : List.Forall₂ (fun text answer => Opens text ∧ Answers entry text answer) texts
      answers) (rest : List Char) :
    (whole (inner ++ close :: rest)).toOption =
      (answers.mapM id).map fun as => (as, rest) := by
  cases hseparated with
  | @single text before behind hbefore hbehind =>
    cases hentries with
    | cons hentry hnone =>
      cases hnone
      rw [List.append_assoc, List.append_assoc, h.first hbefore hentry.1]
      refine toOption_followed (hentry.2 _ (stops_append_cons hbehind h.sign rest)) ?_
      rw [h.last hbehind]
      rfl
  | @cons text before behind inner others hbefore hbehind hmore =>
    cases hentries with
    | cons hentry hothers =>
      simp only [List.append_assoc, List.cons_append]
      rw [h.first hbefore hentry.1]
      refine toOption_followed (hentry.2 _ (stops_append_cons hbehind (by decide) _))
        (h.toOption_more hmore hothers ?_ hbehind rest)
      have hcount := hmore.length_le
      simp only [List.length_append, List.length_cons]
      omega

/-- What is answered to each entry is answered to all of them. -/
theorem forall₂_answers {β : Type} {write : β → List Char → Prop} {answer : β → Option α}
    {entries : List β} {texts : List (List Char)} (h : List.Forall₂ write entries texts)
    (hopens : ∀ b text, write b text → Opens text)
    (hanswers : ∀ b ∈ entries, ∀ text, write b text → Answers entry text (answer b)) :
    List.Forall₂ (fun text answer => Opens text ∧ Answers entry text answer) texts
      (entries.map answer) := by
  induction h with
  | nil => exact .nil
  | cons hfirst _ ih =>
    exact .cons ⟨hopens _ _ hfirst, hanswers _ List.mem_cons_self _ hfirst⟩
      (ih fun b hb => hanswers b (List.mem_cons_of_mem _ hb))

/-- **Entries are read one by one**: the answer to their texts, one after the other, are the answers
to all of them. -/
theorem Enumerates.toOption_entries (h : Enumerates close entry more whole) {β : Type}
    {write : β → List Char → Prop} {answer : β → Option α} {entries : List β}
    {texts : List (List Char)} {inner : List Char} (hwrite : List.Forall₂ write entries texts)
    (hseparated : Separated texts inner) (hopens : ∀ b text, write b text → Opens text)
    (hanswers : ∀ b ∈ entries, ∀ text, write b text → Answers entry text (answer b))
    (rest : List Char) :
    (whole (inner ++ close :: rest)).toOption =
      (entries.mapM answer).map fun as => (as, rest) := by
  rw [h.toOption_whole hseparated (forall₂_answers hwrite hopens hanswers), List.mapM_map]
  rfl

end Readers

/-- Entries that are answered by themselves are all answered. -/
theorem mapM_some {α : Type} (as : List α) : as.mapM some = some as := by
  induction as with
  | nil => rfl
  | cons a as ih => simp [ih]

end BuildConst.Json
