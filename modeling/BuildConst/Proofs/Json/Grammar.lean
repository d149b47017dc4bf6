import BuildConst.Proofs.Json.Enumeration
import BuildConst.Proofs.Json.Strings

/-!
# Documents are read back from every text of theirs

A document has many texts: there may be blanks between any two tokens, and characters in strings may
be escaped.  Whatever text was chosen, the reader finds the document again, as long as lists and
objects are not nested too deeply.

## Main definitions

* `Json.depth` — how deeply lists and objects are nested.
* `Json.Writes`, `Json.Document` — the texts of a document, without and with blanks around them.

## Main results

* `Json.Writes.opens` — a document begins with a sign of its own.
* `Json.answers_readValue` — a document is read back from its texts.
* `Json.read_of_document` — the same of a text as a whole.
-/

set_option relaxedAutoImplicit false
set_option autoImplicit false

namespace BuildConst.Json

/-! ## Depths -/

mutual

/-- How deeply lists and objects are nested in a document. -/
def depth : Json → Nat
  | .null | .bool _ | .number _ | .string _ => 0
  | .array items => itemsDepth items + 1
  | .object members => membersDepth members + 1

/-- How deeply lists and objects are nested in the items of a list. -/
def itemsDepth : List Json → Nat
  | [] => 0
  | item :: items => max (depth item) (itemsDepth items)

/-- How deeply lists and objects are nested in the members of an object. -/
def membersDepth : List (String × Json) → Nat
  | [] => 0
  | (_, value) :: members => max (depth value) (membersDepth members)

end

/-- No item is nested more deeply than the items together. -/
theorem depth_le_of_mem_items {items : List Json} {item : Json} (h : item ∈ items) :
    item.depth ≤ itemsDepth items := by
  induction items with
  | nil => cases h
  | cons first items ih =>
    rw [itemsDepth]
    rcases List.mem_cons.1 h with rfl | hmem
    · exact Nat.le_max_left _ _
    · exact Nat.le_trans (ih hmem) (Nat.le_max_right _ _)

/-- Items are nested no more deeply together than each of them may be. -/
theorem itemsDepth_le {items : List Json} {bound : Nat} (h : ∀ item ∈ items, item.depth ≤ bound) :
    itemsDepth items ≤ bound := by
  induction items with
  | nil => exact Nat.zero_le bound
  | cons first items ih =>
    rw [List.forall_mem_cons] at h
    exact Nat.max_le.2 ⟨h.1, ih h.2⟩

/-- No member is nested more deeply than the members together. -/
theorem depth_le_of_mem_members {members : List (String × Json)} {member : String × Json}
    (h : member ∈ members) : member.2.depth ≤ membersDepth members := by
  induction members with
  | nil => cases h
  | cons first members ih =>
    rw [membersDepth]
    rcases List.mem_cons.1 h with rfl | hmem
    · exact Nat.le_max_left _ _
    · exact Nat.le_trans (ih hmem) (Nat.le_max_right _ _)

/-! ## Texts of documents -/

/-- A member of an object as a text: its key in quotes, a colon, and its value as `write` has it,
with blanks around the colon. -/
inductive Member (write : Json → List Char → Prop) : String × Json → List Char → Prop
  | intro {key : String} {value : Json} {body behind before text : List Char}
      (hkey : Body key.toList body) (hbehind : Blanks behind) (hbefore : Blanks before)
      (hvalue : write value text) :
      Member write (key, value) ('"' :: (body ++ '"' :: (behind ++ ':' :: (before ++ text))))

/-- The texts of a document without blanks around them.  Integers of at most 64 bits have their
decimal form; a minus sign in front of a zero makes it a floating point number. -/
inductive Writes : Json → List Char → Prop
  | null : Writes .null ['n', 'u', 'l', 'l']
  | true : Writes (.bool .true) ['t', 'r', 'u', 'e']
  | false : Writes (.bool .false) ['f', 'a', 'l', 's', 'e']
  | natural {n : Nat} (h : n < 2 ^ 64) : Writes (.number (.whole n)) (Nat.toDigits 10 n)
  | negative {n : Nat} (hpos : 0 < n) (h : n ≤ 2 ^ 63) :
      Writes (.number (.whole (-n))) ('-' :: Nat.toDigits 10 n)
  | negativeZero : Writes (.number (.binary .true .zero)) ['-', '0']
  | string {s : String} {body : List Char} (h : Body s.toList body) :
      Writes (.string s) ('"' :: (body ++ ['"']))
  | emptyArray {blanks : List Char} (h : Blanks blanks) :
      Writes (.array []) ('[' :: (blanks ++ [']']))
  | array {items : List Json} {texts : List (List Char)} {inner : List Char}
      (hitems : List.Forall₂ Writes items texts) (h : Separated texts inner) :
      Writes (.array items) ('[' :: (inner ++ [']']))
  | emptyObject {blanks : List Char} (h : Blanks blanks) :
      Writes (.object []) ('{' :: (blanks ++ ['}']))
  | object {members : List (String × Json)} {texts : List (List Char)} {inner : List Char}
      (hmembers : List.Forall₂ (Member Writes) members texts) (h : Separated texts inner) :
      Writes (.object members) ('{' :: (inner ++ ['}']))

/-- The texts of a document with blanks around them. -/
def Document (v : Json) (text : String) : Prop :=
  ∃ before inner behind, Blanks before ∧ Writes v inner ∧ Blanks behind ∧
    text.toList = before ++ (inner ++ behind)

/-! ## Beginnings -/

/-- A digit is a sign of its own. -/
theorem opens_of_isDigit {c : Char} (h : c.isDigit = true) (rest : List Char) :
    Opens (c :: rest) := by
  refine ⟨c, rest, rfl, ?_, ?_, ?_⟩
  · refine Bool.eq_false_iff.2 fun hblank => ?_
    simp only [isBlank, Bool.or_eq_true, beq_iff_eq] at hblank
    rcases hblank with ((rfl | rfl) | rfl) | rfl <;> exact absurd h (by decide)
  · rintro rfl
    exact absurd h (by decide)
  · rintro rfl
    exact absurd h (by decide)

/-- The decimal form of a number begins with a digit. -/
theorem exists_toDigits (n : Nat) :
    ∃ c ds, Nat.toDigits 10 n = c :: ds ∧ c.isDigit = true := by
  have hall := Decimal.isDigit_toDigits n
  generalize hdigits : Nat.toDigits 10 n = digits at hall
  cases digits with
  | nil => exact absurd hdigits Nat.toDigits_ne_nil
  | cons c ds => exact ⟨c, ds, rfl, hall c List.mem_cons_self⟩

/-- **A document begins with a sign of its own.** -/
theorem Writes.opens {v : Json} {text : List Char} (h : Writes v text) : Opens text := by
  cases h with
  | @natural n _ =>
    obtain ⟨c, ds, hdigits, hc⟩ := exists_toDigits n
    exact hdigits ▸ opens_of_isDigit hc ds
  | _ => exact ⟨_, _, rfl, by decide, by decide, by decide⟩

/-- A member begins with a quote. -/
theorem Member.opens {write : Json → List Char → Prop} {member : String × Json}
    {text : List Char} (h : Member write member text) : Opens text := by
  cases h
  exact ⟨_, _, rfl, by decide, by decide, by decide⟩

/-! ## Reading -/

/-- Blanks in front of a document are skipped. -/
theorem readValue_append (d : Nat) {before : List Char} (h : Blanks before) (cs : List Char) :
    readValue d (before ++ cs) = readValue d cs := by
  rw [readValue, readValue, skipBlanks_append h]

/-- A document that begins with a digit is a number. -/
theorem readValue_of_isDigit (d : Nat) {c : Char} (h : c.isDigit = true) (cs : List Char) :
    readValue d (c :: cs) =
      (readNumeral false (c :: cs)).map fun (n, rest) => (.number n, rest) := by
  have hskip : skipBlanks (c :: cs) = c :: cs := skipBlanks_of_opens (opens_of_isDigit h []) cs
  have hne {s : Char} (hs : s.isDigit = false) {rest : List Char} (heq : c :: cs = s :: rest) :
      False := by
    rw [(List.cons.inj heq).1, hs] at h
    cases h
  rw [readValue, hskip]
  split
  next heq => cases heq
  iterate 7 next heq => exact (hne (by decide) heq).elim
  next heq =>
    obtain ⟨rfl, rfl⟩ := List.cons.inj heq
    rw [if_pos h]

/-- A member is read if its value is. -/
theorem Member.answers {write : Json → List Char → Prop} {member : String × Json}
    {text : List Char} (h : Member write member text) {d : Nat}
    (hvalue : ∀ value, write member.2 value → Answers (readValue d) value (some member.2)) :
    Answers (readMember (readValue d)) text (some member) := by
  cases h with
  | @intro key value body behind before text hkey hbehind hbefore hwrite =>
    intro rest hrest
    have hcolon (cs : List Char) : skipBlanks (':' :: cs) = ':' :: cs := rfl
    have hread := (hvalue _ hwrite).eq_ok hrest
    simp only [List.cons_append, List.append_assoc, readMember, readString_body hkey,
      skipBlanks_append hbehind, hcolon, bind, Except.bind, readValue_append d hbefore, hread]
    rfl

/-- A document that begins with a minus sign is a number. -/
theorem readValue_minus (d : Nat) (cs : List Char) :
    readValue d ('-' :: cs) = (readNumeral true cs).map fun (n, rest) => (.number n, rest) := by
  rw [readValue]
  rfl

/-- A document that begins with a quote is a string. -/
theorem readValue_quote (d : Nat) (cs : List Char) :
    readValue d ('"' :: cs) = (readString cs).map fun (s, rest) => (.string s, rest) := by
  rw [readValue]
  rfl

/-- A document that begins with a bracket is a list, and is read if its items are. -/
theorem toOption_readValue_bracket {d : Nat} (hd : 0 < d) (cs : List Char) :
    (readValue (d + 1) ('[' :: cs)).toOption =
      (readItems (readValue d) cs).toOption.map fun (items, rest) => (.array items, rest) := by
  obtain ⟨d, rfl⟩ := Nat.exists_eq_succ_of_ne_zero (Nat.ne_of_gt hd)
  have hlist : readValue (d + 2) ('[' :: cs) =
      (readItems (readValue (d + 1)) cs).map fun (items, rest) => (.array items, rest) := by
    rw [readValue]
    rfl
  rw [hlist]
  cases readItems (readValue (d + 1)) cs <;> rfl

/-- A document that begins with a brace is an object, and is read if its members are. -/
theorem toOption_readValue_brace {d : Nat} (hd : 0 < d) (cs : List Char) :
    (readValue (d + 1) ('{' :: cs)).toOption =
      (readMembers (readValue d) cs).toOption.map fun (members, rest) =>
        (.object members, rest) := by
  obtain ⟨d, rfl⟩ := Nat.exists_eq_succ_of_ne_zero (Nat.ne_of_gt hd)
  have hobject : readValue (d + 2) ('{' :: cs) =
      (readMembers (readValue (d + 1)) cs).map fun (members, rest) => (.object members, rest) := by
    rw [readValue]
    rfl
  rw [hobject]
  cases readMembers (readValue (d + 1)) cs <;> rfl

/-- Integers from zero on are read back. -/
theorem answers_natural (d : Nat) {n : Nat} (h : n < 2 ^ 64) :
    Answers (readValue d) (Nat.toDigits 10 n) (some (.number (.whole n))) := by
  intro rest hrest
  have hnumber := readNumeral_toDigits false h hrest
  obtain ⟨c, ds, hdigits, hc⟩ := exists_toDigits n
  rw [hdigits, List.cons_append] at hnumber ⊢
  rw [readValue_of_isDigit d hc, hnumber]
  rfl

/-- Integers below zero, and zero with a minus sign, are read back. -/
theorem answers_minus (d : Nat) {n : Nat} (h : n ≤ 2 ^ 63) :
    Answers (readValue d) ('-' :: Nat.toDigits 10 n)
      (some (.number (if n = 0 then .binary true .zero else .whole (-n)))) := by
  intro rest hrest
  have hnumber := readNumeral_toDigits true (n := n) (by omega) hrest
  have hwhole : wholeNumber true n = if n = 0 then .binary true .zero else .whole (-n) := by
    have hfits : ¬Nat.pow 2 63 < n := Nat.not_lt.2 h
    by_cases hzero : n = 0
    · subst hzero
      rfl
    · simp [wholeNumber, hzero, hfits]
  rw [List.cons_append, readValue_minus, hnumber, hwhole]
  rfl

/-- **Documents are read back from every text of theirs**, if they are not nested too deeply.

**Proof sketch.** By induction on the bound of the depth.  The first character of the text decides
what is read next; the items of a list and the members of an object are nested less deeply, so each
of them is read back, and then so are all of them. -/
theorem answers_readValue {d : Nat} {v : Json} {text : List Char} (hd : v.depth < d)
    (h : Writes v text) : Answers (readValue d) text (some v) := by
  induction d generalizing v text with
  | zero => cases hd
  | succ d ih =>
    intro rest hrest
    cases h with
    | null => rw [readValue]; rfl
    | true => rw [readValue]; rfl
    | false => rw [readValue]; rfl
    | natural hn => exact answers_natural (d + 1) hn rest hrest
    | @negative n hpos hn =>
      have hminus := answers_minus (d + 1) hn rest hrest
      rwa [if_neg (Nat.ne_of_gt hpos)] at hminus
    | negativeZero => exact answers_minus (d + 1) (Nat.zero_le _) rest hrest
    | string hbody =>
      rw [List.cons_append, List.append_assoc, List.singleton_append, readValue_quote,
        readString_body hbody]
      rfl
    | emptyArray hblanks =>
      have hdeep : 0 < d := Nat.lt_of_succ_lt_succ hd
      rw [List.cons_append, List.append_assoc, List.singleton_append,
        toOption_readValue_bracket hdeep, enumerates_items.empty hblanks]
      rfl
    | @array items texts inner hitems hinner =>
      have hdeep : itemsDepth items < d := Nat.lt_of_succ_lt_succ hd
      have hread : ∀ item ∈ items, ∀ t, Writes item t → Answers (readValue d) t (some item) :=
        fun item hitem _ ht => ih (Nat.lt_of_le_of_lt (depth_le_of_mem_items hitem) hdeep) ht
      rw [List.cons_append, List.append_assoc, List.singleton_append,
        toOption_readValue_bracket (Nat.zero_lt_of_lt hdeep),
        enumerates_items.toOption_entries hitems hinner (fun _ _ ht => ht.opens) hread, mapM_some]
      rfl
    | emptyObject hblanks =>
      have hdeep : 0 < d := Nat.lt_of_succ_lt_succ hd
      rw [List.cons_append, List.append_assoc, List.singleton_append,
        toOption_readValue_brace hdeep, enumerates_members.empty hblanks]
      rfl
    | @object members texts inner hmembers hinner =>
      have hdeep : membersDepth members < d := Nat.lt_of_succ_lt_succ hd
      have hread : ∀ member ∈ members, ∀ t, Member Writes member t →
          Answers (readMember (readValue d)) t (some member) := by
        intro member hmember t ht
        have hmemberDepth := Nat.lt_of_le_of_lt (depth_le_of_mem_members hmember) hdeep
        exact ht.answers fun _ hvalue => ih hmemberDepth hvalue
      rw [List.cons_append, List.append_assoc, List.singleton_append,
        toOption_readValue_brace (Nat.zero_lt_of_lt hdeep),
        enumerates_members.toOption_entries hmembers hinner (fun _ _ ht => ht.opens) hread,
        mapM_some]
      rfl

/-- No numeral goes on with blanks. -/
theorem stops_of_blanks {behind : List Char} (h : Blanks behind) : Stops behind := by
  cases behind with
  | nil => exact fun _ hc => absurd hc (by simp)
  | cons b behind => exact fun c hc => stops_append_cons h (by decide : ',' ∈ _) [] c hc

/-- **A document is read from every whole text of it**, if it is not nested too deeply. -/
theorem read_of_document {v : Json} {text : String} (hdepth : v.depth < depthLimit)
    (h : v.Document text) : read text = .ok v := by
  obtain ⟨before, inner, behind, hbefore, hinner, hbehind, htext⟩ := h
  have hvalue : readValue depthLimit text.toList = .ok (v, behind) := by
    rw [htext, readValue_append depthLimit hbefore]
    exact (answers_readValue hdepth hinner).eq_ok (stops_of_blanks hbehind)
  simp only [read, hvalue, skipBlanks_of_blanks hbehind]

end BuildConst.Json
