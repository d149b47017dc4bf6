import Mathlib.Tactic.SplitIfs
import BuildConst.Proofs.Decimal.Numeral
import BuildConst.Proofs.Text.Hexadecimal
import BuildConst.Text.Split
import BuildConst.Value

/-!
# Literals of values

A literal is a text in quotes, one of two words, a decimal integer, or a list of texts in quotes.
Between quotes a character stands for itself or is written as an escape, and which of the two is
chosen is left open.  Even so a text is the literal of at most one value, and the rendered form of a
value is its literal.  So rendered forms are equal exactly if the values are, whichever characters
count as printable.

## Main definitions

* `Text.Spelling`, `Text.Body`, `Text.Quotation` — the ways of writing a character, several of them,
  and a text in quotes.
* `Value.Literal` — the literals of a value.
* `Value.renderedBy` — the rendered form of a value, for any choice of printable characters.

## Main results

* `Value.Literal.eq` — a text is the literal of one value.
* `Value.literal_renderedBy` — rendered forms are literals.
* `Value.rendered_inj` — values are told apart by their rendered forms.
* `Value.rendered_faithful` — what the rendered form of a value can be read as.
-/

set_option relaxedAutoImplicit false
set_option autoImplicit false

namespace BuildConst

/-! ## Texts in quotes -/

namespace Text

/-- The letters and signs that stand behind a backslash, and the characters that they stand for. -/
def letterEscapes : List (Char × Char) :=
  [('0', '\x00'), ('t', '\t'), ('n', '\n'), ('r', '\r'), ('"', '"'), ('\\', '\\')]

/-- The ways of writing a character between quotes. -/
inductive Spelling : List Char → Char → Prop
  | plain {c : Char} (hquote : c ≠ '"') (hbackslash : c ≠ '\\') : Spelling [c] c
  | letter {l c : Char} (h : (l, c) ∈ letterEscapes) : Spelling ['\\', l] c
  | number {digits : List Char} {c : Char} (h : HexNumeral digits c.toNat)
      (hlength : digits.length ≤ 6) : Spelling ('\\' :: 'u' :: '{' :: digits ++ ['}']) c

/-- What stands between quotes, and the characters of the text. -/
inductive Body : List Char → List Char → Prop
  | nil : Body [] []
  | cons {form rest cs : List Char} {c : Char} (h : Spelling form c) (hrest : Body rest cs) :
      Body (form ++ rest) (c :: cs)

/-- A text in quotes. -/
inductive Quotation : List Char → String → Prop
  | mk {body : List Char} {s : String} (h : Body body s.toList) : Quotation ('"' :: body ++ ['"']) s

/-- Texts in quotes, with a comma and a blank between them. -/
inductive Quotations : List Char → List String → Prop
  | one {quoted : List Char} {s : String} (h : Quotation quoted s) : Quotations quoted [s]
  | cons {quoted rest : List Char} {s : String} {items : List String} (h : Quotation quoted s)
      (hrest : Quotations rest items) : Quotations (quoted ++ ',' :: ' ' :: rest) (s :: items)

/-- No character is written with a quote in front. -/
theorem Spelling.exists_head {form : List Char} {c : Char} (h : Spelling form c) :
    ∃ a tail, form = a :: tail ∧ a ≠ '"' := by
  cases h with
  | plain hquote => exact ⟨_, _, rfl, hquote⟩
  | letter => exact ⟨_, _, rfl, by decide⟩
  | number => exact ⟨_, _, rfl, by decide⟩

/-- A letter stands for one character. -/
theorem eq_of_mem_letterEscapes {l c d : Char} (h : (l, c) ∈ letterEscapes)
    (h' : (l, d) ∈ letterEscapes) : c = d :=
  (by decide : ∀ p ∈ letterEscapes, ∀ q ∈ letterEscapes, p.1 = q.1 → p.2 = q.2) _ h _ h' rfl

/-- The letter in front of numbers is no other escape. -/
theorem ne_of_mem_letterEscapes {l c : Char} (h : (l, c) ∈ letterEscapes) : l ≠ 'u' :=
  (by decide : ∀ p ∈ letterEscapes, p.1 ≠ 'u') _ h

/-- **What is written shows where it ends**: texts that begin with a character begin with the same
one, and go on in the same way. -/
theorem Spelling.eq {form form' rest rest' : List Char} {c d : Char} (h : Spelling form c)
    (h' : Spelling form' d) (heq : form ++ rest = form' ++ rest') : c = d ∧ rest = rest' := by
  cases h with
  | plain _ hbackslash =>
    cases h' with
    | plain => simpa using heq
    | letter => exact absurd (List.cons.inj heq).1 hbackslash
    | number => exact absurd (List.cons.inj heq).1 hbackslash
  | letter hc =>
    cases h' with
    | plain _ hbackslash => exact absurd (List.cons.inj heq).1.symm hbackslash
    | letter hd =>
      obtain ⟨rfl, rfl⟩ : _ ∧ rest = rest' := by simpa using heq
      exact ⟨eq_of_mem_letterEscapes hc hd, rfl⟩
    | number =>
      obtain ⟨hu, -⟩ := List.cons.inj (List.cons.inj heq).2
      exact absurd hu (ne_of_mem_letterEscapes hc)
  | @number digits _ hc =>
    cases h' with
    | plain _ hbackslash => exact absurd (List.cons.inj heq).1.symm hbackslash
    | letter hd =>
      obtain ⟨hu, -⟩ := List.cons.inj (List.cons.inj heq).2
      exact absurd hu.symm (ne_of_mem_letterEscapes hd)
    | @number digits' _ hd =>
      -- The digits last until the first brace.
      have hsplit : splitFirst '}' (digits ++ '}' :: rest) = some (digits, rest) :=
        splitFirst_eq_some_iff.2 ⟨rfl, hc.brace_notMem⟩
      have hsplit' : splitFirst '}' (digits' ++ '}' :: rest') = some (digits', rest') :=
        splitFirst_eq_some_iff.2 ⟨rfl, hd.brace_notMem⟩
      have hdigits : digits ++ '}' :: rest = digits' ++ '}' :: rest' := by simpa using heq
      rw [hdigits, hsplit'] at hsplit
      obtain ⟨rfl, rfl⟩ := Prod.mk.inj (Option.some.inj hsplit)
      exact ⟨Char.toNat_inj.1 (hc.eq hd), rfl⟩

/-- The characters between quotes last until the first quote that is not part of an escape. -/
theorem Body.eq {body body' cs cs' rest rest' : List Char} (h : Body body cs)
    (h' : Body body' cs') (heq : body ++ '"' :: rest = body' ++ '"' :: rest') :
    cs = cs' ∧ rest = rest' := by
  induction h generalizing body' cs' with
  | nil =>
    cases h' with
    | nil => exact ⟨rfl, (List.cons.inj heq).2⟩
    | cons hform =>
      obtain ⟨a, tail, rfl, ha⟩ := hform.exists_head
      exact absurd (List.cons.inj heq).1.symm ha
  | cons hform _ ih =>
    cases h' with
    | nil =>
      obtain ⟨a, tail, rfl, ha⟩ := hform.exists_head
      exact absurd (List.cons.inj heq).1 ha
    | cons hform' hrest' =>
      rw [List.append_assoc, List.append_assoc] at heq
      obtain ⟨rfl, htail⟩ := hform.eq hform' heq
      obtain ⟨rfl, hrest⟩ := ih hrest' htail
      exact ⟨rfl, hrest⟩

/-- A text in quotes shows where it ends. -/
theorem Quotation.eq {quoted quoted' rest rest' : List Char} {s s' : String}
    (h : Quotation quoted s) (h' : Quotation quoted' s')
    (heq : quoted ++ rest = quoted' ++ rest') : s = s' ∧ rest = rest' := by
  obtain ⟨hbody⟩ := h
  obtain ⟨hbody'⟩ := h'
  obtain ⟨hs, hrest⟩ := hbody.eq hbody' (by simpa using heq)
  exact ⟨String.toList_inj.1 hs, hrest⟩

/-- Texts in quotes with commas between them are taken apart in one way. -/
theorem Quotations.eq {whole : List Char} {items items' : List String} (h : Quotations whole items)
    (h' : Quotations whole items') : items = items' := by
  induction h generalizing items' with
  | @one quoted s h =>
    generalize hwhole : quoted = whole at h'
    cases h' with
    | one h' =>
      obtain ⟨rfl, -⟩ := h.eq h' (congrArg (· ++ []) hwhole)
      rfl
    | cons h' =>
      obtain ⟨-, hrest⟩ := h.eq h' ((List.append_nil quoted).trans hwhole)
      cases hrest
  | @cons quoted rest s items h _ ih =>
    generalize hwhole : quoted ++ ',' :: ' ' :: rest = whole at h'
    cases h' with
    | one h' =>
      obtain ⟨-, hrest⟩ := h.eq h' (hwhole.trans (List.append_nil whole).symm)
      cases hrest
    | cons h' hrest' =>
      obtain ⟨rfl, htail⟩ := h.eq h' hwhole
      obtain rfl : rest = _ := (List.cons.inj (List.cons.inj htail).2).2
      rw [ih hrest']

end Text

/-! ## Literals -/

/-- The literals of a value: a text in quotes, one of two words, digits with at most a minus sign in
front, or texts in quotes between brackets. -/
inductive Value.Literal : List Char → Value → Prop
  | string {quoted : List Char} {s : String} (h : Text.Quotation quoted s) :
      Literal quoted (.string s)
  | yes : Literal ['t', 'r', 'u', 'e'] (.bool true)
  | no : Literal ['f', 'a', 'l', 's', 'e'] (.bool false)
  | positive {digits : List Char} {number : Int32} (h : Decimal.IsDigits digits)
      (hnumber : number.toInt = Nat.ofDigitChars 10 digits 0) : Literal digits (.int number)
  | negative {digits : List Char} {number : Int32} (h : Decimal.IsDigits digits)
      (hnumber : number.toInt = -(Nat.ofDigitChars 10 digits 0 : Int)) :
      Literal ('-' :: digits) (.int number)
  | noItems : Literal ['[', ']'] (.stringArray [])
  | items {inner : List Char} {strings : List String} (h : Text.Quotations inner strings) :
      Literal ('[' :: inner ++ [']']) (.stringArray strings)

/-- The kind of the literals that begin with a character. -/
def Kind.ofInitial (c : Char) : Kind :=
  if c = '"' then .string
  else if c = '[' then .stringArray
  else if c = 't' ∨ c = 'f' then .bool
  else .int

namespace Value

/-- A text in quotes begins with a quote. -/
theorem exists_tail_of_quotations {inner : List Char} {strings : List String}
    (h : Text.Quotations inner strings) : ∃ tail, inner = '"' :: tail := by
  cases h with
  | one h =>
    cases h
    exact ⟨_, rfl⟩
  | cons h =>
    cases h
    exact ⟨_, rfl⟩

/-- A digit begins the literal of an integer. -/
theorem ofInitial_of_isDigit {c : Char} (h : c.isDigit = true) : Kind.ofInitial c = .int := by
  have hne (d : Char) (hd : d.isDigit = false) : c ≠ d := by
    rintro rfl
    rw [hd] at h
    cases h
  simp [Kind.ofInitial, hne '"' (by decide), hne '[' (by decide), hne 't' (by decide),
    hne 'f' (by decide)]

/-- The first character of a literal shows the kind of the value. -/
theorem Literal.kind_eq {text : List Char} {v : Value} (h : Literal text v) :
    ∃ c tail, text = c :: tail ∧ v.kind = Kind.ofInitial c := by
  cases h with
  | string h =>
    cases h
    exact ⟨_, _, rfl, rfl⟩
  | yes => exact ⟨_, _, rfl, rfl⟩
  | no => exact ⟨_, _, rfl, rfl⟩
  | positive h =>
    obtain ⟨c, tail, rfl⟩ := List.exists_cons_of_ne_nil h.1
    exact ⟨c, tail, rfl, (ofInitial_of_isDigit (h.2 c List.mem_cons_self)).symm⟩
  | negative => exact ⟨_, _, rfl, rfl⟩
  | noItems => exact ⟨_, _, rfl, rfl⟩
  | items => exact ⟨_, _, rfl, rfl⟩

/-- The literal of an integer is a numeral. -/
theorem numeral_of_literal {text : List Char} {number : Int32} (h : Literal text (.int number)) :
    Decimal.Numeral text number.toInt := by
  cases h with
  | positive h hnumber =>
    rw [hnumber]
    exact .plain h
  | negative h hnumber =>
    rw [hnumber]
    exact .negative h

/-- A list has one literal without items, and in the others the items stand between brackets. -/
theorem quotations_of_literal {text : List Char} {strings : List String}
    (h : Literal text (.stringArray strings)) :
    text = ['[', ']'] ∧ strings = [] ∨
      ∃ tail, text = '[' :: ('"' :: tail) ++ [']'] ∧ Text.Quotations ('"' :: tail) strings := by
  cases h with
  | noItems => exact .inl ⟨rfl, rfl⟩
  | items h =>
    obtain ⟨tail, rfl⟩ := exists_tail_of_quotations h
    exact .inr ⟨tail, rfl, h⟩

/-- **A text is the literal of one value.**

**Proof sketch.** The first character shows the kind of the value.  Within a kind, a text in quotes
ends at the first quote that is not part of an escape, so that the items of a list are told apart by
where each of them ends, whatever they hold. -/
theorem Literal.eq {text : List Char} {v w : Value} (h : Literal text v) (h' : Literal text w) :
    v = w := by
  have hkind : v.kind = w.kind := by
    obtain ⟨c, tail, rfl, hv⟩ := h.kind_eq
    obtain ⟨d, tail', hd, hw⟩ := h'.kind_eq
    rw [hv, hw, (List.cons.inj hd).1]
  match v, w, hkind with
  | .string s, .string s', _ =>
    cases h with
    | string h =>
      cases h' with
      | string h' =>
        obtain ⟨rfl, -⟩ := h.eq h' (rfl : text ++ [] = text ++ [])
        rfl
  | .bool b, .bool b', _ =>
    cases h with
    | yes =>
      cases h'
      rfl
    | no =>
      cases h'
      rfl
  | .int n, .int n', _ =>
    have hread (m : Int32) (hm : Literal text (.int m)) : Decimal.read 32 text = .ok m.toInt :=
      Decimal.read_eq_ok_iff.2 ⟨numeral_of_literal hm, m.le_toInt, m.toInt_lt⟩
    have hsame := (hread n h).symm.trans (hread n' h')
    rw [Int32.toInt_inj.1 (Except.ok.inj hsame)]
  | .stringArray strings, .stringArray strings', _ =>
    rcases quotations_of_literal h with ⟨rfl, rfl⟩ | ⟨tail, rfl, hstrings⟩
    · rcases quotations_of_literal h' with ⟨-, rfl⟩ | ⟨tail', htext, -⟩
      · rfl
      · cases htext
    · rcases quotations_of_literal h' with ⟨htext, -⟩ | ⟨tail', htext, hstrings'⟩
      · cases htext
      · obtain rfl : tail = tail' := by simpa using htext
        rw [hstrings.eq hstrings']

end Value

/-! ## Rendered forms -/

/-- The written form of a character between quotes, for a choice of printable characters. -/
def Text.escapeBy (printable : Char → Bool) (c : Char) : List Char :=
  if c = '\x00' then ['\\', '0']
  else if c = '\t' then ['\\', 't']
  else if c = '\n' then ['\\', 'n']
  else if c = '\r' then ['\\', 'r']
  else if c = '"' then ['\\', '"']
  else if c = '\\' then ['\\', '\\']
  else if printable c then [c]
  else hexEscape c

/-- The written form of a text, for a choice of printable characters. -/
def Text.quoteBy (printable : Char → Bool) (s : String) : String :=
  String.ofList ('"' :: s.toList.flatMap (escapeBy printable) ++ ['"'])

/-- The rendered form of a value, for a choice of printable characters. -/
def Value.renderedBy (printable : Char → Bool) : Value → String
  | string text => Text.quoteBy printable text
  | bool truth => if truth then "true" else "false"
  | int number => toString number.toInt
  | stringArray items => "[" ++ ", ".intercalate (items.map (Text.quoteBy printable)) ++ "]"

namespace Text

variable (printable : Char → Bool)

/-- A character has at most six hexadecimal digits. -/
theorem length_toDigits_toNat (c : Char) : (Nat.toDigits 16 c.toNat).length ≤ 6 :=
  (Nat.length_toDigits_le_iff (by decide) (by decide)).2 (toNat_lt_sixteen_pow c)

/-- The written form of a character is one of its spellings. -/
theorem spelling_escapeBy (c : Char) : Spelling (escapeBy printable c) c := by
  have hletter {d : Char} (l : Char) (h : (l, d) ∈ letterEscapes) (hc : c = d) :
      Spelling ['\\', l] c := by
    rw [hc]
    exact .letter h
  unfold escapeBy
  split_ifs with hzero htab hfeed hreturn hquote hbackslash hplain
  · exact hletter '0' (by decide) hzero
  · exact hletter 't' (by decide) htab
  · exact hletter 'n' (by decide) hfeed
  · exact hletter 'r' (by decide) hreturn
  · exact hletter '"' (by decide) hquote
  · exact hletter '\\' (by decide) hbackslash
  · exact .plain hquote hbackslash
  · exact .number (hexNumeral_toDigits c.toNat) (length_toDigits_toNat c)

/-- Characters written one after the other are what may stand between quotes. -/
theorem body_flatMap (cs : List Char) : Body (cs.flatMap (escapeBy printable)) cs := by
  induction cs with
  | nil => exact .nil
  | cons c cs ih => exact .cons (spelling_escapeBy printable c) ih

/-- The written form of a text is the text in quotes. -/
theorem quotation_quoteBy (s : String) : Quotation (quoteBy printable s).toList s := by
  rw [quoteBy, String.toList_ofList]
  exact .mk (body_flatMap printable s.toList)

/-- Written forms with commas between them are texts in quotes. -/
theorem quotations_intercalate {items : List String} (h : items ≠ []) :
    Quotations (", ".intercalate (items.map (quoteBy printable))).toList items := by
  induction items with
  | nil => exact absurd rfl h
  | cons s more ih =>
    cases more with
    | nil => simpa using Quotations.one (quotation_quoteBy printable s)
    | cons next more =>
      have hmore := ih (List.cons_ne_nil _ _)
      have hcomma : ", ".toList = [',', ' '] := rfl
      have hwhole := Quotations.cons (quotation_quoteBy printable s) hmore
      rw [List.map_cons, List.map_cons, String.intercalate_cons_cons, ← List.map_cons,
        String.toList_append, String.toList_append, hcomma]
      simpa using hwhole

end Text

namespace Value

variable (printable : Char → Bool)

/-- The rendered form of a value, for the characters that are printable. -/
theorem renderedBy_isPrintable (v : Value) : v.renderedBy Text.isPrintable = v.rendered := by
  cases v <;> rfl

/-- An integer in decimal digits is its literal. -/
theorem literal_toString (number : Int32) :
    Literal (toString number.toInt).toList (.int number) := by
  have hdigits (n : Nat) : Decimal.IsDigits (Nat.toDigits 10 n) :=
    ⟨Nat.toDigits_ne_nil, Decimal.isDigit_toDigits n⟩
  rw [Int.toString_eq_repr, Int.repr_eq_if]
  split
  next hnonneg =>
    rw [Nat.toList_repr]
    refine .positive (hdigits _) ?_
    rw [Nat.ofDigitChars_ten_toDigits, Int.toNat_of_nonneg hnonneg]
  next hneg =>
    have hminus : "-".toList = ['-'] := rfl
    rw [String.toList_append, Nat.toList_repr, hminus, List.singleton_append]
    refine .negative (hdigits _) ?_
    rw [Nat.ofDigitChars_ten_toDigits]
    omega

/-- **The rendered form of a value is its literal**, whichever characters count as printable. -/
theorem literal_renderedBy (v : Value) : Literal (v.renderedBy printable).toList v := by
  cases v with
  | string text => exact .string (Text.quotation_quoteBy printable text)
  | bool truth =>
    cases truth with
    | true =>
      show Literal "true".toList _
      exact .yes
    | false =>
      show Literal "false".toList _
      exact .no
  | int number => exact literal_toString number
  | stringArray items =>
    have hopen : "[".toList = ['['] := rfl
    have hclose : "]".toList = [']'] := rfl
    rw [renderedBy, String.toList_append, String.toList_append, hopen, hclose]
    by_cases hitems : items = []
    · rw [hitems]
      exact .noItems
    · exact .items (Text.quotations_intercalate printable hitems)

/-- A rendered form is read as the value and as no other one. -/
theorem literal_renderedBy_iff (v w : Value) :
    Literal (v.renderedBy printable).toList w ↔ w = v := by
  constructor
  · intro h
    exact h.eq (literal_renderedBy printable v)
  · rintro rfl
    exact literal_renderedBy printable w

/-- Rendered forms are equal exactly if the values are. -/
theorem renderedBy_inj (v w : Value) :
    v.renderedBy printable = w.renderedBy printable ↔ v = w := by
  constructor
  · intro h
    have hread := literal_renderedBy printable v
    rw [h] at hread
    exact (literal_renderedBy_iff printable w v).1 hread
  · rintro rfl
    rfl

/-- Values are told apart by their rendered forms. -/
theorem rendered_inj {v w : Value} : v.rendered = w.rendered ↔ v = w := by
  rw [← renderedBy_isPrintable, ← renderedBy_isPrintable]
  exact renderedBy_inj Text.isPrintable v w

/-- **Rendered values are faithful literals.**  The rendered form of a value is a literal of that
value and of no other one, so that values have the same rendered form exactly if they are equal.
This does not depend on which characters have a visible form: it holds for every choice of the
characters that stand for themselves between quotes.

**Proof sketch.** Each character is written in one of the ways in which it may be written between
quotes (`Text.spelling_escapeBy`), whatever is printable.  And a text is the literal of one value
(`Value.Literal.eq`). -/
theorem rendered_faithful (v : Value) :
    (∀ w, Literal v.rendered.toList w ↔ w = v) ∧
    (∀ w : Value, v.rendered = w.rendered ↔ v = w) ∧
    v.rendered = v.renderedBy Text.isPrintable ∧
    ∀ printable : Char → Bool,
      (∀ w, Literal (v.renderedBy printable).toList w ↔ w = v) ∧
      ∀ w : Value, v.renderedBy printable = w.renderedBy printable ↔ v = w := by
  refine ⟨fun w => ?_, fun w => rendered_inj, (renderedBy_isPrintable v).symm,
    fun printable => ⟨?_, ?_⟩⟩
  · rw [← renderedBy_isPrintable]
    exact literal_renderedBy_iff Text.isPrintable v w
  · exact literal_renderedBy_iff printable v
  · exact renderedBy_inj printable v

end Value

end BuildConst
