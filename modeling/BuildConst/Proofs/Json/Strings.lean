import Mathlib.Tactic.SplitIfs
import BuildConst.Json.Reader
import BuildConst.Proofs.Success
import BuildConst.Proofs.Text.Hexadecimal

/-!
# Strings of JSON documents

Inside a string a character may be written in several ways: as itself unless it is a control
character, a quote or a backslash, by a letter after a backslash, by its number in four hexadecimal
digits, or by the two numbers of a surrogate pair.  Every such spelling is read back as the
characters that were spelled, up to the closing quote.

## Main definitions

* `Json.Spelling`, `Json.Body` — the spellings of a character, and of the characters of a string.

## Main results

* `Json.readChars_spelling` — a spelled character is read.
* `Json.readString_body` — a spelled string is read.
* `Json.readString_eq_ok_iff` — nothing but spelled strings is read.
-/

set_option relaxedAutoImplicit false
set_option autoImplicit false

namespace BuildConst.Json

/-! ## Spellings -/

/-- The letters and signs that stand for a character after a backslash. -/
def escapeLetters : List (Char × Char) :=
  [('"', '"'), ('\\', '\\'), ('/', '/'), ('b', '\x08'), ('f', '\x0c'), ('n', '\n'), ('r', '\r'),
   ('t', '\t')]

/-- A way of writing a character inside a string. -/
inductive Spelling : Char → List Char → Prop
  | plain {c : Char} (hcontrol : 0x20 ≤ c.toNat) (hquote : c ≠ '"') (hbackslash : c ≠ '\\') :
      Spelling c [c]
  | letter {c l : Char} (h : (l, c) ∈ escapeLetters) : Spelling c ['\\', l]
  | number {c : Char} {digits : List Char} (hlength : digits.length = 4)
      (h : Text.HexNumeral digits c.toNat) : Spelling c ('\\' :: 'u' :: digits)
  | pair {c : Char} {high low : Nat} {digits digits' : List Char} (hlength : digits.length = 4)
      (hlength' : digits'.length = 4) (h : Text.HexNumeral digits high)
      (h' : Text.HexNumeral digits' low) (hhigh : 0xD800 ≤ high ∧ high ≤ 0xDBFF)
      (hlow : 0xDC00 ≤ low ∧ low ≤ 0xDFFF)
      (hc : c.toNat = 0x10000 + 0x400 * (high - 0xD800) + (low - 0xDC00)) :
      Spelling c ('\\' :: 'u' :: digits ++ '\\' :: 'u' :: digits')

/-- A way of writing the characters of a string between its quotes. -/
inductive Body : List Char → List Char → Prop
  | nil : Body [] []
  | cons {c : Char} {cs spelled body : List Char} (h : Spelling c spelled) (hrest : Body cs body) :
      Body (c :: cs) (spelled ++ body)

/-- Characters that need no escape are written as themselves. -/
theorem body_self {cs : List Char}
    (h : cs.all (fun c => 0x20 ≤ c.toNat && c != '"' && c != '\\') = true) : Body cs cs := by
  induction cs with
  | nil => exact .nil
  | cons c cs ih =>
    simp only [List.all_cons, Bool.and_eq_true, decide_eq_true_eq, bne_iff_ne] at h
    obtain ⟨⟨⟨hcontrol, hquote⟩, hbackslash⟩, hrest⟩ := h
    exact .cons (.plain hcontrol hquote hbackslash) (ih (by simpa using hrest))

/-! ## Hexadecimal digits -/

/-- A hexadecimal digit has its value. -/
theorem hexDigit?_of_hexDigit {c : Char} {n : Nat} (h : Text.HexDigit c n) :
    hexDigit? c = some n := by
  have hall : ∀ d < 16, hexDigit? (Nat.digitChar d) = some d ∧
      hexDigit? (Nat.digitChar d).toUpper = some d := by
    decide
  obtain ⟨hn, rfl | rfl⟩ := h
  · exact (hall n hn).1
  · exact (hall n hn).2

/-- Four digits have their number. -/
theorem exists_hexNumber? {digits : List Char} {n : Nat} (hlength : digits.length = 4)
    (h : Text.HexNumeral digits n) :
    ∃ a b c d, digits = [a, b, c, d] ∧ hexNumber? a b c d = some n := by
  match digits, hlength with
  | [a, b, c, d], _ =>
    have hthree : [a, b, c] ++ [d] = [a, b, c, d] := rfl
    have htwo : [a, b] ++ [c] = [a, b, c] := rfl
    have hone : [a] ++ [b] = [a, b] := rfl
    obtain ⟨_, z, h₃, hz, rfl⟩ := h.split hthree (List.cons_ne_nil _ _)
    obtain ⟨_, y, h₂, hy, rfl⟩ := h₃.split htwo (List.cons_ne_nil _ _)
    obtain ⟨w, x, h₁, hx, rfl⟩ := h₂.split hone (List.cons_ne_nil _ _)
    refine ⟨a, b, c, d, rfl, ?_⟩
    simp only [hexNumber?, hexDigit?_of_hexDigit h₁.single, hexDigit?_of_hexDigit hx,
      hexDigit?_of_hexDigit hy, hexDigit?_of_hexDigit hz]

/-! ## Reading -/

/-- The number of a character is no half of a surrogate pair. -/
theorem isSurrogate_eq_false (c : Char) :
    isLowSurrogate c.toNat = false ∧ isHighSurrogate c.toNat = false := by
  have hvalid : c.toNat < 0xD800 ∨ 0xDFFF < c.toNat ∧ c.toNat < 0x110000 := c.valid
  simp only [isLowSurrogate, isHighSurrogate, Bool.and_eq_false_iff, decide_eq_false_iff_not]
  omega

/-- A letter after a backslash is read. -/
theorem readChars_letter {c l : Char} (h : (l, c) ∈ escapeLetters) (rest : List Char) :
    readChars ('\\' :: l :: rest) = prepend c (readChars rest) := by
  have hmeaning : ∀ p ∈ escapeLetters, p.1 ≠ 'u' ∧ simpleEscape? p.1 = some p.2 := by decide
  obtain ⟨hletter, hescape⟩ := hmeaning _ h
  rw [readChars]
  · simp only [hescape]
  · exact fun _ _ _ _ _ hu _ => hletter hu
  · exact fun hu => hletter hu

/-- **A spelled character is read**, and what follows is read after it. -/
theorem readChars_spelling {c : Char} {spelled : List Char} (h : Spelling c spelled)
    (rest : List Char) : readChars (spelled ++ rest) = prepend c (readChars rest) := by
  cases h with
  | plain hcontrol hquote hbackslash =>
    rw [List.singleton_append, readChars, if_neg (Nat.not_lt.2 hcontrol)]
    · exact hquote
    · exact fun _ _ _ _ _ hc => absurd hc hbackslash
    · exact fun _ hc => absurd hc hbackslash
    · exact fun _ _ hc => absurd hc hbackslash
    · exact fun hc => absurd hc hbackslash
  | letter h => exact readChars_letter h rest
  | number hlength h =>
    obtain ⟨a, b, c', d, rfl, hnumber⟩ := exists_hexNumber? hlength h
    obtain ⟨hlow, hhigh⟩ := isSurrogate_eq_false c
    show readChars ('\\' :: 'u' :: a :: b :: c' :: d :: rest) = prepend c (readChars rest)
    rw [readChars]
    simp only [hnumber, hlow, hhigh, Bool.false_eq_true, if_false, Char.ofNat_toNat]
  | @pair high low _ _ hlength hlength' h h' hhigh hlow hc =>
    obtain ⟨a, b, c', d, rfl, hnumber⟩ := exists_hexNumber? hlength h
    obtain ⟨a', b', c'', d', rfl, hnumber'⟩ := exists_hexNumber? hlength' h'
    have hfirst : isLowSurrogate high = false := by
      simp only [isLowSurrogate, Bool.and_eq_false_iff, decide_eq_false_iff_not]
      omega
    have hfirst' : isHighSurrogate high = true := by simpa [isHighSurrogate] using hhigh
    have hsecond : isLowSurrogate low = true := by simpa [isLowSurrogate] using hlow
    have hpair : pairChar high low = c := by rw [pairChar, ← hc, Char.ofNat_toNat]
    show readChars ('\\' :: 'u' :: a :: b :: c' :: d :: '\\' :: 'u' :: a' :: b' :: c'' :: d' ::
      rest) = prepend c (readChars rest)
    rw [readChars]
    simp only [hnumber, hnumber', hfirst, hfirst', hsecond, hpair, Bool.false_eq_true, if_false,
      if_true]

/-- The characters of a string are read up to its closing quote. -/
theorem readChars_body {cs body : List Char} (h : Body cs body) (rest : List Char) :
    readChars (body ++ '"' :: rest) = .ok (cs, rest) := by
  induction h with
  | nil => rfl
  | cons hc _ ih =>
    rw [List.append_assoc, readChars_spelling hc, ih]
    rfl

/-- **A spelled string is read**, and what follows its closing quote is left. -/
theorem readString_body {s : String} {body : List Char} (h : Body s.toList body)
    (rest : List Char) : readString (body ++ '"' :: rest) = .ok (s, rest) := by
  simp only [readString, readChars_body h, Except.map, String.ofList_toList]

/-! ## Only spelled strings are read -/

/-- What has a value as a hexadecimal digit is one. -/
theorem hexDigit_of_hexDigit? {c : Char} {n : Nat} (h : hexDigit? c = some n) :
    Text.HexDigit c n := by
  have hall : ∀ k < 128, ∀ m ∈ hexDigit? (Char.ofNat k), Text.HexDigit (Char.ofNat k) m := by
    decide
  have hcode : c.toNat < 128 := by
    unfold hexDigit? at h
    split at h
    next hc =>
      have hhigh : c.toNat ≤ 57 := (Char.isDigit_iff_toNat.1 hc).2
      omega
    next =>
      split at h
      next hc =>
        have hhigh : c.toNat ≤ 102 := UInt32.le_iff_toNat_le.1 hc.2
        omega
      next =>
        split at h
        next hc =>
          have hhigh : c.toNat ≤ 70 := UInt32.le_iff_toNat_le.1 hc.2
          omega
        next => cases h
  have hdigit := hall c.toNat hcode n
  rw [Char.ofNat_toNat] at hdigit
  exact hdigit h

/-- Four digits that have a number make it up. -/
theorem hexNumeral_of_hexNumber? {a b c d : Char} {n : Nat} (h : hexNumber? a b c d = some n) :
    Text.HexNumeral [a, b, c, d] n := by
  unfold hexNumber? at h
  split at h
  next w x y z ha hb hc hd =>
    obtain rfl := Option.some.inj h
    exact (((Text.HexNumeral.digit (hexDigit_of_hexDigit? ha)).concat
      (hexDigit_of_hexDigit? hb)).concat (hexDigit_of_hexDigit? hc)).concat (hexDigit_of_hexDigit? hd)
  next => cases h

/-- What a letter stands for after a backslash is in the table. -/
theorem mem_escapeLetters {c l : Char} (h : simpleEscape? l = some c) : (l, c) ∈ escapeLetters := by
  unfold simpleEscape? at h
  split at h
  next hself =>
    obtain rfl := Option.some.inj h
    rcases hself with rfl | rfl | rfl <;> decide
  next =>
    split_ifs at h with hb hf hn hr ht <;> obtain rfl := Option.some.inj h
    · exact hb ▸ by decide
    · exact hf ▸ by decide
    · exact hn ▸ by decide
    · exact hr ▸ by decide
    · exact ht ▸ by decide

/-- A character is put in front of what was read. -/
theorem prepend_eq_ok_iff {c : Char} {read : Except Fault (List Char × List Char)}
    {chars rest : List Char} :
    prepend c read = .ok (chars, rest) ↔ ∃ more, read = .ok (more, rest) ∧ chars = c :: more := by
  unfold prepend
  rw [Except.map_eq_ok_iff]
  constructor
  · rintro ⟨⟨more, left⟩, hread, heq⟩
    cases heq
    exact ⟨more, hread, rfl⟩
  · rintro ⟨more, hread, rfl⟩
    exact ⟨(more, rest), hread, rfl⟩

/-- The number of four digits that is no half of a surrogate pair is that of a character. -/
theorem spelling_ofNat {a b c d : Char} {n : Nat} (h : hexNumber? a b c d = some n)
    (hlow : isLowSurrogate n = false) (hhigh : isHighSurrogate n = false) :
    Spelling (Char.ofNat n) ['\\', 'u', a, b, c, d] := by
  have hnumeral := hexNumeral_of_hexNumber? h
  have hbound : n < 16 ^ 4 := hnumeral.lt_pow
  simp only [isLowSurrogate, isHighSurrogate, Bool.and_eq_false_iff, decide_eq_false_iff_not]
    at hlow hhigh
  have hvalid : n.isValidChar := by
    unfold Nat.isValidChar
    omega
  have hcode : (Char.ofNat n).toNat = n := by
    rw [Char.ofNat, dif_pos hvalid]
    rfl
  exact .number rfl (hcode.symm ▸ hnumeral)

/-- The numbers of a surrogate pair are those of a character. -/
theorem spelling_pairChar {a b c d a' b' c' d' : Char} {n m : Nat}
    (h : hexNumber? a b c d = some n) (h' : hexNumber? a' b' c' d' = some m)
    (hhigh : isHighSurrogate n = true) (hlow : isLowSurrogate m = true) :
    Spelling (pairChar n m) ['\\', 'u', a, b, c, d, '\\', 'u', a', b', c', d'] := by
  simp only [isLowSurrogate, isHighSurrogate, Bool.and_eq_true, decide_eq_true_eq] at hlow hhigh
  have hvalid : (0x10000 + 1024 * (n - 0xD800) + (m - 0xDC00)).isValidChar := by
    unfold Nat.isValidChar
    omega
  refine .pair rfl rfl (hexNumeral_of_hexNumber? h) (hexNumeral_of_hexNumber? h') hhigh hlow ?_
  rw [pairChar, Char.ofNat, dif_pos hvalid]
  rfl

/-- **What is read first in a string** is its closing quote or a spelled character. -/
theorem readChars_cases {cs chars rest : List Char} (h : readChars cs = .ok (chars, rest)) :
    (cs = '"' :: rest ∧ chars = []) ∨
      ∃ c spelled tail more, Spelling c spelled ∧ cs = spelled ++ tail ∧ chars = c :: more ∧
        readChars tail = .ok (more, rest) := by
  unfold readChars at h
  split at h
  next => cases h
  next tail =>
    cases h
    exact .inl ⟨rfl, rfl⟩
  next a b c d tail =>
    split at h
    next => cases h
    next n hnumber =>
      split_ifs at h with hlow hhigh
      · -- The first half of a pair: the second one has to follow.
        split at h
        next a' b' c' d' after =>
          split at h
          next => cases h
          next m hnumber' =>
            split_ifs at h with hsecond
            obtain ⟨more, hmore, rfl⟩ := prepend_eq_ok_iff.1 h
            exact .inr ⟨_, _, after, more, spelling_pairChar hnumber hnumber' hhigh hsecond, rfl,
              rfl, hmore⟩
        next => cases h
        next => cases h
        next => cases h
      · obtain ⟨more, hmore, rfl⟩ := prepend_eq_ok_iff.1 h
        exact .inr ⟨_, _, tail, more, spelling_ofNat hnumber (Bool.eq_false_iff.2 hlow)
          (Bool.eq_false_iff.2 hhigh), rfl, rfl, hmore⟩
  next => cases h
  next l tail _ _ =>
    split at h
    next c hescape =>
      obtain ⟨more, hmore, rfl⟩ := prepend_eq_ok_iff.1 h
      exact .inr ⟨c, _, tail, more, .letter (mem_escapeLetters hescape), rfl, rfl, hmore⟩
    next => cases h
  next => cases h
  next c tail hquote _ _ hescape hend =>
    split_ifs at h with hcontrol
    obtain ⟨more, hmore, rfl⟩ := prepend_eq_ok_iff.1 h
    have hbackslash : c ≠ '\\' := by
      rintro rfl
      cases tail with
      | nil => exact hend rfl rfl
      | cons l tail => exact hescape l tail rfl rfl
    exact .inr ⟨c, [c], tail, more, .plain (Nat.not_lt.1 hcontrol) hquote hbackslash, rfl, rfl,
      hmore⟩

/-- A spelling is not empty. -/
theorem Spelling.length_pos {c : Char} {spelled : List Char} (h : Spelling c spelled) :
    0 < spelled.length := by
  cases h <;> simp

/-- **Only spelled strings are read**, and what is left follows their closing quotes. -/
theorem exists_body_of_readChars {cs chars rest : List Char}
    (h : readChars cs = .ok (chars, rest)) :
    ∃ body, Body chars body ∧ cs = body ++ '"' :: rest := by
  induction hlength : cs.length using Nat.strongRecOn generalizing cs chars with
  | ind n ih =>
    rcases readChars_cases h with ⟨rfl, rfl⟩ | ⟨c, spelled, tail, more, hc, rfl, rfl, hmore⟩
    · exact ⟨[], .nil, rfl⟩
    · have hpos := hc.length_pos
      rw [List.length_append] at hlength
      obtain ⟨body, hbody, rfl⟩ := ih tail.length (by omega) hmore rfl
      exact ⟨spelled ++ body, .cons hc hbody, (List.append_assoc ..).symm⟩

/-- A string is read exactly if it is spelled in front of a quote. -/
theorem readString_eq_ok_iff {cs rest : List Char} {s : String} :
    readString cs = .ok (s, rest) ↔ ∃ body, Body s.toList body ∧ cs = body ++ '"' :: rest := by
  constructor
  · intro h
    obtain ⟨⟨chars, left⟩, hread, heq⟩ := Except.map_eq_ok_iff.1 h
    cases heq
    rw [String.toList_ofList]
    exact exists_body_of_readChars hread
  · rintro ⟨body, hbody, rfl⟩
    exact readString_body hbody rest

end BuildConst.Json
