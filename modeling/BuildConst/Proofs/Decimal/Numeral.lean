import Mathlib.Algebra.Group.Nat.Defs
import BuildConst.Proofs.Decimal
import BuildConst.Proofs.Success

/-!
# Which texts are numbers

A numeral is one optional sign followed by at least one digit.  Such a text is read as the number
that it stands for if that fits the width, and no other text is read at all.

## Main definitions

* `Decimal.IsDigits`, `Decimal.Numeral` — digits, and the numbers that numerals stand for.
* `Decimal.Fits` — the numbers of a width.

## Main results

* `Decimal.read_eq_ok_iff` — what is read are the numerals of the width.
* `Decimal.read_of_numeral` — what is wrong with the other numerals.
-/

set_option relaxedAutoImplicit false
set_option autoImplicit false

namespace BuildConst.Decimal

/-- Digits, and at least one of them. -/
def IsDigits (cs : List Char) : Prop :=
  cs ≠ [] ∧ ∀ c ∈ cs, c.isDigit = true

/-- The number that a numeral stands for. -/
inductive Numeral : List Char → Int → Prop
  | plain {digits : List Char} (h : IsDigits digits) :
      Numeral digits (Nat.ofDigitChars 10 digits 0)
  | positive {digits : List Char} (h : IsDigits digits) :
      Numeral ('+' :: digits) (Nat.ofDigitChars 10 digits 0)
  | negative {digits : List Char} (h : IsDigits digits) :
      Numeral ('-' :: digits) (-(Nat.ofDigitChars 10 digits 0 : Int))

/-- A number that a signed word of some width holds. -/
def Fits (width : Nat) (n : Int) : Prop :=
  -(2 ^ (width - 1) : Nat) ≤ n ∧ n < (2 ^ (width - 1) : Nat)

/-- A numeral consists of digits, perhaps behind a sign. -/
theorem Numeral.exists_digits {cs : List Char} {n : Int} (h : Numeral cs n) :
    ∃ digits, IsDigits digits ∧ (cs = digits ∨ cs = '+' :: digits ∨ cs = '-' :: digits) := by
  cases h with
  | plain hdigits => exact ⟨_, hdigits, .inl rfl⟩
  | positive hdigits => exact ⟨_, hdigits, .inr (.inl rfl)⟩
  | negative hdigits => exact ⟨_, hdigits, .inr (.inr rfl)⟩

/-! ## Digits -/

/-- Only digits are read. -/
theorem isDigit_of_magnitude {limit n m : Nat} {tooFar : Fault} {cs : List Char}
    (h : magnitude limit tooFar n cs = .ok m) : ∀ c ∈ cs, c.isDigit = true := by
  induction cs generalizing n with
  | nil => nofun
  | cons c rest ih =>
    rw [magnitude] at h
    split at h
    next hdigit =>
      dsimp only at h
      split at h
      next => cases h
      next =>
        intro d hd
        rcases List.mem_cons.1 hd with rfl | hrest
        · exact hdigit
        · exact ih h d hrest
    next => cases h

/-- Digits are read as the number that they make up, if that is within the limit. -/
theorem magnitude_eq_ok_iff {limit m : Nat} {tooFar : Fault} {cs : List Char} :
    magnitude limit tooFar 0 cs = .ok m ↔
      (∀ c ∈ cs, c.isDigit = true) ∧ m = Nat.ofDigitChars 10 cs 0 ∧ m ≤ limit := by
  constructor
  · intro h
    have hdigits := isDigit_of_magnitude h
    rw [magnitude_of_isDigit hdigits (Nat.zero_le limit)] at h
    split at h
    next hlimit =>
      obtain rfl := Except.ok.inj h
      exact ⟨hdigits, rfl, hlimit⟩
    next => cases h
  · rintro ⟨hdigits, rfl, hlimit⟩
    rw [magnitude_of_isDigit hdigits (Nat.zero_le limit), if_pos hlimit]

/-! ## Numerals -/

/-- No digits begin with a sign. -/
theorem IsDigits.ne_sign {c : Char} {rest : List Char} (h : IsDigits (c :: rest)) :
    ¬(c = '+' ∨ c = '-') :=
  ne_sign_of_isDigit (h.2 c List.mem_cons_self)

/-- How a text without a sign is read. -/
theorem read_of_ne_sign {width : Nat} {c : Char} {rest : List Char} (h : ¬(c = '+' ∨ c = '-')) :
    read width (c :: rest) =
      (magnitude (2 ^ (width - 1) - 1) .tooLarge 0 (c :: rest)).map fun n : Nat => (n : Int) := by
  simp only [read, if_neg h, Nat.pow_eq]
  cases magnitude (2 ^ (width - 1) - 1) .tooLarge 0 (c :: rest) <;> rfl

/-- How a text with a sign is read. -/
theorem read_of_sign {width : Nat} {rest : List Char} (h : rest ≠ []) :
    read width ('+' :: rest) =
        ((magnitude (2 ^ (width - 1) - 1) .tooLarge 0 rest).map fun n : Nat => (n : Int)) ∧
      read width ('-' :: rest) =
        (magnitude (2 ^ (width - 1)) .tooSmall 0 rest).map fun n : Nat => -(n : Int) := by
  have hsome : rest.isEmpty = false := by simpa using h
  have hminus : '-' ≠ '+' := by decide
  constructor
  · simp only [read, true_or, if_true, hsome, Bool.false_eq_true, if_false, Nat.pow_eq]
    cases magnitude (2 ^ (width - 1) - 1) .tooLarge 0 rest <;> rfl
  · simp only [read, or_true, if_true, hsome, Bool.false_eq_true, hminus, if_false, Nat.pow_eq]
    cases magnitude (2 ^ (width - 1)) .tooSmall 0 rest <;> rfl

/-- A sign alone is not read. -/
theorem read_sign (width : Nat) {c : Char} (h : c = '+' ∨ c = '-') :
    read width [c] = .error .notDecimal := by
  rw [read, if_pos h]
  rfl

/-- **What is read are the numerals of the width**, as the numbers that they stand for. -/
theorem read_eq_ok_iff {width : Nat} {cs : List Char} {n : Int} :
    read width cs = .ok n ↔ Numeral cs n ∧ Fits width n := by
  have hpow : 0 < 2 ^ (width - 1) := Nat.two_pow_pos _
  constructor
  · intro h
    match cs with
    | [] => cases h
    | c :: rest =>
      by_cases hsign : c = '+' ∨ c = '-'
      · by_cases hrest : rest = []
        · rw [hrest, read_sign width hsign] at h
          cases h
        · rcases hsign with rfl | rfl
          · rw [(read_of_sign hrest).1] at h
            obtain ⟨m, hm, rfl⟩ := Except.map_eq_ok_iff.1 h
            obtain ⟨hdigits, rfl, hlimit⟩ := magnitude_eq_ok_iff.1 hm
            exact ⟨.positive ⟨hrest, hdigits⟩, by unfold Fits; omega⟩
          · rw [(read_of_sign hrest).2] at h
            obtain ⟨m, hm, rfl⟩ := Except.map_eq_ok_iff.1 h
            obtain ⟨hdigits, rfl, hlimit⟩ := magnitude_eq_ok_iff.1 hm
            exact ⟨.negative ⟨hrest, hdigits⟩, by unfold Fits; omega⟩
      · rw [read_of_ne_sign hsign] at h
        obtain ⟨m, hm, rfl⟩ := Except.map_eq_ok_iff.1 h
        obtain ⟨hdigits, rfl, hlimit⟩ := magnitude_eq_ok_iff.1 hm
        exact ⟨.plain ⟨List.cons_ne_nil _ _, hdigits⟩, by unfold Fits; omega⟩
  · rintro ⟨hnumeral, hlow, hhigh⟩
    cases hnumeral with
    | plain hdigits =>
      cases cs with
      | nil => exact absurd rfl hdigits.1
      | cons c rest =>
        rw [read_of_ne_sign hdigits.ne_sign]
        exact Except.map_eq_ok_iff.2
          ⟨_, magnitude_eq_ok_iff.2 ⟨hdigits.2, rfl, by omega⟩, rfl⟩
    | positive hdigits =>
      rw [(read_of_sign hdigits.1).1]
      exact Except.map_eq_ok_iff.2
        ⟨_, magnitude_eq_ok_iff.2 ⟨hdigits.2, rfl, by omega⟩, rfl⟩
    | negative hdigits =>
      rw [(read_of_sign hdigits.1).2]
      exact Except.map_eq_ok_iff.2
        ⟨_, magnitude_eq_ok_iff.2 ⟨hdigits.2, rfl, by omega⟩, rfl⟩

/-- **Every numeral is read to its end**, as a number or as one that is too large or too small. -/
theorem read_of_numeral {width : Nat} {cs : List Char} {n : Int} (h : Numeral cs n) :
    read width cs =
      if n < -(2 ^ (width - 1) : Nat) then .error .tooSmall
      else if n < (2 ^ (width - 1) : Nat) then .ok n
      else .error .tooLarge := by
  have hpow : 0 < 2 ^ (width - 1) := Nat.two_pow_pos _
  -- Without a minus sign a number can only be too large, and with one only too small.
  have hnonneg {digits : List Char} (hdigits : IsDigits digits) :
      ((magnitude (2 ^ (width - 1) - 1) .tooLarge 0 digits).map fun n : Nat => (n : Int)) =
        if (Nat.ofDigitChars 10 digits 0 : Int) < -(2 ^ (width - 1) : Nat) then .error .tooSmall
        else if (Nat.ofDigitChars 10 digits 0 : Int) < (2 ^ (width - 1) : Nat) then
          .ok (Nat.ofDigitChars 10 digits 0 : Int)
        else .error .tooLarge := by
    rw [magnitude_of_isDigit hdigits.2 (Nat.zero_le _)]
    by_cases hlimit : Nat.ofDigitChars 10 digits 0 ≤ 2 ^ (width - 1) - 1
    · rw [if_pos hlimit, if_neg (by omega), if_pos (by omega)]
      rfl
    · rw [if_neg hlimit, if_neg (by omega), if_neg (by omega)]
      rfl
  cases h with
  | plain hdigits =>
    obtain ⟨c, rest, rfl⟩ := List.exists_cons_of_ne_nil hdigits.1
    rw [read_of_ne_sign hdigits.ne_sign]
    exact hnonneg hdigits
  | positive hdigits =>
    rw [(read_of_sign hdigits.1).1]
    exact hnonneg hdigits
  | @negative digits hdigits =>
    rw [(read_of_sign hdigits.1).2, magnitude_of_isDigit hdigits.2 (Nat.zero_le _)]
    by_cases hlimit : Nat.ofDigitChars 10 digits 0 ≤ 2 ^ (width - 1)
    · rw [if_pos hlimit, if_neg (by omega), if_pos (by omega)]
      rfl
    · rw [if_neg hlimit, if_pos (by omega)]
      rfl

end BuildConst.Decimal
