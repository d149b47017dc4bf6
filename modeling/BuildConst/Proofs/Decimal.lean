import Mathlib.Data.Nat.Notation
import BuildConst.Decimal.Signed

/-!
# Decimal numbers are read as what they are

The digits of a number are added up one after the other, and the limit is tested at each of them.
As the sum never gets smaller, that amounts to testing the number that all the digits make up.  So
every number of the wanted width is read back from its decimal form.

## Main results

* `Decimal.magnitude_of_isDigit` — the number that digits make up, against the limit.
* `Decimal.read_toString` — decimal forms are read back.
-/

set_option relaxedAutoImplicit false
set_option autoImplicit false

namespace BuildConst.Decimal

/-! ## Digits -/

/-- Further digits make no number smaller. -/
theorem le_ofDigitChars (cs : List Char) (n : Nat) : n ≤ Nat.ofDigitChars 10 cs n := by
  induction cs generalizing n with
  | nil => exact Nat.le_refl n
  | cons c rest ih =>
    rw [Nat.ofDigitChars_cons]
    have hrest := ih (10 * n + (c.toNat - '0'.toNat))
    omega

/-- Digits are read as the number that they make up with the one before them, unless that is past
the limit. -/
theorem magnitude_of_isDigit {limit : Nat} {tooFar : Fault} {cs : List Char} {n : Nat}
    (h : ∀ c ∈ cs, c.isDigit = true) (hn : n ≤ limit) :
    magnitude limit tooFar n cs =
      if Nat.ofDigitChars 10 cs n ≤ limit then .ok (Nat.ofDigitChars 10 cs n)
      else .error tooFar := by
  induction cs generalizing n with
  | nil => rw [magnitude, Nat.ofDigitChars_nil, if_pos hn]
  | cons c rest ih =>
    have hrest : ∀ d ∈ rest, d.isDigit = true := fun d hd => h d (List.mem_cons_of_mem _ hd)
    rw [magnitude, if_pos (h c List.mem_cons_self), Nat.ofDigitChars_cons]
    dsimp only [digitValue]
    by_cases hnext : limit < 10 * n + (c.toNat - '0'.toNat)
    · -- The limit is passed at this digit, and no later one takes anything back.
      have hgrows := le_ofDigitChars rest (10 * n + (c.toNat - '0'.toNat))
      rw [if_pos hnext, if_neg (by omega)]
    · rw [if_neg hnext, ih hrest (by omega)]

/-- Decimal forms consist of digits. -/
theorem isDigit_toDigits (n : Nat) : ∀ c ∈ Nat.toDigits 10 n, c.isDigit = true :=
  fun _ hc => Nat.isDigit_of_mem_toDigits (by decide) (by decide) hc

/-- The decimal digits of a number within the limit are read back. -/
theorem magnitude_toDigits {limit n : Nat} {tooFar : Fault} (h : n ≤ limit) :
    magnitude limit tooFar 0 (Nat.toDigits 10 n) = .ok n := by
  rw [magnitude_of_isDigit (isDigit_toDigits n) (Nat.zero_le limit),
    Nat.ofDigitChars_ten_toDigits, if_pos h]

/-! ## Numbers -/

/-- A digit is no sign. -/
theorem ne_sign_of_isDigit {c : Char} (h : c.isDigit = true) : ¬(c = '+' ∨ c = '-') := by
  rintro (rfl | rfl)
  · exact absurd h (by decide)
  · exact absurd h (by decide)

/-- **Decimal forms are read back**, if the number fits the width. -/
theorem read_toString {width bound : Nat} {n : Int} (hbound : Nat.pow 2 (width - 1) = bound)
    (hlow : -(bound : Int) ≤ n) (hhigh : n < bound) : read width (toString n).toList = .ok n := by
  rw [Int.toString_eq_repr, Int.repr_eq_if]
  split
  next hnonneg =>
    have hread : magnitude (bound - 1) .tooLarge 0 (Nat.toDigits 10 n.toNat) = .ok n.toNat :=
      magnitude_toDigits (Nat.le_sub_one_of_lt (by omega))
    have hdigits := isDigit_toDigits n.toNat
    rw [Nat.toList_repr]
    generalize hchars : Nat.toDigits 10 n.toNat = cs at hread hdigits
    cases cs with
    | nil => exact absurd hchars Nat.toDigits_ne_nil
    | cons c rest =>
      have hsign := ne_sign_of_isDigit (hdigits c List.mem_cons_self)
      simp only [read, hbound, if_neg hsign, hread]
      exact congrArg Except.ok (Int.toNat_of_nonneg hnonneg)
  next hneg =>
    have hread : magnitude bound .tooSmall 0 (Nat.toDigits 10 (-n).toNat) = .ok (-n).toNat :=
      magnitude_toDigits (by omega)
    have hempty : (Nat.toDigits 10 (-n).toNat).isEmpty = false := by
      simp [Nat.toDigits_ne_nil]
    have hminus : "-".toList = ['-'] := rfl
    rw [String.toList_append, Nat.toList_repr, hminus, List.singleton_append]
    simp only [read, hbound, or_true, if_true, hempty, Bool.false_eq_true, if_false, hread]
    have hback : -((-n).toNat : Int) = n := by omega
    exact congrArg Except.ok hback

end BuildConst.Decimal
