import Mathlib.Algebra.Group.Int.Defs
import BuildConst.Proofs.Value.Language

/-!
# Integers and truth values against exact arithmetic

A text is read as an integer or a truth value without the blanks around it.  What is left is read as
the number that it is a numeral of, in exact arithmetic: leading zeros do not matter however many
there are, both ends of the range belong to it, and a numeral outside the range is reported for the
side on which it lies.  Integers that are read as such are read as truth values, too.

## Main results

* `Value.exists_readInt_iff` — which integers are read.
* `Value.readInt_eq_tooLarge_iff`, `Value.readInt_eq_tooSmall_iff` — numerals out of range.
* `Value.readBool_of_readInt` — integers are truth values.
* `Value.numbers_read_exactly` — both readers against exact arithmetic.
-/

set_option relaxedAutoImplicit false
set_option autoImplicit false

namespace BuildConst.Value

variable {text : String} {n : Int}

/-! ## Integers -/

/-- **Which integers are read**: those of 32 bits, from their numerals. -/
theorem exists_readInt_iff :
    (∃ number, readInt text = .ok number ∧ number.toInt = n) ↔
      Decimal.Numeral (Text.trim text).toList n ∧ -2 ^ 31 ≤ n ∧ n ≤ 2 ^ 31 - 1 := by
  constructor
  · rintro ⟨number, h, rfl⟩
    have hlow := number.le_toInt
    have hhigh := number.toInt_lt
    refine ⟨?_, by omega, by omega⟩
    cases readInt_eq_ok_iff.1 h with
    | int hpadded hword =>
      rwa [trim_of_numeral hpadded hword]
  · rintro ⟨hnumeral, hlow, hhigh⟩
    have hread : Decimal.read 32 (Text.trim text).toList = .ok n :=
      Decimal.read_eq_ok_iff.2 ⟨hnumeral, by unfold Decimal.Fits; omega⟩
    exact ⟨_, readInt_of_read hread, Int32.toInt_ofInt_of_le hlow (by omega)⟩

/-- An integer is reported for a cause exactly if its numeral is. -/
theorem readInt_eq_notInt_iff {reason : Decimal.Fault} :
    readInt text = .error (.notInt text reason) ↔
      Decimal.read 32 (Text.trim text).toList = .error reason := by
  constructor
  · intro h
    obtain ⟨cause, hread, hfault⟩ := readInt_eq_error h
    obtain ⟨-, rfl⟩ := Fault.notInt.inj hfault
    exact hread
  · intro h
    simp only [readInt, h]

/-- A numeral is reported as too large exactly if it is. -/
theorem readInt_eq_tooLarge_iff (h : Decimal.Numeral (Text.trim text).toList n) :
    readInt text = .error (.notInt text .tooLarge) ↔ 2 ^ 31 - 1 < n := by
  rw [readInt_eq_notInt_iff, Decimal.read_of_numeral h]
  split_ifs with hlow hhigh
  · simp; omega
  · simp; omega
  · simp; omega

/-- A numeral is reported as too small exactly if it is. -/
theorem readInt_eq_tooSmall_iff (h : Decimal.Numeral (Text.trim text).toList n) :
    readInt text = .error (.notInt text .tooSmall) ↔ n < -2 ^ 31 := by
  rw [readInt_eq_notInt_iff, Decimal.read_of_numeral h]
  split_ifs with hlow hhigh
  · simp; omega
  · simp; omega
  · simp; omega

/-! ## Truth values -/

/-- **Integers are truth values**: what is read as an integer is true unless it is zero. -/
theorem readBool_of_readInt {number : Int32} (h : readInt text = .ok number) :
    readBool text = .ok ⟨number.toInt ≠ 0, true⟩ := by
  obtain ⟨hnumeral, hlow, hhigh⟩ := exists_readInt_iff.1 ⟨number, h, rfl⟩
  exact readBool_eq_numeric_iff.2 ⟨_, hnumeral, by unfold Decimal.Fits; omega, rfl⟩

/-- A text is reported as no truth value exactly if it is neither one of the words nor a numeral of
64 bits. -/
theorem readBool_eq_notBool_iff :
    readBool text = .error (.notBool text) ↔
      ¬Text.Recased (Text.trim text) "true" ∧ ¬Text.Recased (Text.trim text) "false" ∧
        ¬∃ n, Decimal.Numeral (Text.trim text).toList n ∧ Decimal.Fits 64 n := by
  constructor
  · intro h
    have hnone (truth : Truth) : readBool text ≠ .ok truth := by simp [h]
    refine ⟨fun hyes => ?_, fun hno => ?_, fun ⟨n, hnumeral, hfits⟩ => ?_⟩
    · exact hnone ⟨true, false⟩ (readBool_eq_word_iff.2 hyes)
    · exact hnone ⟨false, false⟩ (readBool_eq_word_iff.2 hno)
    · exact hnone ⟨_, true⟩ (readBool_eq_numeric_iff.2 ⟨n, hnumeral, hfits, rfl⟩)
  · rintro ⟨hyes, hno, hnumber⟩
    rcases hread : readBool text with fault | ⟨b, numeric⟩
    · rw [readBool_eq_error hread]
    · cases numeric with
      | false =>
        have hword := readBool_eq_word_iff.1 hread
        cases b with
        | true => exact absurd hword hyes
        | false => exact absurd hword hno
      | true =>
        obtain ⟨n, hnumeral, hfits, -⟩ := readBool_eq_numeric_iff.1 hread
        exact absurd ⟨n, hnumeral, hfits⟩ hnumber

/-! ## Main result -/

/-- **Numbers are read exactly.**  An integer is read from a text exactly if what the text trims to
is a numeral of it and it lies in the range of 32 bits.  A numeral outside of that range is reported
as too large or too small according to the side on which it lies.  A truth value is read from one of
the two words in any letter case, or from a numeral of 64 bits, and the two are told apart.  So
everything that is read as an integer is read as a truth value, too.  Every fault names the text as
it was given, and none says that a number does not read back from its decimal form.

**Proof sketch.** The digits are added up from left to right and the limit is tested at each of
them, which amounts to testing their whole sum (`Decimal.read_of_numeral`).  A numeral does not have
the letters of a word, so that reading the words first takes no number away. -/
theorem numbers_read_exactly (text : String) :
    (∀ n : Int, (∃ number, readInt text = .ok number ∧ number.toInt = n) ↔
      Decimal.Numeral (Text.trim text).toList n ∧ -2 ^ 31 ≤ n ∧ n ≤ 2 ^ 31 - 1) ∧
    (∀ n : Int, Decimal.Numeral (Text.trim text).toList n →
      (readInt text = .error (.notInt text .tooLarge) ↔ 2 ^ 31 - 1 < n) ∧
      (readInt text = .error (.notInt text .tooSmall) ↔ n < -2 ^ 31)) ∧
    (describeIntFault .tooLarge = "the value is larger than 2147483647" ∧
      describeIntFault .tooSmall = "the value is smaller than -2147483648") ∧
    (∀ fault, readInt text = .error fault → ∃ reason, fault = .notInt text reason) ∧
    (∀ b : Bool, readBool text = .ok ⟨b, false⟩ ↔
      Text.Recased (Text.trim text) (if b then "true" else "false")) ∧
    (∀ b : Bool, readBool text = .ok ⟨b, true⟩ ↔
      ∃ n : Int, Decimal.Numeral (Text.trim text).toList n ∧
        (-2 ^ 63 ≤ n ∧ n ≤ 2 ^ 63 - 1) ∧ b = decide (n ≠ 0)) ∧
    (readBool text = .error (.notBool text) ↔
      ¬Text.Recased (Text.trim text) "true" ∧ ¬Text.Recased (Text.trim text) "false" ∧
        ¬∃ n : Int, Decimal.Numeral (Text.trim text).toList n ∧
          (-2 ^ 63 ≤ n ∧ n ≤ 2 ^ 63 - 1)) ∧
    (∀ fault, readBool text = .error fault → fault = .notBool text) ∧
    ∀ number, readInt text = .ok number → readBool text = .ok ⟨number.toInt ≠ 0, true⟩ := by
  have hfits (n : Int) : Decimal.Fits 64 n ↔ -2 ^ 63 ≤ n ∧ n ≤ 2 ^ 63 - 1 := by
    unfold Decimal.Fits
    omega
  refine ⟨fun n => exists_readInt_iff, fun n h => ?_, ⟨rfl, rfl⟩, fun fault h => ?_,
    fun b => readBool_eq_word_iff, fun b => ?_, ?_, fun fault => readBool_eq_error,
    fun number => readBool_of_readInt⟩
  · exact ⟨readInt_eq_tooLarge_iff h, readInt_eq_tooSmall_iff h⟩
  · obtain ⟨reason, -, hfault⟩ := readInt_eq_error h
    exact ⟨reason, hfault⟩
  · simp only [← hfits]
    exact readBool_eq_numeric_iff
  · simp only [← hfits]
    exact readBool_eq_notBool_iff

example : readInt "\u2003-0000000002147483648\n" = .ok (-2147483648) := by decide

example : readInt "-2147483649" = .error (.notInt "-2147483649" .tooSmall) := by decide

end BuildConst.Value
