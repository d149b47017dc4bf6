import Mathlib.Algebra.Group.Nat.Defs
import BuildConst.Json.Reader
import BuildConst.Proofs.Decimal

/-!
# Integers of JSON documents

An integer that fits 64 bits is read back from its decimal form, if what follows does not go on with
it.  The digits are gathered as long as the number fits; as no prefix of a decimal form is greater
than the whole, all of them are.

## Main definitions

* `Json.Stops` — a text with which a numeral does not go on.

## Main results

* `Json.readNumeral_toDigits` — the number of decimal digits.
* `Json.gather_append` — digits are gathered up to the first other character.
-/

set_option relaxedAutoImplicit false
set_option autoImplicit false

namespace BuildConst.Json

/-- A text that does not go on with a numeral before it: it begins with no digit, no point and no
letter of an exponent. -/
def Stops (rest : List Char) : Prop :=
  ∀ c ∈ rest.head?, c.isDigit = false ∧ c ∉ ['.', 'e', 'E']

variable {rest : List Char}

/-- No digit stands where a numeral stops. -/
theorem Stops.takeWhile (h : Stops rest) : rest.takeWhile Char.isDigit = [] := by
  cases rest with
  | nil => rfl
  | cons c rest => simp [(h c rfl).1]

/-- Nothing is dropped where a numeral stops. -/
theorem Stops.dropWhile (h : Stops rest) : rest.dropWhile Char.isDigit = rest := by
  cases rest with
  | nil => rfl
  | cons c rest => simp [(h c rfl).1]

/-- Digits are gathered up to the first other character, if their number is within the limit. -/
theorem gather_append {limit n : Nat} {ds : List Char} (hds : ∀ c ∈ ds, c.isDigit = true)
    (hlimit : Nat.ofDigitChars 10 ds n ≤ limit) (h : Stops rest) :
    gather limit n (ds ++ rest) = (Nat.ofDigitChars 10 ds n, ds.length, rest) := by
  induction ds generalizing n with
  | nil =>
    cases rest with
    | nil => rfl
    | cons c rest => simp [gather, (h c rfl).1]
  | cons c ds ih =>
    have hmore : ∀ d ∈ ds, d.isDigit = true := fun d hd => hds d (List.mem_cons_of_mem _ hd)
    rw [Nat.ofDigitChars_cons] at hlimit ⊢
    have hnext := Nat.le_trans (Decimal.le_ofDigitChars ds _) hlimit
    simp only [List.cons_append, gather, hds c List.mem_cons_self, true_and, if_pos hnext,
      ih hmore hlimit, List.length_cons]

/-- The number of a numeral that stops after the digits before its point. -/
theorem readRest_of_stops (negative : Bool) (n : Nat) (h : Stops rest) :
    readRest negative n rest = .ok (wholeNumber negative n, rest) := by
  unfold readRest
  simp only [h.takeWhile, h.dropWhile, List.length_nil]
  cases rest with
  | nil => rfl
  | cons c rest =>
    obtain ⟨-, hsign⟩ := h c rfl
    simp only [List.mem_cons, List.not_mem_nil, or_false, not_or] at hsign
    obtain ⟨hpoint, hlower, hupper⟩ := hsign
    split
    next heq => exact absurd (List.cons.inj heq).1 hpoint
    next heq => exact absurd (List.cons.inj heq).1 hlower
    next heq => exact absurd (List.cons.inj heq).1 hupper
    next => rfl

/-- The decimal form of a number other than zero does not begin with a zero. -/
theorem exists_toDigits_eq_cons {n : Nat} (h : n ≠ 0) :
    ∃ c ds, Nat.toDigits 10 n = c :: ds ∧ c ≠ '0' := by
  induction n using Nat.strongRecOn with
  | ind n ih =>
    have hdigit : ∀ d < 10, d ≠ 0 → Nat.digitChar d ≠ '0' := by decide
    rw [Nat.toDigits_eq_if (by decide)]
    split
    next hsmall => exact ⟨_, [], rfl, hdigit n hsmall h⟩
    next hlarge =>
      obtain ⟨c, ds, hfront, hc⟩ := ih (n / 10) (by omega) (by omega)
      exact ⟨c, ds ++ [Nat.digitChar (n % 10)], by rw [hfront]; rfl, hc⟩

/-- **The number of decimal digits**, if it fits 64 bits and what follows does not go on with it. -/
theorem readNumeral_toDigits (negative : Bool) {n : Nat} (hn : n < 2 ^ 64) (h : Stops rest) :
    readNumeral negative (Nat.toDigits 10 n ++ rest) = .ok (wholeNumber negative n, rest) := by
  by_cases hzero : n = 0
  · subst hzero
    have hstart : startsWithDigit rest = false := by
      cases rest with
      | nil => rfl
      | cons c rest => exact (h c rfl).1
    show readNumeral negative ('0' :: rest) = _
    rw [readNumeral, hstart]
    exact readRest_of_stops negative 0 h
  · obtain ⟨c, ds, hdigits, hc⟩ := exists_toDigits_eq_cons hzero
    have hall := Decimal.isDigit_toDigits n
    have hvalue : Nat.ofDigitChars 10 (Nat.toDigits 10 n) 0 = n := Nat.ofDigitChars_ten_toDigits
    have hlimit : Nat.ofDigitChars 10 (Nat.toDigits 10 n) 0 ≤ greatestSignificand := by
      rw [hvalue]
      exact Nat.le_sub_one_of_lt hn
    have hgather := gather_append hall hlimit h
    rw [hvalue] at hgather
    rw [hdigits] at hall hgather ⊢
    rw [List.cons_append] at hgather ⊢
    rw [readNumeral]
    · simp only [hall c List.mem_cons_self, if_true, hgather, readRest_of_stops negative n h]
    · exact hc

end BuildConst.Json
