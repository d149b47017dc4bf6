import Mathlib.Algebra.Group.Nat.Defs

/-!
# Hexadecimal numerals

The hexadecimal digits in either letter case, and the numbers that they make up.

## Main definitions

* `Text.HexDigit`, `Text.HexNumeral` — a digit and its value, digits and their number.

## Main results

* `Text.HexDigit.eq`, `Text.HexNumeral.eq` — digits have one value.
* `Text.hexNumeral_toDigits` — the digits of a number.
-/

set_option relaxedAutoImplicit false
set_option autoImplicit false

namespace BuildConst.Text

/-- A hexadecimal digit and its value. -/
def HexDigit (c : Char) (n : Nat) : Prop :=
  n < 16 ∧ (c = Nat.digitChar n ∨ c = (Nat.digitChar n).toUpper)

instance (c : Char) (n : Nat) : Decidable (HexDigit c n) :=
  inferInstanceAs (Decidable (n < 16 ∧ (c = Nat.digitChar n ∨ c = (Nat.digitChar n).toUpper)))

/-- The number that hexadecimal digits make up. -/
inductive HexNumeral : List Char → Nat → Prop
  | digit {c : Char} {n : Nat} (h : HexDigit c n) : HexNumeral [c] n
  | concat {cs : List Char} {c : Char} {n d : Nat} (h : HexNumeral cs n) (hd : HexDigit c d) :
      HexNumeral (cs ++ [c]) (16 * n + d)

/-- A digit has one value. -/
theorem HexDigit.eq {c : Char} {n m : Nat} (h : HexDigit c n) (h' : HexDigit c m) : n = m := by
  have hsame : ∀ a < 16, ∀ b < 16,
      (Nat.digitChar a = Nat.digitChar b ∨ Nat.digitChar a = (Nat.digitChar b).toUpper ∨
        (Nat.digitChar a).toUpper = Nat.digitChar b ∨
        (Nat.digitChar a).toUpper = (Nat.digitChar b).toUpper) → a = b := by
    decide
  obtain ⟨hn, hc⟩ := h
  obtain ⟨hm, hc'⟩ := h'
  apply hsame n hn m hm
  rcases hc with rfl | rfl <;> rcases hc' with hc' | hc' <;> simp [hc']

/-- A closing brace is no digit. -/
theorem HexDigit.ne_brace {c : Char} {n : Nat} (h : HexDigit c n) : c ≠ '}' := by
  have hnone : ∀ d < 16, Nat.digitChar d ≠ '}' ∧ (Nat.digitChar d).toUpper ≠ '}' := by decide
  obtain ⟨hn, rfl | rfl⟩ := h
  · exact (hnone n hn).1
  · exact (hnone n hn).2

/-- There is no numeral without digits. -/
theorem HexNumeral.ne_nil {cs : List Char} {n : Nat} (h : HexNumeral cs n) : cs ≠ [] := by
  cases h <;> simp

/-- No closing brace stands in a numeral. -/
theorem HexNumeral.brace_notMem {cs : List Char} {n : Nat} (h : HexNumeral cs n) : '}' ∉ cs := by
  induction h with
  | digit h => simpa using h.ne_brace.symm
  | concat _ hd ih => simpa using ⟨ih, hd.ne_brace.symm⟩

/-- A numeral of one digit stands for its value. -/
theorem HexNumeral.single {c : Char} {n : Nat} (h : HexNumeral [c] n) : HexDigit c n := by
  generalize hcs : [c] = ds at h
  cases h with
  | digit h => exact List.singleton_inj.1 hcs ▸ h
  | concat hfront _ =>
    have hempty := (List.singleton_eq_append_iff.1 hcs).resolve_right fun hboth =>
      List.cons_ne_nil _ _ hboth.2
    exact absurd hempty.1 hfront.ne_nil

/-- A longer numeral consists of a numeral and its last digit. -/
theorem HexNumeral.split {ds cs : List Char} {c : Char} {n : Nat} (h : HexNumeral ds n)
    (hcs : cs ++ [c] = ds) (hne : cs ≠ []) :
    ∃ m d, HexNumeral cs m ∧ HexDigit c d ∧ n = 16 * m + d := by
  cases h with
  | digit _ =>
    have hempty := (List.append_eq_singleton_iff.1 hcs).resolve_right fun hboth =>
      List.cons_ne_nil _ _ hboth.2
    exact absurd hempty.1 hne
  | concat hfront hlast =>
    obtain ⟨rfl, hc⟩ := List.append_inj' hcs rfl
    obtain rfl := List.singleton_inj.1 hc
    exact ⟨_, _, hfront, hlast, rfl⟩

/-- A numeral stands for one number. -/
theorem HexNumeral.eq {cs : List Char} {n m : Nat} (h : HexNumeral cs n) (h' : HexNumeral cs m) :
    n = m := by
  induction h generalizing m with
  | digit h => exact h.eq h'.single
  | concat h hd ih =>
    obtain ⟨m', d', hfront, hlast, rfl⟩ := h'.split rfl h.ne_nil
    rw [ih hfront, hd.eq hlast]

/-- A numeral stands for a number below the power of its length. -/
theorem HexNumeral.lt_pow {cs : List Char} {n : Nat} (h : HexNumeral cs n) : n < 16 ^ cs.length := by
  induction h with
  | digit h => exact h.1
  | concat _ hd ih =>
    have hlast := hd.1
    rw [List.length_append, List.length_singleton, Nat.pow_succ]
    omega

/-- The digits of a number stand for it. -/
theorem hexNumeral_toDigits (n : Nat) : HexNumeral (Nat.toDigits 16 n) n := by
  induction n using Nat.strongRecOn with
  | ind n ih =>
    rw [Nat.toDigits_eq_if (by decide)]
    split
    next hsmall => exact .digit ⟨hsmall, .inl rfl⟩
    next hlarge =>
      have hlast : HexDigit (Nat.digitChar (n % 16)) (n % 16) :=
        ⟨Nat.mod_lt n (by decide), .inl rfl⟩
      have hwhole := (ih (n / 16) (by omega)).concat hlast
      rwa [Nat.div_add_mod] at hwhole

/-- The number of a character has at most six hexadecimal digits. -/
theorem toNat_lt_sixteen_pow (c : Char) : c.toNat < 16 ^ 6 := by
  rcases c.valid with h | ⟨-, h⟩
  · exact Nat.lt_trans h (by decide)
  · exact Nat.lt_trans h (by decide)

end BuildConst.Text
