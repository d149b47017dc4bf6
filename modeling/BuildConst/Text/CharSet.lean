/-!
# Sets of characters

A set of characters is given by ranges of their numbers.  The ranges are in ascending order and do
not touch, so that the search for a character can stop at the first range behind it.

## Main definitions

* `Text.CharSet` — a set of characters.
* `Text.CharSet.contains` — whether a character belongs to it.

## Main results

* `Text.CharSet.contains_iff` — the search misses no range.
-/

set_option relaxedAutoImplicit false
set_option autoImplicit false

namespace BuildConst.Text

/-- Whether ranges are in ascending order, begin behind a bound and do not touch.  The number
`bound` is the least one that a range may begin with. -/
def ascendingFrom (bound : Nat) : List (Nat × Nat) → Bool
  | [] => true
  | (first, last) :: rest => bound ≤ first && first ≤ last && ascendingFrom (last + 2) rest

/-- Whether a number lies in one of some ascending ranges. -/
def inAscending (n : Nat) : List (Nat × Nat) → Bool
  | [] => false
  | (first, last) :: rest => first ≤ n && (n ≤ last || inAscending n rest)

/-- A number in front of a bound lies in no range behind it. -/
theorem inAscending_eq_false_of_lt {n bound : Nat} {ranges : List (Nat × Nat)}
    (h : ascendingFrom bound ranges = true) (hn : n < bound) : inAscending n ranges = false := by
  cases ranges with
  | nil => rfl
  | cons range rest =>
    simp only [ascendingFrom, Bool.and_eq_true, decide_eq_true_eq] at h
    have : ¬range.1 ≤ n := by omega
    simp [inAscending, this]

/-- In ascending ranges the search finds a number exactly if some range holds it. -/
theorem inAscending_iff {bound : Nat} {ranges : List (Nat × Nat)}
    (h : ascendingFrom bound ranges = true) (n : Nat) :
    inAscending n ranges = true ↔ ∃ range ∈ ranges, range.1 ≤ n ∧ n ≤ range.2 := by
  induction ranges generalizing bound with
  | nil => simp [inAscending]
  | cons range rest ih =>
    simp only [ascendingFrom, Bool.and_eq_true, decide_eq_true_eq] at h
    obtain ⟨⟨_, hrange⟩, hrest⟩ := h
    simp only [inAscending, Bool.and_eq_true, Bool.or_eq_true, decide_eq_true_eq,
      List.mem_cons, or_and_right, exists_or, exists_eq_left, ih hrest]
    constructor
    · rintro ⟨hfirst, hlast | hlater⟩
      · exact Or.inl ⟨hfirst, hlast⟩
      · exact Or.inr hlater
    · rintro (⟨hfirst, hlast⟩ | hlater)
      · exact ⟨hfirst, Or.inl hlast⟩
      · refine ⟨?_, Or.inr hlater⟩
        have hfound := (ih hrest).2 hlater
        by_cases hn : n < range.2 + 2
        · simp [inAscending_eq_false_of_lt hrest hn] at hfound
        · omega

/-- A set of characters, as ranges of their numbers.  Both ends of a range belong to the set. -/
structure CharSet where
  ranges : List (Nat × Nat)
  ascending : ascendingFrom 0 ranges = true

namespace CharSet

/-- The set of one character, given by its number. -/
def single (n : Nat) : CharSet where
  ranges := [(n, n)]
  ascending := by simp [ascendingFrom]

/-- Whether a character belongs to a set. -/
def contains (s : CharSet) (c : Char) : Bool :=
  inAscending c.toNat s.ranges

/-- A character belongs to a set exactly if one of the ranges holds its number. -/
theorem contains_iff (s : CharSet) (c : Char) :
    s.contains c = true ↔ ∃ range ∈ s.ranges, range.1 ≤ c.toNat ∧ c.toNat ≤ range.2 :=
  inAscending_iff s.ascending c.toNat

end CharSet

end BuildConst.Text
