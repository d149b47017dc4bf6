/-!
# Comparing texts without regard to letter case

Only the letters `A` to `Z` have a case here; every other character is compared as it is.

## Main definitions

* `Text.sameLetters` — two texts that differ in letter case at most.
-/

set_option relaxedAutoImplicit false
set_option autoImplicit false

namespace BuildConst.Text

/-- Two texts that are equal once `A` to `Z` are read as `a` to `z`. -/
def sameLetters (s t : String) : Bool :=
  s.toList.map Char.toLower == t.toList.map Char.toLower

theorem sameLetters_iff {s t : String} :
    sameLetters s t = true ↔ s.toList.map Char.toLower = t.toList.map Char.toLower := by
  simp [sameLetters]

end BuildConst.Text
