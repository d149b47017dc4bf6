/-!
# The name and version of the program
-/

set_option relaxedAutoImplicit false
set_option autoImplicit false

namespace BuildConst

/-- The name under which the program is run and under which it signs its artifacts. -/
def programName : String :=
  "defconst"

/-- The version that artifacts are marked with. -/
def programVersion : String :=
  "0.1.0"

end BuildConst
