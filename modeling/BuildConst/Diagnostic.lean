/-!
# Diagnostics

A diagnostic is one recorded problem.  Errors keep the artifact from being written, warnings do
not.  Diagnostics are kept in a list, in the order in which the problems were found.

## Main definitions

* `Severity`, `Diagnostic` — a problem and its weight.
* `Diagnostic.errors`, `Diagnostic.warnings`, `Diagnostic.hasErrors` — views of a list of problems.
-/

set_option relaxedAutoImplicit false
set_option autoImplicit false

namespace BuildConst

/-- The weight of a problem. -/
inductive Severity where
  | error
  | warning
deriving DecidableEq, Repr

/-- The word for a weight in a report. -/
def Severity.label : Severity → String
  | .error => "error"
  | .warning => "warning"

/-- A recorded problem: what it is, the declaration it was found in, and remarks on it. -/
structure Diagnostic where
  severity : Severity
  message : String
  declaration : Option String := none
  notes : List String := []
  hints : List String := []
deriving DecidableEq, Repr

namespace Diagnostic

/-- Whether a problem is an error. -/
def isError (d : Diagnostic) : Bool :=
  d.severity == .error

/-- The errors of a list of problems. -/
def errors (ds : List Diagnostic) : List Diagnostic :=
  ds.filter isError

/-- The warnings of a list of problems. -/
def warnings (ds : List Diagnostic) : List Diagnostic :=
  ds.filter fun d => !d.isError

/-- Whether a list of problems holds an error. -/
def hasErrors (ds : List Diagnostic) : Bool :=
  ds.any isError

theorem errors_append (ds es : List Diagnostic) : errors (ds ++ es) = errors ds ++ errors es := by
  simp [errors]

theorem hasErrors_append (ds es : List Diagnostic) :
    hasErrors (ds ++ es) = (hasErrors ds || hasErrors es) := by
  simp [hasErrors]

theorem hasErrors_eq_false_iff {ds : List Diagnostic} : hasErrors ds = false ↔ errors ds = [] := by
  simp [hasErrors, errors]

end Diagnostic

end BuildConst
