import BuildConst.Artifact
import BuildConst.Collected

/-!
# Compiling declarations into an artifact

A run collects its declarations, checks the name of the container, and writes the artifact if no
error was found.  An artifact that cannot be written is one more error.

## Main definitions

* `Config` — where the constants go.
* `Status`, `Outcome` — how a run ended and what it found.
* `compile` — a run.
-/

set_option relaxedAutoImplicit false
set_option autoImplicit false

namespace BuildConst

/-- Where the constants of a run go, and in which form. -/
structure Config where
  target : String
  namespaceText : String := "Preprocessor"
  className : String := "DefineConstants"
  strategy : Strategy := .source
deriving DecidableEq, Repr

/-- How a run ended: before anything was written, with an artifact at a path, or with an artifact
that could not be written. -/
inductive Status where
  | blocked
  | done (artifact : String)
  | failed
deriving DecidableEq, Repr

/-- What a run produced. -/
structure Outcome where
  status : Status
  table : Table
  diagnostics : List Diagnostic
deriving DecidableEq, Repr

namespace Outcome

/-- Whether a run found no error. -/
def success (o : Outcome) : Bool :=
  !Diagnostic.hasErrors o.diagnostics

/-- The path of the artifact that was written. -/
def artifact? (o : Outcome) : Option String :=
  match o.status with
  | .done artifact => some artifact
  | _ => none

end Outcome

/-- The diagnostic for a container that cannot be named. -/
def Container.Fault.diagnostic (f : Container.Fault) : Diagnostic :=
  match f.reason with
  | .malformed => .invalidContainer f.part.heading f.text
  | .reserved => .reservedContainer f.part.heading f.text

variable {m : Type → Type} [Monad m] [Files m]

/-- Write the artifact of what was collected. -/
def Collected.emit (c : Collected) (config : Config) (container : Container) : m Outcome := do
  match ← Artifact.emit config.strategy c.table container config.target with
  | .ok path => pure ⟨.done path, c.table, c.diagnostics⟩
  | .error fault =>
    pure ⟨.failed, c.table, c.diagnostics ++ [.emissionFailed fault.message]⟩

/-- Compile declarations into an artifact. -/
def compile (declarations : List Declaration) (config : Config) : m Outcome := do
  let collected := collect declarations
  match Container.parse config.namespaceText config.className with
  | .error fault =>
    pure ⟨.blocked, collected.table, collected.diagnostics ++ [fault.diagnostic]⟩
  | .ok container =>
    if collected.isReady then collected.emit config container
    else pure ⟨.blocked, collected.table, collected.diagnostics⟩

end BuildConst
