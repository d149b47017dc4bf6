import BuildConst.Artifact.Image.Document
import BuildConst.Artifact.Image.Load
import BuildConst.CommandLine.Arguments
import BuildConst.Declaration.Load
import BuildConst.Diagnostic.Report
import BuildConst.Json.Pretty

/-!
# Commands

A command either runs to its end, with an exit status and what it prints, or fails because a file
cannot be loaded.  The lines of the log, which also go to the standard error, are left out here.

## Main definitions

* `Reply`, `Failure` — the two outcomes of a command.
* `Command.execute` — runs a command.
-/

set_option relaxedAutoImplicit false
set_option autoImplicit false

namespace BuildConst

/-- What a program leaves behind on its standard streams, and its exit status.  The lines that it
logs on the standard error are left out. -/
structure Reply where
  exit : Nat
  stdout : String := ""
  stderr : String := ""
deriving DecidableEq, Repr

/-- Why a command could not begin: a message, and a hint at what to do. -/
structure Failure where
  message : String
  help : Option String := none
deriving DecidableEq, Repr

/-- The exit status after a failure. -/
def Failure.exit : Nat := 1

namespace Command

/-- The hint at the form of declaration files. -/
def fileHelp : String :=
  "A declaration file is a JSON array of \"KEY=VALUE\" strings or " ++
    "\x7b\"define\", \"type\"\x7d objects"

/-- A line that shows a constant. -/
def constantLine (c : Constant) : String :=
  c.name ++ ": " ++ c.value.kind.name ++ " = " ++ c.value.rendered ++ "\n"

/-- What is printed for an image. -/
def describeImage (image : Image) : String :=
  "module " ++ image.name ++ " (format " ++ toString image.header.version.toNat ++
    s!", written by {programName} " ++ image.header.generator ++ ")\n" ++
    String.join (image.types.map fun t =>
      t.container.fullName ++ "\n" ++
        String.join (t.accessors.map fun a => "  " ++ constantLine a))

/-- What the check of declarations prints.  The report is the one for a standard error that is no
terminal: it has no colours. -/
def checked (c : Collected) : Reply :=
  let stderr := Diagnostic.report .plain c.diagnostics
  if c.isReady then
    { exit := 0, stdout := String.join (c.table.constants.map constantLine), stderr }
  else { exit := 1, stderr }

/-- What a run prints.  The report is the one for a standard error that is no terminal. -/
def emitted (o : Outcome) : Reply :=
  let stderr := Diagnostic.report .plain o.diagnostics
  match o.status with
  | .done artifact => { exit := 0, stdout := artifact ++ "\n", stderr }
  | _ => { exit := 1, stderr }

/-- What is printed for an image that was loaded. -/
def inspected (image : Image) (json : Bool) : Reply :=
  { exit := 0
    stdout := if json then image.toJson.pretty ++ "\n" else describeImage image }

variable {m : Type → Type} [Monad m] [Files m]

/-- The declarations of a command: those of the files in order, then the arguments. -/
def gather (sources : Sources) : m (Except Failure (List Declaration)) := do
  match ← Declaration.loadAll sources.files with
  | .error fault => pure (.error ⟨fault.message, some fileHelp⟩)
  | .ok ds => pure (.ok (ds ++ sources.arguments.map Declaration.ofArgument))

/-- Runs a command. -/
def execute : Command → m (Except Failure Reply)
  | .emit config sources => do
    match ← gather sources with
    | .error failure => pure (.error failure)
    | .ok ds => pure (.ok (emitted (← compile ds config)))
  | .check sources => do
    match ← gather sources with
    | .error failure => pure (.error failure)
    | .ok ds => pure (.ok (checked (collect ds)))
  | .inspect path json => do
    match ← Image.load path with
    | .error fault => pure (.error ⟨fault.message, none⟩)
    | .ok image => pure (.ok (inspected image json))

end Command

end BuildConst
