import BuildConst.Artifact.Image.Wire
import BuildConst.Artifact.Source
import BuildConst.Files
import BuildConst.Files.Path

/-!
# Artifacts

A table is written to a file in one of two forms.  It is rendered in memory first, so that a table
that cannot be rendered leaves no trace; then the directories that the file lies in are made, and
then the file.

## Main definitions

* `Strategy` — the form of an artifact.
* `EmissionFault`, `EmissionFault.message` — why no artifact was written.
* `Artifact.render` — the bytes of an artifact.
* `Artifact.emit` — the artifact as a file.
-/

set_option relaxedAutoImplicit false
set_option autoImplicit false

namespace BuildConst

/-- The form of an artifact. -/
inductive Strategy where
  | source
  | image
deriving DecidableEq, Repr

/-- Why no artifact was written. -/
inductive EmissionFault where
  | unparsable (detail : String)
  | invalidName (fault : Container.Fault)
  | noFileName (path : String)
  | file (path : String) (fault : FileFault)
deriving DecidableEq, Repr

/-- The text that describes a fault. -/
def EmissionFault.message : EmissionFault → String
  | .unparsable detail => s!"syn parse error: {detail}"
  | .invalidName fault => fault.message
  | .noFileName path => s!"target path '{path}' has no file name"
  | .file path fault => s!"I/O error on '{path}': " ++ fault.message

namespace Artifact

/-- The bytes of an artifact.  Only an image holds the name of its module. -/
def render (strategy : Strategy) (t : Table) (c : Container) (moduleName : String) :
    Except EmissionFault (List UInt8) :=
  match strategy with
  | .source =>
    match Source.render t c with
    | .ok text => .ok (Text.Utf8.encode text)
    | .error detail => .error (.unparsable detail)
  | .image => .ok (Wire.encodeImage (Image.ofTable t c moduleName))

variable {m : Type → Type} [Monad m] [Files m]

/-- The absolute path of a target.  The working directory is assumed to exist, so that this cannot
fail: there is no fault for a target whose working directory is gone. -/
def resolve (target : String) : m String := do
  pure (Path.join (← Files.workingDirectory) target)

/-- Writes the bytes of an artifact, making the directories that it lies in. -/
def store (path : String) (bytes : List UInt8) : m (Except EmissionFault Unit) := do
  let parents := Path.parents path
  match ← Files.makeDirectories parents with
  | .error fault => pure (.error (.file (parents.headD path) fault))
  | .ok () =>
    match ← Files.writeFile path bytes with
    | .error fault => pure (.error (.file path fault))
    | .ok () => pure (.ok ())

/-- Renders a table and writes it to the file of a target, whose absolute path is the result.  The
module is named for the stem of the file. -/
def emit (strategy : Strategy) (t : Table) (c : Container) (target : String) :
    m (Except EmissionFault String) := do
  let path ← resolve target
  match Path.stem? path with
  | none => pure (.error (.noFileName path))
  | some moduleName =>
    match render strategy t c moduleName with
    | .error fault => pure (.error fault)
    | .ok bytes =>
      match ← store path bytes with
      | .error fault => pure (.error fault)
      | .ok () => pure (.ok path)

end Artifact

end BuildConst
