import BuildConst.Declaration.File
import BuildConst.Files
import BuildConst.Text.Utf8

/-!
# Loading declaration files

## Main definitions

* `Declaration.LoadFault`, `Declaration.LoadFault.message` — why a file gives no declarations.
* `Declaration.load`, `Declaration.loadAll` — the declarations of a file, and of several in order.
-/

set_option relaxedAutoImplicit false
set_option autoImplicit false

namespace BuildConst.Declaration

/-- Why a file gives no declarations. -/
inductive LoadFault where
  | unreadable (path : String) (fault : FileFault)
  | undecodable (path : String) (error : Json.Error)
deriving DecidableEq, Repr

/-- The text that describes a fault. -/
def LoadFault.message : LoadFault → String
  | .unreadable path fault => s!"cannot read declaration file '{path}': " ++ fault.message
  | .undecodable path error =>
    s!"declaration file '{path}' is not a valid declaration list: " ++ error.message

/-- The declarations in the bytes of a file. -/
def ofBytes (path : String) (bytes : List UInt8) : Except LoadFault (List Declaration) :=
  match Text.Utf8.decode bytes with
  | .error _ => .error (.unreadable path .notText)
  | .ok text =>
    match parseList text with
    | .error error => .error (.undecodable path error)
    | .ok ds => .ok ds

variable {m : Type → Type} [Monad m] [Files m]

/-- The declarations of a file. -/
def load (path : String) : m (Except LoadFault (List Declaration)) := do
  match ← Files.readFile path with
  | .error fault => pure (.error (.unreadable path fault))
  | .ok bytes => pure (ofBytes path bytes)

/-- The declarations of several files in order, or the fault of the first one that has none. -/
def loadAll : List String → m (Except LoadFault (List Declaration))
  | [] => pure (.ok [])
  | path :: more => do
    match ← load path with
    | .error fault => pure (.error fault)
    | .ok ds =>
      match ← loadAll more with
      | .error fault => pure (.error fault)
      | .ok others => pure (.ok (ds ++ others))

end BuildConst.Declaration
