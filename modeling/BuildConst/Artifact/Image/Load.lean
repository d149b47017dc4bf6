import BuildConst.Artifact.Image.Wire
import BuildConst.Files

/-!
# Loading module images

## Main definitions

* `Image.LoadFault`, `Image.LoadFault.message` — why a file gives no image.
* `Image.load` — the image of a file.
-/

set_option relaxedAutoImplicit false
set_option autoImplicit false

namespace BuildConst.Image

/-- Why a file gives no image. -/
inductive LoadFault where
  | unreadable (path : String) (fault : FileFault)
  | undecodable (fault : Image.Fault)
deriving DecidableEq, Repr

/-- The text that describes a fault. -/
def LoadFault.message : LoadFault → String
  | .unreadable path fault => s!"cannot read module '{path}': " ++ fault.message
  | .undecodable fault => fault.message

variable {m : Type → Type} [Monad m] [Files m]

/-- The image of a file. -/
def load (path : String) : m (Except LoadFault Image) := do
  match ← Files.readFile path with
  | .error fault => pure (.error (.unreadable path fault))
  | .ok bytes =>
    match decode bytes with
    | .error fault => pure (.error (.undecodable fault))
    | .ok image => pure (.ok image)

end BuildConst.Image
