import BuildConst.Container
import BuildConst.Table
import BuildConst.Version

/-!
# Module images

A module image holds the constants of a table in native form: a header that identifies the format,
the name of the module, and its types with one accessor for each constant.

## Main definitions

* `Image.Header`, `Image.TypeDef`, `Image` — the parts of an image.
* `Image.ofTable` — the image of a table.
* `Image.find?`, `Image.TypeDef.value?` — the type of a path, and the value of an accessor.
-/

set_option relaxedAutoImplicit false
set_option autoImplicit false

namespace BuildConst

namespace Image

/-- The bytes that mark a file as a module image. -/
def magic : Vector UInt8 8 :=
  #v[0x44, 0x45, 0x46, 0x43, 0x4F, 0x4E, 0x53, 0x54]

/-- The version of the layout that is written and read. -/
def formatVersion : UInt16 := 1

/-- What an image says about itself. -/
structure Header where
  magic : Vector UInt8 8
  version : UInt16
  generator : String
deriving DecidableEq, Repr

/-- The header of the images that this program writes. -/
def Header.current : Header :=
  ⟨Image.magic, formatVersion, programVersion⟩

/-- A type of an image, with its accessors. -/
structure TypeDef where
  container : Container
  accessors : List Constant
deriving DecidableEq, Repr

/-- The value of the first accessor of a name. -/
def TypeDef.value? (t : TypeDef) (name : String) : Option Value :=
  (t.accessors.find? fun a => a.name == name).map Constant.value

end Image

/-- A module image. -/
structure Image where
  header : Image.Header
  name : String
  types : List Image.TypeDef
deriving DecidableEq, Repr

namespace Image

/-- The first type of an image with a path. -/
def find? (image : Image) (fullName : String) : Option TypeDef :=
  image.types.find? fun t => t.container.fullName == fullName

/-- The image of a table: one type, with the constants in table order. -/
def ofTable (t : Table) (c : Container) (moduleName : String) : Image :=
  ⟨.current, moduleName, [⟨c, t.constants⟩]⟩

end Image

end BuildConst
