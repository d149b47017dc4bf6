import BuildConst.Artifact.Image
import BuildConst.Json

/-!
# Module images as JSON documents

## Main definitions

* `Image.toJson` — the document of an image.
-/

set_option relaxedAutoImplicit false
set_option autoImplicit false

namespace BuildConst

/-- The document of a value: an object with one member, named for the kind. -/
def Value.toJson (v : Value) : Json :=
  let content : Json :=
    match v with
    | .string text => .string text
    | .bool truth => .bool truth
    | .int number => .number (.whole number.toInt)
    | .stringArray items => .array (items.map .string)
  .object [(v.kind.name, content)]

namespace Image

/-- The document of an accessor. -/
def accessorJson (a : Constant) : Json :=
  .object [("name", .string a.name), ("value", a.value.toJson)]

/-- The document of a type. -/
def TypeDef.toJson (t : TypeDef) : Json :=
  .object
    [("namespace", .array (t.container.segments.map .string)),
     ("name", .string t.container.name),
     ("accessors", .array (t.accessors.map accessorJson))]

/-- The document of a header. -/
def Header.toJson (h : Header) : Json :=
  .object
    [("magic", .array (h.magic.toList.map fun b => .ofNat b.toNat)),
     ("format_version", .ofNat h.version.toNat),
     ("generator", .string h.generator)]

/-- The document of an image. -/
def toJson (image : Image) : Json :=
  .object
    [("header", image.header.toJson),
     ("name", .string image.name),
     ("types", .array (image.types.map TypeDef.toJson))]

end Image

end BuildConst
