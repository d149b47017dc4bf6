import BuildConst.Artifact.Image
import BuildConst.Text.Utf8

/-!
# The bytes of module images

Numbers have a fixed width and their lowest byte first.  Texts and lists are preceded by their
length in eight bytes.  A value is preceded by the number of its kind in four bytes.  A reader takes
what it needs from the front of a list of bytes and returns the rest.

## Main definitions

* `Wire.encodeImage`, `Wire.readImage` — an image as bytes, and back.
* `Wire.Fault` — why bytes are no image.
* `Image.decode` — the image of a file, with the checks on its header.
-/

set_option relaxedAutoImplicit false
set_option autoImplicit false

namespace BuildConst

namespace Wire

/-! ## Writing -/

/-- A number in a given count of bytes, the lowest first. -/
def encodeNat : Nat → Nat → List UInt8
  | 0, _ => []
  | width + 1, n => UInt8.ofNat (n % 256) :: encodeNat width (n / 256)

/-- The length that precedes a text or a list. -/
def encodeLength (n : Nat) : List UInt8 :=
  encodeNat 8 n

/-- A text: the number of its bytes and then the bytes. -/
def encodeText (s : String) : List UInt8 :=
  let bytes := Text.Utf8.encode s
  encodeLength bytes.length ++ bytes

/-- A list: the number of its items and then the items. -/
def encodeList {α : Type} (item : α → List UInt8) (items : List α) : List UInt8 :=
  encodeLength items.length ++ items.flatMap item

/-- The number of a kind. -/
def kindTag : Kind → Nat
  | .string => 0
  | .bool => 1
  | .int => 2
  | .stringArray => 3

/-- A value without the number of its kind. -/
def encodeContent : Value → List UInt8
  | .string text => encodeText text
  | .bool truth => [if truth then 1 else 0]
  | .int number => encodeNat 4 number.toUInt32.toNat
  | .stringArray items => encodeList encodeText items

/-- A value. -/
def encodeValue (v : Value) : List UInt8 :=
  encodeNat 4 (kindTag v.kind) ++ encodeContent v

/-- An accessor. -/
def encodeAccessor (a : Constant) : List UInt8 :=
  encodeText a.name ++ encodeValue a.value

/-- A type. -/
def encodeType (t : Image.TypeDef) : List UInt8 :=
  encodeList encodeText t.container.segments ++ encodeText t.container.name ++
    encodeList encodeAccessor t.accessors

/-- A header. -/
def encodeHeader (h : Image.Header) : List UInt8 :=
  h.magic.toList ++ encodeNat 2 h.version.toNat ++ encodeText h.generator

/-- An image. -/
def encodeImage (image : Image) : List UInt8 :=
  encodeHeader image.header ++ encodeText image.name ++ encodeList encodeType image.types

/-! ## Reading -/

/-- Why bytes cannot be read: they end inside a number or inside a text, or a number or text in them
is none of the allowed ones. -/
inductive Fault where
  | endOfInput
  | endInsideText
  | badBool (found : UInt8)
  | badTag (found : Nat)
  | badText (fault : Text.Utf8.Fault)
deriving DecidableEq, Repr

/-- The text that describes a fault. -/
def Fault.message : Fault → String
  | .endOfInput => "io error: unexpected end of file"
  | .endInsideText => "io error: "
  | .badBool found =>
    "invalid u8 while decoding bool, expected 0 or 1, found " ++ toString found.toNat
  | .badTag found =>
    "invalid value: integer `" ++ toString found ++ "`, expected variant index 0 <= i < 4"
  | .badText fault => "string is not valid utf8: " ++ fault.message

/-- A reader takes a value from the front of a list of bytes and returns the rest. -/
abbrev Reader (α : Type) : Type :=
  List UInt8 → Except Fault (α × List UInt8)

/-- Reads a number of a given count of bytes. -/
def readNat : Nat → Reader Nat
  | 0, bytes => .ok (0, bytes)
  | _ + 1, [] => .error .endOfInput
  | width + 1, b :: bytes => do
    let (high, rest) ← readNat width bytes
    .ok (b.toNat + 256 * high, rest)

/-- Reads a given count of bytes as they are. -/
def readBytes (count : Nat) : Reader (Vector UInt8 count) := fun bytes =>
  if h : count ≤ bytes.length then
    .ok (⟨(bytes.take count).toArray, by simp [h]⟩, bytes.drop count)
  else .error .endOfInput

/-- Reads a text. -/
def readText : Reader String := fun bytes => do
  let (length, rest) ← readNat 8 bytes
  if rest.length < length then .error .endInsideText
  else
    match Text.Utf8.decode (rest.take length) with
    | .ok text => .ok (text, rest.drop length)
    | .error fault => .error (.badText fault)

/-- Reads a given number of items. -/
def readItems {α : Type} (item : Reader α) : Nat → Reader (List α)
  | 0, bytes => .ok ([], bytes)
  | count + 1, bytes => do
    let (first, rest) ← item bytes
    let (others, rest) ← readItems item count rest
    .ok (first :: others, rest)

/-- Reads a list. -/
def readList {α : Type} (item : Reader α) : Reader (List α) := fun bytes => do
  let (count, rest) ← readNat 8 bytes
  readItems item count rest

/-- Reads a truth value. -/
def readBool : Reader Bool
  | [] => .error .endOfInput
  | b :: rest =>
    if b = 0 then .ok (false, rest)
    else if b = 1 then .ok (true, rest)
    else .error (.badBool b)

/-- Reads an integer. -/
def readInt : Reader Int32 := fun bytes => do
  let (n, rest) ← readNat 4 bytes
  .ok ((UInt32.ofNat n).toInt32, rest)

/-- Reads a value. -/
def readValue : Reader Value := fun bytes => do
  let (tag, rest) ← readNat 4 bytes
  match tag with
  | 0 => do let (text, rest) ← readText rest; .ok (.string text, rest)
  | 1 => do let (truth, rest) ← readBool rest; .ok (.bool truth, rest)
  | 2 => do let (number, rest) ← readInt rest; .ok (.int number, rest)
  | 3 => do let (items, rest) ← readList readText rest; .ok (.stringArray items, rest)
  | other => .error (.badTag other)

/-- Reads an accessor. -/
def readAccessor : Reader Constant := fun bytes => do
  let (name, rest) ← readText bytes
  let (value, rest) ← readValue rest
  .ok (⟨name, value⟩, rest)

/-- Reads a type. -/
def readType : Reader Image.TypeDef := fun bytes => do
  let (segments, rest) ← readList readText bytes
  let (name, rest) ← readText rest
  let (accessors, rest) ← readList readAccessor rest
  .ok (⟨⟨segments, name⟩, accessors⟩, rest)

/-- Reads a header. -/
def readHeader : Reader Image.Header := fun bytes => do
  let (magic, rest) ← readBytes 8 bytes
  let (version, rest) ← readNat 2 rest
  let (generator, rest) ← readText rest
  .ok (⟨magic, UInt16.ofNat version, generator⟩, rest)

/-- Reads an image. -/
def readImage : Reader Image := fun bytes => do
  let (header, rest) ← readHeader bytes
  let (name, rest) ← readText rest
  let (types, rest) ← readList readType rest
  .ok (⟨header, name, types⟩, rest)

end Wire

namespace Image

/-! ## Loading -/

/-- Why the bytes of a file are no image that can be used. -/
inductive Fault where
  | malformed (fault : Wire.Fault)
  | badMagic
  | unsupportedVersion (found : UInt16)
deriving DecidableEq, Repr

/-- The text that describes a fault. -/
def Fault.message : Fault → String
  | .malformed fault => "module image is truncated or corrupt: " ++ fault.message
  | .badMagic => s!"not a {programName} module image"
  | .unsupportedVersion found =>
    "module format version " ++ toString found.toNat ++ " is not supported (expected " ++
      toString formatVersion.toNat ++ ")"

/-- The image that a list of bytes begins with.  The marking bytes are checked first, then the
version, and only then is the rest looked at.  Bytes after the image do not matter. -/
def decode (bytes : List UInt8) : Except Fault Image :=
  match Wire.readBytes 8 bytes with
  | .error fault => .error (.malformed fault)
  | .ok (found, _) =>
    if found ≠ magic then .error .badMagic
    else
      match Wire.readHeader bytes with
      | .error fault => .error (.malformed fault)
      | .ok (header, _) =>
        if header.version ≠ formatVersion then .error (.unsupportedVersion header.version)
        else
          match Wire.readImage bytes with
          | .error fault => .error (.malformed fault)
          | .ok (image, _) => .ok image

end Image

end BuildConst
