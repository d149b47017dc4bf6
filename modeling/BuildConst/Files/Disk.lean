import BuildConst.Files
import BuildConst.Files.Path

/-!
# Disks

A disk is the content of a file system as a value: a list of the files and directories below the
root, and a working directory.  The operations follow a path part by part, and every part but the
last has to lead to a directory.

Paths are valid Unicode.  A disk holds plain files and directories only, without links and devices.
There are no permissions, so everything may be read and written, and no limits of room, so that no
operation fails for lack of it.  The working directory is assumed to exist.

## Main definitions

* `Disk`, `Disk.entry?`, `Disk.put` — a disk, what is at a location, and a changed disk.
* `Disk.locate` — the directory that a path leads to and the last part of the path.
* `Disk.read`, `Disk.write`, `Disk.makeDirectory` — the operations.
-/

set_option relaxedAutoImplicit false
set_option autoImplicit false

namespace BuildConst

/-- A place on a disk: the names that lead to it from the root, the last one first. -/
abbrev Location : Type :=
  List String

/-- What can be at a location. -/
inductive Entry where
  | directory
  | file (bytes : List UInt8)
deriving DecidableEq, Repr

/-- The plain files and directories below the root, without permissions or limits of room, and the
working directory.  The names in locations are valid Unicode. -/
structure Disk where
  entries : List (Location × Entry)
  here : Location
deriving DecidableEq, Repr

namespace Disk

/-- What is at a location.  The root is a directory. -/
def entry? (disk : Disk) (place : Location) : Option Entry :=
  if place = [] then some .directory else disk.entries.lookup place

/-- A list of entries with a given one at a location. -/
def putEntry (place : Location) (entry : Entry) :
    List (Location × Entry) → List (Location × Entry)
  | [] => [(place, entry)]
  | (other, old) :: rest =>
    if other = place then (place, entry) :: rest else (other, old) :: putEntry place entry rest

/-- A disk with a given entry at a location. -/
def put (disk : Disk) (place : Location) (entry : Entry) : Disk :=
  { disk with entries := putEntry place entry disk.entries }

/-- The greatest length of a name, in bytes. -/
def nameLimit : Nat := 255

/-- The length, in bytes, from which on a path is refused. -/
def pathLimit : Nat := 4096

/-- The location of a part inside a directory, if that is a directory. -/
def enter (disk : Disk) (place : Location) (part : String) : Except FileFault Location :=
  if Path.isFiller part then .ok place
  else if part = ".." then .ok place.tail
  else if nameLimit < part.utf8ByteSize then .error .nameTooLong
  else
    match disk.entry? (part :: place) with
    | none => .error .noSuchFile
    | some (.file _) => .error .notDirectory
    | some .directory => .ok (part :: place)

/-- Where a path leads: the directory of its last part, and that part, which is `.` if the path has
none; and whether a slash follows the part. -/
structure Aim where
  directory : Location
  last : String
  slash : Bool
deriving DecidableEq, Repr

/-- Whether the last part of a path leads to a directory in any case. -/
def Aim.isDots (aim : Aim) : Bool :=
  aim.last == "." || aim.last == ".."

/-- The location of the last part of a path. -/
def Aim.place (aim : Aim) : Location :=
  aim.last :: aim.directory

/-- Follow a path up to its last part. -/
def locate (disk : Disk) (path : String) : Except FileFault Aim := do
  if '\x00' ∈ path.toList then .error .nulInName
  else if pathLimit ≤ path.utf8ByteSize then .error .nameTooLong
  else if path.isEmpty then .error .noSuchFile
  else
    let start := if Path.isAbsolute path then [] else disk.here
    let reversed := (Path.parts path).reverse
    match reversed.dropWhile (· == "") with
    | [] => .ok ⟨start, ".", true⟩
    | last :: front => do
      let directory ← front.reverse.foldlM disk.enter start
      .ok ⟨directory, last, reversed.head? == some ""⟩

/-- The last part of a path has to be short enough. -/
def Aim.checkName (aim : Aim) : Except FileFault Unit :=
  if nameLimit < aim.last.utf8ByteSize then .error .nameTooLong else .ok ()

/-- The bytes of a file. -/
def read (disk : Disk) (path : String) : Except FileFault (List UInt8) := do
  let aim ← disk.locate path
  if aim.isDots then .error .isDirectory
  else
    aim.checkName
    match disk.entry? aim.place with
    | none => .error .noSuchFile
    | some .directory => .error .isDirectory
    | some (.file bytes) => if aim.slash then .error .notDirectory else .ok bytes

/-- The disk after a file was written.  A path that ends in a slash names no file. -/
def write (disk : Disk) (path : String) (bytes : List UInt8) : Except FileFault Disk := do
  let aim ← disk.locate path
  if aim.isDots || aim.slash then .error .isDirectory
  else
    aim.checkName
    match disk.entry? aim.place with
    | some .directory => .error .isDirectory
    | _ => .ok (disk.put aim.place (.file bytes))

/-- The disk after a directory was made. -/
def makeDirectory (disk : Disk) (path : String) : Except FileFault Disk := do
  let aim ← disk.locate path
  if aim.isDots then .error .fileExists
  else
    aim.checkName
    match disk.entry? aim.place with
    | some _ => .error .fileExists
    | none => .ok (disk.put aim.place .directory)

/-- Whether a path leads to a directory. -/
def isDirectory (disk : Disk) (path : String) : Bool :=
  match disk.locate path with
  | .error _ => false
  | .ok aim => aim.isDots || (disk.entry? aim.place == some .directory)

/-- The path of a location. -/
def pathOf (place : Location) : String :=
  "/" ++ "/".intercalate place.reverse

/-- Make a change to a disk, unless it fails. -/
def attempt (change : Disk → Except FileFault Disk) : StateM Disk (Except FileFault Unit) :=
  fun disk =>
    match change disk with
    | .ok changed => (.ok (), changed)
    | .error fault => (.error fault, disk)

end Disk

/-- File operations as changes to a disk. -/
instance : Files (StateM Disk) where
  workingDirectory := fun disk => (Disk.pathOf disk.here, disk)
  readFile path := fun disk => (disk.read path, disk)
  writeFile path bytes := Disk.attempt (·.write path bytes)
  makeDirectory path := Disk.attempt (·.makeDirectory path)
  isDirectory path := fun disk => (disk.isDirectory path, disk)

end BuildConst
