import BuildConst.Text.Split

/-!
# Paths

A path is a text whose parts stand between slashes.  An empty part and the part `.` name nothing;
such parts at the end of a path are looked past when its last part or its parent is asked for.

## Main definitions

* `Path.parts`, `Path.join` — the parts of a path, and a path inside a directory.
* `Path.fileName?`, `Path.stem?` — the last part, and that part without its extension.
* `Path.parents` — the directories that a path lies in.
-/

set_option relaxedAutoImplicit false
set_option autoImplicit false

namespace BuildConst.Path

/-- The parts of a path between its slashes. -/
def parts (path : String) : List String :=
  (Text.pieces '/' path.toList).map String.ofList

/-- Whether a path begins at the root. -/
def isAbsolute (path : String) : Bool :=
  path.toList.head? == some '/'

/-- The path of something that is named from inside a directory.  An absolute path stays as it
is. -/
def join (directory path : String) : String :=
  if isAbsolute path then path
  else if directory.toList.getLast? == some '/' then directory ++ path
  else directory ++ "/" ++ path

/-- A part that names nothing. -/
def isFiller (part : String) : Bool :=
  part == "" || part == "."

/-- The parts of a path from the last to the first, without those at the end that name nothing. -/
def backwards (path : String) : List String :=
  (parts path).reverse.dropWhile isFiller

/-- The last part of a path, unless it leads upwards. -/
def fileName? (path : String) : Option String :=
  match backwards path with
  | [] => none
  | last :: _ => if last = ".." then none else some last

/-- A name up to its last point, if that is not its first character. -/
def stemOf (name : String) : String :=
  match Text.splitFirst '.' name.toList.reverse with
  | none => name
  | some (_, []) => name
  | some (_, before) => String.ofList before.reverse

/-- The stem of the last part of a path. -/
def stem? (path : String) : Option String :=
  (fileName? path).map stemOf

/-- The path of reversed parts, and the directories above it, the innermost first.  The parts begin
at the root. -/
def chain : List String → List String
  | [] => ["/"]
  | part :: above =>
    if isFiller part then chain above
    else "/".intercalate (part :: above).reverse :: chain above

/-- The directories that an absolute path lies in, the innermost first. -/
def parents (path : String) : List String :=
  match backwards path with
  | [] => []
  | _ :: above => chain above

end BuildConst.Path
