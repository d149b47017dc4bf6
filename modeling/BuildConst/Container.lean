import BuildConst.Identifier
import BuildConst.Text.Blank

/-!
# Container names

The constants of an artifact belong to one container, a named type inside nested namespaces.

## Main definitions

* `Container` — the namespaces, outermost first, and the name.
* `Container.parse` — the container of a namespace text and a name.
* `Container.fullName` — the path of a container.
-/

set_option relaxedAutoImplicit false
set_option autoImplicit false

namespace BuildConst

/-- Where constants are placed. -/
structure Container where
  segments : List String
  name : String
deriving DecidableEq, Repr

namespace Container

/-- The parts of a container's path. -/
inductive Part where
  | segment
  | name
deriving DecidableEq, Repr

/-- The words for a part inside a sentence. -/
def Part.label : Part → String
  | .segment => "namespace segment"
  | .name => "container name"

/-- The words for a part at the start of a sentence. -/
def Part.heading : Part → String
  | .segment => "Namespace segment"
  | .name => "Container name"

/-- A part of a container's path that cannot name an item. -/
structure Fault where
  part : Part
  text : String
  reason : Identifier.Fault
deriving DecidableEq, Repr

/-- The text that describes a fault. -/
def Fault.message (f : Fault) : String :=
  f.part.label ++ s!" '{f.text}' is not a valid identifier: " ++ f.reason.message

/-- The parts of a namespace between its separators, which are a point and a double colon. -/
def splitSegments : List Char → List (List Char)
  | [] => [[]]
  | ':' :: ':' :: rest => [] :: splitSegments rest
  | c :: rest =>
    if c = '.' then [] :: splitSegments rest
    else
      match splitSegments rest with
      | [] => [[c]]
      | piece :: more => (c :: piece) :: more

/-- The segments of a namespace text.  A blank text has none. -/
def segmentsOf (namespaceText : String) : List String :=
  let trimmed := Text.trim namespaceText
  if trimmed.isEmpty then [] else (splitSegments trimmed.toList).map String.ofList

/-- What is wrong with a part of a path, if anything. -/
def partFault? (part : Part) (text : String) : Option Fault :=
  (Identifier.fault? text).map fun reason => ⟨part, text, reason⟩

/-- The container of a namespace text and a name.  Every part has to be able to name an item; the
first part that is not is reported, the segments from the left and then the name. -/
def parse (namespaceText name : String) : Except Fault Container :=
  let segments := segmentsOf namespaceText
  match segments.findSome? (partFault? .segment) with
  | some fault => .error fault
  | none =>
    match partFault? .name name with
    | some fault => .error fault
    | none => .ok ⟨segments, name⟩

/-- The path of a container, from the outside in. -/
def fullName (c : Container) : String :=
  "::".intercalate (c.segments ++ [c.name])

end Container

end BuildConst
