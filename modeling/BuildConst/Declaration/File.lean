import BuildConst.Declaration
import BuildConst.Decimal.Shortest
import BuildConst.Json.Pretty
import BuildConst.Json.Reader
import BuildConst.Text.Quoted

/-!
# Declaration files

A declaration file is a JSON list.  An item is either a string, the text of a declaration, or an
object that gives the text under `define` and, if it likes, a hint under `type`; other members do
not matter.

## Main definitions

* `Declaration.ofJson?` — the declaration of an item.
* `Declaration.parseList` — the declarations of a whole text.
-/

set_option relaxedAutoImplicit false
set_option autoImplicit false

namespace BuildConst

/-- What a document is called in a message about its type. -/
def Json.describe : Json → String
  | .null => "null"
  | .bool truth => "boolean `" ++ (if truth then "true" else "false") ++ "`"
  | .number (.whole n) => "integer `" ++ toString n ++ "`"
  | .number (.binary negative x) =>
    "floating point `" ++ (Json.Number.binary negative x).text ++ "`"
  | .string text => "string " ++ Text.quote text
  | .array _ => "sequence"
  | .object _ => "map"

namespace Declaration

/-- The declaration of an item of the list. -/
def ofJson? : Json → Option Declaration
  | .string text => some ⟨text, none⟩
  | .object members =>
    match Json.valuesOf "define" members, Json.valuesOf "type" members with
    | [.string text], [] => some ⟨text, none⟩
    | [.string text], [.null] => some ⟨text, none⟩
    | [.string text], [.string hint] => some ⟨text, some hint⟩
    | _, _ => none
  | _ => none

/-- The place where an item that is no declaration is reported: the bracket or comma after it is
looked past. -/
def afterItem (cs : List Char) : List Char :=
  match Json.skipBlanks cs with
  | ']' :: rest => rest
  | ',' :: rest => Json.skipBlanks rest
  | other => other

/-- Reads an item of the list.  It is read as a document before it is looked at. -/
def readItem (cs : List Char) : Except Json.Fault (Declaration × List Char) := do
  let (item, rest) ← Json.readValue (Json.depthLimit - 1) cs
  match ofJson? item with
  | some d => .ok (d, rest)
  | none => .error (.before .noEntry (afterItem rest))

/-- Reads the list. -/
def readList (cs : List Char) : Except Json.Fault (List Declaration × List Char) :=
  match Json.skipBlanks cs with
  | [] => .error (.before .endInValue [])
  | '[' :: rest => Json.readItems readItem rest
  | '{' :: rest => .error (.before (.wrongType "map") ('{' :: rest))
  | other => do
    let (found, rest) ← Json.readValue Json.depthLimit other
    .error (.before (.wrongType found.describe) rest)

/-- The declarations of a whole text, which may hold nothing but blanks after the list. -/
def parseList (text : String) : Except Json.Error (List Declaration) :=
  let cs := text.toList
  match readList cs with
  | .error fault => .error (fault.error cs)
  | .ok (ds, rest) =>
    match Json.skipBlanks rest with
    | [] => .ok ds
    | other => .error ((Json.Fault.inside .trailingCharacters other).error cs)

end Declaration

end BuildConst
