import BuildConst.Decimal.Shortest
import BuildConst.Json

/-!
# Writing JSON texts

A document is written with each item of a list and each member of an object on a line of its own,
two spaces deeper than the brackets around it.  Empty lists and objects are two brackets.

## Main definitions

* `Json.quote` — a string between quotes.
* `Json.pretty` — a document.
-/

set_option relaxedAutoImplicit false
set_option autoImplicit false

namespace BuildConst.Json

/-- The escape of a control character by its number in four hexadecimal digits. -/
def unicodeEscape (c : Char) : List Char :=
  let digits := Nat.toDigits 16 c.toNat
  '\\' :: 'u' :: List.replicate (4 - digits.length) '0' ++ digits

/-- A character inside a string. -/
def escape (c : Char) : List Char :=
  if c = '"' then ['\\', '"']
  else if c = '\\' then ['\\', '\\']
  else if c = '\x08' then ['\\', 'b']
  else if c = '\x0c' then ['\\', 'f']
  else if c = '\n' then ['\\', 'n']
  else if c = '\r' then ['\\', 'r']
  else if c = '\t' then ['\\', 't']
  else if c.toNat < 0x20 then unicodeEscape c
  else [c]

/-- A string between quotes. -/
def quote (s : String) : List Char :=
  '"' :: s.toList.flatMap escape ++ ['"']

/-- A number. -/
def Number.text : Number → String
  | .whole n => toString n
  | .binary negative x => (if negative then "-" else "") ++ x.text

/-- A line break and the indentation of the line after it. -/
def newline (depth : Nat) : List Char :=
  '\n' :: List.replicate (2 * depth) ' '

mutual

/-- A document at a depth. -/
def prettyAt (depth : Nat) : Json → List Char
  | .null => ['n', 'u', 'l', 'l']
  | .bool truth => if truth then ['t', 'r', 'u', 'e'] else ['f', 'a', 'l', 's', 'e']
  | .number n => n.text.toList
  | .string text => quote text
  | .array [] => ['[', ']']
  | .array (item :: items) =>
    '[' :: newline (depth + 1) ++ prettyAt (depth + 1) item ++ prettyItems (depth + 1) items ++
      newline depth ++ [']']
  | .object [] => ['{', '}']
  | .object ((key, value) :: members) =>
    '{' :: newline (depth + 1) ++ quote key ++ [':', ' '] ++ prettyAt (depth + 1) value ++
      prettyMembers (depth + 1) members ++ newline depth ++ ['}']

/-- The items of a list after the first. -/
def prettyItems (depth : Nat) : List Json → List Char
  | [] => []
  | item :: items => ',' :: newline depth ++ prettyAt depth item ++ prettyItems depth items

/-- The members of an object after the first. -/
def prettyMembers (depth : Nat) : List (String × Json) → List Char
  | [] => []
  | (key, value) :: members =>
    ',' :: newline depth ++ quote key ++ [':', ' '] ++ prettyAt depth value ++
      prettyMembers depth members

end

/-- A document as a text. -/
def pretty (v : Json) : String :=
  String.ofList (prettyAt 0 v)

end BuildConst.Json
