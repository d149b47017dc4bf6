import BuildConst.Container
import BuildConst.Table
import BuildConst.Version

/-!
# Artifacts in source form

A table is written as source text: a type without values, whose associated constants are the
constants of the table, inside one module for each namespace.  Every item stands on a line of its
own at the depth of its module, except that the items of a list are spread over several lines when
one line would become too wide.

## Main definitions

* `Source.spell` — a name as an identifier.
* `Source.literal` — a value as an expression.
* `Source.constantLines` — the declaration of a constant.
* `Source.render` — the whole text.
-/

set_option relaxedAutoImplicit false
set_option autoImplicit false

namespace BuildConst.Source

/-- A name as an identifier: keywords are written in raw form. -/
def spell (name : String) : String :=
  if Identifier.needsRaw name then "r#" ++ name else name

/-- The characters of a text inside a string literal.  They are escaped as in messages, except that
the escape of the character zero may not be read together with an octal digit after it. -/
def literalBody : List Char → List Char
  | [] => []
  | c :: rest =>
    if c = '\x00' ∧ (rest.head?.any fun d => '0' ≤ d ∧ d ≤ '7') then
      '\\' :: 'x' :: '0' :: '0' :: literalBody rest
    else Text.escape c ++ literalBody rest

/-- A text as a string literal. -/
def stringLiteral (s : String) : String :=
  String.ofList ('"' :: literalBody s.toList ++ ['"'])

/-- A value as an expression on one line. -/
def literal : Value → String
  | .string text => stringLiteral text
  | .bool truth => if truth then "true" else "false"
  | .int number => toString number.toInt
  | .stringArray items => "&[" ++ ", ".intercalate (items.map stringLiteral) ++ "]"

/-- The depth by which nested lines are indented. -/
def step : Nat := 4

/-- A line at a depth. -/
def line (depth : Nat) (text : String) : String :=
  String.ofList (List.replicate depth ' ') ++ text ++ "\n"

/-- The greatest width, in bytes and without indentation, of a list that stays on one line. -/
def roomAt (depth : Nat) : Nat :=
  max (89 - depth) 60

/-- What precedes the value in the declaration of a constant. -/
def constantHead (c : Constant) : String :=
  "pub const " ++ spell c.name ++ ": " ++ c.value.kind.accessorType ++ " = "

/-- The items of a list on lines of their own, where `last` follows the last item and a comma each
other one. -/
def itemLines (depth : Nat) (last : String) : List String → String
  | [] => ""
  | [item] => line depth (item ++ last)
  | item :: more => line depth (item ++ ",") ++ itemLines depth last more

/-- A bracketed list with a head and a tail: on one line if it is empty or there is room for it, and
otherwise with each item on a line of its own and `last` after the last one. -/
def listLines (depth : Nat) (head : String) (items : List String) (last tail : String) : String :=
  let whole := head ++ ", ".intercalate items ++ tail
  if items.isEmpty ∨ whole.utf8ByteSize ≤ roomAt depth then line depth whole
  else line depth head ++ itemLines (depth + step) last items ++ line depth tail

/-- The declaration of a constant. -/
def constantLines (depth : Nat) (c : Constant) : String :=
  match c.value with
  | .stringArray items =>
    listLines depth (constantHead c ++ "&[") (items.map stringLiteral) "," "];"
  | value => line depth (constantHead c ++ literal value ++ ";")

/-- The type that holds the constants. -/
def containerLines (depth : Nat) (t : Table) (name : String) : String :=
  line depth s!"/// Build-time constants generated by {programName}." ++
    line depth "#[allow(non_camel_case_types)]" ++
    line depth ("pub enum " ++ spell name ++ " \x7b\x7d") ++
    listLines depth "#[allow("
      ["non_upper_case_globals", "clippy::redundant_static_lifetimes"] "" ")]" ++
    if t.constants.isEmpty then line depth ("impl " ++ spell name ++ " \x7b\x7d")
    else
      line depth ("impl " ++ spell name ++ " \x7b") ++
        String.join (t.constants.map (constantLines (depth + step))) ++
        line depth "\x7d"

/-- The type that holds the constants, inside one module for each segment. -/
def moduleLines (t : Table) (name : String) (depth : Nat) : List String → String
  | [] => containerLines depth t name
  | segment :: inner =>
    line depth "#[allow(non_snake_case)]" ++
      line depth ("pub mod " ++ spell segment ++ " \x7b") ++
      moduleLines t name (depth + step) inner ++
      line depth "\x7d"

/-- The first lines of every artifact in source form. -/
def header : String :=
  s!"// Generated by {programName} v{programVersion}. Do not edit.\n\n"

/-- The text of a table. -/
def text (t : Table) (c : Container) : String :=
  header ++ moduleLines t c.name 0 c.segments

/-- A constant whose name cannot stand where an identifier is needed. -/
def unspeakable (c : Constant) : Bool :=
  c.name ∈ Identifier.reservedNames && c.name ≠ "_"

/-- The text of a table, if all its constants have names that can be written. -/
def render (t : Table) (c : Container) : Except String String :=
  if t.constants.any unspeakable then .error "expected identifier or `_`"
  else .ok (text t c)

end BuildConst.Source
