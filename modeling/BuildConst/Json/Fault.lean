import BuildConst.Json

/-!
# Faults in JSON texts

A fault is what is wrong with a text and where.  The place is kept as the number of bytes that were
left when the fault was noticed, and turned into a line and a column of the whole text in the end.

## Main definitions

* `Json.Problem`, `Json.Problem.message` — what can be wrong.
* `Json.Fault` — a problem and its place.
* `Json.Position` — a line and a column, counted in bytes.
-/

set_option relaxedAutoImplicit false
set_option autoImplicit false

namespace BuildConst.Json

/-- What is wrong with a text. -/
inductive Problem where
  | endInValue
  | endInList
  | endInObject
  | endInString
  | expectedValue
  | expectedWord
  | expectedCommaOrBracket
  | expectedCommaOrBrace
  | expectedColon
  | trailingComma
  | keyNotString
  | invalidNumber
  | numberOutOfRange
  | invalidEscape
  | controlCharacter
  | loneSurrogate
  | unfinishedSurrogate
  | trailingCharacters
  | tooDeep
  | wrongType (found : String)
  | noEntry
deriving DecidableEq, Repr

/-- The classes of problems: the text ends too early, it is no document, or the document is not of
the wanted form. -/
inductive Category where
  | ending
  | grammar
  | data
deriving DecidableEq, Repr

/-- The class of a problem. -/
def Problem.category : Problem → Category
  | .endInValue | .endInList | .endInObject | .endInString => .ending
  | .wrongType _ | .noEntry => .data
  | _ => .grammar

/-- The text that describes a problem. -/
def Problem.message : Problem → String
  | .endInValue => "EOF while parsing a value"
  | .endInList => "EOF while parsing a list"
  | .endInObject => "EOF while parsing an object"
  | .endInString => "EOF while parsing a string"
  | .expectedValue => "expected value"
  | .expectedWord => "expected ident"
  | .expectedCommaOrBracket => "expected `,` or `]`"
  | .expectedCommaOrBrace => "expected `,` or `\x7d`"
  | .expectedColon => "expected `:`"
  | .trailingComma => "trailing comma"
  | .keyNotString => "key must be a string"
  | .invalidNumber => "invalid number"
  | .numberOutOfRange => "number out of range"
  | .invalidEscape => "invalid escape"
  | .controlCharacter =>
    "control character (\\u0000-\\u001F) found while parsing a string"
  | .loneSurrogate => "lone leading surrogate in hex escape"
  | .unfinishedSurrogate => "unexpected end of hex escape"
  | .trailingCharacters => "trailing characters"
  | .tooDeep => "recursion limit exceeded"
  | .wrongType found => s!"invalid type: {found}, expected a sequence"
  | .noEntry => "data did not match any variant of untagged enum FileEntry"

/-- The number of bytes of a text. -/
def byteCount (cs : List Char) : Nat :=
  (cs.map Char.utf8Size).foldr (· + ·) 0

/-- A problem, and the number of bytes that follow the place where it was noticed. -/
structure Fault where
  problem : Problem
  left : Nat
deriving DecidableEq, Repr

/-- A fault in front of the text that is left. -/
def Fault.before (problem : Problem) (rest : List Char) : Fault :=
  ⟨problem, byteCount rest⟩

/-- A fault just after the first byte of the text that is left, or at its end if it is empty. -/
def Fault.inside (problem : Problem) (rest : List Char) : Fault :=
  ⟨problem, byteCount rest - 1⟩

/-- A place in a text: a line, counted from one, and the bytes of that line before the place. -/
structure Position where
  line : Nat
  column : Nat
deriving DecidableEq, Repr

/-- The bytes of a text that matter for positions: whether each of them ends a line. -/
def lineEnds (cs : List Char) : List Bool :=
  cs.flatMap fun c => List.replicate c.utf8Size (c == '\n')

/-- The position after a number of bytes of a text. -/
def Position.after (cs : List Char) (offset : Nat) : Position :=
  let before := (lineEnds cs).take offset
  ⟨1 + before.count true, (before.reverse.takeWhile (!·)).length⟩

/-- A fault with its position in the whole text. -/
structure Error where
  problem : Problem
  position : Position
deriving DecidableEq, Repr

/-- The text that describes an error. -/
def Error.message (e : Error) : String :=
  e.problem.message ++ " at line " ++ toString e.position.line ++ " column " ++
    toString e.position.column

/-- The error for a fault in a text. -/
def Fault.error (text : List Char) (f : Fault) : Error :=
  ⟨f.problem, .after text (byteCount text - f.left)⟩

end BuildConst.Json
