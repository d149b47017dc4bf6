import BuildConst.Json.Numeral

/-!
# Reading JSON texts

A reader takes a document from the front of a text and returns the rest, or the first fault.  Lists
and objects may be nested up to a given depth.

## Main definitions

* `Json.readString` — a string whose opening quote was read.
* `Json.readItems`, `Json.readMembers` — what stands in brackets and in braces.
* `Json.readValue` — any document.
-/

set_option relaxedAutoImplicit false
set_option autoImplicit false

namespace BuildConst.Json

/-- A text without the blanks at its front. -/
def skipBlanks (cs : List Char) : List Char :=
  cs.dropWhile isBlank

/-- Reads the characters of a word. -/
def readWord : List Char → List Char → Except Fault (List Char)
  | [], cs => .ok cs
  | _ :: _, [] => .error (.before .endInValue [])
  | w :: word, c :: rest =>
    if c = w then readWord word rest else .error (.inside .expectedWord (c :: rest))

/-! ## Strings -/

/-- The value of a hexadecimal digit. -/
def hexDigit? (c : Char) : Option Nat :=
  if c.isDigit then some (c.toNat - '0'.toNat)
  else if 'a' ≤ c ∧ c ≤ 'f' then some (c.toNat - 'a'.toNat + 10)
  else if 'A' ≤ c ∧ c ≤ 'F' then some (c.toNat - 'A'.toNat + 10)
  else none

/-- The number of four hexadecimal digits. -/
def hexNumber? (a b c d : Char) : Option Nat :=
  match hexDigit? a, hexDigit? b, hexDigit? c, hexDigit? d with
  | some w, some x, some y, some z => some (16 * (16 * (16 * w + x) + y) + z)
  | _, _, _, _ => none

/-- The character that a one-letter escape stands for. -/
def simpleEscape? (c : Char) : Option Char :=
  if c = '"' ∨ c = '\\' ∨ c = '/' then some c
  else if c = 'b' then some '\x08'
  else if c = 'f' then some '\x0c'
  else if c = 'n' then some '\n'
  else if c = 'r' then some '\r'
  else if c = 't' then some '\t'
  else none

/-- A number that is the first half of a surrogate pair. -/
def isHighSurrogate (n : Nat) : Bool :=
  0xD800 ≤ n && n ≤ 0xDBFF

/-- A number that is the second half of a surrogate pair. -/
def isLowSurrogate (n : Nat) : Bool :=
  0xDC00 ≤ n && n ≤ 0xDFFF

/-- The character of a surrogate pair. -/
def pairChar (high low : Nat) : Char :=
  Char.ofNat (0x10000 + 1024 * (high - 0xD800) + (low - 0xDC00))

/-- What is wrong where four hexadecimal digits should stand: they are cut short by the end of the
text, or one of them is no digit.  The digits are counted in bytes. -/
def hexFault (cs : List Char) : Fault :=
  if byteCount cs < 4 then ⟨.endInString, 0⟩ else ⟨.invalidEscape, byteCount cs - 4⟩

/-- What is wrong where the second half of a surrogate pair should begin with `expected`. -/
def pairFault (cs : List Char) : Fault :=
  match cs with
  | [] => .before .endInString []
  | _ => .inside .unfinishedSurrogate cs

/-- Put a character in front of a text that was read. -/
def prepend (c : Char) (read : Except Fault (List Char × List Char)) :
    Except Fault (List Char × List Char) :=
  read.map fun (cs, rest) => (c :: cs, rest)

/-- The characters of a string up to its closing quote, and the text after that. -/
def readChars : List Char → Except Fault (List Char × List Char)
  | [] => .error (.before .endInString [])
  | '"' :: rest => .ok ([], rest)
  | '\\' :: 'u' :: a :: b :: c :: d :: rest =>
    match hexNumber? a b c d with
    | none => .error (hexFault (a :: b :: c :: d :: rest))
    | some n =>
      if isLowSurrogate n then .error (.before .loneSurrogate rest)
      else if isHighSurrogate n then
        match rest with
        | '\\' :: 'u' :: a' :: b' :: c' :: d' :: after =>
          match hexNumber? a' b' c' d' with
          | none => .error (hexFault (a' :: b' :: c' :: d' :: after))
          | some m =>
            if isLowSurrogate m then prepend (pairChar n m) (readChars after)
            else .error (.before .loneSurrogate after)
        | '\\' :: 'u' :: short => .error (hexFault short)
        | '\\' :: other => .error (pairFault other)
        | other => .error (pairFault other)
      else prepend (Char.ofNat n) (readChars rest)
  | '\\' :: 'u' :: short => .error (hexFault short)
  | '\\' :: c :: rest =>
    match simpleEscape? c with
    | some e => prepend e (readChars rest)
    | none => .error (.inside .invalidEscape (c :: rest))
  | '\\' :: [] => .error (.before .endInString [])
  | c :: rest =>
    if c.toNat < 0x20 then .error (.inside .controlCharacter (c :: rest))
    else prepend c (readChars rest)

/-- Reads a string whose opening quote was read. -/
def readString (cs : List Char) : Except Fault (String × List Char) :=
  (readChars cs).map fun (text, rest) => (String.ofList text, rest)

/-! ## Lists and objects -/

/-- Reads what follows an item of a list: its end, or a comma and further items.  The fuel bounds
the number of items; the length of the text is always enough. -/
def readMoreItems {α : Type} (item : List Char → Except Fault (α × List Char)) :
    Nat → List Char → Except Fault (List α × List Char)
  | fuel, cs =>
    match skipBlanks cs with
    | [] => .error (.before .endInList [])
    | ']' :: rest => .ok ([], rest)
    | ',' :: rest =>
      match skipBlanks rest with
      | [] => .error (.before .endInValue [])
      | ']' :: after => .error (.inside .trailingComma (']' :: after))
      | next =>
        match fuel with
        | 0 => .error (.inside .expectedCommaOrBracket next)
        | fuel + 1 => do
          let (first, rest) ← item next
          let (others, rest) ← readMoreItems item fuel rest
          .ok (first :: others, rest)
    | other => .error (.inside .expectedCommaOrBracket other)

/-- Reads the items of a list whose opening bracket was read. -/
def readItems {α : Type} (item : List Char → Except Fault (α × List Char)) (cs : List Char) :
    Except Fault (List α × List Char) :=
  match skipBlanks cs with
  | [] => .error (.before .endInList [])
  | ']' :: rest => .ok ([], rest)
  | start => do
    let (first, rest) ← item start
    let (others, rest) ← readMoreItems item rest.length rest
    .ok (first :: others, rest)

/-- Reads a member of an object: a key, a colon and a value. -/
def readMember {α : Type} (value : List Char → Except Fault (α × List Char)) (cs : List Char) :
    Except Fault ((String × α) × List Char) :=
  match cs with
  | '"' :: rest => do
    let (key, rest) ← readString rest
    match skipBlanks rest with
    | [] => .error (.before .endInObject [])
    | ':' :: after => do
      let (v, rest) ← value after
      .ok ((key, v), rest)
    | other => .error (.inside .expectedColon other)
  | _ => .error (.inside .keyNotString cs)

/-- Reads what follows a member of an object: its end, or a comma and further members.  The fuel
bounds the number of members; the length of the text is always enough. -/
def readMoreMembers {α : Type} (value : List Char → Except Fault (α × List Char)) :
    Nat → List Char → Except Fault (List (String × α) × List Char)
  | fuel, cs =>
    match skipBlanks cs with
    | [] => .error (.before .endInObject [])
    | '}' :: rest => .ok ([], rest)
    | ',' :: rest =>
      match skipBlanks rest with
      | [] => .error (.before .endInValue [])
      | '}' :: after => .error (.inside .trailingComma ('}' :: after))
      | next =>
        match fuel with
        | 0 => .error (.inside .expectedCommaOrBrace next)
        | fuel + 1 => do
          let (first, rest) ← readMember value next
          let (others, rest) ← readMoreMembers value fuel rest
          .ok (first :: others, rest)
    | other => .error (.inside .expectedCommaOrBrace other)

/-- Reads the members of an object whose opening brace was read. -/
def readMembers {α : Type} (value : List Char → Except Fault (α × List Char)) (cs : List Char) :
    Except Fault (List (String × α) × List Char) :=
  match skipBlanks cs with
  | [] => .error (.before .endInObject [])
  | '}' :: rest => .ok ([], rest)
  | start => do
    let (first, rest) ← readMember value start
    let (others, rest) ← readMoreMembers value rest.length rest
    .ok (first :: others, rest)

/-! ## Documents -/

/-- The depth of nesting at which reading stops. -/
def depthLimit : Nat := 128

/-- Reads a document in which lists and objects are nested less deeply than a given bound. -/
def readValue : Nat → List Char → Except Fault (Json × List Char)
  | depth, cs =>
    match skipBlanks cs with
    | [] => .error (.before .endInValue [])
    | 'n' :: rest => (readWord ['u', 'l', 'l'] rest).map fun rest => (.null, rest)
    | 't' :: rest => (readWord ['r', 'u', 'e'] rest).map fun rest => (.bool true, rest)
    | 'f' :: rest => (readWord ['a', 'l', 's', 'e'] rest).map fun rest => (.bool false, rest)
    | '-' :: rest => (readNumeral true rest).map fun (n, rest) => (.number n, rest)
    | '"' :: rest => (readString rest).map fun (s, rest) => (.string s, rest)
    | '[' :: rest =>
      match depth with
      | depth + 2 =>
        (readItems (readValue (depth + 1)) rest).map fun (items, rest) => (.array items, rest)
      | _ => .error (.inside .tooDeep ('[' :: rest))
    | '{' :: rest =>
      match depth with
      | depth + 2 =>
        (readMembers (readValue (depth + 1)) rest).map fun (ms, rest) => (.object ms, rest)
      | _ => .error (.inside .tooDeep ('{' :: rest))
    | c :: rest =>
      if c.isDigit then (readNumeral false (c :: rest)).map fun (n, rest) => (.number n, rest)
      else .error (.inside .expectedValue (c :: rest))

/-- The document of a whole text. -/
def read (text : String) : Except Error Json :=
  let cs := text.toList
  match readValue depthLimit cs with
  | .error fault => .error (fault.error cs)
  | .ok (value, rest) =>
    match skipBlanks rest with
    | [] => .ok value
    | other => .error ((Fault.inside .trailingCharacters other).error cs)

end BuildConst.Json
