import BuildConst.Text.Alphanumeric
import BuildConst.Text.Columns
import BuildConst.Text.LineBreak
import BuildConst.Text.Split

/-!
# Wrapping texts

A text is laid out in lines of a given width.  Each line takes as many words as fit; a word that is
wider than a whole line is cut.  The first line and the later ones begin with indentations of their
own, which count towards the width.

## Main definitions

* `Text.words` — the parts of a line that stay together.
* `Text.Word.compounds` — the parts of a word between its inner hyphens.
* `Text.fill` — a text laid out in lines.
-/

set_option relaxedAutoImplicit false
set_option autoImplicit false

namespace BuildConst.Text

/-- A part of a line that stays together, and the number of spaces after it. -/
structure Word where
  text : List Char
  spaces : Nat
deriving DecidableEq, Repr

/-- The word that a segment of a line holds. -/
def Word.ofSegment (segment : List Char) : Word :=
  let spaces := (segment.reverse.takeWhile (· == ' ')).length
  { text := segment.take (segment.length - spaces), spaces }

/-- A list with its last two members joined. -/
def joinLast : List (List Char) → List (List Char)
  | [] => []
  | [segment] => [segment]
  | [segment, last] => [segment ++ last]
  | segment :: rest => segment :: joinLast rest

/-- The words of a line.  The end of the line is one of the places where it may be broken, and the
last of these places is never used; so where the end is hidden, the last two segments stay
together. -/
def words (line : List Char) : List Word :=
  let parts := segments line
  (if (shown line).getLast?.any hidesPlace then joinLast parts else parts).map Word.ofSegment

/-- A text, cut behind every hyphen with a letter or number on either side.  The piece under way is
kept from the right. -/
def compoundsFrom (piece : List Char) : List Char → List (List Char)
  | [] => [piece.reverse]
  | c :: rest =>
    if c = '-' ∧ piece.head?.any Alphanumeric.chars.contains ∧
        rest.head?.any Alphanumeric.chars.contains then
      (c :: piece).reverse :: compoundsFrom [] rest
    else compoundsFrom (c :: piece) rest

/-- The words that pieces of a word make: the spaces stay behind the last one. -/
def Word.ofPieces (spaces : Nat) : List (List Char) → List Word
  | [] => []
  | [piece] => [⟨piece, spaces⟩]
  | piece :: rest => ⟨piece, 0⟩ :: Word.ofPieces spaces rest

/-- The parts of a word between its inner hyphens. -/
def Word.compounds (word : Word) : List Word :=
  Word.ofPieces word.spaces (compoundsFrom [] word.text)

/-- A text with marks, cut into pieces that are no wider than a line.  A piece ends in front of the
first shown character that does not fit; `used` is the width of the piece under way, which is kept
from the right. -/
def cutFrom (room : Nat) (piece : List Char) (used : Nat) : List (Char × Bool) → List (List Char)
  | [] => [piece.reverse]
  | (c, isShown) :: rest =>
    let width := if isShown then columnsOf c else 0
    if isShown ∧ used ≠ 0 ∧ room < used + width then
      piece.reverse :: cutFrom room [c] width rest
    else cutFrom room (c :: piece) (used + width) rest

/-- A word, cut if it is wider than a line. -/
def Word.cut (room : Nat) (word : Word) : List Word :=
  if room < columns word.text then
    Word.ofPieces word.spaces (cutFrom room [] 0 (marked word.text))
  else [word]

/-- Fill lines with words.  The current line is kept with its width and the spaces at its end. -/
def fillFrom (room : Nat) (line : List Char) (used spaces : Nat) : List Word → List (List Char)
  | [] => [line]
  | word :: rest =>
    if room < used + spaces + columns word.text then
      line :: fillFrom room word.text (columns word.text) word.spaces rest
    else
      fillFrom room (line ++ List.replicate spaces ' ' ++ word.text)
        (used + spaces + columns word.text) word.spaces rest

/-- The lines of a text without line breaks. -/
def fillLine (room : Nat) (line : List Char) : List (List Char) :=
  fillFrom room [] 0 0 (((words line).flatMap Word.compounds).flatMap (Word.cut room))

/-- A text in lines of a width, where each line break of the text begins a new line.  The
indentations have the same width. -/
def fill (width : Nat) (first later : String) (text : String) : String :=
  let room := width - columns first.toList
  let lines := (pieces '\n' text.toList).flatMap (fillLine room)
  match lines with
  | [] => first
  | line :: rest =>
    first ++ String.ofList line ++
      String.join (rest.map fun line => "\n" ++ later ++ String.ofList line)

end BuildConst.Text
