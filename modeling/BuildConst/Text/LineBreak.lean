import BuildConst.Text.ControlSequence
import BuildConst.Text.LineClass.Table

/-!
# Places where a line may be broken

The places inside a line of text where a new line may begin, by the rules of the Unicode line
breaking algorithm.  A text is read from the left; what is known about the part that was read
decides, with the class of the next character and that of the one behind it, whether a line may be
broken in front of the next character.

## Main definitions

* `Text.BreakState` — what is known about the part that was read.
* `Text.BreakState.mayBreak` — whether a line may be broken in front of a character.
* `Text.Glyph` — a character of a line with what the rules ask of it.
* `Text.segments` — a line, cut at every place where it may be broken.

## Main results

* `Text.flatten_segments` — cutting a line loses nothing.
-/

set_option relaxedAutoImplicit false
set_option autoImplicit false

namespace BuildConst.Text

/-- What is known about the part of a line that was read: the classes of the last character, of the
one before it and of the last one that is not a space, whether that one opens a quotation, whether
the last two are a pair of dotted circles, whether a joiner was the last character, and whether an
odd number of regional indicators stand at the end.  No circle belongs to two pairs.  Characters that
join the one before them change none of the classes. -/
structure BreakState where
  earlier : Option LineClass := none
  last : Option LineClass := none
  anchor : Option LineClass := none
  opensQuotation : Bool := false
  afterCircles : Bool := false
  afterJoiner : Bool := false
  oddIndicators : Bool := false
deriving DecidableEq, Repr

namespace BreakState

/-- Whether a character of a class joins the last one: combining characters and joiners do, except
at the beginning of a line and after spaces and line ends. -/
def attaches (s : BreakState) (next : LineClass) : Bool :=
  LineClass.attaching.contains next &&
    s.last.any fun last => !LineClass.gaps.contains last

/-- The class that a character counts for: one that could join another but does not is a letter. -/
def effective (next : LineClass) : LineClass :=
  if LineClass.attaching.contains next then .letter else next

/-- The state behind one more character. -/
def push (s : BreakState) (next : LineClass) : BreakState :=
  if s.attaches next then { s with afterJoiner := next == .joiner }
  else
    let read := effective next
    { earlier := s.last
      last := some read
      anchor := if read == .space then s.anchor else some read
      opensQuotation :=
        if read == .space then s.opensQuotation
        else read == .initialQuotation && s.last.all LineClass.beforeQuotation.contains
      afterCircles := read == .dottedCircle && s.last == some .dottedCircle && !s.afterCircles
      afterJoiner := next == .joiner
      oddIndicators :=
        read == .regionalIndicator && !(s.last == some .regionalIndicator && s.oddIndicators) }

/-- Whether a character of the class `next` stays with the last one that is not a space, although
there may be spaces between the two: a quotation stays with its marks, a word with its brackets and
the signs behind it.  The class `following` is that of the character behind. -/
def holdsAcrossSpaces (s : BreakState) (next : LineClass) (following : Option LineClass) : Bool :=
  next == .wordJoiner || LineClass.neverFirst.contains next ||
    s.anchor.any LineClass.openings.contains || s.opensQuotation ||
    (next == .finalQuotation && following.all LineClass.behindQuotation.contains) ||
    ((s.anchor == some .closing || s.anchor == some .closingParenthesis) && next == .nonstarter) ||
    (s.anchor == some .dash && next == .dash)

/-- Whether two neighbours stay together by the rules that look further than the two: a Hebrew word
goes on behind its hyphen, a syllable behind the sign that joins its consonants, two consonants
stay together if a sign ends their syllable, and regional indicators stand in pairs. -/
def holdsByContext (s : BreakState) (last next : LineClass) (following : Option LineClass) : Bool :=
  (s.earlier == some .hebrewLetter && (last == .hyphen || last == .breakAfter)) ||
    (s.earlier.any LineClass.syllables.contains && last == .virama &&
      LineClass.conjoining.contains next) ||
    (LineClass.syllables.contains last && LineClass.syllables.contains next &&
      following == some .finalVirama) ||
    (last == .regionalIndicator && next == .regionalIndicator && s.oddIndicators)

/-- Whether a line may be broken in front of a character of the class `next` with one of the class
`following` behind it.  The first rule that speaks of the place decides. -/
def mayBreak (s : BreakState) (next : LineClass) (following : Option LineClass) : Bool :=
  match s.last with
  | none => false
  | some last =>
    let read := effective next
    if LineClass.lineEnding.contains last then !(last == .carriageReturn && next == .lineFeed)
    else if LineClass.gaps.contains next then false
    else if s.anchor == some .zeroWidthSpace then true
    else if s.afterJoiner || s.attaches next then false
    else if s.afterCircles then !LineClass.heldByCircles.contains read
    else if last == .wordJoiner || last == .glue then false
    else if read == .glue && !LineClass.looseBeforeGlue.contains last then false
    else if s.holdsAcrossSpaces read following then false
    else if last == .space then true
    else if LineClass.quotations.contains last || LineClass.quotations.contains read then false
    else if last == .contingent || read == .contingent then true
    else !(s.holdsByContext last read following || last.staysWith read)

end BreakState

/-- Whether a character at the end of a line hides the place behind it: hyphens, of which only those
inside compound words end a line, and hyphens that are not shown. -/
def hidesPlace (c : Char) : Bool :=
  c == '-' || c == '\u00ad'

/-- A character of a line with what the rules ask of it: its class, unless it is part of a control
sequence and not shown, and the class of the next shown character behind it, passing over those
that join the one before them. -/
structure Glyph where
  char : Char
  lineClass : Option LineClass
  following : Option LineClass
deriving DecidableEq, Repr

/-- The class that a glyph is to the one before it: its own, unless it is not shown or joins. -/
def Glyph.seenFromLeft (g : Glyph) : Option LineClass :=
  match g.lineClass with
  | none => g.following
  | some lineClass =>
    if LineClass.attaching.contains lineClass then g.following else some lineClass

/-- The glyphs of a line with marks. -/
def glyphs : List (Char × Bool) → List Glyph
  | [] => []
  | (c, isShown) :: rest =>
    let behind := glyphs rest
    { char := c
      lineClass := if isShown then some (LineClass.ofChar c) else none
      following := behind.head?.bind Glyph.seenFromLeft } :: behind

/-- The glyphs of a line have its characters. -/
theorem map_char_glyphs (line : List (Char × Bool)) :
    (glyphs line).map Glyph.char = line.map Prod.fst := by
  induction line with
  | nil => rfl
  | cons entry rest ih => simp [glyphs, ih]

/-- A line of glyphs, cut at every place where it may be broken.  The rules speak of the glyphs
that are shown; a control sequence goes with the one behind it.  The arguments before the line are
what was read: its state, whether its last shown character hides the place behind it, the segment
under way, and the control sequences behind the segment, both from the right. -/
def segmentsFrom (s : BreakState) (hidden : Bool) (segment pending : List Char) :
    List Glyph → List (List Char)
  | [] => [(pending ++ segment).reverse]
  | g :: rest =>
    match g.lineClass with
    | none => segmentsFrom s hidden segment (g.char :: pending) rest
    | some lineClass =>
      let next := s.push lineClass
      if !hidden && s.mayBreak lineClass g.following then
        segment.reverse :: segmentsFrom next (hidesPlace g.char) (g.char :: pending) [] rest
      else segmentsFrom next (hidesPlace g.char) (g.char :: (pending ++ segment)) [] rest

/-- A line, cut at every place where it may be broken. -/
def segments (line : List Char) : List (List Char) :=
  segmentsFrom {} false [] [] (glyphs (marked line))

theorem flatten_segmentsFrom (s : BreakState) (hidden : Bool) (segment pending : List Char)
    (line : List Glyph) :
    (segmentsFrom s hidden segment pending line).flatten =
      (pending ++ segment).reverse ++ line.map Glyph.char := by
  induction line generalizing s hidden segment pending with
  | nil => simp [segmentsFrom]
  | cons g rest ih =>
    simp only [segmentsFrom]
    split
    · simp [ih]
    · split <;> simp [ih]

/-- Cutting a line loses nothing. -/
theorem flatten_segments (line : List Char) : (segments line).flatten = line := by
  simp [segments, flatten_segmentsFrom, map_char_glyphs, map_fst_marked]

end BuildConst.Text
