/-!
# Line breaking classes

Where a line may be broken depends only on the classes of the characters: which of them begin no
line, which end none, and which pairs stay together.

## Main definitions

* `Text.LineClass` — the classes.
* `Text.LineClass.staysWith` — whether two neighbours stay together, as far as the two alone decide.
-/

set_option relaxedAutoImplicit false
set_option autoImplicit false

namespace BuildConst.Text

/-- The classes of characters that the rules for breaking lines tell apart.  The contingent ones
stand for objects that are no text.  The aksara classes are those of the scripts that write a
syllable as one cluster: its consonants, the marks in front of them, the letters that begin a
cluster of their own, and the signs that join a consonant to the next or end the cluster. -/
inductive LineClass where
  | lineEnd
  | carriageReturn
  | lineFeed
  | space
  | zeroWidthSpace
  | wordJoiner
  | glue
  | joiner
  | combining
  | opening
  | wideOpening
  | closing
  | closingParenthesis
  | quotation
  | initialQuotation
  | finalQuotation
  | exclamation
  | separator
  | slash
  | nonstarter
  | ellipsis
  | dash
  | breakAfter
  | breakBefore
  | hyphen
  | contingent
  | digit
  | unitBefore
  | unitAfter
  | letter
  | hebrewLetter
  | dottedCircle
  | prebase
  | aksara
  | aksaraStart
  | virama
  | finalVirama
  | ideograph
  | emojiBase
  | emojiModifier
  | regionalIndicator
  | leadingJamo
  | vowelJamo
  | trailingJamo
  | openSyllable
  | closedSyllable
deriving DecidableEq, Repr

namespace LineClass

/-- The classes of characters that end a line wherever they stand. -/
def lineEnding : List LineClass :=
  [.lineEnd, .carriageReturn, .lineFeed]

/-- The classes of characters that part words: spaces and line ends. -/
def gaps : List LineClass :=
  .space :: .zeroWidthSpace :: lineEnding

/-- The classes of characters that join the one before them. -/
def attaching : List LineClass :=
  [.combining, .joiner]

/-- Opening brackets. -/
def openings : List LineClass :=
  [.opening, .wideOpening]

/-- Quotation marks. -/
def quotations : List LineClass :=
  [.quotation, .initialQuotation, .finalQuotation]

/-- The classes in front of which no line begins, not even after a space. -/
def neverFirst : List LineClass :=
  [.closing, .closingParenthesis, .exclamation, .separator, .slash]

/-- The classes in front of which no line begins without a space. -/
def notFirst : List LineClass :=
  [.breakAfter, .hyphen, .nonstarter, .ellipsis]

/-- The classes behind which an initial quotation mark opens a quotation. -/
def beforeQuotation : List LineClass :=
  gaps ++ openings ++ quotations ++ [.glue]

/-- The classes in front of which a final quotation mark closes a quotation. -/
def behindQuotation : List LineClass :=
  gaps ++ neverFirst ++ quotations ++ [.glue, .wordJoiner]

/-- The classes behind which a line may be broken in front of glue. -/
def looseBeforeGlue : List LineClass :=
  [.space, .breakAfter, .hyphen]

/-- Letters.  The dotted circle, which stands for any consonant, is one. -/
def letters : List LineClass :=
  [.letter, .hebrewLetter, .dottedCircle]

/-- The characters that carry the marks of a syllable. -/
def syllables : List LineClass :=
  [.aksara, .aksaraStart, .dottedCircle]

/-- The characters that a sign joins to the syllable before them. -/
def conjoining : List LineClass :=
  [.aksara, .dottedCircle]

/-- The classes that stay with a pair of dotted circles: a third circle does not, nor do digits and
closing marks.  Such a pair counts as a cluster of its own, and a line may be broken between it and
whatever else comes behind. -/
def heldByCircles : List LineClass :=
  [.letter, .hebrewLetter, .opening, .initialQuotation, .finalVirama]

/-- Ideographs and pictographs. -/
def ideographs : List LineClass :=
  [.ideograph, .emojiBase, .emojiModifier]

/-- The parts of Hangul syllables, and whole syllables. -/
def hangul : List LineClass :=
  [.leadingJamo, .vowelJamo, .trailingJamo, .openSyllable, .closedSyllable]

/-- The signs around a number. -/
def units : List LineClass :=
  [.unitBefore, .unitAfter]

/-- The pairs that stay together: every class on the left with every class on the right.  They hold
words, numbers with their signs, words with their brackets, syllables and pictographs together; a
wide bracket is set like an ideograph and may leave the word before it. -/
def unbrokenPairs : List (List LineClass × List LineClass) :=
  [([.slash], [.hebrewLetter]),
   (letters, .digit :: letters), ([.digit], letters), ([.separator], letters),
   ([.unitBefore], ideographs), (ideographs, [.unitAfter]),
   (units, letters), (letters, units),
   ([.closing, .closingParenthesis, .digit], units), (units, .digit :: openings),
   ([.hyphen, .separator, .slash, .digit], [.digit]),
   ([.leadingJamo], [.leadingJamo, .vowelJamo, .openSyllable, .closedSyllable]),
   ([.vowelJamo, .openSyllable], [.vowelJamo, .trailingJamo]),
   ([.trailingJamo, .closedSyllable], [.trailingJamo]),
   ([.unitBefore], hangul), (hangul, [.unitAfter]),
   (.digit :: letters, [.opening]), ([.closingParenthesis], .digit :: letters),
   ([.prebase], syllables), (syllables, [.virama, .finalVirama]),
   ([.emojiBase], [.emojiModifier])]

/-- Whether two neighbours stay together, as far as the two alone decide. -/
def staysWith (a b : LineClass) : Bool :=
  a == .breakBefore || notFirst.contains b ||
    unbrokenPairs.any fun (left, right) => left.contains a && right.contains b

end LineClass

end BuildConst.Text
