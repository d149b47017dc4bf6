import Mathlib.Data.List.Basic

/-!
# Tokens of source text

A reader for the words of source text that knows the lexical rules of the language and nothing of
the layout in which artifacts are written.  It goes through the characters one at a time.  Blanks
and comments separate tokens and are dropped; a word, a number or a lifetime goes on as long as it
can; escapes in string literals stand for the characters that they name.  Whatever the rules do not
allow is refused.

## Main definitions

* `Token` — words, raw identifiers, lifetimes, numbers, string literals and signs.
* `Lexer` — what the reader is in the middle of.
* `Lexer.step`, `Lexer.run` — one character, and a list of characters.
* `Lexer.Reads` — a text is read into complete tokens.
* `tokens?` — the tokens of a text.

## Main results

* `Lexer.run_append` — a text is read part by part.
-/

set_option relaxedAutoImplicit false
set_option autoImplicit false

namespace BuildConst

/-- A token of source text. -/
inductive Token where
  | word (name : String)
  | raw (name : String)
  | lifetime (name : String)
  | number (value : Nat)
  | text (value : String)
  | sign (c : Char)
deriving DecidableEq, Repr

namespace Token

/-- A character that separates tokens. -/
def isSpace (c : Char) : Bool :=
  c ∈ ['\t', '\n', '\x0b', '\x0c', '\r', ' ', '\u0085', '\u200e', '\u200f', '\u2028', '\u2029']

/-- A character that may begin a word. -/
def beginsWord (c : Char) : Bool :=
  c.isAlpha || c == '_'

/-- A character that may go on a word. -/
def continuesWord (c : Char) : Bool :=
  c.isAlphanum || c == '_'

/-- A character that ends a word.  Right behind a word, a quote or a number sign would make it the
head of a literal of another form. -/
def endsWord (c : Char) : Bool :=
  !continuesWord c && c ∉ ['"', '\'', '#']

/-- A character that is a token of its own. -/
def isSign (c : Char) : Bool :=
  c ∈ ['!', '#', '$', '%', '&', '(', ')', '*', '+', ',', '-', '.', ':', ';', '<', '=', '>', '?',
    '@', '[', ']', '^', '{', '|', '}', '~']

/-- The value of a decimal digit. -/
def decimalDigit? (c : Char) : Option Nat :=
  if c.isDigit then some (c.toNat - '0'.toNat) else none

/-- The value of a hexadecimal digit. -/
def hexDigit? (c : Char) : Option Nat :=
  if c.isDigit then some (c.toNat - '0'.toNat)
  else if 'a' ≤ c ∧ c ≤ 'f' then some (c.toNat - 'a'.toNat + 10)
  else if 'A' ≤ c ∧ c ≤ 'F' then some (c.toNat - 'A'.toNat + 10)
  else none

/-- The character that a letter or sign behind a backslash stands for. -/
def escaped? (c : Char) : Option Char :=
  if c = '0' then some '\x00'
  else if c = 't' then some '\t'
  else if c = 'n' then some '\n'
  else if c = 'r' then some '\r'
  else if c = '"' then some '"'
  else if c = '\\' then some '\\'
  else none

end Token

/-- What a reader of source text is in the middle of.  Words and texts are held with the last
character first. -/
inductive Lexer where
  | between
  | slash
  | lineComment
  | blockComment (depth : Nat)
  | blockSlash (depth : Nat)
  | blockStar (depth : Nat)
  | word (name : List Char)
  | rawMark
  | raw (name : List Char)
  | lifetime (name : List Char)
  | number (value : Nat)
  | text (chars : List Char)
  | escape (chars : List Char)
  | byteHigh (chars : List Char)
  | byteLow (chars : List Char) (high : Nat)
  | scalarMark (chars : List Char)
  | scalar (chars : List Char) (digits value : Nat)
deriving DecidableEq, Repr

namespace Lexer

open Token

/-- The tokens that were completed, and what the reader is in the middle of then. -/
abbrev Progress : Type :=
  Option (List Token × Lexer)

/-- One more token in front. -/
def Progress.after (t : Token) (p : Progress) : Progress :=
  p.map fun (ts, s) => (t :: ts, s)

/-- A character that stands between tokens. -/
def start (c : Char) : Progress :=
  if beginsWord c then some ([], word [c])
  else if isSpace c then some ([], between)
  else if c = '/' then some ([], slash)
  else if c = '"' then some ([], text [])
  else if c = '\'' then some ([], lifetime [])
  else if isSign c then some ([.sign c], between)
  else (decimalDigit? c).map fun d => ([], number d)

/-- The token of a word, raw identifier or lifetime that was read, if the next character ends it. -/
def close (kind : String → Token) (name : List Char) (c : Char) : Progress :=
  if endsWord c then (start c).after (kind (String.ofList name.reverse)) else none

/-- The reader after one more character. -/
def step : Lexer → Char → Progress
  | between, c => start c
  | slash, c =>
    if c = '/' then some ([], lineComment)
    else if c = '*' then some ([], blockComment 0)
    else (start c).after (.sign '/')
  | lineComment, c => some ([], if c = '\n' then between else lineComment)
  | blockComment depth, c =>
    some ([], if c = '/' then blockSlash depth else if c = '*' then blockStar depth
      else blockComment depth)
  | blockSlash depth, c =>
    some ([], if c = '*' then blockComment (depth + 1) else if c = '/' then blockSlash depth
      else blockComment depth)
  | blockStar depth, c =>
    some ([], if c = '/' then (if depth = 0 then between else blockComment (depth - 1))
      else if c = '*' then blockStar depth else blockComment depth)
  | word name, c =>
    if continuesWord c then some ([], word (c :: name))
    else if name = ['r'] ∧ c = '#' then some ([], rawMark)
    else close .word name c
  | rawMark, c => if beginsWord c then some ([], raw [c]) else none
  | raw name, c => if continuesWord c then some ([], raw (c :: name)) else close .raw name c
  | lifetime [], c => if beginsWord c then some ([], lifetime [c]) else none
  | lifetime name, c =>
    if continuesWord c then some ([], lifetime (c :: name)) else close .lifetime name c
  | number n, c =>
    match decimalDigit? c with
    | some d => some ([], number (10 * n + d))
    | none => if endsWord c ∧ c ≠ '.' then (start c).after (.number n) else none
  | text chars, c =>
    if c = '"' then some ([.text (String.ofList chars.reverse)], between)
    else if c = '\\' then some ([], escape chars)
    else if c = '\r' then none
    else some ([], text (c :: chars))
  | escape chars, c =>
    if c = 'x' then some ([], byteHigh chars)
    else if c = 'u' then some ([], scalarMark chars)
    else (escaped? c).map fun d => ([], text (d :: chars))
  | byteHigh chars, c =>
    match hexDigit? c with
    | some d => if d < 8 then some ([], byteLow chars d) else none
    | none => none
  | byteLow chars high, c =>
    (hexDigit? c).map fun d => ([], text (Char.ofNat (16 * high + d) :: chars))
  | scalarMark chars, c => if c = '{' then some ([], scalar chars 0 0) else none
  | scalar chars digits n, c =>
    if c = '}' then
      if digits ≠ 0 ∧ n.isValidChar then some ([], text (Char.ofNat n :: chars)) else none
    else if digits < 6 then (hexDigit? c).map fun d => ([], scalar chars (digits + 1) (16 * n + d))
    else none

/-- The reader after a list of characters, with the tokens that were completed on the way. -/
def run (s : Lexer) : List Char → Progress
  | [] => some ([], s)
  | c :: rest => do
    let (first, next) ← s.step c
    let (others, last) ← run next rest
    some (first ++ others, last)

/-- The token that the end of a text completes.  A text must not end inside a literal or a block
comment. -/
def finish : Lexer → Option (List Token)
  | between => some []
  | slash => some [.sign '/']
  | lineComment => some []
  | word name => some [.word (String.ofList name.reverse)]
  | raw name => some [.raw (String.ofList name.reverse)]
  | lifetime (c :: name) => some [.lifetime (String.ofList (c :: name).reverse)]
  | number n => some [.number n]
  | _ => none

end Lexer

/-- The tokens of a text. -/
def tokens? (s : String) : Option (List Token) := do
  let (ts, last) ← Lexer.between.run s.toList
  let more ← last.finish
  some (ts ++ more)

namespace Lexer

/-! ## Reading part by part -/

variable {s s' s'' : Lexer} {c : Char} {cs ds : List Char} {ts us : List Token}

/-- A text is read from its first character on. -/
theorem run_cons (h : s.step c = some (ts, s')) (h' : s'.run cs = some (us, s'')) :
    s.run (c :: cs) = some (ts ++ us, s'') := by
  simp only [run, h, h', Option.bind_eq_bind, Option.bind_some]

/-- A text of one character is read in one step. -/
theorem run_singleton (h : s.step c = some (ts, s')) : s.run [c] = some (ts, s') := by
  simp [run, h]

/-- A character that completes no token is taken in. -/
theorem run_cons_of_silent (h : s.step c = some ([], s')) : s.run (c :: cs) = s'.run cs := by
  cases hrun : s'.run cs with
  | none => simp [run, h, hrun]
  | some p => simpa using run_cons h hrun

/-- What was read of a nonempty text was read of its first character and of the others. -/
theorem run_cons_inv (h : s.run (c :: cs) = some (ts, s'')) :
    ∃ first next others,
      s.step c = some (first, next) ∧ next.run cs = some (others, s'') ∧ ts = first ++ others := by
  simp only [run, Option.bind_eq_bind, Option.bind_eq_some_iff, Prod.exists, Option.some.injEq,
    Prod.mk.injEq] at h
  obtain ⟨first, next, hstep, others, last, hrun, rfl, rfl⟩ := h
  exact ⟨first, next, others, hstep, hrun, rfl⟩

/-- A text is read part by part. -/
theorem run_append (h : s.run cs = some (ts, s')) (h' : s'.run ds = some (us, s'')) :
    s.run (cs ++ ds) = some (ts ++ us, s'') := by
  induction cs generalizing s ts with
  | nil =>
    simp only [run, Option.some.injEq, Prod.mk.injEq] at h
    obtain ⟨rfl, rfl⟩ := h
    exact h'
  | cons c cs ih =>
    obtain ⟨first, next, others, hstep, hrun, rfl⟩ := run_cons_inv h
    rw [List.append_assoc]
    exact run_cons hstep (ih hrun)

/-- A text that completes no token may be followed by another one. -/
theorem run_append_of_silent (h : s.run cs = some ([], s')) (h' : s'.run ds = some (us, s'')) :
    s.run (cs ++ ds) = some (us, s'') := by
  simpa using run_append h h'

/-- A text is read into complete tokens. -/
def Reads (cs : List Char) (ts : List Token) : Prop :=
  between.run cs = some (ts, between)

instance (cs : List Char) (ts : List Token) : Decidable (Reads cs ts) :=
  inferInstanceAs (Decidable (_ = _))

/-- Nothing is read into no tokens. -/
theorem Reads.nil : Reads [] [] :=
  rfl

/-- Texts that are read into complete tokens are read one after the other. -/
theorem Reads.append (h : Reads cs ts) (h' : Reads ds us) : Reads (cs ++ ds) (ts ++ us) :=
  run_append h h'

/-- Strings that are read into complete tokens are read one after the other. -/
theorem Reads.append_toList {a b : String} (h : Reads a.toList ts) (h' : Reads b.toList us) :
    Reads (a ++ b).toList (ts ++ us) := by
  rw [String.toList_append]
  exact h.append h'

end Lexer

/-- The tokens of a text that is read into complete tokens. -/
theorem tokens?_of_reads {s : String} {ts : List Token} (h : Lexer.Reads s.toList ts) :
    tokens? s = some ts := by
  have h' : Lexer.between.run s.toList = some (ts, .between) := h
  simp [tokens?, h', Lexer.finish]

end BuildConst
