/-!
# Control sequences in texts

A text may hold control sequences for a terminal: they begin with the escape character, and nothing
of them is shown.

## Main definitions

* `Text.ControlSequence` — how far a control sequence has been read.
* `Text.marked` — the characters of a text, each with the mark whether it is shown.

## Main results

* `Text.map_fst_marked` — marking changes no character.
-/

set_option relaxedAutoImplicit false
set_option autoImplicit false

namespace BuildConst.Text

/-- How far a control sequence has been read. -/
inductive ControlSequence where
  /-- Up to the escape character. -/
  | begun
  /-- Into the parameters of a command, which end with a sign or a letter. -/
  | parameters
  /-- Into the text of a command, which ends with a bell, or with a backslash behind an escape
  character; `escaped` says whether such a character was the last one. -/
  | operand (escaped : Bool)
deriving DecidableEq, Repr

namespace ControlSequence

/-- The character that begins a control sequence. -/
def escapeChar : Char := '\x1b'

/-- The state behind one more character, or none if it was the last one of the sequence. -/
def next? : ControlSequence → Char → Option ControlSequence
  | .begun, c =>
    if c = '[' then some .parameters else if c = ']' then some (.operand false) else none
  | .parameters, c => if '@' ≤ c ∧ c ≤ '~' then none else some .parameters
  | .operand escaped, c =>
    if c = '\x07' ∨ (c = '\\' ∧ escaped) then none else some (.operand (c == escapeChar))

end ControlSequence

/-- The characters of a text with their marks, behind an unfinished control sequence. -/
def markedFrom : Option ControlSequence → List Char → List (Char × Bool)
  | _, [] => []
  | some pending, c :: rest => (c, false) :: markedFrom (pending.next? c) rest
  | none, c :: rest =>
    if c = ControlSequence.escapeChar then (c, false) :: markedFrom (some .begun) rest
    else (c, true) :: markedFrom none rest

/-- The characters of a text, each with the mark whether it is shown: those of control sequences are
not, whether the sequence is finished or not. -/
def marked (cs : List Char) : List (Char × Bool) :=
  markedFrom none cs

theorem map_fst_markedFrom (pending : Option ControlSequence) (cs : List Char) :
    (markedFrom pending cs).map Prod.fst = cs := by
  induction cs generalizing pending with
  | nil => cases pending <;> rfl
  | cons c rest ih =>
    cases pending with
    | some pending => simp [markedFrom, ih]
    | none => by_cases h : c = ControlSequence.escapeChar <;> simp [markedFrom, h, ih]

/-- Marking changes no character. -/
theorem map_fst_marked (cs : List Char) : (marked cs).map Prod.fst = cs :=
  map_fst_markedFrom none cs

/-- The characters of a text that are shown. -/
def shown (cs : List Char) : List Char :=
  (marked cs).filterMap fun (c, isShown) => if isShown then some c else none

end BuildConst.Text
