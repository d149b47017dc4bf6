/-!
# Signed decimal numbers of a fixed width

A number is written as one optional sign and at least one digit, and has to fit a signed word of a
given width.  The text is read from left to right and the first position that cannot be part of
such a number decides what is wrong with it: a character that is no digit, or the digit that
carries the value out of range.

## Main definitions

* `Decimal.Fault` — what is wrong with a text.
* `Decimal.read` — the number that a text denotes.
-/

set_option relaxedAutoImplicit false
set_option autoImplicit false

namespace BuildConst.Decimal

/-- Why a text is not a number of the wanted width. -/
inductive Fault where
  | empty
  | notDecimal
  | tooLarge
  | tooSmall
deriving DecidableEq, Repr

/-- The value of a digit. -/
def digitValue (c : Char) : Nat :=
  c.toNat - '0'.toNat

/-- Continue the number `n` with the digits of a text, where no value may exceed `limit`; going
past it is the fault `tooFar`. -/
def magnitude (limit : Nat) (tooFar : Fault) (n : Nat) : List Char → Except Fault Nat
  | [] => .ok n
  | c :: rest =>
    if c.isDigit then
      let next := 10 * n + digitValue c
      if limit < next then .error tooFar else magnitude limit tooFar next rest
    else .error .notDecimal

/-- The number that a text denotes, if it lies from `-2 ^ (width - 1)` to `2 ^ (width - 1) - 1`. -/
def read (width : Nat) (cs : List Char) : Except Fault Int :=
  let bound := Nat.pow 2 (width - 1)
  match cs with
  | [] => .error .empty
  | c :: rest =>
    if c = '+' ∨ c = '-' then
      if rest.isEmpty then .error .notDecimal
      else if c = '+' then (magnitude (bound - 1) .tooLarge 0 rest).map fun n => (n : Int)
      else (magnitude bound .tooSmall 0 rest).map fun n => -(n : Int)
    else (magnitude (bound - 1) .tooLarge 0 (c :: rest)).map fun n => (n : Int)

end BuildConst.Decimal
