import BuildConst.Decimal.Signed
import BuildConst.Text.Blank
import BuildConst.Text.LetterCase
import BuildConst.Text.Split
import BuildConst.Value

/-!
# Reading values from texts

The text of a declaration's value is read by its kind.  Blanks around a truth value or an integer
do not matter; in a text and in the items of a list every character counts.

## Main definitions

* `Value.Fault`, `Value.Fault.message` — why a text denotes no value of a kind.
* `Value.readBool`, `Value.readInt`, `Value.readItems` — the readers.
-/

set_option relaxedAutoImplicit false
set_option autoImplicit false

namespace BuildConst.Value

/-- Why a text denotes no value of a kind. -/
inductive Fault where
  | notBool (text : String)
  | notInt (text : String) (reason : Decimal.Fault)
  | roundTrip (text : String) (value : Int32) (canonical : String)
  | emptyArray (text : String)
deriving DecidableEq, Repr

/-- What is wrong with a text that is no 32-bit integer. -/
def describeIntFault : Decimal.Fault → String
  | .empty => "the value is empty"
  | .notDecimal =>
    "the value contains characters other than an optional sign and decimal digits"
  | .tooLarge => "the value is larger than 2147483647"
  | .tooSmall => "the value is smaller than -2147483648"

/-- The text that describes a fault. -/
def Fault.message : Fault → String
  | .notBool text => s!"'{text}' is neither 'true', 'false', nor an integer"
  | .notInt text reason => s!"'{text}' is not a 32-bit integer: " ++ describeIntFault reason
  | .roundTrip text value canonical =>
    s!"'{text}' parsed as " ++ toString value.toInt ++
      s!" but its canonical form '{canonical}' does not parse back to the same value"
  | .emptyArray text => s!"'{text}' is not a valid array"

/-- A truth value, and whether it was written as a number. -/
structure Truth where
  value : Bool
  numeric : Bool
deriving DecidableEq, Repr

/-- The truth value of a text: `true` or `false` in any letter case, or else a 64-bit integer,
which is true unless it is zero. -/
def readBool (text : String) : Except Fault Truth :=
  let word := Text.trim text
  if Text.sameLetters word "true" then .ok ⟨true, false⟩
  else if Text.sameLetters word "false" then .ok ⟨false, false⟩
  else
    match Decimal.read 64 word.toList with
    | .ok n => .ok ⟨n ≠ 0, true⟩
    | .error _ => .error (.notBool text)

/-- The 32-bit integer of a text.  The decimal form of the number has to read back as the same
number. -/
def readInt (text : String) : Except Fault Int32 :=
  match Decimal.read 32 (Text.trim text).toList with
  | .error reason => .error (.notInt text reason)
  | .ok n =>
    let number := Int32.ofInt n
    let canonical := toString n
    match Decimal.read 32 canonical.toList with
    | .ok m => if m = n then .ok number else .error (.roundTrip text number canonical)
    | .error _ => .error (.roundTrip text number canonical)

/-- The items of a text that are separated by semicolons.  Empty items do not count, and there has
to be one that does. -/
def readItems (text : String) : Except Fault (List String) :=
  let items := (Text.pieces ';' text.toList).filter fun piece => !piece.isEmpty
  if items.isEmpty then .error (.emptyArray text)
  else .ok (items.map String.ofList)

end BuildConst.Value
