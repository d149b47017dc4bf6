import BuildConst.Decimal.Binary64

/-!
# JSON documents

## Main definitions

* `Json.Number`, `Json` — a document.  The members of an object keep their order, and a key may
  occur more than once.
-/

set_option relaxedAutoImplicit false
set_option autoImplicit false

namespace BuildConst

/-- A number of a document: an integer of at most 64 bits, or else a floating point number with its
sign. -/
inductive Json.Number where
  | whole (n : Int)
  | binary (negative : Bool) (magnitude : Binary64)
deriving DecidableEq, Repr

/-- A document. -/
inductive Json where
  | null
  | bool (truth : Bool)
  | number (n : Json.Number)
  | string (text : String)
  | array (items : List Json)
  | object (members : List (String × Json))

namespace Json

/-- The document for a natural number. -/
def ofNat (n : Nat) : Json :=
  .number (.whole n)

/-- The values that an object has for a key, in order. -/
def valuesOf (key : String) (members : List (String × Json)) : List Json :=
  (members.filter fun m => m.1 == key).map Prod.snd

/-- Blank characters between the tokens of a document. -/
def isBlank (c : Char) : Bool :=
  c == ' ' || c == '\n' || c == '\t' || c == '\r'

end Json

end BuildConst
