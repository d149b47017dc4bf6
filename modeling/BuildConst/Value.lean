import BuildConst.Kind
import BuildConst.Text.Quoted

/-!
# Values

A value is a text, a truth value, a 32-bit integer or a list of texts.  Its rendered form is the
literal by which messages show it and by which two definitions of one name are compared.

## Main definitions

* `Value`, `Value.kind` — a value and its kind.
* `Value.rendered` — its literal.
-/

set_option relaxedAutoImplicit false
set_option autoImplicit false

namespace BuildConst

/-- The value of a constant. -/
inductive Value where
  | string (text : String)
  | bool (truth : Bool)
  | int (number : Int32)
  | stringArray (items : List String)
deriving DecidableEq, Repr

namespace Value

/-- The kind of a value. -/
def kind : Value → Kind
  | string _ => .string
  | bool _ => .bool
  | int _ => .int
  | stringArray _ => .stringArray

/-- The literal of a value: texts are quoted, and lists stand in brackets. -/
def rendered : Value → String
  | string text => Text.quote text
  | bool truth => if truth then "true" else "false"
  | int number => toString number.toInt
  | stringArray items => "[" ++ ", ".intercalate (items.map Text.quote) ++ "]"

end Value

end BuildConst
