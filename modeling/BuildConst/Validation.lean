import BuildConst.Declaration
import BuildConst.Identifier
import BuildConst.Table
import BuildConst.Value.Reading

/-!
# Validation of declarations

A declaration is checked in a fixed order.  A blank one is skipped.  Otherwise its text is split at
the first equals sign; the name must not be blank and has to be an identifier that can name a
constant; the hint is resolved to a kind; and the value is read by that kind.  The first check that
fails is reported, and no later one takes place.

## Main definitions

* `Verdict` — the constant that a declaration denotes, if any, and what was found on the way.
* `Declaration.validate` — the verdict on a declaration.
-/

set_option relaxedAutoImplicit false
set_option autoImplicit false

namespace BuildConst

/-- The outcome of checking a declaration. -/
structure Verdict where
  constant : Option Constant
  remarks : List Diagnostic
deriving DecidableEq, Repr

/-- The kind that a hint for a constant asks for.  Without a hint, or with a blank one, a constant
is a string; the same holds of an unknown hint, which is reported. -/
def Kind.resolve (name : String) (hint : Option String) : Kind × List Diagnostic :=
  match hint with
  | none => (.fallback, [])
  | some h =>
    if Text.allBlank h then (.fallback, [])
    else
      match Kind.ofHint? h with
      | some k => (k, [])
      | none => (.fallback, [.unsupportedKind name (Text.trim h)])

/-- The diagnostic for a value text of a constant that cannot be read. -/
def Value.Fault.diagnostic (name value : String) : Value.Fault → Diagnostic
  | .notBool _ => .notBool name value
  | .notInt _ reason => .notInt name value (Value.describeIntFault reason)
  | .roundTrip _ _ canonical => .intRoundTrip name value canonical
  | .emptyArray _ => .emptyArray name value

/-- The value of a constant, read from its text by its kind, with the remarks on it. -/
def Value.read (name text : String) : Kind → Except Value.Fault (Value × List Diagnostic)
  | .string => .ok (.string text, [])
  | .bool =>
    (Value.readBool text).map fun b =>
      (.bool b.value, if b.numeric then [.numericBool name text b.value] else [])
  | .int => (Value.readInt text).map fun n => (.int n, [])
  | .stringArray => (Value.readItems text).map fun items => (.stringArray items, [])

namespace Declaration

/-- The verdict on a declaration. -/
def validate (d : Declaration) : Verdict :=
  if Text.allBlank d.text then ⟨none, []⟩
  else
    let (name, text) := d.split
    if Text.allBlank name then ⟨none, [.illegalPair d.text]⟩
    else
      match Identifier.fault? name with
      | some .malformed => ⟨none, [.invalidIdentifier name d.text]⟩
      | some .reserved => ⟨none, [.reservedIdentifier name d.text]⟩
      | none =>
        let (kind, remarks) := Kind.resolve name d.hint
        match Value.read name text kind with
        | .ok (value, more) => ⟨some ⟨name, value⟩, remarks ++ more⟩
        | .error fault => ⟨none, remarks ++ [fault.diagnostic name text]⟩

end Declaration

end BuildConst
