import BuildConst.Diagnostic
import BuildConst.Kind

/-!
# The catalog of diagnostics

Every problem that can be recorded, with the wording of its message.  Names and values are shown
as they were given, between single quotes.

## Main definitions

* One definition for each problem, named for what was found.
-/

set_option relaxedAutoImplicit false
set_option autoImplicit false

namespace BuildConst.Diagnostic

/-- The rule for identifiers, as it is stated in messages. -/
def identifierRule : String :=
  "Allowed identifiers begin with a letter or an underscore, and contain only letters, digits, " ++
    "and underscores"

/-- A declaration whose name is blank. -/
def illegalPair (text : String) : Diagnostic where
  severity := .error
  message := s!"Illegal key-value pair '{text}'"
  declaration := some text
  hints := ["Declarations have the form KEY=VALUE"]

/-- A declaration whose name is no identifier. -/
def invalidIdentifier (name text : String) : Diagnostic where
  severity := .error
  message := s!"'{name}' is not a valid identifier. " ++ identifierRule
  declaration := some text

/-- A declaration whose name cannot name a constant. -/
def reservedIdentifier (name text : String) : Diagnostic where
  severity := .error
  message := s!"'{name}' is reserved and cannot be used as a constant name"
  declaration := some text
  hints := ["Choose a different name, e.g. add a prefix or suffix"]

/-- A hint at a kind that does not exist. -/
def unsupportedKind (name hint : String) : Diagnostic where
  severity := .warning
  message :=
    s!"Constant '{name}' has unsupported type '{hint}'. Supported types are: " ++ Kind.supported
  notes := ["The constant is treated as String"]

/-- A value that is no truth value. -/
def notBool (name value : String) : Diagnostic where
  severity := .error
  message :=
    s!"Can't use '{value}' as a boolean value as specified by the type of constant '{name}'"
  hints := ["Accepted values are 'true', 'false', or any integer"]

/-- A truth value that was written as a number. -/
def numericBool (name value : String) (truth : Bool) : Diagnostic where
  severity := .warning
  message :=
    s!"Numeric value '{value}' of constant '{name}' was interpreted as boolean '" ++
      (if truth then "true" else "false") ++ "'"
  notes := ["Nonzero integers are true, zero is false"]

/-- A value that is no integer. -/
def notInt (name value reason : String) : Diagnostic where
  severity := .error
  message :=
    s!"Can't use '{value}' as an integer value as specified by the type of constant '{name}'"
  notes := [reason]

/-- An integer whose canonical form does not read back. -/
def intRoundTrip (name value canonical : String) : Diagnostic where
  severity := .error
  message :=
    s!"Integer value '{value}' of constant '{name}' does not survive a round trip through its " ++
      s!"canonical form '{canonical}'"

/-- A list value without items. -/
def emptyArray (name value : String) : Diagnostic where
  severity := .error
  message := s!"Value '{value}' of constant '{name}' is not a valid array"
  hints := ["Separate elements with ';', e.g. a;b;c"]

/-- A second definition of a name with another value. -/
def duplicate (name kept ignored : String) : Diagnostic where
  severity := .warning
  message :=
    s!"Constant '{name}' was already defined. Existing value is '{kept}'. " ++
      s!"New value is '{ignored}'. Ignoring the new value"

/-- A part of the container's name that is no identifier. -/
def invalidContainer (part name : String) : Diagnostic where
  severity := .error
  message := s!"{part} '{name}' is not a valid identifier. " ++ identifierRule

/-- A part of the container's name that cannot name an item. -/
def reservedContainer (part name : String) : Diagnostic where
  severity := .error
  message := s!"{part} '{name}' is reserved and cannot be used as an item name"
  hints := ["Choose a different name, e.g. add a prefix or suffix"]

/-- An artifact that could not be written. -/
def emissionFailed (reason : String) : Diagnostic where
  severity := .error
  message := s!"Failed to write constants artifact: {reason}"

end BuildConst.Diagnostic
