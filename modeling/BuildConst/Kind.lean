import BuildConst.Text.Blank
import BuildConst.Text.LetterCase

/-!
# Kinds of values

A constant has one of four kinds.  Each kind has a name, further spellings under which a
declaration may ask for it, and the type of the accessor that is emitted for it.

## Main definitions

* `Kind`, `Kind.all` — the kinds, in the order in which they are listed to users.
* `Kind.ofHint?` — the kind that a hint asks for.
-/

set_option relaxedAutoImplicit false
set_option autoImplicit false

namespace BuildConst

/-- The kind of a constant's value. -/
inductive Kind where
  | string
  | bool
  | int
  | stringArray
deriving DecidableEq, Repr

namespace Kind

/-- All kinds, in the order in which they are listed to users. -/
def all : List Kind :=
  [string, bool, int, stringArray]

/-- The name of a kind. -/
def name : Kind → String
  | string => "String"
  | bool => "Bool"
  | int => "Int"
  | stringArray => "StringArray"

/-- Further spellings of a kind. -/
def aliases : Kind → List String
  | string => ["str"]
  | bool => ["boolean"]
  | int => ["i32", "integer"]
  | stringArray => ["string[]", "strings", "array"]

/-- The type of an accessor in emitted source. -/
def accessorType : Kind → String
  | string => "&'static str"
  | bool => "bool"
  | int => "i32"
  | stringArray => "&'static [&'static str]"

/-- The kind of a constant whose declaration asks for none. -/
def fallback : Kind :=
  string

/-- Every spelling of a kind. -/
def spellings (k : Kind) : List String :=
  k.name :: k.aliases

/-- The kind that a hint asks for.  Letter case and blanks around the hint do not matter. -/
def ofHint? (hint : String) : Option Kind :=
  all.find? fun k => k.spellings.any fun spelling => Text.sameLetters spelling (Text.trim hint)

/-- The names of all kinds, as they are listed to users. -/
def supported : String :=
  ",".intercalate (all.map name)

end Kind

end BuildConst
