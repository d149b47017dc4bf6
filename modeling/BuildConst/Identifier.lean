/-!
# Identifiers

A name is a letter or an underscore followed by letters, digits and underscores, where letters and
digits are those of ASCII.  A few such spellings cannot name an item of the emitted source at all;
others are its keywords and can, when they are written in raw form.

## Main definitions

* `Identifier.fault?` — what is wrong with a name, if anything.
* `Identifier.needsRaw` — the names that are written in raw form.
-/

set_option relaxedAutoImplicit false
set_option autoImplicit false

namespace BuildConst.Identifier

/-- Why a text is no name. -/
inductive Fault where
  | malformed
  | reserved
deriving DecidableEq, Repr

/-- The text that describes a fault. -/
def Fault.message : Fault → String
  | .malformed =>
    "allowed identifiers begin with a letter or an underscore, and contain only letters, " ++
      "digits, and underscores"
  | .reserved => "the name is reserved and cannot be used as an item name"

/-- A character that may begin a name. -/
def isInitial (c : Char) : Bool :=
  c.isAlpha || c == '_'

/-- A character that may follow the first one of a name. -/
def isSubsequent (c : Char) : Bool :=
  c.isAlphanum || c == '_'

/-- A text of the form of a name. -/
def wellFormed (name : String) : Bool :=
  match name.toList with
  | [] => false
  | c :: rest => isInitial c && rest.all isSubsequent

/-- The keywords of the emitted source, in the order in which they are listed to users. -/
def keywords : List String :=
  ["as", "break", "const", "continue", "crate", "else", "enum", "extern", "false", "fn", "for",
   "if", "impl", "in", "let", "loop", "match", "mod", "move", "mut", "pub", "ref", "return",
   "static", "struct", "super", "trait", "true", "type", "unsafe", "use", "where", "while",
   "async", "await", "dyn", "abstract", "become", "box", "do", "final", "macro", "override",
   "priv", "typeof", "unsized", "virtual", "yield", "try", "gen"]

/-- The well-formed names that cannot name an item, not even in raw form. -/
def reservedNames : List String :=
  ["_", "self", "Self", "super", "crate"]

/-- What is wrong with a name.  Its form is looked at first. -/
def fault? (name : String) : Option Fault :=
  if !wellFormed name then some .malformed
  else if name ∈ reservedNames then some .reserved
  else none

/-- A name that an item may have. -/
def isValid (name : String) : Bool :=
  (fault? name).isNone

/-- A keyword of the emitted source. -/
def isKeyword (name : String) : Bool :=
  name ∈ keywords

/-- A keyword that can name an item when it is written in raw form. -/
def needsRaw (name : String) : Bool :=
  isKeyword name && name ∉ reservedNames

end BuildConst.Identifier
