import Mathlib.Algebra.Group.Nat.Defs
import BuildConst.Container
import BuildConst.Table
import BuildConst.Proofs.Token

/-!
# Reading source text

What the source text of an artifact says, by the grammar of the language: modules inside one
another, then a type without values, and the constants that belong to it.  The reader knows nothing
of the layout that artifacts are given.  It accepts a comma behind the last item of a list or none,
names in raw form or not, and attributes and comments anywhere.

## Main definitions

* `Listing` — the modules, the type, and the constants with their kinds and values.
* `Listing.read?` — what a text says.
* `Listing.of` — what the text of a table should say.
-/

set_option relaxedAutoImplicit false
set_option autoImplicit false

namespace BuildConst

/-- A constant as source text declares it: its name, the kind of its type, and its value. -/
structure Listing.Entry where
  name : String
  kind : Kind
  value : Value
deriving DecidableEq, Repr

/-- What source text declares: the modules from the outside in, the type inside them, and the
constants of that type. -/
structure Listing where
  segments : List String
  name : String
  entries : List Listing.Entry
deriving DecidableEq, Repr

/-- A constant, as source text should declare it. -/
def Constant.entry (c : Constant) : Listing.Entry :=
  ⟨c.name, c.value.kind, c.value⟩

namespace Listing

/-- What the source text of constants in a container should declare. -/
def of (c : Container) (constants : List Constant) : Listing :=
  ⟨c.segments, c.name, constants.map Constant.entry⟩

/-! ## Attributes -/

/-- The tokens outside attributes, where `depth` brackets of an attribute are open if one was
begun. -/
def withoutAttributes (depth : Option Nat) : List Token → Option (List Token)
  | [] => if depth.isNone then some [] else none
  | t :: rest =>
    match depth with
    | none =>
      if t = .sign '#' then withoutAttributes (some 0) rest
      else (withoutAttributes none rest).map (t :: ·)
    | some d =>
      if t = .sign '[' then withoutAttributes (some (d + 1)) rest
      else if d = 0 then none
      else if t = .sign ']' then withoutAttributes (if d = 1 then none else some (d - 1)) rest
      else withoutAttributes (some d) rest

/-! ## Grammar -/

/-- The words that are no names unless they are written in raw form. -/
def keywords : List String :=
  ["Self", "_", "abstract", "as", "async", "await", "become", "box", "break", "const", "continue",
   "crate", "do", "dyn", "else", "enum", "extern", "false", "final", "fn", "for", "gen", "if",
   "impl", "in", "let", "loop", "macro", "match", "mod", "move", "mut", "override", "priv", "pub",
   "ref", "return", "self", "static", "struct", "super", "trait", "true", "try", "type", "typeof",
   "unsafe", "unsized", "use", "virtual", "where", "while", "yield"]

/-- The words that are no names in raw form either. -/
def neverNames : List String :=
  ["Self", "_", "crate", "self", "super"]

/-- The rest of the tokens behind the ones that are expected. -/
def skip : List Token → List Token → Option (List Token)
  | [], ts => some ts
  | t :: expected, u :: rest => if t = u then skip expected rest else none
  | _ :: _, [] => none

/-- The name of a token. -/
def nameOf? : Token → Option String
  | .word name => if name ∈ keywords then none else some name
  | .raw name => if name ∈ neverNames then none else some name
  | _ => none

/-- A name. -/
def name? : List Token → Option (String × List Token)
  | [] => none
  | t :: rest => (nameOf? t).map (·, rest)

/-- The type of the constants of a kind. -/
def typeTokens : Kind → List Token
  | .string => [.sign '&', .lifetime "static", .word "str"]
  | .bool => [.word "bool"]
  | .int => [.word "i32"]
  | .stringArray =>
    [.sign '&', .lifetime "static", .sign '[', .sign '&', .lifetime "static", .word "str",
      .sign ']']

/-- A type, by the kind that it belongs to. -/
def type? (ts : List Token) : Option (Kind × List Token) :=
  Kind.all.findSome? fun k => (skip (typeTokens k) ts).map (k, ·)

/-- The items of a list, with commas between them and possibly behind the last one. -/
def items : List Token → List String × List Token
  | [.text s] => ([s], [])
  | .text s :: t :: rest =>
    if t = .sign ',' then
      let (more, last) := items rest
      (s :: more, last)
    else ([s], t :: rest)
  | ts => ([], ts)

/-- A value. -/
def value? : List Token → Option (Value × List Token)
  | .text s :: rest => some (.string s, rest)
  | .word w :: rest =>
    if w = "true" then some (.bool true, rest)
    else if w = "false" then some (.bool false, rest)
    else none
  | .number n :: rest => if n < 2 ^ 31 then some (.int (Int32.ofInt n), rest) else none
  | .sign c :: .number n :: rest =>
    if c = '-' ∧ n ≤ 2 ^ 31 then some (.int (Int32.ofInt (-n)), rest) else none
  | ts => do
    let (found, rest) := items (← skip [.sign '&', .sign '['] ts)
    some (.stringArray found, ← skip [.sign ']'] rest)

/-- A constant. -/
def constant? (ts : List Token) : Option (Entry × List Token) := do
  let (name, ts) ← name? (← skip [.word "pub", .word "const"] ts)
  let (kind, ts) ← type? (← skip [.sign ':'] ts)
  let (value, ts) ← value? (← skip [.sign '='] ts)
  some (⟨name, kind, value⟩, ← skip [.sign ';'] ts)

/-- As many constants as there are. -/
def constants (ts : List Token) : List Entry × List Token :=
  match constant? ts with
  | none => ([], ts)
  | some (entry, rest) =>
    if rest.length < ts.length then
      let (more, last) := constants rest
      (entry :: more, last)
    else ([], ts)
termination_by ts.length

/-- A type without values, and the constants that belong to it. -/
def container? (ts : List Token) : Option (Listing × List Token) := do
  let (name, ts) ← name? (← skip [.word "pub", .word "enum"] ts)
  let (owner, ts) ← name? (← skip [.sign '{', .sign '}', .word "impl"] ts)
  if owner = name then
    let (entries, ts) := constants (← skip [.sign '{'] ts)
    some (⟨[], name, entries⟩, ← skip [.sign '}'] ts)
  else none

/-- A type with its constants, inside any number of modules. -/
def enclosed? : List Token → Option (Listing × List Token)
  | visibility :: keyword :: name :: brace :: inner =>
    if visibility = .word "pub" ∧ keyword = .word "mod" ∧ brace = .sign '{' then do
      let segment ← nameOf? name
      let (found, rest) ← enclosed? inner
      some ({ found with segments := segment :: found.segments }, ← skip [.sign '}'] rest)
    else container? (visibility :: keyword :: name :: brace :: inner)
  | ts => container? ts

/-- What a text says. -/
def read? (s : String) : Option Listing := do
  let (found, rest) ← enclosed? (← withoutAttributes none (← tokens? s))
  if rest.isEmpty then some found else none

end Listing

end BuildConst
