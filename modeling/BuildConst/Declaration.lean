import BuildConst.Text.Split

/-!
# Declarations

A declaration is a text of the form `KEY=VALUE`, where the value may be missing, together with an
optional hint at the kind of the value.  It is taken as it comes; see `BuildConst.Validation` for
what it means.

## Main definitions

* `Declaration` — a text and a hint.
* `Declaration.ofArgument` — the shorthand `KIND:KEY=VALUE` of the command line.
-/

set_option relaxedAutoImplicit false
set_option autoImplicit false

namespace BuildConst

/-- A declaration as it was given. -/
structure Declaration where
  text : String
  hint : Option String := none
deriving DecidableEq, Repr

namespace Declaration

/-- The declaration that an argument of the form `KIND:KEY=VALUE` stands for.  What precedes the
first colon is a hint only if it holds no equals sign, so that a value may contain colons. -/
def ofArgument (argument : String) : Declaration :=
  match Text.splitFirst ':' argument.toList with
  | some (hint, rest) =>
    if '=' ∈ hint then ⟨argument, none⟩ else ⟨String.ofList rest, some (String.ofList hint)⟩
  | none => ⟨argument, none⟩

/-- The name and the value text of a declaration: what stands before and after the first equals
sign, or the whole text and nothing. -/
def split (d : Declaration) : String × String :=
  match Text.splitFirst '=' d.text.toList with
  | some (name, value) => (String.ofList name, String.ofList value)
  | none => (d.text, "")

end Declaration

end BuildConst
