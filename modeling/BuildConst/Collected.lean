import BuildConst.Validation

/-!
# Collecting declarations

The declarations of a run are validated one after the other.  What they denote is gathered in a
table and what was found on the way in a list of diagnostics; no problem stops the others from
being found.

## Main definitions

* `Collected` — the table and the diagnostics.
* `Collected.add`, `collect` — one more declaration, and a whole list.
-/

set_option relaxedAutoImplicit false
set_option autoImplicit false

namespace BuildConst

/-- What a list of declarations amounts to. -/
@[ext]
structure Collected where
  table : Table := {}
  diagnostics : List Diagnostic := []
deriving DecidableEq, Repr

namespace Collected

/-- Whether an artifact may be written: no error was found. -/
def isReady (c : Collected) : Bool :=
  !Diagnostic.hasErrors c.diagnostics

/-- What is collected once a further declaration was looked at. -/
def add (c : Collected) (d : Declaration) : Collected :=
  let verdict := d.validate
  match verdict.constant with
  | none => { c with diagnostics := c.diagnostics ++ verdict.remarks }
  | some constant =>
    { table := c.table.insert constant
      diagnostics :=
        c.diagnostics ++ verdict.remarks ++ (c.table.judge constant).remarks constant }

end Collected

/-- What a list of declarations amounts to, the first declaration first. -/
def collect (ds : List Declaration) : Collected :=
  ds.foldl Collected.add ⟨.empty, []⟩

/-- A later list of declarations goes on where an earlier one ended. -/
theorem collect_append (ds es : List Declaration) :
    collect (ds ++ es) = es.foldl Collected.add (collect ds) :=
  List.foldl_append

end BuildConst
