import BuildConst.Diagnostic.Catalog
import BuildConst.Value

/-!
# Constant tables

A table holds constants in the order in which they were first defined, one for each name.  The
first definition of a name stays: a later one is dropped, and it is reported if its value differs.

## Main definitions

* `Constant`, `Table` — a named value, and the constants of a run.
* `Table.find?`, `Table.names` — views of a table.
* `Table.judge`, `Table.insert` — what becomes of a further constant.
* `Insertion.remarks` — the diagnostics that this gives rise to.

## Main results

* `Table.find?_insert`, `Table.names_insert` — the views of a table after a constant was added.
-/

set_option relaxedAutoImplicit false
set_option autoImplicit false

namespace BuildConst

/-- A named value. -/
structure Constant where
  name : String
  value : Value
deriving DecidableEq, Repr

/-- The constants of a run in the order of their first definition.  No name occurs twice. -/
structure Table where
  constants : List Constant := []
  distinct : (constants.map Constant.name).Nodup := by simp
deriving DecidableEq, Repr

/-- What becomes of a constant that is added to a table: it is the first of its name, or it repeats
the value of the constant that was kept, or it contradicts that constant. -/
inductive Insertion where
  | inserted
  | redeclared
  | conflict (kept : Constant)
deriving DecidableEq, Repr

namespace Table

/-- The table without constants. -/
def empty : Table := {}

/-- The names of a table's constants. -/
def names (t : Table) : List String :=
  t.constants.map Constant.name

/-- The number of constants in a table. -/
def size (t : Table) : Nat :=
  t.constants.length

/-- The constant of a name. -/
def find? (t : Table) (name : String) : Option Constant :=
  t.constants.find? fun c => c.name == name

/-- Whether a table has a constant of a name. -/
def contains (t : Table) (name : String) : Bool :=
  (t.find? name).isSome

theorem find?_eq_none_iff {t : Table} {name : String} : t.find? name = none ↔ name ∉ t.names := by
  simp [find?, names]

/-- What becomes of a constant that is added to a table.  Values are compared by their literals. -/
def judge (t : Table) (c : Constant) : Insertion :=
  match t.find? c.name with
  | none => .inserted
  | some kept => if kept.value.rendered = c.value.rendered then .redeclared else .conflict kept

theorem judge_eq_inserted_iff {t : Table} {c : Constant} :
    t.judge c = .inserted ↔ t.find? c.name = none := by
  unfold judge
  split
  · next h => simp [h]
  · next kept h => split <;> simp [h]

/-- A constant of a new name goes to the end without doubling a name. -/
theorem distinct_concat {t : Table} {c : Constant} (h : t.find? c.name = none) :
    ((t.constants ++ [c]).map Constant.name).Nodup := by
  have hfresh : c.name ∉ t.constants.map Constant.name := find?_eq_none_iff.1 h
  simp only [List.map_append, List.map_cons, List.map_nil, List.nodup_append]
  refine ⟨t.distinct, by simp, ?_⟩
  rintro a ha b hb rfl
  simp only [List.mem_singleton] at hb
  exact hfresh (hb ▸ ha)

/-- The table after a constant was added: only the first constant of a name is kept. -/
def insert (t : Table) (c : Constant) : Table :=
  if h : t.find? c.name = none then ⟨t.constants ++ [c], distinct_concat h⟩ else t

theorem names_insert (t : Table) (c : Constant) :
    (t.insert c).names = if c.name ∈ t.names then t.names else t.names ++ [c.name] := by
  unfold insert
  split
  · next h =>
    rw [if_neg (find?_eq_none_iff.1 h)]
    simp [names]
  · next h =>
    rw [find?_eq_none_iff, Classical.not_not] at h
    simp [h]

theorem find?_insert (t : Table) (c : Constant) (name : String) :
    (t.insert c).find? name = (t.find? name).or (if c.name = name then some c else none) := by
  unfold insert
  split
  · by_cases hname : c.name = name <;> simp [find?, List.find?_append, hname]
  · next h =>
    by_cases hname : c.name = name
    · subst hname
      obtain ⟨kept, hkept⟩ := Option.ne_none_iff_exists'.1 h
      simp [hkept]
    · simp [hname]

end Table

/-- The diagnostics that adding a constant gives rise to. -/
def Insertion.remarks (c : Constant) : Insertion → List Diagnostic
  | .inserted => []
  | .redeclared => []
  | .conflict kept => [.duplicate c.name kept.value.rendered c.value.rendered]

end BuildConst
