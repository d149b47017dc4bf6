import BuildConst.Proofs.Layering

/-!
# Tables on top of each other

Of several tables in a row, an earlier one takes precedence over a later one: it keeps its constants,
and the later one adds those whose names are new.  So the first table that has a name decides its
value.  Lists of declarations one after the other amount to their tables on top of each other.

## Main definitions

* `Table.onto`, `Table.layered` — a table on top of another one, and several.

## Main results

* `Table.find?_layered` — the first table that has a name decides its value.
* `table_collect_flatten` — the table of lists of declarations one after the other.
-/

set_option relaxedAutoImplicit false
set_option autoImplicit false

namespace BuildConst

namespace Table

/-- The names that another table adds are new. -/
theorem distinct_append (t later : Table) :
    ((t.constants ++ later.constants.filter fun c => !t.contains c.name).map
      Constant.name).Nodup := by
  rw [List.map_append, List.nodup_append]
  refine ⟨t.distinct, later.distinct.sublist (List.filter_sublist.map _), ?_⟩
  rintro name hname _ hnew rfl
  obtain ⟨c, hc, rfl⟩ := List.mem_map.1 hnew
  have hcontains : t.contains c.name = true := contains_iff.2 hname
  simp [hcontains] at hc

/-- A table on top of another one: it keeps its constants, and the other one adds those whose names
are new. -/
def onto (t later : Table) : Table where
  constants := t.constants ++ later.constants.filter fun c => !t.contains c.name
  distinct := distinct_append t later

/-- Several tables on top of each other, the first one uppermost. -/
def layered (ts : List Table) : Table :=
  ts.foldr onto .empty

/-- A name that a table does not have is looked up in the one below. -/
theorem find?_onto (t later : Table) (name : String) :
    (t.onto later).find? name = (t.find? name).or (later.find? name) := by
  show (t.constants ++ later.constants.filter fun c => !t.contains c.name).find? _ = _
  rw [List.find?_append]
  cases hfind : t.find? name with
  | some c =>
    rw [find?] at hfind
    rw [hfind, Option.some_or, Option.some_or]
  | none =>
    have hnew : (fun c : Constant => decide ((!t.contains c.name) = true ∧ (c.name == name) = true)) =
        fun c => c.name == name := by
      funext c
      by_cases hname : c.name = name
      · simp [hname, contains, hfind]
      · simp [hname]
    rw [find?] at hfind
    rw [hfind, Option.none_or, Option.none_or, List.find?_filter, hnew, find?]

/-- **The first table that has a name decides its value.** -/
theorem find?_layered (ts : List Table) (name : String) :
    (layered ts).find? name = ts.findSome? fun t => t.find? name := by
  induction ts with
  | nil => rfl
  | cons t ts ih =>
    have hlayered : layered (t :: ts) = t.onto (layered ts) := rfl
    rw [hlayered, find?_onto, ih, List.findSome?_cons]
    cases t.find? name <;> rfl

end Table

/-- Lists of declarations one after the other amount to their tables on top of each other. -/
theorem table_collect_append (ds es : List Declaration) :
    (collect (ds ++ es)).table = (collect ds).table.onto (collect es).table :=
  Table.eq_of_constants (constants_collect_append ds es)

/-- **The table of lists of declarations** one after the other is that of their tables on top of
each other. -/
theorem table_collect_flatten (layers : List (List Declaration)) :
    (collect layers.flatten).table = Table.layered (layers.map fun ds => (collect ds).table) := by
  induction layers with
  | nil => rfl
  | cons ds layers ih => rw [List.flatten_cons, table_collect_append, ih]; rfl

end BuildConst
