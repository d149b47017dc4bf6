import Mathlib.Data.List.Induction
import BuildConst.Table

/-!
# Histories of tables

A history is a series of insertions into an empty table, with the answer to each of them and the
diagnostics that were recorded on the way.  It ends with a table of the constants that were the
first ones of their names, in the order of the series.

## Main definitions

* `Constant.firsts` — the first constant of each name.
* `History`, `History.insert`, `History.of` — what a series of insertions led to.

## Main results

* `Constant.firsts_append` — the first constants of two lists, one after the other.
* `History.constants_of`, `History.find?_of` — the table at the end of a history.
* `History.answers_of_append`, `History.diagnostics_of` — the answers and the diagnostics.
-/

set_option relaxedAutoImplicit false
set_option autoImplicit false

namespace BuildConst

/-! ## First constants -/

namespace Constant

/-- The constants of a list that are the first ones of their names. -/
def firsts : List Constant → List Constant
  | [] => []
  | c :: rest => c :: (firsts rest).filter fun d => d.name ≠ c.name

/-- Nothing but the later constants of a name is missing: every name is still there. -/
theorem mem_names_firsts {cs : List Constant} {name : String} :
    name ∈ (firsts cs).map Constant.name ↔ name ∈ cs.map Constant.name := by
  induction cs with
  | nil => rfl
  | cons c rest ih =>
    simp only [firsts, List.map_cons, List.mem_cons, List.mem_map, List.mem_filter] at ih ⊢
    by_cases hname : name = c.name
    · simp [hname]
    · rw [← ih]
      grind

/-- The first constant of a name is the same in a list and among its first constants. -/
theorem find?_firsts (cs : List Constant) (name : String) :
    (firsts cs).find? (fun c => c.name == name) = cs.find? fun c => c.name == name := by
  induction cs with
  | nil => rfl
  | cons c rest ih =>
    rw [firsts, List.find?_cons, List.find?_cons]
    by_cases hname : c.name = name
    · simp [hname]
    · have hother (d : Constant) :
          decide (decide (d.name ≠ c.name) = true ∧ (d.name == name) = true) = (d.name == name) := by
        grind
      simp only [beq_eq_false_iff_ne.2 hname, List.find?_filter, hother, ih]

/-- Of two lists in a row, the second one adds the first constants of its new names. -/
theorem firsts_append (cs ds : List Constant) :
    firsts (cs ++ ds) =
      firsts cs ++ (firsts ds).filter fun d => d.name ∉ cs.map Constant.name := by
  induction cs with
  | nil => exact (List.filter_eq_self.2 fun _ _ => rfl).symm
  | cons c cs ih =>
    rw [List.cons_append, firsts, ih, List.filter_append, List.filter_filter, firsts,
      List.cons_append]
    congr 2
    refine List.filter_congr fun d _ => ?_
    simp

/-- A list in which no name occurs twice consists of first constants. -/
theorem firsts_eq_self {cs : List Constant} (h : (cs.map Constant.name).Nodup) :
    firsts cs = cs := by
  induction cs with
  | nil => rfl
  | cons c rest ih =>
    rw [List.map_cons, List.nodup_cons] at h
    rw [firsts, ih h.2]
    congr 1
    refine List.filter_eq_self.2 fun d hd => ?_
    have hname : d.name ≠ c.name := fun hname => h.1 (hname ▸ List.mem_map_of_mem hd)
    simpa using hname

end Constant

/-! ## Insertions -/

/-- A table is known from its constants. -/
theorem Table.eq_of_constants {t t' : Table} (h : t.constants = t'.constants) : t = t' := by
  cases t
  cases t'
  cases h
  rfl

/-- A table has a constant of each of its names. -/
theorem Table.contains_iff {t : Table} {name : String} :
    t.contains name = true ↔ name ∈ t.names := by
  rw [contains, ← Option.ne_none_iff_isSome, ne_eq, find?_eq_none_iff, Classical.not_not]

/-- A constant goes to the end of a table, unless its name is there. -/
theorem Table.constants_insert (t : Table) (c : Constant) :
    (t.insert c).constants = if c.name ∈ t.names then t.constants else t.constants ++ [c] := by
  unfold insert
  split
  · next h => rw [if_neg (find?_eq_none_iff.1 h)]
  · next h =>
    rw [find?_eq_none_iff, Classical.not_not] at h
    rw [if_pos h]

/-- What a series of insertions led to: a table, the answer to each insertion, and the diagnostics
that were recorded. -/
structure History where
  table : Table := .empty
  answers : List Insertion := []
  diagnostics : List Diagnostic := []
deriving DecidableEq, Repr

namespace History

/-- A history that goes on with one more insertion. -/
def insert (h : History) (c : Constant) : History where
  table := h.table.insert c
  answers := h.answers ++ [h.table.judge c]
  diagnostics := h.diagnostics ++ (h.table.judge c).remarks c

/-- What inserting the constants of a list leads to, the first constant first. -/
def of (cs : List Constant) : History :=
  cs.foldl insert {}

/-- The last constant is inserted into the table of the ones before it. -/
theorem of_concat (cs : List Constant) (c : Constant) : of (cs ++ [c]) = (of cs).insert c := by
  rw [of, List.foldl_append]
  rfl

/-- **The table of a history** holds the first constants of all names.

**Proof sketch.** By induction on the series from its end.  The last constant goes into the table
exactly if its name is new, and then it is a first constant of the whole series. -/
theorem constants_of (cs : List Constant) : (of cs).table.constants = Constant.firsts cs := by
  induction cs using List.reverseRecOn with
  | nil => rfl
  | append_singleton cs c ih =>
    have hnames : c.name ∈ (of cs).table.names ↔ c.name ∈ cs.map Constant.name := by
      rw [Table.names, ih, Constant.mem_names_firsts]
    rw [of_concat, insert, Table.constants_insert, ih, Constant.firsts_append]
    by_cases hname : c.name ∈ cs.map Constant.name
    · rw [if_pos (hnames.2 hname), Constant.firsts, Constant.firsts, List.filter_nil,
        List.filter_cons_of_neg (by simpa using hname), List.filter_nil, List.append_nil]
    · rw [if_neg (mt hnames.1 hname), Constant.firsts, Constant.firsts, List.filter_nil,
        List.filter_cons_of_pos (by simpa using hname), List.filter_nil]

/-- A name is looked up in the series itself. -/
theorem find?_of (cs : List Constant) (name : String) :
    (of cs).table.find? name = cs.find? fun c => c.name == name := by
  rw [Table.find?, constants_of, Constant.find?_firsts]

/-- The names of a history are those of its series. -/
theorem mem_names_of {cs : List Constant} {name : String} :
    name ∈ (of cs).table.names ↔ name ∈ cs.map Constant.name := by
  rw [Table.names, constants_of, Constant.mem_names_firsts]

/-- Each insertion has an answer. -/
theorem length_answers_of (cs : List Constant) : (of cs).answers.length = cs.length := by
  induction cs using List.reverseRecOn with
  | nil => rfl
  | append_singleton cs c ih =>
    rw [of_concat, insert, List.length_append, List.length_append, ih]
    rfl

/-- The answers to a series begin with those to its beginning. -/
theorem answers_of_prefix (cs ds : List Constant) :
    (of cs).answers <+: (of (cs ++ ds)).answers := by
  induction ds using List.reverseRecOn with
  | nil => simp
  | append_singleton ds d ih =>
    rw [← List.append_assoc, of_concat]
    exact ih.trans (List.prefix_append _ _)

/-- An insertion is answered by the table of the insertions before it. -/
theorem answers_of_append (before after : List Constant) (c : Constant) :
    (of (before ++ c :: after)).answers[before.length]? = some ((of before).table.judge c) := by
  obtain ⟨later, hlater⟩ := answers_of_prefix (before ++ [c]) after
  rw [List.append_assoc, List.singleton_append, of_concat, insert] at hlater
  rw [← hlater, List.append_assoc, ← length_answers_of before,
    List.getElem?_append_right (Nat.le_refl _), Nat.sub_self]
  rfl

/-- The diagnostics of a history are the remarks on its insertions. -/
theorem diagnostics_of (cs : List Constant) :
    (of cs).diagnostics = (cs.zip (of cs).answers).flatMap fun (c, answer) => answer.remarks c := by
  induction cs using List.reverseRecOn with
  | nil => rfl
  | append_singleton cs c ih =>
    rw [of_concat, insert]
    dsimp only
    rw [List.zip_append (length_answers_of cs).symm, List.flatMap_append, ← ih]
    simp

end History

end BuildConst
