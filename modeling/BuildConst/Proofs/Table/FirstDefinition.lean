import Mathlib.Data.List.Basic
import BuildConst.Proofs.Table.History
import BuildConst.Proofs.Value.Literal

/-!
# The first definition of a name stays

Whatever is inserted into a table in whatever order, the first constant of each name is kept and
every later one is dropped.  A later constant is dropped without a word if it has the value that was
kept, kind and content alike, and otherwise with one warning that shows both values.

## Main definitions

* `Insertion.kept?` — the constant that another one contradicts.

## Main results

* `Table.judge_eq_redeclared_iff`, `Table.judge_eq_conflict_iff` — the answers, by values.
* `History.first_definition_stays` — the table, the answers and the warnings of a history.
-/

set_option relaxedAutoImplicit false
set_option autoImplicit false

namespace BuildConst

/-! ## Answers -/

namespace Table

/-- A constant is redeclared with the value that was kept. -/
theorem judge_eq_redeclared_iff {t : Table} {c : Constant} :
    t.judge c = .redeclared ↔ ∃ kept, t.find? c.name = some kept ∧ kept.value = c.value := by
  unfold judge
  split
  next hnone => simp [hnone]
  next kept hkept =>
    split
    next hliteral => simp [hkept, Value.rendered_inj.1 hliteral]
    next hliteral => simp [hkept, mt Value.rendered_inj.2 hliteral]

/-- A constant contradicts another one of its name that has another value. -/
theorem judge_eq_conflict_iff {t : Table} {c kept : Constant} :
    t.judge c = .conflict kept ↔ t.find? c.name = some kept ∧ kept.value ≠ c.value := by
  unfold judge
  split
  next hnone => simp [hnone]
  next first hfirst =>
    rw [hfirst, Option.some.injEq]
    split
    next hliteral =>
      constructor
      · nofun
      · rintro ⟨rfl, hother⟩
        exact absurd (Value.rendered_inj.1 hliteral) hother
    next hliteral =>
      rw [Insertion.conflict.injEq]
      constructor
      · rintro rfl
        exact ⟨rfl, mt Value.rendered_inj.2 hliteral⟩
      · exact And.left

end Table

/-- The constant that was kept in spite of another one. -/
def Insertion.kept? : Insertion → Option Constant
  | conflict kept => some kept
  | _ => none

/-- A conflict gives rise to one warning, and nothing else to any. -/
theorem Insertion.remarks_eq (c : Constant) (answer : Insertion) :
    answer.remarks c =
      (answer.kept?.map fun kept =>
        Diagnostic.duplicate c.name kept.value.rendered c.value.rendered).toList := by
  cases answer <;> rfl

namespace History

/-- The diagnostics of a history are one warning for each conflict. -/
theorem diagnostics_of_eq_warnings (cs : List Constant) :
    (of cs).diagnostics = (cs.zip (of cs).answers).filterMap fun (c, answer) =>
      answer.kept?.map fun kept => .duplicate c.name kept.value.rendered c.value.rendered := by
  rw [diagnostics_of, List.filterMap_eq_flatMap_toList]
  exact List.flatMap_congr fun (c, answer) _ => answer.remarks_eq c

/-! ## Main result -/

/-- **The first definition of a name stays.**  The table of a history lists the first constant of
each name in the order of the series, and all views of the table agree with that list.  A constant
is inserted if its name is not there yet, redeclared if the constant that was kept has the same
value, and in conflict with it if not.  Each conflict is recorded with one warning that shows the
name and the literals of both values, and nothing else is recorded.

**Proof sketch.** The table follows by induction on the series (`constants_of`), and each answer is
the judgement of the table of the insertions before it.  That judgement compares literals, and
values are told apart by their literals (`Value.rendered_inj`). -/
theorem first_definition_stays (cs : List Constant) :
    (of cs).table.constants = Constant.firsts cs ∧
    (of cs).answers.length = cs.length ∧
    (∀ before c after, cs = before ++ c :: after →
      ∃ answer, (of cs).answers[before.length]? = some answer ∧
        (answer = .inserted ↔ (of before).table.contains c.name = false) ∧
        (answer = .redeclared ↔
          ∃ kept, (of before).table.find? c.name = some kept ∧ kept.value = c.value) ∧
        ∀ kept, answer = .conflict kept ↔
          (of before).table.find? c.name = some kept ∧ kept.value ≠ c.value) ∧
    ((of cs).diagnostics = (cs.zip (of cs).answers).filterMap fun (c, answer) =>
      answer.kept?.map fun kept => .duplicate c.name kept.value.rendered c.value.rendered) ∧
    (∀ d ∈ (of cs).diagnostics, d.isError = false) ∧
    (of cs).table.names = (Constant.firsts cs).map Constant.name ∧
    (of cs).table.size = (Constant.firsts cs).length ∧
    ((of cs).table.constants.isEmpty = true ↔ cs = []) ∧
    ∀ name, (of cs).table.find? name = (Constant.firsts cs).find? (fun c => c.name == name) ∧
      (of cs).table.find? name = cs.find? (fun c => c.name == name) ∧
      ((of cs).table.contains name = true ↔ ∃ c ∈ cs, c.name = name) := by
  have hconstants := constants_of cs
  refine ⟨hconstants, length_answers_of cs, ?_, diagnostics_of_eq_warnings cs, ?_, ?_, ?_, ?_, ?_⟩
  · rintro before c after rfl
    refine ⟨_, answers_of_append before after c, ?_, Table.judge_eq_redeclared_iff,
      fun kept => Table.judge_eq_conflict_iff⟩
    rw [Table.judge_eq_inserted_iff, Table.contains, Option.isSome_eq_false_iff,
      Option.isNone_iff_eq_none]
  · intro d hd
    rw [diagnostics_of_eq_warnings] at hd
    obtain ⟨⟨c, answer⟩, -, hwarning⟩ := List.mem_filterMap.1 hd
    obtain ⟨kept, -, rfl⟩ := Option.map_eq_some_iff.1 hwarning
    rfl
  · rw [Table.names, hconstants]
  · rw [Table.size, hconstants]
  · rw [hconstants, List.isEmpty_iff]
    cases cs with
    | nil => simp [Constant.firsts]
    | cons c rest => simp [Constant.firsts]
  · intro name
    refine ⟨by rw [Table.find?, hconstants], find?_of cs name, ?_⟩
    rw [Table.contains, find?_of]
    simp

/-- The same value again is taken for the first one, whatever contradicted it in the meantime. -/
example : (of [⟨"N", .int 1⟩, ⟨"N", .bool true⟩, ⟨"N", .int 1⟩]).answers =
    [.inserted, .conflict ⟨"N", .int 1⟩, .redeclared] := by
  decide

end History

end BuildConst
