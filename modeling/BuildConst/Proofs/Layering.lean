import BuildConst.Collected
import BuildConst.Proofs.Table.History
import BuildConst.Proofs.Validation

/-!
# Layers of declarations

What a list of declarations amounts to falls into two parts.  The verdict on each declaration does
not depend on the others; only whether its constant is kept does, and that is a matter of the
constants before it.  So a list that follows another one adds the constants that it would hold by
itself, as far as their names are new, and the errors that it would have by itself.

## Main definitions

* `constantsOf` — the constants that declarations denote, before any is dropped.

## Main results

* `table_collect`, `errors_collect` — the table and the errors of a list, by its verdicts.
* `collect_layers` — what one list of declarations on top of another one amounts to.
-/

set_option relaxedAutoImplicit false
set_option autoImplicit false

namespace BuildConst

/-- The constants that declarations denote, those included that repeat a name. -/
def constantsOf (ds : List Declaration) : List Constant :=
  ds.filterMap fun d => d.validate.constant

/-! ## Tables -/

/-- The table of a list is that of the history of its constants. -/
theorem table_collect (ds : List Declaration) :
    (collect ds).table = (History.of (constantsOf ds)).table := by
  induction ds using List.reverseRecOn with
  | nil => rfl
  | append_singleton ds d ih =>
    rw [collect_append, List.foldl_cons, List.foldl_nil, Collected.add, constantsOf,
      List.filterMap_append, ← constantsOf]
    cases hconstant : d.validate.constant with
    | none => simp [hconstant, ih]
    | some c => simp [hconstant, History.of_concat, History.insert, ih]

/-- The constants of a table are the first ones of their names. -/
theorem constants_collect (ds : List Declaration) :
    (collect ds).table.constants = Constant.firsts (constantsOf ds) := by
  rw [table_collect, History.constants_of]

/-- Two lists of declarations denote what each of them does. -/
theorem constantsOf_append (ds es : List Declaration) :
    constantsOf (ds ++ es) = constantsOf ds ++ constantsOf es :=
  List.filterMap_append

/-- The table of two lists is that of the first one, followed by the constants of the second one
whose names are new. -/
theorem constants_collect_append (ds es : List Declaration) :
    (collect (ds ++ es)).table.constants =
      (collect ds).table.constants ++
        (collect es).table.constants.filter fun c => !(collect ds).table.contains c.name := by
  rw [constants_collect, constants_collect, constants_collect, constantsOf_append,
    Constant.firsts_append]
  congr 1
  refine List.filter_congr fun c _ => ?_
  have hnames : (collect ds).table.contains c.name = true ↔
      c.name ∈ (constantsOf ds).map Constant.name := by
    rw [Table.contains_iff, table_collect, History.mem_names_of]
  simp only [← hnames, Bool.not_eq_true, Bool.decide_eq_false]

/-! ## Diagnostics -/

/-- The diagnostics that were found stay in front of those on a further declaration. -/
theorem Collected.diagnostics_add_prefix (c : Collected) (d : Declaration) :
    c.diagnostics <+: (c.add d).diagnostics := by
  unfold add
  dsimp only
  split
  · exact List.prefix_append _ _
  · rw [List.append_assoc]
    exact List.prefix_append _ _

/-- Dropping a constant is never an error. -/
theorem Insertion.errors_remarks (c : Constant) (answer : Insertion) :
    Diagnostic.errors (answer.remarks c) = [] := by
  cases answer <;> rfl

/-- A further declaration adds the errors of its verdict. -/
theorem Collected.errors_add (c : Collected) (d : Declaration) :
    Diagnostic.errors (c.add d).diagnostics =
      Diagnostic.errors c.diagnostics ++ Diagnostic.errors d.validate.remarks := by
  unfold add
  dsimp only
  split
  · exact Diagnostic.errors_append _ _
  · rw [Diagnostic.errors_append, Diagnostic.errors_append, Insertion.errors_remarks,
      List.append_nil]

/-- The errors of a list are those of its verdicts, one after the other. -/
theorem errors_collect (ds : List Declaration) :
    Diagnostic.errors (collect ds).diagnostics =
      ds.flatMap fun d => Diagnostic.errors d.validate.remarks := by
  induction ds using List.reverseRecOn with
  | nil => rfl
  | append_singleton ds d ih =>
    rw [collect_append, List.foldl_cons, List.foldl_nil, Collected.errors_add, ih,
      List.flatMap_append, List.flatMap_singleton]

/-- A list is ready if it has no errors. -/
theorem isReady_collect_iff (ds : List Declaration) :
    (collect ds).isReady = true ↔ Diagnostic.errors (collect ds).diagnostics = [] := by
  rw [Collected.isReady, Bool.not_eq_true', Diagnostic.hasErrors_eq_false_iff]

/-- The diagnostics of a list begin with those of its beginning. -/
theorem diagnostics_collect_prefix (ds es : List Declaration) :
    (collect ds).diagnostics <+: (collect (ds ++ es)).diagnostics := by
  induction es using List.reverseRecOn with
  | nil => simp
  | append_singleton es e ih =>
    rw [← List.append_assoc, collect_append (ds ++ es), List.foldl_cons, List.foldl_nil]
    exact ih.trans (Collected.diagnostics_add_prefix _ e)

/-! ## Main result -/

/-- **Layers**: a list of declarations on top of another one adds, in its own order, the constants
that it holds by itself and whose names the other one does not have.  The diagnostics of the first
list come first, the errors are those of both lists, and so both of them have to be ready.  A name
that no declaration of the first list gives to a constant is taken from the second one.

**Proof sketch.** The table of a list holds the first ones of the constants that its verdicts
denote, and of two lists of constants in a row the second one adds the first constants of its new
names (`Constant.firsts_append`).  Errors are found by the verdicts alone, so they are appended. -/
theorem collect_layers (ds es : List Declaration) :
    (collect (ds ++ es)).table.constants =
      (collect ds).table.constants ++
        (collect es).table.constants.filter (fun c => !(collect ds).table.contains c.name) ∧
    (collect ds).diagnostics <+: (collect (ds ++ es)).diagnostics ∧
    Diagnostic.errors (collect (ds ++ es)).diagnostics =
      Diagnostic.errors (collect ds).diagnostics ++ Diagnostic.errors (collect es).diagnostics ∧
    ((collect (ds ++ es)).isReady = true ↔
      (collect ds).isReady = true ∧ (collect es).isReady = true) ∧
    ∀ name, (∀ d ∈ ds, d.split.1 = name → d.validate.constant = none) →
      (collect (ds ++ es)).table.find? name = (collect es).table.find? name := by
  have herrors : Diagnostic.errors (collect (ds ++ es)).diagnostics =
      Diagnostic.errors (collect ds).diagnostics ++ Diagnostic.errors (collect es).diagnostics := by
    rw [errors_collect, errors_collect, errors_collect, List.flatMap_append]
  refine ⟨constants_collect_append ds es, diagnostics_collect_prefix ds es, herrors, ?_, ?_⟩
  · rw [isReady_collect_iff, isReady_collect_iff, isReady_collect_iff, herrors,
      List.append_eq_nil_iff]
  · intro name hrejected
    have hnone : (constantsOf ds).find? (fun c => c.name == name) = none := by
      refine List.find?_eq_none.2 fun c hc => ?_
      obtain ⟨d, hd, hconstant⟩ := List.mem_filterMap.1 hc
      obtain ⟨hsplit, -⟩ := Declaration.constant_validate_eq_some_iff.1 hconstant
      intro hname
      rw [beq_iff_eq] at hname
      rw [hrejected d hd (hsplit ▸ hname)] at hconstant
      cases hconstant
    rw [table_collect, table_collect, History.find?_of, History.find?_of, constantsOf_append,
      List.find?_append, hnone, Option.none_or]

/-- Of two names, one is rejected in the first list and taken from the second one, and the other one
is not. -/
theorem collect_layers_of_rejected :
    (∀ d ∈ ([⟨"N=x", some "int"⟩, ⟨"V=1", none⟩] : List Declaration),
      d.split.1 = "N" → d.validate.constant = none) ∧
    (collect ([⟨"N=x", some "int"⟩, ⟨"V=1", none⟩] ++
      [⟨"V=2", none⟩, ⟨"N=7", some "int"⟩])).table.find? "N" = some ⟨"N", .int 7⟩ ∧
    (collect ([⟨"N=x", some "int"⟩, ⟨"V=1", none⟩] ++
      [⟨"V=2", none⟩, ⟨"N=7", some "int"⟩])).table.constants =
        [⟨"V", .string "1"⟩, ⟨"N", .int 7⟩] := by
  have hrejected : ∀ d ∈ ([⟨"N=x", some "int"⟩, ⟨"V=1", none⟩] : List Declaration),
      d.split.1 = "N" → d.validate.constant = none := by
    decide
  obtain ⟨hconstants, -, -, -, hname⟩ := collect_layers [⟨"N=x", some "int"⟩, ⟨"V=1", none⟩]
    [⟨"V=2", none⟩, ⟨"N=7", some "int"⟩]
  refine ⟨hrejected, ?_, ?_⟩
  · rw [hname "N" hrejected]
    decide
  · rw [hconstants]
    decide

end BuildConst
