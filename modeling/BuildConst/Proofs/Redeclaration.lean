import Mathlib.Data.List.Nodup
import BuildConst.Proofs.Hint
import BuildConst.Proofs.Layering
import BuildConst.Proofs.Naming
import BuildConst.Proofs.Value.Reading

/-!
# Tables are declared again by their constants

Each constant of a table can be written as an argument `KIND:NAME=VALUE`.  The arguments of a
collected table denote its constants, without a remark: the hint is understood, the name holds no
equals sign, and the value is read back.  So the arguments by themselves amount to the table, and
behind the declarations that it was collected from they change nothing.

## Main definitions

* `Constant.IsDeclaredBy` — the arguments for a constant.

## Main results

* `Constant.validate_of_isDeclaredBy` — arguments denote their constants.
* `collect_redeclared` — the arguments for a collected table.
-/

set_option relaxedAutoImplicit false
set_option autoImplicit false

namespace BuildConst

/-! ## Arguments for constants -/

/-- A name is told apart from the value behind it. -/
theorem Declaration.split_of_speakable {name : String} (h : Identifier.Speakable name)
    (value : String) (hint : Option String) :
    split ⟨name ++ "=" ++ value, hint⟩ = (name, value) := by
  have hequals : '=' ∉ name.toList := fun hmem => by
    have hchar := Identifier.isSubsequent_of_wellFormed (Identifier.wellFormed_of_fault? h) _ hmem
    exact absurd hchar (by decide)
  have hsplit : Text.splitFirst '=' (name ++ "=" ++ value).toList =
      some (name.toList, value.toList) :=
    Text.splitFirst_eq_some_iff.2 ⟨by simp, hequals⟩
  simp only [split, hsplit, String.ofList_toList]

namespace Constant

/-- An argument that declares a constant: a hint at its kind, its name, and its value. -/
def IsDeclaredBy (c : Constant) (argument : String) : Prop :=
  ∃ hint, c.value.kind.HintedBy hint ∧
    argument = hint ++ ":" ++ (c.name ++ "=" ++ c.value.declared)

/-- **Arguments denote their constants**, if the name and the value are such that they can be
declared at all. -/
theorem validate_of_isDeclaredBy {c : Constant} {argument : String}
    (hname : Identifier.Speakable c.name) (hvalue : c.value.Declarable)
    (h : c.IsDeclaredBy argument) : (Declaration.ofArgument argument).validate = ⟨some c, []⟩ := by
  obtain ⟨hint, hhint, rfl⟩ := h
  rw [Declaration.ofArgument_of_hintedBy hhint]
  have hsplit := Declaration.split_of_speakable hname c.value.declared (some hint)
  have hkind := Kind.resolve_of_hintedBy hhint c.name
  have hread := Value.read_declared hvalue c.name
  rw [Declaration.validate_of_read (v := c.value) (by rw [hsplit]; exact hname)
    (by rw [hsplit, hkind]; exact hread), hsplit, hkind]
  rfl

/-- What is collected can be declared: its values were read from texts. -/
theorem declarable_of_mem_collect {ds : List Declaration} :
    ∀ c ∈ (collect ds).table.constants, c.value.Declarable := by
  refine forall_mem_collect fun d _ c h => ?_
  obtain ⟨-, -, remarks, hread⟩ := Declaration.constant_validate_eq_some_iff.1 h
  exact Value.declarable_of_read hread

end Constant

/-! ## Repeated constants -/

/-- Two constants of a table that share their name are the same. -/
theorem Table.eq_of_name {t : Table} {c d : Constant} (hc : c ∈ t.constants)
    (hd : d ∈ t.constants) (h : c.name = d.name) : c = d :=
  List.inj_on_of_nodup_map t.distinct hc hd h

/-- Nothing is said about a constant that agrees with the one of its name. -/
theorem Table.remarks_judge {t : Table} {c : Constant}
    (h : ∀ kept ∈ t.constants, kept.name = c.name → kept = c) :
    (t.judge c).remarks c = [] := by
  unfold judge
  split
  next => rfl
  next kept hkept =>
    have hname : kept.name = c.name := by simpa using List.find?_some hkept
    rw [h kept (List.mem_of_find?_eq_some hkept) hname, if_pos rfl]
    rfl

section Repeated

variable {es : List Declaration} {cs : List Constant}

/-- Declarations whose verdicts are known denote the constants of the verdicts. -/
theorem constantsOf_of_validate (h : List.Forall₂ (fun e c => e.validate = ⟨some c, []⟩) es cs) :
    constantsOf es = cs := by
  induction h with
  | nil => rfl
  | cons hverdict _ ih =>
    rw [constantsOf, List.filterMap_cons, hverdict, ← constantsOf, ih]

/-- Declarations say nothing if their constants agree with each other and with those that were
collected before.

**Proof sketch.** By induction on the declarations.  The constant of the first one agrees with the
table, and once it was added to the table the other ones still agree with it. -/
theorem Collected.diagnostics_foldl_add {found : Collected}
    (h : List.Forall₂ (fun e c => e.validate = ⟨some c, []⟩) es cs)
    (hagree : ∀ c ∈ cs, ∀ kept ∈ found.table.constants ++ cs, kept.name = c.name → kept = c) :
    (es.foldl Collected.add found).diagnostics = found.diagnostics := by
  induction h generalizing found with
  | nil => rfl
  | @cons e c es cs hverdict _ ih =>
    have hadd : found.add e = ⟨found.table.insert c, found.diagnostics⟩ := by
      have hquiet : (found.table.judge c).remarks c = [] :=
        Table.remarks_judge fun kept hkept =>
          hagree c List.mem_cons_self kept (List.mem_append_left _ hkept)
      simp only [add, hverdict, hquiet, List.append_nil]
    rw [List.foldl_cons, hadd]
    refine ih fun d hd kept hkept => hagree d (List.mem_cons_of_mem _ hd) kept ?_
    rcases List.mem_append.1 hkept with hinsert | hmore
    · rcases Table.mem_insert hinsert with hold | rfl
      · exact List.mem_append_left _ hold
      · exact List.mem_append_right _ List.mem_cons_self
    · exact List.mem_append_right _ (List.mem_cons_of_mem _ hmore)

end Repeated

/-! ## Main result -/

/-- **Tables are declared again** by arguments for their constants.  By themselves the arguments
amount to the same table, without a diagnostic, and behind the declarations of the table they change
neither the table nor the diagnostics. -/
theorem collect_redeclared {ds : List Declaration} {arguments : List String}
    (h : List.Forall₂ Constant.IsDeclaredBy (collect ds).table.constants arguments) :
    collect (arguments.map Declaration.ofArgument) = ⟨(collect ds).table, []⟩ ∧
      collect (ds ++ arguments.map Declaration.ofArgument) = collect ds := by
  have hverdicts : List.Forall₂ (fun e c => e.validate = ⟨some c, []⟩)
      (arguments.map Declaration.ofArgument) (collect ds).table.constants := by
    have hdeclared : ∀ c ∈ (collect ds).table.constants,
        Identifier.Speakable c.name ∧ c.value.Declarable := fun c hc =>
      ⟨speakable_of_mem_collect c hc, Constant.declarable_of_mem_collect c hc⟩
    rw [List.forall₂_map_left_iff]
    exact (((List.forall₂_and_left ..).2 ⟨hdeclared, h⟩).imp fun c argument hc =>
      Constant.validate_of_isDeclaredBy hc.1.1 hc.1.2 hc.2).flip
  have htable : (collect (arguments.map Declaration.ofArgument)).table = (collect ds).table := by
    refine Table.eq_of_constants ?_
    rw [constants_collect, constantsOf_of_validate hverdicts]
    exact Constant.firsts_eq_self (collect ds).table.distinct
  constructor
  · refine Collected.ext htable ?_
    exact Collected.diagnostics_foldl_add hverdicts fun c hc kept hkept =>
      Table.eq_of_name (by simpa [Table.empty] using hkept) hc
  · refine Collected.ext (Table.eq_of_constants ?_) ?_
    · rw [constants_collect_append, htable, List.filter_eq_nil_iff.2, List.append_nil]
      intro c hc
      have hold : (collect ds).table.contains c.name = true :=
        Table.contains_iff.2 (List.mem_map_of_mem hc)
      simp [hold]
    · rw [collect_append]
      exact Collected.diagnostics_foldl_add hverdicts fun c hc kept hkept =>
        Table.eq_of_name (by simpa using hkept) hc

/-- One constant of each kind, with hints in mixed letter cases and with blanks around them.  The
table was collected with a warning and an error, and neither of them comes twice. -/
theorem collect_redeclared_of_four_kinds :
    let ds : List Declaration := [⟨"N=-1", some "int"⟩, ⟨"N=2", some "i32"⟩, ⟨"=x", none⟩,
      ⟨"S= a:b=c;", none⟩, ⟨"B=True", some "bool"⟩, ⟨"L=x;;y", some "array"⟩]
    let arguments : List String :=
      [" iNt\t:N=-1", "STR:S= a:b=c;", "Boolean:B=true", "sTring[] :L=x;y"]
    List.Forall₂ Constant.IsDeclaredBy (collect ds).table.constants arguments ∧
      collect (arguments.map Declaration.ofArgument) = ⟨(collect ds).table, []⟩ ∧
      collect (ds ++ arguments.map Declaration.ofArgument) = collect ds := by
  intro ds arguments
  have hconstants : (collect ds).table.constants =
      [⟨"N", .int (-1)⟩, ⟨"S", .string " a:b=c;"⟩, ⟨"B", .bool true⟩,
        ⟨"L", .stringArray ["x", "y"]⟩] := by
    simp only [ds]
    decide
  have hdeclared : List.Forall₂ Constant.IsDeclaredBy (collect ds).table.constants arguments := by
    rw [hconstants]
    refine .cons ⟨" iNt\t", ?_, by decide⟩ (.cons ⟨"STR", ?_, by decide⟩
      (.cons ⟨"Boolean", ?_, by decide⟩ (.cons ⟨"sTring[] ", ?_, by decide⟩ .nil)))
    · exact ⟨"Int", by decide, " ", "iNt", "\t", by decide, by decide, by simp [Text.Recased],
        by decide⟩
    · exact ⟨"str", by decide, "", "STR", "", by decide, by decide, by simp [Text.Recased],
        by decide⟩
    · exact ⟨"boolean", by decide, "", "Boolean", "", by decide, by decide, by simp [Text.Recased],
        by decide⟩
    · exact ⟨"string[]", by decide, "", "sTring[]", " ", by decide, by decide,
        by simp [Text.Recased], by decide⟩
  exact ⟨hdeclared, collect_redeclared hdeclared⟩

end BuildConst
