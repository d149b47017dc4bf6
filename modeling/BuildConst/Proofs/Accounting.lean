import BuildConst.Proofs.Layering
import BuildConst.Proofs.Table.FirstDefinition

/-!
# Every declaration is accounted for

What a run finds is put together from what each declaration contributes to it, in the order of the
declarations.  A blank declaration contributes nothing.  Every other one is either an error or a
constant, and a constant is kept, or it repeats one that was kept, or it contradicts one.  So the
declarations that are not blank are as many as the errors, the constants of the table, and the
constants that were dropped.

## Main definitions

* `Contribution` — what a declaration contributes to a run.
* `contributions` — the contributions of a list of declarations.
* `Contribution.Accounts` — the contributions that a declaration may make.

## Main results

* `Collected.accounts_contribution` — every declaration makes one of them.
* `Contribution.count_of_accounts` — contributions are as many as what they amount to.
* `declarations_accounted_for` — no declaration of a run is lost, and none is counted twice.
-/

set_option relaxedAutoImplicit false
set_option autoImplicit false

namespace BuildConst

/-! ## Contributions -/

/-- What a declaration contributes to a run: the constant that it denotes, what became of the
constant, what validation found, and what was recorded when the constant was dropped. -/
structure Contribution where
  constant : Option Constant := none
  answer : Option Insertion := none
  found : List Diagnostic := []
  dropped : List Diagnostic := []
deriving DecidableEq, Repr

namespace Contribution

/-- The diagnostics of a contribution. -/
def diagnostics (k : Contribution) : List Diagnostic :=
  k.found ++ k.dropped

/-- The constant of a contribution, if it went into the table. -/
def stored? (k : Contribution) : Option Constant :=
  if k.answer = some .inserted then k.constant else none

/-- The constant of a contribution repeats one that was kept. -/
def isRepetition (k : Contribution) : Bool :=
  k.answer = some .redeclared

/-- The constant of a contribution contradicts one that was kept. -/
def isContradiction (k : Contribution) : Bool :=
  (k.answer.bind Insertion.kept?).isSome

/-- The contributions that a declaration may make: nothing if it is blank; otherwise one error, or
one constant of its name, with one remark on it at most and one warning at most that it was
dropped. -/
inductive Accounts (d : Declaration) : Contribution → Prop
  | blank (h : Text.allBlank d.text = true) : Accounts d {}
  | rejected (h : Text.allBlank d.text = false) (error : Diagnostic)
      (herror : error.isError = true) : Accounts d { found := [error] }
  | accepted (h : Text.allBlank d.text = false) (c : Constant) (answer : Insertion)
      (found dropped : List Diagnostic) (hname : c.name = d.split.1) (hfound : found.length ≤ 1)
      (hnotice : ∀ remark ∈ found, Diagnostic.IsNotice c.name remark)
      (hdropped : dropped = (answer.kept?.map fun kept =>
        Diagnostic.duplicate c.name kept.value.rendered c.value.rendered).toList)
      (herrors : Diagnostic.errors (found ++ dropped) = []) :
      Accounts d ⟨some c, some answer, found, dropped⟩

end Contribution

/-- What a further declaration contributes to what was collected before it. -/
def Collected.contribution (found : Collected) (d : Declaration) : Contribution :=
  let verdict := d.validate
  match verdict.constant with
  | none => { found := verdict.remarks }
  | some c =>
    let answer := found.table.judge c
    ⟨some c, some answer, verdict.remarks, answer.remarks c⟩

/-- The contributions of a list of declarations to what was collected before it. -/
def Collected.contributions (found : Collected) : List Declaration → List Contribution
  | [] => []
  | d :: ds => found.contribution d :: (found.add d).contributions ds

/-- The contributions of a list of declarations, the first declaration first. -/
def contributions (ds : List Declaration) : List Contribution :=
  Collected.contributions ⟨.empty, []⟩ ds

/-! ## One declaration -/

namespace Table

/-- A constant that is inserted goes to the end of the table. -/
theorem constants_insert_of_judge {t : Table} {c : Constant} (h : t.judge c = .inserted) :
    (t.insert c).constants = t.constants ++ [c] := by
  rw [constants_insert, if_neg (find?_eq_none_iff.1 (judge_eq_inserted_iff.1 h))]

/-- A constant that is not inserted is dropped. -/
theorem insert_of_judge {t : Table} {c : Constant} (h : t.judge c ≠ .inserted) :
    t.insert c = t := by
  have hfound : ¬t.find? c.name = none := mt judge_eq_inserted_iff.2 h
  rw [insert, dif_neg hfound]

end Table

namespace Collected

variable (found : Collected) (d : Declaration)

/-- A blank declaration adds nothing. -/
theorem add_of_allBlank (h : Text.allBlank d.text = true) : found.add d = found := by
  have hverdict : d.validate = ⟨none, []⟩ := by rw [Declaration.validate, if_pos h]
  simp [add, hverdict]

/-- The diagnostics of a contribution are added behind those that were found before. -/
theorem diagnostics_add :
    (found.add d).diagnostics = found.diagnostics ++ (found.contribution d).diagnostics := by
  cases hconstant : d.validate.constant with
  | none => simp [add, contribution, Contribution.diagnostics, hconstant]
  | some c => simp [add, contribution, Contribution.diagnostics, hconstant]

/-- The constant of a contribution that is stored is added behind those of the table. -/
theorem constants_add :
    (found.add d).table.constants =
      found.table.constants ++ (found.contribution d).stored?.toList := by
  cases hconstant : d.validate.constant with
  | none => simp [add, contribution, Contribution.stored?, hconstant]
  | some c =>
    by_cases hanswer : found.table.judge c = .inserted
    · simp [add, contribution, Contribution.stored?, hconstant, hanswer,
        Table.constants_insert_of_judge hanswer]
    · simp [add, contribution, Contribution.stored?, hconstant, hanswer,
        Table.insert_of_judge hanswer]

/-- Dropping a constant is recorded with one warning if the constant contradicts another one. -/
theorem accounts_of_validate {c : Constant} {remarks : List Diagnostic}
    (htext : Text.allBlank d.text = false) (hverdict : d.validate = ⟨some c, remarks⟩)
    (hname : c.name = d.split.1) (hlength : remarks.length ≤ 1)
    (hnotice : ∀ remark ∈ remarks, Diagnostic.IsNotice c.name remark) :
    Contribution.Accounts d (found.contribution d) := by
  have hcontribution : found.contribution d = ⟨some c, some (found.table.judge c), remarks,
      (found.table.judge c).remarks c⟩ := by
    rw [contribution, hverdict]
  have herrors : Diagnostic.errors remarks = [] := by
    refine List.filter_eq_nil_iff.2 fun remark hremark => ?_
    rw [Diagnostic.isError_of_isNotice (hnotice remark hremark)]
    exact Bool.false_ne_true
  rw [hcontribution]
  refine .accepted htext c _ remarks _ hname hlength hnotice (Insertion.remarks_eq c _) ?_
  rw [Diagnostic.errors_append, herrors, Insertion.errors_remarks, List.append_nil]

/-- **Every declaration is accounted for** by what it contributes. -/
theorem accounts_contribution : Contribution.Accounts d (found.contribution d) := by
  rcases d.validate_cases with ⟨htext, hverdict⟩ | ⟨htext, error, herror, hverdict⟩ |
    ⟨htext, c, remarks, hverdict, hname, hlength, hnotice⟩
  · rw [contribution, hverdict]
    exact .blank htext
  · rw [contribution, hverdict]
    exact .rejected htext error herror
  · exact found.accounts_of_validate d htext hverdict hname hlength hnotice

end Collected

/-- What a contribution adds to the errors, to the table and to the constants that are dropped is one
in all, unless the declaration is blank. -/
theorem Contribution.Accounts.weight {d : Declaration} {k : Contribution} (h : Accounts d k) :
    (Diagnostic.errors k.diagnostics).length + k.stored?.toList.length +
        k.isRepetition.toNat + k.isContradiction.toNat =
      (!Text.allBlank d.text).toNat := by
  cases h with
  | blank htext =>
    rw [htext]
    rfl
  | rejected htext error herror =>
    have herrors : Diagnostic.errors [error] = [error] := by simp [Diagnostic.errors, herror]
    rw [htext, diagnostics, List.append_nil, herrors]
    rfl
  | accepted htext c answer found dropped _ _ _ _ herrors =>
    rw [htext, diagnostics, herrors]
    cases answer with
    | inserted => rfl
    | redeclared => rfl
    | conflict kept => rfl

/-! ## A list of declarations -/

namespace Collected

/-- The declarations after others contribute to what was collected from these. -/
theorem contributions_append (found : Collected) (ds es : List Declaration) :
    found.contributions (ds ++ es) =
      found.contributions ds ++ (ds.foldl add found).contributions es := by
  induction ds generalizing found with
  | nil => rfl
  | cons d ds ih =>
    rw [List.cons_append, contributions, ih, contributions, List.foldl_cons, List.cons_append]

/-- Each declaration makes one contribution. -/
theorem length_contributions (found : Collected) (ds : List Declaration) :
    (found.contributions ds).length = ds.length := by
  induction ds generalizing found with
  | nil => rfl
  | cons d ds ih => rw [contributions, List.length_cons, List.length_cons, ih]

/-- Each declaration is accounted for by its contribution. -/
theorem accounts_contributions (found : Collected) (ds : List Declaration) :
    List.Forall₂ Contribution.Accounts ds (found.contributions ds) := by
  induction ds generalizing found with
  | nil => exact .nil
  | cons d ds ih => exact .cons (found.accounts_contribution d) (ih (found.add d))

/-- The diagnostics of a run are those of the contributions to it. -/
theorem diagnostics_foldl (found : Collected) (ds : List Declaration) :
    (ds.foldl add found).diagnostics =
      found.diagnostics ++ (found.contributions ds).flatMap Contribution.diagnostics := by
  induction ds generalizing found with
  | nil => exact (List.append_nil _).symm
  | cons d ds ih =>
    rw [List.foldl_cons, ih, diagnostics_add, contributions, List.flatMap_cons, List.append_assoc]

/-- The table of a run holds the constants of the contributions that were stored. -/
theorem constants_foldl (found : Collected) (ds : List Declaration) :
    (ds.foldl add found).table.constants =
      found.table.constants ++ (found.contributions ds).filterMap Contribution.stored? := by
  induction ds generalizing found with
  | nil => exact (List.append_nil _).symm
  | cons d ds ih =>
    rw [List.foldl_cons, ih, constants_add, contributions, List.append_assoc]
    cases hstored : (found.contribution d).stored? with
    | none => rw [List.filterMap_cons_none hstored, Option.toList_none, List.nil_append]
    | some c => rw [List.filterMap_cons_some hstored, Option.toList_some, List.singleton_append]

/-- Blank declarations can be left out. -/
theorem foldl_add_filter (found : Collected) (ds : List Declaration) :
    (ds.filter fun d => !Text.allBlank d.text).foldl add found = ds.foldl add found := by
  induction ds generalizing found with
  | nil => rfl
  | cons d ds ih =>
    cases htext : Text.allBlank d.text with
    | true =>
      rw [List.filter_cons_of_neg (by simp [htext]), List.foldl_cons, found.add_of_allBlank d htext]
      exact ih found
    | false =>
      rw [List.filter_cons_of_pos (by simp [htext]), List.foldl_cons, List.foldl_cons]
      exact ih (found.add d)

end Collected

/-- Contributions that account for declarations amount to as many errors and constants as there are
declarations that are not blank. -/
theorem Contribution.count_of_accounts {ds : List Declaration} {ks : List Contribution}
    (h : List.Forall₂ Accounts ds ks) :
    ds.countP (fun d => !Text.allBlank d.text) =
      (Diagnostic.errors (ks.flatMap diagnostics)).length + (ks.filterMap stored?).length +
        ks.countP isRepetition + ks.countP isContradiction := by
  induction h with
  | nil => rfl
  | @cons d k ds ks hd _ ih =>
    have hweight := hd.weight
    have hstored : ((k :: ks).filterMap stored?).length =
        k.stored?.toList.length + (ks.filterMap stored?).length := by
      cases hk : k.stored? with
      | none => simp [hk]
      | some c => simp [hk, Nat.add_comm]
    have hbool (b : Bool) : (if b = true then 1 else 0) = b.toNat := by cases b <;> rfl
    rw [List.flatMap_cons, Diagnostic.errors_append, List.length_append, hstored,
      List.countP_cons, List.countP_cons, List.countP_cons, hbool, hbool, hbool, ih]
    omega

/-! ## Main result -/

/-- **No declaration is lost, and none is counted twice.**  Each declaration contributes nothing if
it is blank, and otherwise one error or one constant, where a constant comes with one remark at most
and with one warning at most that it was dropped.  What became of a constant is judged by the table
of the declarations before it.  The diagnostics of the run are those of the contributions in the
order of the declarations, and the table holds the constants that were stored.  So the declarations
that are not blank are as many as the errors, the constants of the table, and the constants that
repeat or contradict one of these; and blank declarations may stand anywhere or be missing.

**Proof sketch.** Every step of a run appends what its declaration contributes
(`Collected.diagnostics_add`, `Collected.constants_add`), and by the outcomes of validation each
contribution adds one in all to the errors, the table and the dropped constants
(`Contribution.Accounts.weight`).  Both are summed up along the list. -/
theorem declarations_accounted_for (ds : List Declaration) :
    List.Forall₂ Contribution.Accounts ds (contributions ds) ∧
    (∀ before d after, ds = before ++ d :: after →
      (contributions ds)[before.length]? = some ((collect before).contribution d)) ∧
    (collect ds).diagnostics = (contributions ds).flatMap Contribution.diagnostics ∧
    (collect ds).table.constants = (contributions ds).filterMap Contribution.stored? ∧
    ds.countP (fun d => !Text.allBlank d.text) =
      (Diagnostic.errors (collect ds).diagnostics).length + (collect ds).table.size +
        (contributions ds).countP Contribution.isRepetition +
        (contributions ds).countP Contribution.isContradiction ∧
    ∀ es : List Declaration,
      (es.filter fun d => !Text.allBlank d.text) = (ds.filter fun d => !Text.allBlank d.text) →
        collect es = collect ds := by
  have haccounts : List.Forall₂ Contribution.Accounts ds (contributions ds) :=
    Collected.accounts_contributions _ ds
  have hdiagnostics : (collect ds).diagnostics =
      (contributions ds).flatMap Contribution.diagnostics :=
    (Collected.diagnostics_foldl _ ds).trans (List.nil_append _)
  have hconstants : (collect ds).table.constants =
      (contributions ds).filterMap Contribution.stored? :=
    (Collected.constants_foldl _ ds).trans (List.nil_append _)
  refine ⟨haccounts, ?_, hdiagnostics, hconstants, ?_, ?_⟩
  · rintro before d after rfl
    rw [contributions, Collected.contributions_append, Collected.contributions]
    rw [List.getElem?_append_right (Nat.le_of_eq (Collected.length_contributions _ before)),
      Collected.length_contributions, Nat.sub_self]
    rfl
  · rw [Contribution.count_of_accounts haccounts, ← hdiagnostics, ← hconstants]
    rfl
  · intro es hes
    calc collect es
        = collect (es.filter fun d => !Text.allBlank d.text) :=
          (Collected.foldl_add_filter _ es).symm
      _ = collect (ds.filter fun d => !Text.allBlank d.text) := by rw [hes]
      _ = collect ds := Collected.foldl_add_filter _ ds

/-- Of six declarations that are not blank, two are rejected, two are kept with a remark, one repeats
the one kept before it, and one contradicts it. -/
theorem declarations_accounted_for_of_each_outcome :
    let es : List Declaration := [⟨"1BAD=x", none⟩, ⟨"A=1", some "Float"⟩, ⟨"B=2", some "bool"⟩,
      ⟨"A=1", none⟩, ⟨"B=false", some "bool"⟩, ⟨"N=x", some "int"⟩]
    let ds : List Declaration := ⟨" \t", some "int"⟩ :: es
    (es.filter fun d => !Text.allBlank d.text) = (ds.filter fun d => !Text.allBlank d.text) ∧
      collect es = collect ds ∧
      ds.countP (fun d => !Text.allBlank d.text) = 6 ∧
      (Diagnostic.errors (collect ds).diagnostics).length + (collect ds).table.size +
        (contributions ds).countP Contribution.isRepetition +
        (contributions ds).countP Contribution.isContradiction = 6 ∧
      (Diagnostic.errors (collect ds).diagnostics).length = 2 ∧ (collect ds).table.size = 2 := by
  intro es ds
  have hblank : (es.filter fun d => !Text.allBlank d.text) =
      (ds.filter fun d => !Text.allBlank d.text) := by
    simp only [es, ds]
    decide
  have hnumber : ds.countP (fun d => !Text.allBlank d.text) = 6 := by
    simp only [es, ds]
    decide
  obtain ⟨-, -, -, -, hcount, hsame⟩ := declarations_accounted_for ds
  refine ⟨hblank, hsame es hblank, hnumber, hcount.symm.trans hnumber, ?_, ?_⟩
  · simp only [es, ds]
    decide
  · simp only [es, ds]
    decide

end BuildConst
