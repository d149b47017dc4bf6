import BuildConst.Proofs.Accounting

/-!
# The order of declarations

Declarations of different names have nothing to do with each other: what one of them contributes is
the same before the other one and behind it.  So declarations may change places as long as those of
one name keep their order, and then every name has the same value and the same diagnostics are
found.  Whatever the order, the same declarations are in error, and the same names are taken.

## Main definitions

* `Collected.Alike` — two runs that found the same, in whatever order.
* `Declaration.KeepsOrder` — two lists in which the declarations of one name have the same order.

## Main results

* `Collected.alike_add_add` — declarations of different names may change places.
* `Collected.alike_foldl_of_keepsOrder` — so may those of a whole list.
* `collect_reordered` — what depends on the order of declarations, and what does not.
-/

set_option relaxedAutoImplicit false
set_option autoImplicit false

namespace BuildConst

/-- Two lists of declarations in which those of one name are the same and have the same order. -/
def Declaration.KeepsOrder (ds es : List Declaration) : Prop :=
  ∀ name, (ds.filter fun d => d.split.1 = name) = es.filter fun d => d.split.1 = name

/-- Two declarations of different names that stand first may change places. -/
theorem Declaration.keepsOrder_swap {d e : Declaration} (h : d.split.1 ≠ e.split.1)
    (ds : List Declaration) : KeepsOrder (d :: e :: ds) (e :: d :: ds) := by
  intro name
  by_cases hd : d.split.1 = name
  · have he : e.split.1 ≠ name := fun he => h (hd.trans he.symm)
    simp [hd, he]
  · simp [List.filter_cons, hd]

namespace Collected

/-- What was collected in two runs is the same but for its order: every name has the same constant,
and the same diagnostics were found. -/
structure Alike (found found' : Collected) : Prop where
  find? : ∀ name, found.table.find? name = found'.table.find? name
  diagnostics : found.diagnostics.Perm found'.diagnostics

/-- A run is like itself. -/
theorem Alike.refl (found : Collected) : Alike found found :=
  ⟨fun _ => rfl, .refl _⟩

/-- Runs that are like the same one are like each other. -/
theorem Alike.trans {found found' found'' : Collected} (h : Alike found found')
    (h' : Alike found' found'') : Alike found found'' :=
  ⟨fun name => (h.find? name).trans (h'.find? name), h.diagnostics.trans h'.diagnostics⟩

/-! ## One declaration -/

/-- The constant that a name has after a declaration is the one that it had, or else the one that
the declaration gives it. -/
theorem find?_add (found : Collected) (d : Declaration) (name : String) :
    (found.add d).table.find? name =
      (found.table.find? name).or (d.validate.constant.filter fun c => c.name = name) := by
  cases hconstant : d.validate.constant with
  | none => simp [add, hconstant]
  | some c =>
    have hfilter : ((some c).filter fun c => c.name = name) =
        if c.name = name then some c else none := by
      rw [Option.filter_some]
      simp only [decide_eq_true_eq]
    rw [hfilter, ← Table.find?_insert]
    simp only [add, hconstant]

/-- A declaration gives no constant to another name than its own. -/
theorem find?_add_of_ne (found : Collected) {d : Declaration} {name : String}
    (h : d.split.1 ≠ name) : (found.add d).table.find? name = found.table.find? name := by
  have hnone : (d.validate.constant.filter fun c => c.name = name) = none := by
    rw [Option.filter_eq_none_iff]
    intro c hc
    have hname := (Declaration.constant_validate_eq_some_iff.1 hc).1
    simpa [hname] using h
  rw [find?_add, hnone, Option.or_none]

/-- What a declaration contributes depends on the constant of its name only. -/
theorem contribution_congr {found found' : Collected} {d : Declaration}
    (h : found.table.find? d.split.1 = found'.table.find? d.split.1) :
    found.contribution d = found'.contribution d := by
  cases hconstant : d.validate.constant with
  | none => simp [contribution, hconstant]
  | some c =>
    have hname := (Declaration.constant_validate_eq_some_iff.1 hconstant).1
    have hjudge : found.table.judge c = found'.table.judge c := by
      unfold Table.judge
      rw [hname, h]
    simp [contribution, hconstant, hjudge]

/-- Runs that are alike go on alike. -/
theorem Alike.add {found found' : Collected} (h : Alike found found') (d : Declaration) :
    Alike (found.add d) (found'.add d) where
  find? name := by rw [find?_add, find?_add, h.find?]
  diagnostics := by
    rw [diagnostics_add, diagnostics_add, contribution_congr (h.find? _)]
    exact h.diagnostics.append_right _

/-- **Declarations of different names may change places.** -/
theorem alike_add_add (found : Collected) {d e : Declaration} (h : d.split.1 ≠ e.split.1) :
    Alike ((found.add d).add e) ((found.add e).add d) where
  find? name := by
    by_cases hd : d.split.1 = name
    · have he : e.split.1 ≠ name := fun he => h (hd.trans he.symm)
      rw [find?_add_of_ne _ he, find?_add, find?_add, find?_add_of_ne _ he]
    · rw [find?_add_of_ne (found.add e) hd, find?_add, find?_add_of_ne _ hd, ← find?_add]
  diagnostics := by
    have hfirst : (found.add d).contribution e = found.contribution e :=
      contribution_congr (find?_add_of_ne _ h)
    have hsecond : (found.add e).contribution d = found.contribution d :=
      contribution_congr (find?_add_of_ne _ h.symm)
    rw [diagnostics_add, diagnostics_add, diagnostics_add, diagnostics_add, hfirst, hsecond,
      List.append_assoc, List.append_assoc]
    exact List.perm_append_comm.append_left _

/-! ## A list of declarations -/

/-- Runs that are alike stay alike through the same declarations. -/
theorem Alike.foldl {found found' : Collected} (h : Alike found found') (ds : List Declaration) :
    Alike (ds.foldl Collected.add found) (ds.foldl Collected.add found') := by
  induction ds generalizing found found' with
  | nil => exact h
  | cons d ds ih => exact ih (h.add d)

/-- A declaration may come first of all if none before it has its name. -/
theorem alike_foldl_cons (found : Collected) {before : List Declaration} {e : Declaration}
    (h : ∀ d ∈ before, d.split.1 ≠ e.split.1) (after : List Declaration) :
    Alike ((before ++ e :: after).foldl Collected.add found)
      ((e :: (before ++ after)).foldl Collected.add found) := by
  induction before generalizing found with
  | nil => exact .refl _
  | cons d before ih =>
    have hmoved := ih (found.add d) fun d' hd' => h d' (List.mem_cons_of_mem _ hd')
    have hswapped := found.alike_add_add (h d List.mem_cons_self)
    exact hmoved.trans (hswapped.foldl (before ++ after))

/-- **Declarations may change places as long as those of one name keep their order.**

**Proof sketch.** By induction on the second list.  Its first declaration is the first one of its
name in the first list as well, so there it may be moved to the front, and what is left of both
lists still keeps the order. -/
theorem alike_foldl_of_keepsOrder {ds es : List Declaration} (h : Declaration.KeepsOrder ds es)
    (found : Collected) :
    Alike (ds.foldl Collected.add found) (es.foldl Collected.add found) := by
  induction es generalizing ds found with
  | nil =>
    have hnil : ds = [] := by
      refine List.eq_nil_iff_forall_not_mem.2 fun d hd => ?_
      have hfilter := List.filter_eq_nil_iff.1 (h d.split.1) d hd
      exact hfilter (by simp)
    rw [hnil]
    exact .refl _
  | cons e es ih =>
    have hfirst := h e.split.1
    rw [List.filter_cons_of_pos (by simp), List.filter_eq_cons_iff] at hfirst
    obtain ⟨before, after, rfl, hbefore, -, hafter⟩ := hfirst
    have hothers : ∀ d ∈ before, d.split.1 ≠ e.split.1 := fun d hd => by simpa using hbefore d hd
    have hrest : Declaration.KeepsOrder (before ++ after) es := by
      intro name
      have hname := h name
      by_cases he : e.split.1 = name
      · subst he
        have hnone : (before.filter fun d => d.split.1 = e.split.1) = [] :=
          List.filter_eq_nil_iff.2 hbefore
        rw [List.filter_append, hnone, List.nil_append, hafter]
      · simpa [List.filter_append, List.filter_cons, he] using hname
    exact (found.alike_foldl_cons hothers after).trans (ih hrest (found.add e))

end Collected

/-- The names of a table are those of the declarations that denote constants. -/
theorem mem_names_collect {ds : List Declaration} {name : String} :
    name ∈ (collect ds).table.names ↔ name ∈ (constantsOf ds).map Constant.name := by
  rw [table_collect, History.mem_names_of]

/-! ## Main result -/

/-- **The order of declarations.**  Lists of the same declarations have the same errors, so that
either both of them are ready or none, and their tables have the same names.  If moreover the
declarations of one name have the same order in both, then every name has the same constant, and the
same diagnostics are found.

**Proof sketch.** Errors are found by the verdicts alone, and a name is taken as soon as some
declaration gives it a constant.  For the second part, declarations of different names change places
one after the other (`Collected.alike_foldl_of_keepsOrder`). -/
theorem collect_reordered {ds es : List Declaration} (h : ds.Perm es) :
    (Diagnostic.errors (collect ds).diagnostics).Perm
      (Diagnostic.errors (collect es).diagnostics) ∧
    (collect ds).isReady = (collect es).isReady ∧
    (∀ name, name ∈ (collect ds).table.names ↔ name ∈ (collect es).table.names) ∧
    (Declaration.KeepsOrder ds es →
      (∀ name, (collect ds).table.find? name = (collect es).table.find? name) ∧
        (collect ds).diagnostics.Perm (collect es).diagnostics) := by
  have herrors : (Diagnostic.errors (collect ds).diagnostics).Perm
      (Diagnostic.errors (collect es).diagnostics) := by
    rw [errors_collect, errors_collect]
    exact h.flatMap_right _
  refine ⟨herrors, ?_, fun name => ?_, fun horder => ?_⟩
  · have hready : (collect ds).isReady = true ↔ (collect es).isReady = true := by
      rw [isReady_collect_iff, isReady_collect_iff]
      exact ⟨fun hnil => (hnil ▸ herrors).nil_eq.symm, fun hnil => (hnil ▸ herrors).eq_nil⟩
    exact Bool.eq_iff_iff.2 hready
  · rw [mem_names_collect, mem_names_collect]
    exact ((h.filterMap _).map _).mem_iff
  · have halike := Collected.alike_foldl_of_keepsOrder horder ⟨.empty, []⟩
    exact ⟨halike.find?, halike.diagnostics⟩

/-- Two declarations of `A` keep their order while `B` changes places with the first of them. -/
theorem collect_reordered_of_two_names :
    let ds : List Declaration := [⟨"A=1", none⟩, ⟨"B=2", some "Float"⟩, ⟨"A=3", none⟩]
    let es : List Declaration := [⟨"B=2", some "Float"⟩, ⟨"A=1", none⟩, ⟨"A=3", none⟩]
    ds.Perm es ∧ Declaration.KeepsOrder ds es ∧
      (collect ds).table.find? "A" = (collect es).table.find? "A" ∧
      (collect ds).table.find? "A" = some ⟨"A", .string "1"⟩ ∧
      (collect ds).diagnostics.Perm (collect es).diagnostics ∧
      (collect ds).diagnostics ≠ [] := by
  intro ds es
  have hperm : ds.Perm es := .swap _ _ _
  have horder : Declaration.KeepsOrder ds es := Declaration.keepsOrder_swap (by decide) _
  obtain ⟨hfind, hdiagnostics⟩ := (collect_reordered hperm).2.2.2 horder
  refine ⟨hperm, horder, hfind "A", ?_, hdiagnostics, ?_⟩
  · simp only [ds]
    decide
  · simp only [ds]
    decide

end BuildConst
