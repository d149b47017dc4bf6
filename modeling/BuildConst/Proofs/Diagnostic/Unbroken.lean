import BuildConst.Proofs.Language
import BuildConst.Proofs.Table.FirstDefinition
import BuildConst.Proofs.Text.Lines

/-!
# What is said about declarations stays on its lines

Diagnostics show names, value texts, hints and whole declarations as they were given, and the values
of constants as literals.  If a declaration holds no line break, then neither does any text of what
is said about it.  A literal never holds one, so the warning on a second definition stays on one
line whatever the values are.

## Main definitions

* `Diagnostic.texts` — the texts of a diagnostic.
* `Declaration.IsUnbroken`, `Diagnostic.IsUnbroken` — no text holds a line break.

## Main results

* `Declaration.isUnbroken_remarks` — what is said about one declaration.
* `isUnbroken_collect` — what is said about a list of declarations.
-/

set_option relaxedAutoImplicit false
set_option autoImplicit false

namespace BuildConst

/-- A declaration whose text and hint hold no line break. -/
structure Declaration.IsUnbroken (d : Declaration) : Prop where
  text : Text.IsLine d.text
  hint : ∀ hint ∈ d.hint, Text.IsLine hint

namespace Diagnostic

/-- The texts of a diagnostic: its message, its declaration, its notes and its hints. -/
def texts (d : Diagnostic) : List String :=
  d.message :: (d.declaration.toList ++ d.notes ++ d.hints)

/-- A diagnostic whose texts hold no line break. -/
def IsUnbroken (d : Diagnostic) : Prop :=
  ∀ text ∈ d.texts, Text.IsLine text

/-- No text holds a line break exactly if none of the parts does. -/
theorem isUnbroken_iff {d : Diagnostic} :
    d.IsUnbroken ↔ Text.IsLine d.message ∧ (∀ text ∈ d.declaration, Text.IsLine text) ∧
      (∀ note ∈ d.notes, Text.IsLine note) ∧ ∀ hint ∈ d.hints, Text.IsLine hint := by
  simp only [IsUnbroken, texts, List.forall_mem_cons, List.forall_mem_append, Option.mem_toList,
    Option.mem_def, and_assoc]

/-- A text that is put into a message as it is. -/
@[simp]
theorem isLine_toString {s : String} : Text.IsLine (toString s) ↔ Text.IsLine s :=
  Iff.rfl

/-- The warning on a second definition holds no line break, whatever the values are. -/
theorem isUnbroken_duplicate {name : String} (hname : Text.IsLine name) (kept ignored : Value) :
    (duplicate name kept.rendered ignored.rendered).IsUnbroken := by
  have hliteral (v : Value) : Text.IsLine v.rendered :=
    Text.isLine_of_isVisible v.isVisible_rendered
  simp +decide [isUnbroken_iff, duplicate, hname, hliteral]

end Diagnostic

/-! ## Names, values and hints -/

/-- The parts of a declaration hold no line break if it does not. -/
theorem Declaration.Reads.isLine {d : Declaration} {name value : String} (h : d.Reads name value)
    (hd : d.IsUnbroken) : Text.IsLine name ∧ Text.IsLine value := by
  have htext := hd.text
  rcases h.whole with ⟨hwhole, rfl⟩ | hwhole
  · rw [hwhole] at htext
    exact ⟨htext, by decide⟩
  · rw [hwhole, Text.isLine_append, Text.isLine_append] at htext
    exact ⟨htext.1.1, htext.2⟩

/-- A text without the blanks around it holds no line break if the whole text does not. -/
theorem Text.Padded.isLine {word text : String} (h : Padded word text) (htext : IsLine text) :
    IsLine word := by
  obtain ⟨before, after, rfl, -, -⟩ := h
  rw [isLine_append, isLine_append] at htext
  exact htext.1.2

/-- What is said about a hint holds no line break. -/
theorem Kind.isUnbroken_resolve {name : String} {hint : Option String} (hname : Text.IsLine name)
    (hhint : ∀ h ∈ hint, Text.IsLine h) : ∀ remark ∈ (resolve name hint).2, remark.IsUnbroken := by
  unfold resolve
  split
  · nofun
  next h =>
    have hword : Text.IsLine (Text.trim h) := (Text.padded_trim h).isLine (hhint h rfl)
    split
    · nofun
    · split
      · nofun
      · simp +decide [Diagnostic.isUnbroken_iff, Diagnostic.unsupportedKind, hname, hword]

/-- What is said about a value that is read holds no line break. -/
theorem Value.isUnbroken_read {name text : String} {k : Kind} {v : Value}
    {remarks : List Diagnostic} (h : read name text k = .ok (v, remarks))
    (hname : Text.IsLine name) (htext : Text.IsLine text) :
    ∀ remark ∈ remarks, remark.IsUnbroken := by
  rcases remarks_of_read h with rfl | ⟨truth, rfl⟩
  · nofun
  · cases truth <;>
      simp +decide [Diagnostic.isUnbroken_iff, Diagnostic.numericBool, hname, htext]

/-- A complaint about a value holds no line break. -/
theorem Value.Complaint.isUnbroken {name text : String} {k : Kind} {error : Diagnostic}
    (h : Complaint name text k error) (hname : Text.IsLine name) (htext : Text.IsLine text) :
    error.IsUnbroken := by
  cases h with
  | bool =>
    simp +decide [Diagnostic.isUnbroken_iff, Diagnostic.notBool, hname, htext]
  | @int reason =>
    cases reason <;>
      simp +decide [Diagnostic.isUnbroken_iff, Diagnostic.notInt, describeIntFault, hname, htext]
  | items =>
    simp +decide [Diagnostic.isUnbroken_iff, Diagnostic.emptyArray, hname, htext]

/-! ## Declarations -/

namespace Declaration

variable {d : Declaration}

/-- The error for a declaration that is rejected holds no line break. -/
theorem RejectedFor.isUnbroken {error : Diagnostic} (h : d.RejectedFor error)
    (hd : d.IsUnbroken) : error.IsUnbroken := by
  have htext := hd.text
  cases h with
  | blankName =>
    simp +decide [Diagnostic.isUnbroken_iff, Diagnostic.illegalPair, htext]
  | malformed hreads =>
    obtain ⟨hname, -⟩ := hreads.isLine hd
    simp +decide [Diagnostic.isUnbroken_iff, Diagnostic.invalidIdentifier, htext, hname]
  | reserved hreads =>
    obtain ⟨hname, -⟩ := hreads.isLine hd
    simp +decide [Diagnostic.isUnbroken_iff, Diagnostic.reservedIdentifier, htext, hname]
  | value hreads _ _ _ _ herror =>
    obtain ⟨hname, hvalue⟩ := hreads.isLine hd
    exact herror.isUnbroken hname hvalue

/-- **What is said about a declaration holds no line break** if the declaration does not. -/
theorem isUnbroken_remarks (hd : d.IsUnbroken) :
    ∀ remark ∈ d.validate.remarks, remark.IsUnbroken := by
  obtain ⟨hname, hvalue⟩ := (reads_split d).isLine hd
  cases htext : Text.allBlank d.text with
  | true =>
    rw [validate, if_pos htext]
    exact List.forall_mem_nil _
  | false =>
    rcases d.declares_or_rejectedFor with ⟨c, hc⟩ | ⟨error, herror⟩
    · obtain ⟨hsplit, hfault, remarks, hread⟩ :=
        constant_validate_eq_some_iff.1 (constant_validate_iff.2 hc)
      rw [hsplit] at hfault hread
      rw [validate_of_read hfault hread]
      exact List.forall_mem_append.2 ⟨Kind.isUnbroken_resolve hname hd.hint,
        Value.isUnbroken_read hread hname hvalue⟩
    · rw [validate_of_rejectedFor htext herror]
      exact List.forall_mem_singleton.2 (herror.isUnbroken hd)

end Declaration

/-- What a further declaration adds holds no line break if it does not. -/
theorem Collected.isUnbroken_add {found : Collected} {d : Declaration}
    (h : ∀ remark ∈ found.diagnostics, remark.IsUnbroken) (hd : d.IsUnbroken) :
    ∀ remark ∈ (found.add d).diagnostics, remark.IsUnbroken := by
  have hverdict := Declaration.isUnbroken_remarks hd
  cases hconstant : d.validate.constant with
  | none =>
    simp only [add, hconstant]
    exact List.forall_mem_append.2 ⟨h, hverdict⟩
  | some c =>
    obtain ⟨hsplit, -, -⟩ := Declaration.constant_validate_eq_some_iff.1 hconstant
    obtain ⟨hname, -⟩ := (Declaration.reads_split d).isLine hd
    rw [← hsplit] at hname
    have hdropped : ∀ remark ∈ (found.table.judge c).remarks c, remark.IsUnbroken := by
      rw [Insertion.remarks_eq]
      intro remark hremark
      obtain ⟨kept, -, rfl⟩ := Option.map_eq_some_iff.1 (Option.mem_toList.1 hremark)
      exact Diagnostic.isUnbroken_duplicate hname kept.value c.value
    simp only [add, hconstant]
    exact List.forall_mem_append.2 ⟨List.forall_mem_append.2 ⟨h, hverdict⟩, hdropped⟩

/-- **What is said about declarations holds no line break** if the declarations do not. -/
theorem isUnbroken_collect {ds : List Declaration} (h : ∀ d ∈ ds, d.IsUnbroken) :
    ∀ remark ∈ (collect ds).diagnostics, remark.IsUnbroken := by
  refine List.foldlRecOn (motive := fun found => ∀ remark ∈ found.diagnostics, remark.IsUnbroken)
    ds Collected.add ?_ ?_
  · exact fun remark hremark => absurd hremark List.not_mem_nil
  · exact fun found hfound d hd => Collected.isUnbroken_add hfound (h d hd)

end BuildConst
