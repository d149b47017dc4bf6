import BuildConst.Collected
import BuildConst.Proofs.Validation
import BuildConst.Proofs.Value.Language

/-!
# The language of declarations

A declaration denotes a constant exactly if it consists of a name and the text of a value that the
kind asked for can have.  This is stated here by what the texts look like, apart from how they are
checked.  Every other declaration that is not blank is rejected for the first thing that is wrong
with it.

## Main definitions

* `Identifier.IsName` — the texts of the form of a name.
* `Kind.AskedFor` — the kind that a hint asks for.
* `Declaration.Reads` — a declaration taken apart into a name and the text of a value.
* `Declaration.Declares` — the constant that a declaration denotes.
* `Declaration.RejectedFor` — the first thing that is wrong with a declaration.

## Main results

* `Identifier.fault?_eq_none_iff` — the names that a constant can have.
* `Kind.resolve_eq_iff` — the kinds of constants.
* `Declaration.validate_language` — what is accepted, and what the others are rejected for.
-/

set_option relaxedAutoImplicit false
set_option autoImplicit false

namespace BuildConst

/-! ## Names -/

namespace Identifier

/-- A letter or an underscore. -/
def IsLetter (c : Char) : Prop :=
  ('A' ≤ c ∧ c ≤ 'Z') ∨ ('a' ≤ c ∧ c ≤ 'z') ∨ c = '_'

/-- A letter or an underscore, followed by letters, underscores and digits. -/
def IsName (name : String) : Prop :=
  ∃ c rest, name.toList = c :: rest ∧ IsLetter c ∧
    ∀ d ∈ rest, IsLetter d ∨ ('0' ≤ d ∧ d ≤ '9')

/-- The characters that may begin a name are the letters and the underscore. -/
theorem isInitial_iff {c : Char} : isInitial c = true ↔ IsLetter c := by
  delta isInitial Char.isAlpha Char.isUpper Char.isLower
  simp [IsLetter, Char.le_def, or_assoc]

/-- The characters that may follow are those and the digits. -/
theorem isSubsequent_iff {c : Char} :
    isSubsequent c = true ↔ IsLetter c ∨ ('0' ≤ c ∧ c ≤ '9') := by
  rw [← isInitial_iff]
  delta isSubsequent isInitial Char.isAlphanum Char.isDigit
  simp only [Bool.or_eq_true, Bool.and_eq_true, decide_eq_true_eq, ge_iff_le, Char.le_def]
  exact or_right_comm

/-- A text has the form of a name exactly if it is one. -/
theorem wellFormed_iff {name : String} : wellFormed name = true ↔ IsName name := by
  unfold wellFormed IsName
  cases name.toList with
  | nil => simp
  | cons c rest =>
    rw [Bool.and_eq_true, List.all_eq_true, isInitial_iff]
    simp only [isSubsequent_iff]
    constructor
    · rintro ⟨hc, hrest⟩
      exact ⟨c, rest, rfl, hc, hrest⟩
    · rintro ⟨_, _, h, hc, hrest⟩
      obtain ⟨rfl, rfl⟩ := List.cons.inj h
      exact ⟨hc, hrest⟩

/-- **The names that a constant can have** are all but five. -/
theorem fault?_eq_none_iff {name : String} :
    fault? name = none ↔ IsName name ∧ name ∉ ["_", "self", "Self", "super", "crate"] := by
  rw [← wellFormed_iff]
  change _ ↔ _ ∧ name ∉ reservedNames
  unfold fault?
  cases wellFormed name <;> by_cases hmem : name ∈ reservedNames <;> simp [hmem]

/-- A name is malformed exactly if it is none. -/
theorem fault?_eq_malformed_iff {name : String} :
    fault? name = some .malformed ↔ ¬IsName name := by
  rw [← wellFormed_iff]
  unfold fault?
  cases wellFormed name <;> by_cases hmem : name ∈ reservedNames <;> simp [hmem]

/-- A name is reserved exactly if it is one of the five. -/
theorem fault?_eq_reserved_iff {name : String} :
    fault? name = some .reserved ↔
      IsName name ∧ name ∈ ["_", "self", "Self", "super", "crate"] := by
  rw [← wellFormed_iff]
  change _ ↔ _ ∧ name ∈ reservedNames
  unfold fault?
  cases wellFormed name <;> by_cases hmem : name ∈ reservedNames <;> simp [hmem]

end Identifier

/-! ## Hints -/

namespace Kind

/-- The kind that a hint asks for.  A hint that is missing, blank or not known asks for a text. -/
inductive AskedFor : Option String → Kind → Prop
  | missing : AskedFor none .string
  | blank {hint : String} (h : Text.allBlank hint = true) : AskedFor (some hint) .string
  | hinted {hint : String} {k : Kind} (h : k.HintedBy hint) : AskedFor (some hint) k
  | unknown {hint : String} (h : ∀ k : Kind, ¬k.HintedBy hint) : AskedFor (some hint) .string

/-- **The hints that are understood as a kind** are its spellings in any letter case, with any
blanks around them. -/
theorem hintedBy_iff {k : Kind} {hint : String} : k.HintedBy hint ↔ ofHint? hint = some k := by
  constructor
  · exact ofHint?_of_hintedBy
  · intro h
    have hspelling := List.find?_some h
    obtain ⟨spelling, hmem, hletters⟩ := List.any_eq_true.1 hspelling
    obtain ⟨before, after, htext, hbefore, hafter⟩ := Text.padded_trim hint
    rw [Text.sameLetters_iff, eq_comm, ← Text.sameLetters_iff, ← Text.recased_iff] at hletters
    exact ⟨spelling, hmem, before, Text.trim hint, after, htext, hbefore, hletters, hafter⟩

/-- **The kind of a constant** is the one that its hint asks for. -/
theorem resolve_eq_iff {name : String} {hint : Option String} {k : Kind} :
    (resolve name hint).1 = k ↔ AskedFor hint k := by
  constructor
  · rintro rfl
    unfold resolve
    split
    · exact .missing
    next hint =>
      split
      next hblank => exact .blank hblank
      next =>
        split
        next k hkind => exact .hinted (hintedBy_iff.2 hkind)
        next hkind =>
          refine .unknown fun k hhinted => ?_
          rw [hintedBy_iff, hkind] at hhinted
          cases hhinted
  · intro h
    cases h with
    | missing => rfl
    | blank hblank =>
      rw [resolve, if_pos hblank]
      rfl
    | hinted hhinted => rw [resolve_of_hintedBy hhinted]
    | @unknown hint hnone =>
      have hkind : ofHint? hint = none := by
        rw [Option.eq_none_iff_forall_ne_some]
        exact fun k hk => hnone k (hintedBy_iff.2 hk)
      rw [resolve]
      split
      · rfl
      · rw [hkind]
        rfl

end Kind

/-! ## Declarations -/

namespace Declaration

/-- A declaration taken apart: a name without an equals sign, and the text of a value behind the
first equals sign, or no text if there is no equals sign. -/
structure Reads (d : Declaration) (name value : String) : Prop where
  first : '=' ∉ name.toList
  whole : d.text = name ∧ value = "" ∨ d.text = name ++ "=" ++ value

/-- The constant that a declaration denotes. -/
structure Declares (d : Declaration) (c : Constant) : Prop where
  name : Identifier.IsName c.name
  free : c.name ∉ ["_", "self", "Self", "super", "crate"]
  kind : Kind.AskedFor d.hint c.value.kind
  value : ∃ text, d.Reads c.name text ∧ c.value.Denotes text

/-- The first thing that is wrong with a declaration that is not blank. -/
inductive RejectedFor (d : Declaration) : Diagnostic → Prop
  | blankName {name value : String} (h : d.Reads name value)
      (hblank : Text.allBlank name = true) : RejectedFor d (.illegalPair d.text)
  | malformed {name value : String} (h : d.Reads name value)
      (hblank : Text.allBlank name = false) (hname : ¬Identifier.IsName name) :
      RejectedFor d (.invalidIdentifier name d.text)
  | reserved {name value : String} (h : d.Reads name value)
      (hname : name ∈ ["_", "self", "Self", "super", "crate"]) :
      RejectedFor d (.reservedIdentifier name d.text)
  | value {name value : String} {k : Kind} {error : Diagnostic} (h : d.Reads name value)
      (hname : Identifier.IsName name) (hfree : name ∉ ["_", "self", "Self", "super", "crate"])
      (hkind : Kind.AskedFor d.hint k) (hnone : ∀ v, Value.Denotes value v → v.kind ≠ k)
      (herror : Value.Complaint name value k error) : RejectedFor d error

/-- A declaration is taken apart where it is split. -/
theorem reads_iff {d : Declaration} {name value : String} :
    d.Reads name value ↔ d.split = (name, value) := by
  unfold split
  constructor
  · rintro ⟨hfirst, ⟨htext, rfl⟩ | htext⟩
    · rw [htext, Text.splitFirst_eq_none_iff.2 hfirst]
    · have hsplit : Text.splitFirst '=' d.text.toList = some (name.toList, value.toList) := by
        refine Text.splitFirst_eq_some_iff.2 ⟨?_, hfirst⟩
        simp [htext]
      rw [hsplit]
      simp
  · intro h
    split at h
    next before after hsplit =>
      obtain ⟨rfl, rfl⟩ := Prod.mk.inj h
      obtain ⟨htext, hfirst⟩ := Text.splitFirst_eq_some_iff.1 hsplit
      refine ⟨by simpa using hfirst, .inr ?_⟩
      rw [← String.toList_inj]
      simp [htext]
    next hsplit =>
      obtain ⟨rfl, rfl⟩ := Prod.mk.inj h
      exact ⟨Text.splitFirst_eq_none_iff.1 hsplit, .inl ⟨rfl, rfl⟩⟩

/-- Every declaration is taken apart where it is split. -/
theorem reads_split (d : Declaration) : d.Reads d.split.1 d.split.2 :=
  reads_iff.2 rfl

/-- A declaration is taken apart in one way. -/
theorem Reads.eq {d : Declaration} {name value : String} (h : d.Reads name value) :
    name = d.split.1 ∧ value = d.split.2 := by
  rw [reads_iff.1 h]
  exact ⟨rfl, rfl⟩

/-- **Which constant a declaration denotes**, if any. -/
theorem constant_validate_iff {d : Declaration} {c : Constant} :
    d.validate.constant = some c ↔ d.Declares c := by
  rw [constant_validate_eq_some_iff]
  constructor
  · rintro ⟨hname, hfault, hread⟩
    obtain ⟨hform, hfree⟩ := Identifier.fault?_eq_none_iff.1 hfault
    obtain ⟨hdenotes, hkind⟩ := Value.read_eq_ok_iff.1 hread
    refine ⟨hform, hfree, Kind.resolve_eq_iff.1 hkind.symm, d.split.2, ?_, hdenotes⟩
    rw [hname]
    exact reads_split d
  · rintro ⟨hform, hfree, hkind, text, hreads, hdenotes⟩
    obtain ⟨hname, rfl⟩ := hreads.eq
    refine ⟨hname, Identifier.fault?_eq_none_iff.2 ⟨hform, hfree⟩, ?_⟩
    exact Value.read_eq_ok_iff.2 ⟨hdenotes, (Kind.resolve_eq_iff.2 hkind).symm⟩

/-- A declaration denotes a constant, or there is something wrong with it. -/
theorem declares_or_rejectedFor (d : Declaration) :
    (∃ c, d.Declares c) ∨ ∃ error, d.RejectedFor error := by
  have hreads := reads_split d
  cases hblank : Text.allBlank d.split.1 with
  | true => exact .inr ⟨_, .blankName hreads hblank⟩
  | false =>
    by_cases hname : Identifier.IsName d.split.1
    · by_cases hfree : d.split.1 ∈ ["_", "self", "Self", "super", "crate"]
      · exact .inr ⟨_, .reserved hreads hfree⟩
      · have hkind : Kind.AskedFor d.hint (Kind.resolve d.split.1 d.hint).1 :=
          Kind.resolve_eq_iff.1 rfl
        rcases hread : Value.read d.split.1 d.split.2 (Kind.resolve d.split.1 d.hint).1 with
          fault | ⟨v, remarks⟩
        · refine .inr ⟨_, .value hreads hname hfree hkind ?_ (Value.complaint_of_read hread)⟩
          intro v hdenotes hv
          obtain ⟨remarks, hok⟩ := Value.read_eq_ok_iff.2 ⟨hdenotes, hv⟩
          rw [hread] at hok
          cases hok
        · obtain ⟨hdenotes, hv⟩ := Value.read_eq_ok_iff.1 ⟨remarks, hread⟩
          rw [← hv] at hkind
          exact .inl ⟨⟨d.split.1, v⟩, hname, hfree, hkind, d.split.2, hreads, hdenotes⟩
    · exact .inr ⟨_, .malformed hreads hblank hname⟩

/-- **What is wrong with a declaration is all that is said about it**: there is no constant and one
error. -/
theorem validate_of_rejectedFor {d : Declaration} {error : Diagnostic}
    (htext : Text.allBlank d.text = false) (h : d.RejectedFor error) :
    d.validate = ⟨none, [error]⟩ := by
  cases h with
  | blankName hreads hblank =>
    obtain ⟨rfl, rfl⟩ := hreads.eq
    simp [validate, htext, hblank]
  | malformed hreads hblank hname =>
    obtain ⟨rfl, rfl⟩ := hreads.eq
    have hfault := Identifier.fault?_eq_malformed_iff.2 hname
    simp [validate, htext, hblank, hfault]
  | reserved hreads hmem =>
    obtain ⟨rfl, rfl⟩ := hreads.eq
    have hform : Identifier.wellFormed d.split.1 = true :=
      (by decide : ∀ name ∈ ["_", "self", "Self", "super", "crate"],
        Identifier.wellFormed name = true) _ hmem
    have hblank := Identifier.allBlank_of_wellFormed hform fun c hc => hc
    have hfault := Identifier.fault?_eq_reserved_iff.2 ⟨Identifier.wellFormed_iff.1 hform, hmem⟩
    simp [validate, htext, hblank, hfault]
  | value hreads hname hfree hkind hnone herror =>
    obtain ⟨rfl, rfl⟩ := hreads.eq
    have hresolve : (Kind.resolve d.split.1 d.hint).1 = _ := Kind.resolve_eq_iff.2 hkind
    subst hresolve
    have hfault := Identifier.fault?_eq_none_iff.2 ⟨hname, hfree⟩
    obtain ⟨-, hblank⟩ := allBlank_of_fault? hfault
    rcases hread : Value.read d.split.1 d.split.2 (Kind.resolve d.split.1 d.hint).1 with
      fault | ⟨v, remarks⟩
    · obtain rfl := herror.eq (Value.complaint_of_read hread)
      -- A hint that is not known asks for a text, and every text is read.
      rcases Kind.resolve_cases d.split.1 d.hint with hkind | ⟨hint, hkind⟩
      · simp [validate, htext, hblank, hfault, hread, hkind]
      · rw [hkind] at hread
        cases hread
    · obtain ⟨hdenotes, hv⟩ := Value.read_eq_ok_iff.1 ⟨remarks, hread⟩
      exact absurd hv (hnone v hdenotes)

/-- **What is accepted, and what the others are rejected for.**  A declaration is accepted as the
constant that it denotes by its name, its kind and its value.  One that is blank is passed over.
Every other one is rejected with a single error, which is the first thing that is wrong with it.
None of this depends on what was collected before: earlier diagnostics stay in front of what is said
about the declaration, and the table takes up the constant, if there is one.

**Proof sketch.** By the order of the checks.  A name that can name a constant is not blank, so the
check for blank texts takes nothing from the language; and a value is read by a kind exactly if the
text denotes a value of that kind (`Value.read_eq_ok_iff`). -/
theorem validate_language (d : Declaration) :
    (∀ c, d.validate.constant = some c ↔ d.Declares c) ∧
    (Text.allBlank d.text = true → d.validate = ⟨none, []⟩) ∧
    (Text.allBlank d.text = false → d.validate.constant = none →
      ∃ error, d.RejectedFor error) ∧
    (Text.allBlank d.text = false →
      ∀ error, d.RejectedFor error ↔ d.validate = ⟨none, [error]⟩) ∧
    ∀ found : Collected,
      (d.validate.constant = none →
        found.add d = ⟨found.table, found.diagnostics ++ d.validate.remarks⟩) ∧
      ∀ c, d.validate.constant = some c →
        found.add d = ⟨found.table.insert c,
          found.diagnostics ++ d.validate.remarks ++ (found.table.judge c).remarks c⟩ := by
  have hrejected (hnone : d.validate.constant = none) : ∃ error, d.RejectedFor error := by
    rcases declares_or_rejectedFor d with ⟨c, hc⟩ | hwrong
    · rw [constant_validate_iff.2 hc] at hnone
      cases hnone
    · exact hwrong
  refine ⟨fun c => constant_validate_iff, fun htext => ?_, fun _ => hrejected, ?_, ?_⟩
  · rw [validate, if_pos htext]
  · intro htext error
    constructor
    · exact validate_of_rejectedFor htext
    · intro h
      obtain ⟨other, hother⟩ := hrejected (by rw [h])
      have hsame := (validate_of_rejectedFor htext hother).symm.trans h
      obtain rfl : other = error := by simpa using hsame
      exact hother
  · intro found
    constructor
    · intro hnone
      simp only [Collected.add, hnone]
    · intro c hc
      simp only [Collected.add, hc]

end Declaration

end BuildConst
