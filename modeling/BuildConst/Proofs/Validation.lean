import BuildConst.Validation
import BuildConst.Proofs.Success

/-!
# What validation accepts

A declaration denotes a constant exactly if its name is an identifier that can name one and its
value text can be read by the kind that its hint is resolved to.  A name of that form is not blank,
so neither is the declaration; the checks for blank texts only choose between messages.  Every other
declaration that is not blank is rejected with one error.

## Main definitions

* `Diagnostic.IsNotice` — a remark on a constant that is accepted all the same.

## Main results

* `Declaration.validate_of_read` — the verdict on a declaration that denotes a constant.
* `Declaration.constant_validate_eq_some_iff` — which declarations denote which constants.
* `Declaration.validate_cases` — the outcomes of validation.
-/

set_option relaxedAutoImplicit false
set_option autoImplicit false

namespace BuildConst

/-! ## Characters of names -/

namespace Identifier

/-- The characters of names lie between the digits and the letters in the order of ASCII. -/
theorem code_of_isSubsequent {c : Char} (h : isSubsequent c = true) :
    0x30 ≤ c.toNat ∧ c.toNat ≤ 0x7a := by
  delta isSubsequent Char.isAlphanum Char.isAlpha Char.isUpper Char.isLower Char.isDigit at h
  simp only [Bool.or_eq_true, Bool.and_eq_true, decide_eq_true_eq, beq_iff_eq, ge_iff_le,
    UInt32.le_iff_toNat_le] at h
  change (((0x41 ≤ c.toNat ∧ c.toNat ≤ 0x5a) ∨ (0x61 ≤ c.toNat ∧ c.toNat ≤ 0x7a)) ∨
    (0x30 ≤ c.toNat ∧ c.toNat ≤ 0x39)) ∨ c = '_' at h
  rcases h with ((hupper | hlower) | hdigit) | rfl
  · omega
  · omega
  · omega
  · decide

/-- The characters of a name of the right form. -/
theorem isSubsequent_of_wellFormed {name : String} (h : wellFormed name = true) :
    ∀ c ∈ name.toList, isSubsequent c = true := by
  have hinitial (c : Char) (hc : isInitial c = true) : isSubsequent c = true := by
    simp only [isInitial, isSubsequent, Char.isAlphanum, Bool.or_eq_true] at hc ⊢
    exact hc.imp_left .inl
  unfold wellFormed at h
  split at h
  · cases h
  next c rest hname =>
    rw [Bool.and_eq_true, List.all_eq_true] at h
    intro d hd
    rw [hname] at hd
    rcases List.mem_cons.1 hd with rfl | hrest
    · exact hinitial d h.1
    · exact h.2 d hrest

/-- A name without a fault has the form of one. -/
theorem wellFormed_of_fault? {name : String} (h : fault? name = none) : wellFormed name = true := by
  unfold fault? at h
  cases hform : wellFormed name with
  | true => rfl
  | false => simp [hform] at h

/-- No character of a name is blank. -/
theorem isBlank_of_wellFormed {name : String} (h : wellFormed name = true) :
    ∀ c ∈ name.toList, Text.isBlank c = false := by
  intro c hc
  obtain ⟨hlow, hhigh⟩ := code_of_isSubsequent (isSubsequent_of_wellFormed h c hc)
  exact Text.isBlank_eq_false (by omega) (by omega)

/-- A text that holds the characters of a name is not blank. -/
theorem allBlank_of_wellFormed {name text : String} (h : wellFormed name = true)
    (hchars : ∀ c ∈ name.toList, c ∈ text.toList) : Text.allBlank text = false := by
  obtain ⟨c, hc⟩ : ∃ c, c ∈ name.toList := by
    cases hname : name.toList with
    | nil => simp [wellFormed, hname] at h
    | cons c rest => exact ⟨c, List.mem_cons_self⟩
  refine List.all_eq_false.2 ⟨c, hchars c hc, ?_⟩
  simp [isBlank_of_wellFormed h c hc]

end Identifier

/-! ## Remarks of verdicts -/

/-- A remark on a constant that is accepted all the same: its kind is not known, or it is a truth
value that was written as a number. -/
def Diagnostic.IsNotice (name : String) (remark : Diagnostic) : Prop :=
  (∃ hint, remark = .unsupportedKind name hint) ∨
    ∃ text truth, remark = .numericBool name text truth

/-- Such a remark is a warning. -/
theorem Diagnostic.isError_of_isNotice {name : String} {remark : Diagnostic}
    (h : IsNotice name remark) : remark.isError = false := by
  rcases h with ⟨hint, rfl⟩ | ⟨text, truth, rfl⟩
  · rfl
  · rfl

/-- A hint that is not understood is reported, and then the kind is that of texts. -/
theorem Kind.resolve_cases (name : String) (hint : Option String) :
    (resolve name hint).2 = [] ∨
      ∃ h, resolve name hint = (.string, [.unsupportedKind name h]) := by
  unfold resolve
  split
  · exact .inl rfl
  next h =>
    split
    · exact .inl rfl
    · split
      · exact .inl rfl
      · exact .inr ⟨Text.trim h, rfl⟩

/-- Reading a value is remarked on only if it is a truth value that was written as a number. -/
theorem Value.remarks_of_read {name text : String} {k : Kind} {v : Value}
    {remarks : List Diagnostic} (h : read name text k = .ok (v, remarks)) :
    remarks = [] ∨ ∃ truth, remarks = [.numericBool name text truth] := by
  cases k with
  | string =>
    obtain ⟨-, rfl⟩ := Prod.mk.inj (Except.ok.inj h)
    exact .inl rfl
  | bool =>
    rw [read, Except.map_eq_ok_iff] at h
    obtain ⟨b, -, hb⟩ := h
    obtain ⟨-, rfl⟩ := Prod.mk.inj hb
    cases b.numeric with
    | true => exact .inr ⟨b.value, rfl⟩
    | false => exact .inl rfl
  | int =>
    rw [read, Except.map_eq_ok_iff] at h
    obtain ⟨n, -, hn⟩ := h
    obtain ⟨-, rfl⟩ := Prod.mk.inj hn
    exact .inl rfl
  | stringArray =>
    rw [read, Except.map_eq_ok_iff] at h
    obtain ⟨items, -, hitems⟩ := h
    obtain ⟨-, rfl⟩ := Prod.mk.inj hitems
    exact .inl rfl

/-- A value that cannot be read is an error. -/
theorem Value.Fault.isError_diagnostic (name value : String) (fault : Value.Fault) :
    (fault.diagnostic name value).isError = true := by
  cases fault with
  | notBool => rfl
  | notInt => rfl
  | roundTrip => rfl
  | emptyArray => rfl

/-! ## Verdicts -/

namespace Declaration

/-- The name of a declaration is a part of its text. -/
theorem mem_toList_of_split {d : Declaration} :
    ∀ c ∈ d.split.1.toList, c ∈ d.text.toList := by
  intro c hc
  unfold split at hc
  split at hc
  next name value hsplit =>
    obtain ⟨htext, -⟩ := Text.splitFirst_eq_some_iff.1 hsplit
    rw [String.toList_ofList] at hc
    rw [htext]
    exact List.mem_append_left _ hc
  next => exact hc

/-- A declaration whose name can name a constant is not blank, and neither is the name. -/
theorem allBlank_of_fault? {d : Declaration} (h : Identifier.fault? d.split.1 = none) :
    Text.allBlank d.text = false ∧ Text.allBlank d.split.1 = false := by
  have hform := Identifier.wellFormed_of_fault? h
  exact ⟨Identifier.allBlank_of_wellFormed hform d.mem_toList_of_split,
    Identifier.allBlank_of_wellFormed hform fun c hc => hc⟩

/-- The verdict on a declaration that denotes a constant. -/
theorem validate_of_read {d : Declaration} {v : Value} {remarks : List Diagnostic}
    (h : Identifier.fault? d.split.1 = none)
    (hread : Value.read d.split.1 d.split.2 (Kind.resolve d.split.1 d.hint).1 = .ok (v, remarks)) :
    d.validate = ⟨some ⟨d.split.1, v⟩, (Kind.resolve d.split.1 d.hint).2 ++ remarks⟩ := by
  obtain ⟨htext, hname⟩ := allBlank_of_fault? h
  simp only [validate, htext, hname, h, hread, Bool.false_eq_true, if_false]

/-- A declaration whose value text cannot be read denotes no constant. -/
theorem constant_validate_of_read {d : Declaration} {fault : Value.Fault}
    (h : Identifier.fault? d.split.1 = none)
    (hread : Value.read d.split.1 d.split.2 (Kind.resolve d.split.1 d.hint).1 = .error fault) :
    d.validate.constant = none := by
  obtain ⟨htext, hname⟩ := allBlank_of_fault? h
  simp only [validate, htext, hname, h, hread, Bool.false_eq_true, if_false]

/-- A declaration whose name cannot name a constant denotes none. -/
theorem constant_validate_of_fault? {d : Declaration} {fault : Identifier.Fault}
    (h : Identifier.fault? d.split.1 = some fault) : d.validate.constant = none := by
  unfold validate
  split
  · rfl
  · dsimp only
    split
    · rfl
    · rw [h]
      cases fault <;> rfl

/-- **Which declarations denote constants**: those whose name can name one and whose value text can
be read by the kind that is asked for. -/
theorem constant_validate_eq_some_iff {d : Declaration} {c : Constant} :
    d.validate.constant = some c ↔
      c.name = d.split.1 ∧ Identifier.fault? c.name = none ∧
        ∃ remarks, Value.read c.name d.split.2 (Kind.resolve c.name d.hint).1 =
          .ok (c.value, remarks) := by
  constructor
  · intro h
    cases hfault : Identifier.fault? d.split.1 with
    | some fault =>
      rw [constant_validate_of_fault? hfault] at h
      cases h
    | none =>
      rcases hread : Value.read d.split.1 d.split.2 (Kind.resolve d.split.1 d.hint).1 with
        fault | ⟨value, remarks⟩
      · rw [constant_validate_of_read hfault hread] at h
        cases h
      · rw [validate_of_read hfault hread] at h
        obtain rfl := Option.some.inj h
        exact ⟨rfl, hfault, remarks, hread⟩
  · rintro ⟨hname, hfault, remarks, hread⟩
    rw [hname] at hfault hread
    rw [validate_of_read hfault hread, ← hname]

/-- **The outcomes of validation.**  A blank declaration is passed over.  Any other one is either
rejected with a single error, or it denotes a constant of its name, with one remark at most.

**Proof sketch.** By the order of the checks.  The kind is remarked on only if it falls back to
texts, and texts are read without a remark, so no declaration has two remarks or a remark and an
error. -/
theorem validate_cases (d : Declaration) :
    (Text.allBlank d.text = true ∧ d.validate = ⟨none, []⟩) ∨
    (Text.allBlank d.text = false ∧ ∃ error : Diagnostic,
      error.isError = true ∧ d.validate = ⟨none, [error]⟩) ∨
    (Text.allBlank d.text = false ∧ ∃ c remarks,
      d.validate = ⟨some c, remarks⟩ ∧ c.name = d.split.1 ∧ remarks.length ≤ 1 ∧
        ∀ remark ∈ remarks, Diagnostic.IsNotice c.name remark) := by
  cases htext : Text.allBlank d.text with
  | true => exact .inl ⟨rfl, by rw [validate, if_pos htext]⟩
  | false =>
    refine .inr ?_
    cases hname : Text.allBlank d.split.1 with
    | true => exact .inl ⟨rfl, .illegalPair d.text, rfl, by simp [validate, htext, hname]⟩
    | false =>
      cases hfault : Identifier.fault? d.split.1 with
      | some fault =>
        cases fault with
        | malformed =>
          exact .inl ⟨rfl, .invalidIdentifier d.split.1 d.text, rfl,
            by simp [validate, htext, hname, hfault]⟩
        | reserved =>
          exact .inl ⟨rfl, .reservedIdentifier d.split.1 d.text, rfl,
            by simp [validate, htext, hname, hfault]⟩
      | none =>
        rcases Kind.resolve_cases d.split.1 d.hint with hkind | ⟨hint, hkind⟩
        · rcases hread : Value.read d.split.1 d.split.2 (Kind.resolve d.split.1 d.hint).1 with
            fault | ⟨value, remarks⟩
          · refine .inl ⟨rfl, fault.diagnostic d.split.1 d.split.2, fault.isError_diagnostic _ _, ?_⟩
            simp [validate, htext, hname, hfault, hread, hkind]
          · have hverdict := validate_of_read hfault hread
            rw [hkind, List.nil_append] at hverdict
            refine .inr ⟨rfl, ⟨d.split.1, value⟩, remarks, hverdict, rfl, ?_⟩
            rcases Value.remarks_of_read hread with rfl | ⟨truth, rfl⟩
            · exact ⟨Nat.zero_le 1, nofun⟩
            · exact ⟨Nat.le_refl 1, fun remark h => .inr ⟨_, truth, List.mem_singleton.1 h⟩⟩
        · have hread : Value.read d.split.1 d.split.2 (Kind.resolve d.split.1 d.hint).1 =
              .ok (.string d.split.2, []) := by
            rw [hkind]
            rfl
          have hverdict := validate_of_read hfault hread
          rw [hkind, List.append_nil] at hverdict
          exact .inr ⟨rfl, ⟨d.split.1, .string d.split.2⟩, _, hverdict, rfl, Nat.le_refl 1,
            fun remark h => .inl ⟨hint, List.mem_singleton.1 h⟩⟩

end Declaration

end BuildConst
