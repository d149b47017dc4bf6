import BuildConst.Validation
import BuildConst.Proofs.Decimal
import BuildConst.Proofs.Success

/-!
# Values are read back from their declarations

A value can be declared by a text of its own: a string by itself, a truth value by its word, an
integer by its decimal form, and a list by its items with semicolons between them.  Each of them is
read back by its kind without a remark.  Lists have to have items that are not empty and hold no
semicolon, and the lists that are read are all of that form.

## Main definitions

* `Value.declared` — the text by which a value is declared.
* `Value.Declarable` — the values that a text can declare.

## Main results

* `Value.read_declared` — values are read back.
* `Value.declarable_of_read` — only such values are read.
-/

set_option relaxedAutoImplicit false
set_option autoImplicit false

namespace BuildConst.Value

/-- The text by which a value is declared. -/
def declared : Value → String
  | string text => text
  | bool truth => if truth then "true" else "false"
  | int number => toString number.toInt
  | stringArray items => ";".intercalate items

/-- A value that a text can declare.  The items of a list must not be lost when they are joined. -/
def Declarable : Value → Prop
  | stringArray items => items ≠ [] ∧ ∀ item ∈ items, item ≠ "" ∧ ';' ∉ item.toList
  | _ => True

/-! ## Integers -/

/-- The decimal form of an integer holds no blank character. -/
theorem isBlank_of_mem_toString (n : Int) :
    ∀ c ∈ (toString n).toList, Text.isBlank c = false := by
  have hdigit (m : Nat) : ∀ c ∈ Nat.toDigits 10 m, Text.isBlank c = false := by
    intro c hc
    have hc' := Decimal.isDigit_toDigits m c hc
    rw [Char.isDigit, Bool.and_eq_true, decide_eq_true_eq, decide_eq_true_eq, ge_iff_le,
      UInt32.le_iff_toNat_le, UInt32.le_iff_toNat_le] at hc'
    change 0x30 ≤ c.toNat ∧ c.toNat ≤ 0x39 at hc'
    exact Text.isBlank_eq_false (by omega) (by omega)
  rw [Int.toString_eq_repr, Int.repr_eq_if]
  split
  · rw [Nat.toList_repr]
    exact hdigit n.toNat
  · rw [String.toList_append, Nat.toList_repr]
    intro c hc
    rcases List.mem_append.1 hc with hminus | hdigits
    · rw [List.mem_singleton.1 hminus]
      decide
    · exact hdigit (-n).toNat c hdigits

/-- An integer is read back from its decimal form, and so the form is read as the same integer when
it is looked at again. -/
theorem readInt_toString (n : Int32) : readInt (toString n.toInt) = .ok n := by
  have hbound : Nat.pow 2 (32 - 1) = 2147483648 := rfl
  have hlow := n.le_toInt
  have hhigh := n.toInt_lt
  have hread : Decimal.read 32 (toString n.toInt).toList = .ok n.toInt :=
    Decimal.read_toString hbound (by omega) (by omega)
  simp only [readInt, Text.trim_eq_self (isBlank_of_mem_toString n.toInt), hread, if_true,
    Int32.ofInt_toInt]

/-! ## Lists -/

/-- Items are read back from the text that they were joined to. -/
theorem readItems_intercalate {items : List String} (hne : items ≠ [])
    (h : ∀ item ∈ items, item ≠ "" ∧ ';' ∉ item.toList) :
    readItems (";".intercalate items) = .ok items := by
  have hpieces : Text.pieces ';' (";".intercalate items).toList = items.map String.toList := by
    rw [String.toList_intercalate]
    refine Text.pieces_intercalate (by simpa using hne) fun piece hpiece => ?_
    obtain ⟨item, hitem, rfl⟩ := List.mem_map.1 hpiece
    exact (h item hitem).2
  have hkept : (items.map String.toList).filter (fun piece => !piece.isEmpty) =
      items.map String.toList := by
    refine List.filter_eq_self.2 fun piece hpiece => ?_
    obtain ⟨item, hitem, rfl⟩ := List.mem_map.1 hpiece
    simpa using (h item hitem).1
  have hsome : (items.map String.toList).isEmpty = false := by simpa using hne
  have hback : (items.map String.toList).map String.ofList = items := by simp
  simp only [readItems, hpieces, hkept, hsome, hback, Bool.false_eq_true, if_false]

/-- The items that are read are not empty and hold no semicolon. -/
theorem declarable_of_readItems {text : String} {items : List String}
    (h : readItems text = .ok items) :
    items ≠ [] ∧ ∀ item ∈ items, item ≠ "" ∧ ';' ∉ item.toList := by
  unfold readItems at h
  dsimp only at h
  split at h
  next => cases h
  next hsome =>
    obtain rfl := Except.ok.inj h
    refine ⟨by simpa using hsome, fun item hitem => ?_⟩
    obtain ⟨piece, hpiece, rfl⟩ := List.mem_map.1 hitem
    obtain ⟨hpieces, hnonempty⟩ := List.mem_filter.1 hpiece
    refine ⟨by simpa using hnonempty, ?_⟩
    rw [String.toList_ofList]
    exact Text.notMem_of_mem_pieces hpieces

/-! ## Values -/

/-- **Values are read back** from the texts that declare them, without a remark. -/
theorem read_declared {v : Value} (h : v.Declarable) (name : String) :
    read name v.declared v.kind = .ok (v, []) := by
  cases v with
  | string text => rfl
  | bool truth =>
    have hread : readBool (declared (bool truth)) = .ok ⟨truth, false⟩ := by
      cases truth <;> rfl
    simp [read, kind, hread, Except.map]
  | int number => simp only [read, kind, declared, readInt_toString, Except.map]
  | stringArray items =>
    simp only [read, kind, declared, readItems_intercalate h.1 h.2, Except.map]

/-- A value that is read from a text can be declared by one. -/
theorem declarable_of_read {name text : String} {k : Kind} {v : Value} {remarks : List Diagnostic}
    (h : read name text k = .ok (v, remarks)) : v.Declarable := by
  cases k with
  | string =>
    simp only [read, Except.ok.injEq, Prod.mk.injEq] at h
    rw [← h.1]
    trivial
  | bool =>
    simp only [read, Except.map_eq_ok_iff, Prod.mk.injEq] at h
    obtain ⟨b, -, rfl, -⟩ := h
    trivial
  | int =>
    simp only [read, Except.map_eq_ok_iff, Prod.mk.injEq] at h
    obtain ⟨n, -, rfl, -⟩ := h
    trivial
  | stringArray =>
    simp only [read, Except.map_eq_ok_iff, Prod.mk.injEq] at h
    obtain ⟨items, hitems, rfl, -⟩ := h
    exact declarable_of_readItems hitems

end BuildConst.Value
