import Mathlib.Data.List.Forall2
import BuildConst.Proofs.Hint

/-!
# Blanks around a word, and its letter case

Trimming takes a text apart into what is trimmed and the blanks around it.  So a word without blanks
is what a text trims to exactly if the text is that word with blanks around it.  Two texts have the
same letters exactly if one of them is the other one with its letters in other cases.

## Main definitions

* `Text.Padded` — a text with blanks around it.

## Main results

* `Text.padded_trim`, `Text.padded_iff` — trimming takes the blanks away and nothing else.
* `Text.recased_iff` — having the same letters is being the same but for letter case.
* `Text.isBlank_of_recased` — letter case does not matter for blanks.
-/

set_option relaxedAutoImplicit false
set_option autoImplicit false

namespace BuildConst

/-- A word with blanks around it. -/
def Text.Padded (word text : String) : Prop :=
  ∃ before after, text = before ++ word ++ after ∧
    Text.allBlank before = true ∧ Text.allBlank after = true

namespace Text

/-! ## Trimming -/

/-- What is dropped at the front of a text is blank. -/
theorem exists_dropWhile_isBlank (cs : List Char) :
    ∃ before, cs = before ++ cs.dropWhile isBlank ∧ ∀ c ∈ before, isBlank c = true :=
  ⟨cs.takeWhile isBlank, List.takeWhile_append_dropWhile.symm,
    List.all_eq_true.1 List.all_takeWhile⟩

/-- **A text is what it trims to, with blanks around it.** -/
theorem padded_trim (text : String) : Padded (trim text) text := by
  obtain ⟨before, hbefore, hblank⟩ := exists_dropWhile_isBlank text.toList
  obtain ⟨after, hafter, hblank'⟩ :=
    exists_dropWhile_isBlank (text.toList.dropWhile isBlank).reverse
  refine ⟨String.ofList before, String.ofList after.reverse, ?_, ?_, ?_⟩
  · have hback : text.toList.dropWhile isBlank = trimChars text.toList ++ after.reverse := by
      rw [← List.reverse_inj, List.reverse_append, List.reverse_reverse, trimChars,
        List.reverse_reverse]
      exact hafter
    rw [← String.toList_inj, String.toList_append, String.toList_append, String.toList_ofList,
      String.toList_ofList, trim, String.toList_ofList, List.append_assoc, ← hback]
    exact hbefore
  · rw [allBlank, String.toList_ofList]
    exact List.all_eq_true.2 hblank
  · rw [allBlank, String.toList_ofList]
    exact List.all_eq_true.2 fun c hc => hblank' c (List.mem_reverse.1 hc)

/-- **A text trims to a word without blanks** exactly if it is that word with blanks around it. -/
theorem padded_iff {word text : String} (hword : ∀ c ∈ word.toList, isBlank c = false) :
    Padded word text ↔ trim text = word := by
  constructor
  · rintro ⟨before, after, rfl, hbefore, hafter⟩
    rw [trim, String.toList_append, String.toList_append, List.append_assoc,
      trimChars_append (List.all_eq_true.1 hbefore) hword (List.all_eq_true.1 hafter),
      String.ofList_toList]
  · rintro rfl
    exact padded_trim text

/-! ## Letter case -/

/-- The code of a letter in lower case. -/
theorem toNat_toLower (c : Char) :
    c.toLower.toNat = if 65 ≤ c.toNat ∧ c.toNat ≤ 90 then c.toNat + 32 else c.toNat := by
  have hupper : (c.val ≥ 'A'.val ∧ c.val ≤ 'Z'.val) ↔ (65 ≤ c.toNat ∧ c.toNat ≤ 90) := by
    rw [ge_iff_le, UInt32.le_iff_toNat_le, UInt32.le_iff_toNat_le]
    exact Iff.rfl
  unfold Char.toLower
  split
  next h =>
    have hcode := hupper.1 h
    have hshift : ('a'.val - 'A'.val).toNat = 32 := by decide
    rw [if_pos hcode, Char.toNat_mk, UInt32.toNat_add, hshift, Char.toNat_val]
    exact Nat.mod_eq_of_lt (by omega)
  next h => rw [if_neg fun hcode => h (hupper.2 hcode)]

/-- The code of a letter in upper case. -/
theorem toNat_toUpper (c : Char) :
    c.toUpper.toNat = if 97 ≤ c.toNat ∧ c.toNat ≤ 122 then c.toNat - 32 else c.toNat := by
  have hlower : ('a'.val ≤ c.val ∧ c.val ≤ 'z'.val) ↔ (97 ≤ c.toNat ∧ c.toNat ≤ 122) := by
    rw [UInt32.le_iff_toNat_le, UInt32.le_iff_toNat_le]
    exact Iff.rfl
  unfold Char.toUpper
  split
  next h =>
    have hcode := hlower.1 h
    have hshift : ('A'.val - 'a'.val).toNat = 2 ^ 32 - 32 := by decide
    rw [if_pos hcode, Char.toNat_mk, UInt32.toNat_add, hshift, Char.toNat_val]
    omega
  next h => rw [if_neg fun hcode => h (hlower.2 hcode)]

/-- Characters are the same letter exactly if one is the other one in either case. -/
theorem toLower_eq_toLower_iff {a b : Char} :
    a.toLower = b.toLower ↔ a = b.toLower ∨ a = b.toUpper := by
  rw [← Char.toNat_inj, ← Char.toNat_inj, ← Char.toNat_inj, toNat_toLower, toNat_toLower,
    toNat_toUpper]
  split_ifs <;> omega

/-- **Texts have the same letters** exactly if one is the other one with its letters in other
cases. -/
theorem recased_iff {word text : String} : Recased word text ↔ sameLetters word text = true := by
  rw [sameLetters_iff, ← List.forall₂_eq_eq_eq, List.forall₂_map_left_iff,
    List.forall₂_map_right_iff, Recased]
  simp only [toLower_eq_toLower_iff]

/-- A character is blank or not whatever its letter case. -/
theorem isBlank_toLower (c : Char) : isBlank c.toLower = isBlank c := by
  have hcode := toNat_toLower c
  split_ifs at hcode with hletter
  · rw [isBlank_eq_false (by omega) (by omega), isBlank_eq_false (by omega) (by omega)]
  · rw [Char.toNat_inj.1 hcode]

theorem isBlank_toUpper (c : Char) : isBlank c.toUpper = isBlank c := by
  have hcode := toNat_toUpper c
  split_ifs at hcode with hletter
  · rw [isBlank_eq_false (by omega) (by omega), isBlank_eq_false (by omega) (by omega)]
  · rw [Char.toNat_inj.1 hcode]

/-- A word in other letter cases holds no blanks if the word holds none. -/
theorem isBlank_of_recased {word text : String} (h : Recased word text)
    (htext : ∀ c ∈ text.toList, isBlank c = false) : ∀ c ∈ word.toList, isBlank c = false := by
  have hpairs : List.Forall₂ (fun a b => isBlank a = false ∧ (a = b.toLower ∨ a = b.toUpper))
      word.toList text.toList := by
    have hboth := (List.forall₂_and_left ..).2 ⟨htext, h.flip⟩
    refine (List.Forall₂.imp (fun b a hab => ?_) hboth).flip
    obtain ⟨hblank, hcase⟩ := hab
    refine ⟨?_, hcase⟩
    rcases hcase with rfl | rfl
    · rw [isBlank_toLower, hblank]
    · rw [isBlank_toUpper, hblank]
  exact ((List.forall₂_and_left ..).1 hpairs).1

end Text

end BuildConst
