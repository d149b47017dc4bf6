import Mathlib.Data.List.Forall2
import BuildConst.Validation

/-!
# Hints at kinds

A hint asks for a kind by one of its spellings, in any letter case and with any blanks around it.
Every such hint is understood, and it can stand in front of a declaration: it is not blank, and it
holds neither a colon nor an equals sign.

## Main definitions

* `Text.Recased` — a text with its letters in other cases.
* `Kind.HintedBy` — the hints at a kind.

## Main results

* `Kind.resolve_of_hintedBy` — hints are understood.
* `Declaration.ofArgument_of_hintedBy` — hints are told apart from what follows.
-/

set_option relaxedAutoImplicit false
set_option autoImplicit false

namespace BuildConst

/-- A text whose characters are those of another one, each letter in either case. -/
def Text.Recased (word text : String) : Prop :=
  List.Forall₂ (fun a b => a = b.toLower ∨ a = b.toUpper) word.toList text.toList

/-- A hint at a kind: one of its spellings in any letter case, with blanks around it. -/
def Kind.HintedBy (k : Kind) (hint : String) : Prop :=
  ∃ spelling ∈ k.spellings, ∃ before word after, hint = before ++ word ++ after ∧
    Text.allBlank before = true ∧ Text.Recased word spelling ∧ Text.allBlank after = true

/-! ## Spellings -/

namespace Kind

/-- No spelling stands for two kinds. -/
theorem find?_of_mem_spellings (k : Kind) : ∀ spelling ∈ k.spellings,
    all.find? (fun k => k.spellings.any fun s => Text.sameLetters s spelling) = some k := by
  cases k <;> decide

/-- A character that may be part of a hint between the blanks around it. -/
def IsHintChar (c : Char) : Prop :=
  Text.isBlank c = false ∧ c ≠ ':' ∧ c ≠ '='

instance : DecidablePred IsHintChar := fun _ => inferInstanceAs (Decidable (_ ∧ _ ∧ _))

/-- The characters of spellings stay the same letters in either case, and they remain such that a
hint may hold them. -/
theorem letters_of_mem_spellings (k : Kind) : ∀ spelling ∈ k.spellings, ∀ b ∈ spelling.toList,
    ∀ a ∈ [b.toLower, b.toUpper], IsHintChar a ∧ a.toLower = b.toLower := by
  -- Stated by `List.all`, as a quantifier over characters may be decided over all there are.
  have hletters : ∀ spelling ∈ k.spellings, spelling.toList.all fun b =>
      [b.toLower, b.toUpper].all fun a => IsHintChar a ∧ a.toLower = b.toLower := by
    cases k <;> decide
  intro spelling hspelling b hb a ha
  have hletter := List.all_eq_true.1 (List.all_eq_true.1 (hletters spelling hspelling) b hb) a ha
  exact of_decide_eq_true hletter

variable {k : Kind} {spelling word hint : String}

/-- A spelling in other letter cases has the same letters. -/
theorem letters_of_recased (hspelling : spelling ∈ k.spellings) (h : Text.Recased word spelling) :
    (∀ a ∈ word.toList, IsHintChar a) ∧
      word.toList.map Char.toLower = spelling.toList.map Char.toLower := by
  have hletters := letters_of_mem_spellings k spelling hspelling
  have hpairs : List.Forall₂ (fun a b => IsHintChar a ∧ a.toLower = b.toLower)
      word.toList spelling.toList := by
    have hboth := (List.forall₂_and_left ..).2 ⟨hletters, h.flip⟩
    exact (hboth.imp fun b a hab => hab.1 a (by simpa using hab.2)).flip
  obtain ⟨hchars, hlower⟩ := (List.forall₂_and_left ..).1 hpairs
  refine ⟨hchars, ?_⟩
  rwa [← List.forall₂_eq_eq_eq, List.forall₂_map_left_iff, List.forall₂_map_right_iff]

/-! ## Hints -/

/-- A hint asks for its kind. -/
theorem ofHint?_of_hintedBy (h : k.HintedBy hint) : ofHint? hint = some k := by
  obtain ⟨spelling, hspelling, before, word, after, rfl, hbefore, hword, hafter⟩ := h
  obtain ⟨hchars, hlower⟩ := letters_of_recased hspelling hword
  have htrim : Text.trim (before ++ word ++ after) = word := by
    rw [Text.trim, String.toList_append, String.toList_append, List.append_assoc,
      Text.trimChars_append (List.all_eq_true.1 hbefore) (fun a ha => (hchars a ha).1)
        (List.all_eq_true.1 hafter), String.ofList_toList]
  have hsame (s : String) : Text.sameLetters s word = Text.sameLetters s spelling := by
    rw [Text.sameLetters, Text.sameLetters, hlower]
  simp only [ofHint?, htrim, hsame, find?_of_mem_spellings k spelling hspelling]

/-- No blank character separates the parts of an argument. -/
theorem ne_separator_of_isBlank {c : Char} (h : Text.isBlank c = true) : c ≠ ':' ∧ c ≠ '=' := by
  constructor
  · rintro rfl
    exact absurd h (by decide)
  · rintro rfl
    exact absurd h (by decide)

/-- No character of a hint separates the parts of an argument. -/
theorem ne_separator_of_hintedBy (h : k.HintedBy hint) :
    ∀ c ∈ hint.toList, c ≠ ':' ∧ c ≠ '=' := by
  obtain ⟨spelling, hspelling, before, word, after, rfl, hbefore, hword, hafter⟩ := h
  have hchars := (letters_of_recased hspelling hword).1
  intro c hc
  rw [String.toList_append, String.toList_append, List.mem_append, List.mem_append] at hc
  rcases hc with (hc | hc) | hc
  · exact ne_separator_of_isBlank (List.all_eq_true.1 hbefore c hc)
  · exact (hchars c hc).2
  · exact ne_separator_of_isBlank (List.all_eq_true.1 hafter c hc)

/-- Blank characters ask for nothing. -/
theorem ofHint?_of_allBlank (h : Text.allBlank hint = true) : ofHint? hint = none := by
  have hchars : Text.trimChars (hint.toList ++ ([] ++ [])) = [] :=
    Text.trimChars_append (List.all_eq_true.1 h) nofun nofun
  rw [List.append_nil, List.append_nil] at hchars
  rw [ofHint?, Text.trim, hchars]
  decide

/-- **Hints are understood** as the kinds that they ask for. -/
theorem resolve_of_hintedBy (h : k.HintedBy hint) (name : String) :
    resolve name (some hint) = (k, []) := by
  have hkind := ofHint?_of_hintedBy h
  have hblank : Text.allBlank hint = false := by
    by_contra hall
    rw [Bool.not_eq_false] at hall
    rw [ofHint?_of_allBlank hall] at hkind
    cases hkind
  rw [resolve, hblank, hkind]
  rfl

end Kind

/-! ## Arguments -/

/-- **Hints are told apart** from the declarations that follow them. -/
theorem Declaration.ofArgument_of_hintedBy {k : Kind} {hint : String} (h : k.HintedBy hint)
    (text : String) : ofArgument (hint ++ ":" ++ text) = ⟨text, some hint⟩ := by
  have hchars := Kind.ne_separator_of_hintedBy h
  have hcolon : ':' ∉ hint.toList := fun hc => (hchars _ hc).1 rfl
  have hequals : '=' ∉ hint.toList := fun hc => (hchars _ hc).2 rfl
  have hsplit : Text.splitFirst ':' (hint ++ ":" ++ text).toList =
      some (hint.toList, text.toList) :=
    Text.splitFirst_eq_some_iff.2 ⟨by simp, hcolon⟩
  rw [ofArgument, hsplit]
  simp [hequals]

end BuildConst
