import BuildConst.Proofs.Declaration.Schema
import BuildConst.Proofs.Json.Extent

/-!
# Declaration files end with their closing bracket

A declaration file is a list, and a list ends with the bracket that closes it.  So whatever part of
an accepted text is missing, or whatever is added to it, it is not taken for another list: blanks at
the end do not matter, and with anything else removed or added the text is rejected.

## Main results

* `Declaration.readList_exists_list` — a list is read up to its closing bracket, whatever follows.
* `Declaration.parseList_append` — what is read from an accepted text with more behind it.
* `Declaration.parseList_of_cut_or_extended` — accepted texts that are cut short or extended.
-/

set_option relaxedAutoImplicit false
set_option autoImplicit false

namespace BuildConst.Declaration

open Json

/-! ## The list -/

/-- An item of the list is read from its own text. -/
theorem local_readItem : Local readItem := by
  intro cs d rest h
  obtain ⟨⟨item, left⟩, hitem, hentry⟩ := Except.bind_eq_ok_iff.1 h
  obtain ⟨before, text, hbefore, hcs, hopens, hanswers⟩ := local_readValue _ cs item left hitem
  dsimp only at hentry
  split at hentry
  next d hd =>
    cases hentry
    refine ⟨before, text, hbefore, hcs, hopens, ?_⟩
    intro rest' hrest'
    simp [readItem, hanswers.eq_ok hrest', bind, Except.bind, hd, Except.toOption]
  next => cases hentry

/-- **The list is read up to its closing bracket**, whatever follows it. -/
theorem readList_exists_list {cs rest : List Char} {ds : List Declaration}
    (h : readList cs = .ok (ds, rest)) :
    ∃ list, cs = list ++ ']' :: rest ∧
      ∀ rest', readList (list ++ ']' :: rest') = .ok (ds, rest') := by
  obtain ⟨before, hbefore, hcs⟩ := exists_skipBlanks cs
  unfold readList at h
  split at h
  next => cases h
  next tail htail =>
    obtain ⟨inner, rfl, hinner⟩ := finds_items.exists_inner enumerates_items local_readItem h
    rw [htail] at hcs
    refine ⟨before ++ '[' :: inner, by simpa using hcs, fun rest' => ?_⟩
    rw [List.append_assoc, readList_append hbefore]
    exact hinner rest'
  next => cases h
  next other _ _ =>
    obtain ⟨_, -, hfault⟩ := Except.bind_eq_ok_iff.1 h
    cases hfault

/-! ## The whole text -/

/-- A whole text is read if a list is read from its front and only blanks are left. -/
theorem parseList_eq_ok_iff {text : String} {ds : List Declaration} :
    parseList text = .ok ds ↔ ∃ rest, readList text.toList = .ok (ds, rest) ∧ Blanks rest := by
  unfold parseList
  dsimp only
  cases readList text.toList with
  | error fault => simp
  | ok result =>
    obtain ⟨found, rest⟩ := result
    cases hrest : skipBlanks rest with
    | nil => simp [← skipBlanks_eq_nil_iff, hrest]
    | cons c cs => simp [← skipBlanks_eq_nil_iff, hrest]

/-- **What is read from an accepted text with more behind it**: the same if only blanks were added,
and nothing otherwise. -/
theorem parseList_append {text : String} {ds : List Declaration} (h : parseList text = .ok ds)
    (added : String) :
    (Blanks added.toList → parseList (text ++ added) = .ok ds) ∧
      (¬Blanks added.toList → ∃ e, parseList (text ++ added) = .error e) := by
  obtain ⟨rest, hread, hrest⟩ := parseList_eq_ok_iff.1 h
  obtain ⟨list, htext, hall⟩ := readList_exists_list hread
  have hchars : (text ++ added).toList = list ++ ']' :: (rest ++ added.toList) := by
    simp [htext]
  have hlonger := hall (rest ++ added.toList)
  rw [← hchars] at hlonger
  constructor
  · intro hadded
    exact parseList_eq_ok_iff.2 ⟨_, hlonger, hrest.append hadded⟩
  · intro hadded
    cases hparse : parseList (text ++ added) with
    | error e => exact ⟨e, rfl⟩
    | ok found =>
      obtain ⟨left, hleft, hblanks⟩ := parseList_eq_ok_iff.1 hparse
      rw [hlonger] at hleft
      cases hleft
      exact absurd (fun c hc => hblanks c (List.mem_append_right rest hc)) hadded

/-- A text that is accepted with blanks behind it is accepted without them: the closing bracket is
no blank, so none of it was removed. -/
theorem parseList_of_append {text removed : String} {ds : List Declaration}
    (h : parseList (text ++ removed) = .ok ds) (hremoved : Blanks removed.toList) :
    parseList text = .ok ds := by
  obtain ⟨rest, hread, hrest⟩ := parseList_eq_ok_iff.1 h
  obtain ⟨list, htext, hall⟩ := readList_exists_list hread
  rw [String.toList_append] at htext
  have hbracket : ']' ∉ removed.toList := by
    intro hmem
    have hblank := hremoved ']' hmem
    simp [isBlank] at hblank
  rcases List.append_eq_append_iff.1 htext with ⟨tail, -, htail⟩ | ⟨tail, hkept, htail⟩
  · simp [htail] at hbracket
  · cases tail with
    | nil =>
      have hchars : removed.toList = ']' :: rest := htail.symm
      simp [hchars] at hbracket
    | cons c tail =>
      obtain ⟨rfl, rfl⟩ := List.cons.inj htail
      refine parseList_eq_ok_iff.2 ⟨tail, hkept ▸ hall tail, ?_⟩
      exact fun c hc => hrest c (List.mem_append_left _ hc)

/-- **Accepted texts that are cut short or extended.**  Take any text from which declarations are
read.  If a part of its end is missing, the same declarations are read if that part consists of
blanks, and otherwise the text is rejected.  If anything stands behind the text, the same
declarations are read if that consists of blanks, and otherwise the text is rejected.

**Proof sketch.** The reader takes the list up to its closing bracket, whatever follows it, and then
only blanks may be left.  This settles added texts.  A missing part that holds more than blanks is
an added text of what is left of the text, which would be rejected with it if it were accepted
alone. -/
theorem parseList_of_cut_or_extended {text : String} {ds : List Declaration}
    (h : parseList text = .ok ds) :
    (∀ kept removed : String, text = kept ++ removed →
      (Blanks removed.toList → parseList kept = .ok ds) ∧
        (¬Blanks removed.toList → ∃ e, parseList kept = .error e)) ∧
      ∀ added : String,
        (Blanks added.toList → parseList (text ++ added) = .ok ds) ∧
          (¬Blanks added.toList → ∃ e, parseList (text ++ added) = .error e) := by
  refine ⟨fun kept removed hcut => ?_, parseList_append h⟩
  subst hcut
  refine ⟨parseList_of_append h, fun hremoved => ?_⟩
  cases hkept : parseList kept with
  | error e => exact ⟨e, rfl⟩
  | ok found =>
    obtain ⟨e, he⟩ := (parseList_append hkept removed).2 hremoved
    rw [h] at he
    cases he

/-- A list whose items hold brackets of their own is read without the line break at its end, and
neither without its last bracket nor with a digit behind it. -/
theorem parseList_of_cut_or_extended_of_brackets :
    parseList "[\"A=]\",\x7b\"x\":[-1.5e3],\"define\":\"B=1\"\x7d]\n" =
        .ok [⟨"A=]", none⟩, ⟨"B=1", none⟩] ∧
      parseList "[\"A=]\",\x7b\"x\":[-1.5e3],\"define\":\"B=1\"\x7d]" =
        .ok [⟨"A=]", none⟩, ⟨"B=1", none⟩] ∧
      (∃ e, parseList "[\"A=]\",\x7b\"x\":[-1.5e3],\"define\":\"B=1\"\x7d" = .error e) ∧
      ∃ e, parseList "[\"A=]\",\x7b\"x\":[-1.5e3],\"define\":\"B=1\"\x7d]\n5" = .error e := by
  have h : parseList "[\"A=]\",\x7b\"x\":[-1.5e3],\"define\":\"B=1\"\x7d]\n" =
      .ok [⟨"A=]", none⟩, ⟨"B=1", none⟩] := by
    decide
  obtain ⟨hcut, hadded⟩ := parseList_of_cut_or_extended h
  exact ⟨h, (hcut _ "\n" (by decide)).1 (by decide), (hcut _ "]\n" (by decide)).2 (by decide),
    (hadded "5").2 (by decide)⟩

end BuildConst.Declaration
