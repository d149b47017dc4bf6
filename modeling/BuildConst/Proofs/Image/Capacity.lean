import Mathlib.Data.List.Flatten
import Mathlib.Data.List.Induction
import BuildConst.Proofs.Image.Exactness
import BuildConst.Proofs.Naming

/-!
# What is collected can be written in images

Collecting takes parts of the texts that were given and never makes a longer one: names and values
are pieces of declarations, and the path of a container is cut from its namespace text.  So images
can be written as soon as the texts that the program was given are not too long for their lengths to
be put in eight bytes.

## Main definitions

* `Declaration.Fits` — the text of a declaration is short enough to be written.
* `Image.InputsFit` — everything that an image is made from is.

## Main results

* `Declaration.fits_of_validate`, `size_collect_le` — the constants of a collected table.
* `Container.fits_of_parse` — the parts of an accepted path.
* `Image.fits_collect` — the image of a collected table.
-/

set_option relaxedAutoImplicit false
set_option autoImplicit false

namespace BuildConst

/-! ## Parts of texts -/

/-- A text that is left after characters were taken away can be written. -/
theorem Wire.textFits_of_sublist {cs : List Char} {s : String} (h : cs.Sublist s.toList)
    (hs : TextFits s) : TextFits (String.ofList cs) := by
  have hbytes : (Text.Utf8.encode (String.ofList cs)).length ≤ (Text.Utf8.encode s).length := by
    unfold Text.Utf8.encode
    rw [String.toList_ofList]
    exact (h.flatMap _).length_le
  rw [Text.Utf8.length_encode, Text.Utf8.length_encode] at hbytes
  exact Nat.lt_of_le_of_lt hbytes hs

/-- A text has no more characters than bytes. -/
theorem length_toList_le (s : String) : s.toList.length ≤ s.utf8ByteSize := by
  rw [← Text.Utf8.length_encode, Text.Utf8.encode]
  induction s.toList with
  | nil => exact Nat.le_refl 0
  | cons c cs ih =>
    have hpos : 0 < (String.utf8EncodeChar c).length := by
      rw [String.length_utf8EncodeChar]
      exact c.utf8Size_pos
    rw [List.flatMap_cons, List.length_append, List.length_cons]
    omega

/-- Lists of characters that are not empty are no more than their characters. -/
theorem length_le_length_flatten {ps : List (List Char)} (h : ∀ p ∈ ps, p ≠ []) :
    ps.length ≤ ps.flatten.length := by
  induction ps with
  | nil => exact Nat.le_refl 0
  | cons p ps ih =>
    have hp := List.length_pos_iff.2 (h p List.mem_cons_self)
    have hps := ih fun q hq => h q (List.mem_cons_of_mem _ hq)
    rw [List.flatten_cons, List.length_append, List.length_cons]
    omega

/-- Texts that were cut from one that can be written can be written, if none of them is empty. -/
theorem Wire.listFits_of_flatten {ps : List (List Char)} {s : String}
    (h : ps.flatten.Sublist s.toList) (hne : ∀ p ∈ ps, p ≠ []) (hs : TextFits s) :
    ListFits TextFits (ps.map String.ofList) := by
  constructor
  · have hcount := length_le_length_flatten hne
    have hchars := h.length_le
    have hbytes := length_toList_le s
    have hsize : s.utf8ByteSize < 2 ^ 64 := hs
    rw [List.length_map]
    omega
  · intro text htext
    obtain ⟨p, hp, rfl⟩ := List.mem_map.1 htext
    exact textFits_of_sublist ((List.sublist_flatten_of_mem hp).trans h) hs

/-- The parts of a text between separators are cut from it. -/
theorem Text.flatten_pieces_sublist (sep : Char) (cs : List Char) :
    (pieces sep cs).flatten.Sublist cs := by
  induction cs with
  | nil => exact List.Sublist.refl []
  | cons c rest ih =>
    rw [pieces]
    split
    · exact ih.cons c
    · split
      next hnil => exact absurd hnil (pieces_ne_nil sep rest)
      next piece more hpieces =>
        rw [hpieces] at ih
        exact ih.cons_cons c

/-! ## Declarations -/

/-- The text of a declaration is short enough to be written. -/
def Declaration.Fits (d : Declaration) : Prop :=
  Wire.TextFits d.text

instance (d : Declaration) : Decidable d.Fits :=
  inferInstanceAs (Decidable (Wire.TextFits _))

/-- The name and the value text of a declaration are parts of it. -/
theorem Declaration.fits_split {d : Declaration} (h : d.Fits) :
    Wire.TextFits d.split.1 ∧ Wire.TextFits d.split.2 := by
  unfold split
  split
  next name value hsplit =>
    obtain ⟨hchars, -⟩ := Text.splitFirst_eq_some_iff.1 hsplit
    refine ⟨Wire.textFits_of_sublist ?_ h, Wire.textFits_of_sublist ?_ h⟩
    · rw [hchars]
      exact List.sublist_append_left _ _
    · rw [hchars]
      exact (List.sublist_cons_self _ _).trans (List.sublist_append_right _ _)
  next =>
    have hempty : Wire.TextFits "" := by decide
    exact ⟨h, hempty⟩

/-- The items that are read from a text are parts of it. -/
theorem Value.fits_of_readItems {text : String} {items : List String} (h : Wire.TextFits text)
    (hread : readItems text = .ok items) : Wire.ListFits Wire.TextFits items := by
  unfold readItems at hread
  dsimp only at hread
  split at hread
  · cases hread
  · obtain rfl := Except.ok.inj hread
    refine Wire.listFits_of_flatten ?_ ?_ h
    · exact (List.filter_sublist.flatten).trans (Text.flatten_pieces_sublist ';' text.toList)
    · intro p hp
      simpa using (List.mem_filter.1 hp).2

/-- A value that is read from a text can be written if the text can. -/
theorem Value.fits_of_read {name text : String} {k : Kind} {v : Value} {remarks : List Diagnostic}
    (h : Wire.TextFits text) (hread : read name text k = .ok (v, remarks)) : v.Fits := by
  cases k with
  | string =>
    obtain ⟨rfl, -⟩ := Prod.mk.inj (Except.ok.inj hread)
    exact h
  | bool =>
    rw [read, Except.map_eq_ok_iff] at hread
    obtain ⟨b, -, hb⟩ := hread
    cases hb
    trivial
  | int =>
    rw [read, Except.map_eq_ok_iff] at hread
    obtain ⟨n, -, hn⟩ := hread
    cases hn
    trivial
  | stringArray =>
    rw [read, Except.map_eq_ok_iff] at hread
    obtain ⟨items, hitems, hv⟩ := hread
    cases hv
    exact fits_of_readItems h hitems

/-- The constant that a declaration denotes can be written if the declaration can. -/
theorem Declaration.fits_of_validate {d : Declaration} {c : Constant} (h : d.Fits)
    (hc : d.validate.constant = some c) : c.Fits := by
  obtain ⟨hname, hvalue⟩ := fits_split h
  obtain ⟨hsplit, -, remarks, hread⟩ := constant_validate_eq_some_iff.1 hc
  exact ⟨hsplit ▸ hname, Value.fits_of_read hvalue hread⟩

/-! ## Tables -/

/-- A table grows by at most one constant at a time. -/
theorem Table.size_insert_le (t : Table) (c : Constant) : (t.insert c).size ≤ t.size + 1 := by
  unfold insert
  split
  · simp [size]
  · exact Nat.le_succ t.size

/-- A further declaration adds at most one constant. -/
theorem Collected.size_add_le (c : Collected) (d : Declaration) :
    (c.add d).table.size ≤ c.table.size + 1 := by
  unfold add
  dsimp only
  split
  · exact Nat.le_succ c.table.size
  · exact Table.size_insert_le c.table _

/-- A collected table has no more constants than there were declarations.

**Proof sketch.** By induction on the declarations from the last one back: each adds at most one
constant to what the ones before it gave. -/
theorem size_collect_le (ds : List Declaration) : (collect ds).table.size ≤ ds.length := by
  induction ds using List.reverseRecOn with
  | nil => exact Nat.le_refl 0
  | append_singleton ds d ih =>
    have hlast := Collected.size_add_le (collect ds) d
    rw [collect_append, List.foldl_cons, List.foldl_nil, List.length_append, List.length_singleton]
    omega

/-! ## Containers -/

/-- The characters that are left of a text without its blank ends. -/
theorem Text.trimChars_sublist (cs : List Char) : (trimChars cs).Sublist cs := by
  have hright := (List.dropWhile_sublist (l := (cs.dropWhile isBlank).reverse) isBlank).reverse
  rw [List.reverse_reverse] at hright
  exact hright.trans (List.dropWhile_sublist isBlank)

/-- The parts of a namespace between separators are cut from it. -/
theorem Container.flatten_splitSegments_sublist (cs : List Char) :
    (splitSegments cs).flatten.Sublist cs := by
  induction cs using splitSegments.induct with
  | case1 => exact List.Sublist.refl []
  | case2 rest ih => exact (ih.cons ':').cons ':'
  | case3 rest _ ih => exact ih.cons '.'
  | case4 c rest hcolons hpoint hnil ih =>
    rw [splitSegments, if_neg hpoint, hnil]
    · exact (List.nil_sublist rest).cons_cons c
    · exact hcolons
  | case5 c rest hcolons hpoint piece more hpieces ih =>
    rw [splitSegments, if_neg hpoint, hpieces]
    · rw [hpieces] at ih
      exact ih.cons_cons c
    · exact hcolons

/-- An accepted path can be written if the texts that it was made of can. -/
theorem Container.fits_of_parse {namespaceText name : String} {c : Container}
    (hnamespace : Wire.TextFits namespaceText) (hname : Wire.TextFits name)
    (h : parse namespaceText name = .ok c) : c.Fits := by
  obtain ⟨rfl, hsegments, -⟩ := speakable_of_parse h
  refine ⟨?_, hname⟩
  dsimp only [segmentsOf] at hsegments ⊢
  split
  · exact ⟨by decide, by simp⟩
  next hblank =>
    rw [if_neg hblank] at hsegments
    refine Wire.listFits_of_flatten (flatten_splitSegments_sublist _) ?_
      (Wire.textFits_of_sublist (Text.trimChars_sublist _) hnamespace)
    rintro p hp rfl
    have hwellFormed := (Identifier.speakable_iff.1 (hsegments _ (List.mem_map_of_mem hp))).1
    exact absurd hwellFormed (by decide)

/-! ## Images -/

/-- What an image is made from is short enough to be written. -/
structure Image.InputsFit (ds : List Declaration) (namespaceText name moduleName : String) :
    Prop where
  declarations : Wire.ListFits Declaration.Fits ds
  namespaceText : Wire.TextFits namespaceText
  name : Wire.TextFits name
  moduleName : Wire.TextFits moduleName

/-- **Images of collected tables**: they can be written if there are not too many declarations, and
if none of the texts that the program was given is too long. -/
theorem Image.fits_collect {ds : List Declaration} {namespaceText name moduleName : String}
    (hfits : InputsFit ds namespaceText name moduleName) {c : Container}
    (h : Container.parse namespaceText name = .ok c) :
    (ofTable (collect ds).table c moduleName).Fits := by
  have hgenerator : Wire.TextFits programVersion := by decide
  have hconstants : Wire.ListFits Constant.Fits (collect ds).table.constants :=
    ⟨Nat.lt_of_le_of_lt (size_collect_le ds) hfits.declarations.1,
      forall_mem_collect fun d hd c hc =>
        Declaration.fits_of_validate (hfits.declarations.2 d hd) hc⟩
  refine ⟨hgenerator, hfits.moduleName, Nat.one_lt_two_pow (by decide), fun type htype => ?_⟩
  rw [List.mem_singleton.1 htype]
  exact ⟨Container.fits_of_parse hfits.namespaceText hfits.name h, hconstants⟩

end BuildConst
