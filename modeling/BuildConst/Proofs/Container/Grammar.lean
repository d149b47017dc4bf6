import BuildConst.Proofs.Naming
import BuildConst.Proofs.Text.Trimming

/-!
# Which paths are accepted

A namespace is some names with separators between them, each of which is a point or a double colon.
Any other text has pieces as well, the first one up to the first separator from the left, and the
leftmost piece that is no name is reported.  Names hold neither points nor colons, so the pieces of
joined names are these names, and a container is known by its path.

## Main definitions

* `Container.Joined` — segments with separators between them.
* `Container.Splits` — the pieces of a text between its separators, taken from the left.
* `Container.splitColons` — the parts of a text between double colons.

## Main results

* `Container.splits_iff` — the pieces are the ones that are found.
* `Container.flatMap_pieces_splitColons` — double colons may be taken before points.
* `Container.segmentsOf_of_joined` — joined names are found again.
* `Container.parse_exact` — the accepted paths, what is reported otherwise, and paths told apart.
-/

set_option relaxedAutoImplicit false
set_option autoImplicit false

namespace BuildConst.Container

/-- What stands between two segments. -/
def IsSeparator (sep : List Char) : Prop :=
  sep = ['.'] ∨ sep = [':', ':']

/-- A text that holds no separator. -/
def Unbroken (cs : List Char) : Prop :=
  ∀ sep, IsSeparator sep → ¬sep <:+: cs

/-- Segments with separators between them.  No segments give the empty text. -/
inductive Joined : List String → List Char → Prop
  | none : Joined [] []
  | single (segment : String) : Joined [segment] segment.toList
  | cons {segment next : String} {more : List String} {sep rest : List Char}
      (hsep : IsSeparator sep) (h : Joined (next :: more) rest) :
      Joined (segment :: next :: more) (segment.toList ++ (sep ++ rest))

/-- The pieces of a text between its separators.  A piece is followed by the first separator from
the left, so without the last character of that separator there is none. -/
inductive Splits : List String → List Char → Prop
  | last {piece : String} (h : Unbroken piece.toList) : Splits [piece] piece.toList
  | cons {piece : String} {pieces : List String} {sep rest : List Char} (hsep : IsSeparator sep)
      (hfirst : Unbroken (piece.toList ++ sep.dropLast)) (h : Splits pieces rest) :
      Splits (piece :: pieces) (piece.toList ++ (sep ++ rest))

/-- The parts of a text between double colons, taken from the left. -/
def splitColons : List Char → List (List Char)
  | [] => [[]]
  | ':' :: ':' :: rest => [] :: splitColons rest
  | c :: rest =>
    match splitColons rest with
    | [] => [[c]]
    | piece :: more => (c :: piece) :: more

/-! ## Separators -/

/-- A text holds no separator if none begins at its first character and what follows holds none. -/
theorem unbroken_cons_iff {c : Char} {cs : List Char} :
    Unbroken (c :: cs) ↔ c ≠ '.' ∧ ¬[':', ':'] <+: c :: cs ∧ Unbroken cs := by
  simp only [Unbroken, IsSeparator, forall_eq_or_imp, forall_eq, List.infix_cons_iff,
    List.cons_prefix_cons, List.nil_prefix, and_true, not_or]
  grind

/-- The empty text holds no separator. -/
theorem unbroken_nil : Unbroken [] := by
  rintro sep (rfl | rfl) <;> simp

/-- The front of a separator holds none. -/
theorem IsSeparator.unbroken_dropLast {sep : List Char} (h : IsSeparator sep) :
    Unbroken sep.dropLast := by
  rcases h with rfl | rfl
  · exact unbroken_nil
  · exact unbroken_cons_iff.2 ⟨by decide, by decide, unbroken_nil⟩

/-- Separators hold no blanks. -/
theorem IsSeparator.isBlank {sep : List Char} (h : IsSeparator sep) :
    ∀ c ∈ sep, Text.isBlank c = false := by
  have hpoint : Text.isBlank '.' = false := by decide
  have hcolon : Text.isBlank ':' = false := by decide
  rcases h with rfl | rfl
  · simp [hpoint]
  · simp [hcolon]

/-- A name holds no separator, and with the front of a separator behind it neither. -/
theorem unbroken_of_speakable {name : String} (h : Identifier.Speakable name) {sep : List Char}
    (hsep : IsSeparator sep) : Unbroken (name.toList ++ sep.dropLast) := by
  have hcode (c : Char) (hc : c ∈ name.toList) : c ≠ '.' ∧ c ≠ ':' := by
    have hsub := Identifier.isSubsequent_of_wellFormed (Identifier.wellFormed_of_fault? h) c hc
    constructor
    · rintro rfl
      exact absurd hsub (by decide)
    · rintro rfl
      exact absurd hsub (by decide)
  -- A double colon that begins in the name would begin with one of its characters.
  generalize name.toList = cs at hcode
  induction cs with
  | nil => exact hsep.unbroken_dropLast
  | cons c cs ih =>
    obtain ⟨⟨hpoint, hcolon⟩, hrest⟩ := List.forall_mem_cons.1 hcode
    refine unbroken_cons_iff.2 ⟨hpoint, fun hprefix => ?_, ih hrest⟩
    exact hcolon (List.cons_prefix_cons.1 hprefix).1.symm

/-- Whether a double colon begins at a character is known before the end of the next separator. -/
theorem colons_prefix_iff {c : Char} {piece sep rest : List Char} (hsep : IsSeparator sep) :
    [':', ':'] <+: c :: (piece ++ (sep ++ rest)) ↔ [':', ':'] <+: c :: (piece ++ sep.dropLast) := by
  cases piece with
  | nil => rcases hsep with rfl | rfl <;> simp [List.cons_prefix_cons]
  | cons d piece => simp [List.cons_prefix_cons]

/-- No double colon begins where the reader sees none. -/
theorem not_begins_colons {c : Char} {rest : List Char}
    (h : ∀ tail, c = ':' → rest = ':' :: tail → False) : ¬[':', ':'] <+: c :: rest := by
  rintro ⟨tail, htail⟩
  cases htail
  exact h tail rfl rfl

/-! ## The pieces of a text -/

/-- A character at which no separator begins belongs to the first piece. -/
theorem splitSegments_cons {c : Char} {rest piece : List Char} {more : List (List Char)}
    (hpoint : c ≠ '.') (hcolons : ¬[':', ':'] <+: c :: rest)
    (h : splitSegments rest = piece :: more) :
    splitSegments (c :: rest) = (c :: piece) :: more := by
  rw [splitSegments]
  · simp [hpoint, h]
  · rintro rest' rfl rfl
    exact hcolons (by simp [List.cons_prefix_cons])

/-- A text without separators is its only piece. -/
theorem splitSegments_of_unbroken {piece : List Char} (h : Unbroken piece) :
    splitSegments piece = [piece] := by
  induction piece with
  | nil => rfl
  | cons c piece ih =>
    obtain ⟨hpoint, hcolons, hrest⟩ := unbroken_cons_iff.1 h
    exact splitSegments_cons hpoint hcolons (ih hrest)

/-- The first piece lasts until the first separator. -/
theorem splitSegments_append {piece sep : List Char} (hsep : IsSeparator sep)
    (h : Unbroken (piece ++ sep.dropLast)) (rest : List Char) :
    splitSegments (piece ++ (sep ++ rest)) = piece :: splitSegments rest := by
  induction piece with
  | nil => rcases hsep with rfl | rfl <;> simp [splitSegments]
  | cons c piece ih =>
    obtain ⟨hpoint, hcolons, hrest⟩ := unbroken_cons_iff.1 h
    exact splitSegments_cons hpoint (mt (colons_prefix_iff hsep).1 hcolons) (ih hrest)

/-- The pieces of a text are the ones that are found. -/
theorem Splits.eq_splitSegments {pieces : List String} {cs : List Char} (h : Splits pieces cs) :
    (splitSegments cs).map String.ofList = pieces := by
  induction h with
  | last h => simp [splitSegments_of_unbroken h]
  | cons hsep hfirst _ ih => simp [splitSegments_append hsep hfirst, ih]

/-- A text without separators is its only piece. -/
theorem splits_of_unbroken {cs : List Char} (h : Unbroken cs) : Splits [String.ofList cs] cs := by
  have hlast := @Splits.last (String.ofList cs)
  rw [String.toList_ofList] at hlast
  exact hlast h

/-- A text up to its first separator is its first piece. -/
theorem Splits.append {cs sep rest : List Char} {pieces : List String} (h : Splits pieces rest)
    (hsep : IsSeparator sep) (hfirst : Unbroken (cs ++ sep.dropLast)) :
    Splits (String.ofList cs :: pieces) (cs ++ (sep ++ rest)) := by
  have hcons := @Splits.cons (String.ofList cs) pieces sep rest hsep
  rw [String.toList_ofList] at hcons
  exact hcons hfirst h

/-- The first piece of a text may be longer by a character at which no separator begins. -/
theorem Splits.cons_char {c : Char} {cs piece : List Char} {pieces : List String}
    (h : Splits (String.ofList piece :: pieces) cs) (hpoint : c ≠ '.')
    (hcolons : ¬[':', ':'] <+: c :: cs) :
    Splits (String.ofList (c :: piece) :: pieces) (c :: cs) := by
  generalize hfront : String.ofList piece = front at h
  obtain rfl : piece = front.toList := by rw [← hfront, String.toList_ofList]
  cases h with
  | last hlast => exact splits_of_unbroken (unbroken_cons_iff.2 ⟨hpoint, hcolons, hlast⟩)
  | cons hsep hfirst hrest =>
    refine hrest.append hsep (unbroken_cons_iff.2 ⟨hpoint, ?_, hfirst⟩)
    exact mt (colons_prefix_iff hsep).2 hcolons

/-- What is found in a text are its pieces. -/
theorem splits_splitSegments (cs : List Char) :
    Splits ((splitSegments cs).map String.ofList) cs := by
  fun_induction splitSegments cs with
  | case1 => exact splits_of_unbroken unbroken_nil
  | case2 rest ih => exact ih.append (.inr rfl) (IsSeparator.unbroken_dropLast (.inr rfl))
  | case3 rest _ ih => exact ih.append (.inl rfl) unbroken_nil
  | case4 c rest _ _ hnil ih =>
    -- Every text has a piece.
    rw [hnil] at ih
    cases ih
  | case5 c rest hcolons hpoint piece more hrest ih =>
    rw [hrest] at ih
    exact ih.cons_char hpoint (not_begins_colons hcolons)

/-- Every text has a piece. -/
theorem Splits.ne_nil {pieces : List String} {cs : List Char} (h : Splits pieces cs) :
    pieces ≠ [] := by
  cases h with
  | last _ => exact List.cons_ne_nil _ _
  | cons _ _ _ => exact List.cons_ne_nil _ _

/-- **The pieces of a text** are the ones that are found in it. -/
theorem splits_iff {pieces : List String} {cs : List Char} :
    Splits pieces cs ↔ (splitSegments cs).map String.ofList = pieces :=
  ⟨Splits.eq_splitSegments, fun h => h ▸ splits_splitSegments cs⟩

/-! ## Two passes -/

/-- **Double colons may be taken before points**: the parts between points of the parts between
double colons are the pieces of the text. -/
theorem flatMap_pieces_splitColons (cs : List Char) :
    (splitColons cs).flatMap (Text.pieces '.') = splitSegments cs := by
  fun_induction splitColons cs with
  | case1 => rfl
  | case2 rest ih => simp [splitSegments, Text.pieces, ih]
  | case3 c rest _ hnil ih =>
    have hsome := (splits_splitSegments rest).ne_nil
    simp [hnil, ← ih] at hsome
  | case4 c rest hcolons piece more hrest ih =>
    rw [hrest, List.flatMap_cons] at ih
    rw [List.flatMap_cons, Text.pieces]
    by_cases hpoint : c = '.'
    · simp [hpoint, splitSegments, ← ih]
    · obtain ⟨first, others, hfirst⟩ :=
        List.exists_cons_of_ne_nil (Text.pieces_ne_nil '.' piece)
      rw [hfirst] at ih
      simp [hpoint, hfirst, splitSegments_cons hpoint (not_begins_colons hcolons) ih.symm]

/-! ## Joined names -/

/-- A name is no empty text. -/
theorem toList_ne_nil_of_speakable {name : String} (h : Identifier.Speakable name) :
    name.toList ≠ [] := by
  intro hnil
  have hform := Identifier.wellFormed_of_fault? h
  simp [Identifier.wellFormed, hnil] at hform

/-- The pieces of a text, with the separators between them, are the text. -/
theorem Splits.joined {pieces : List String} {cs : List Char} (h : Splits pieces cs) :
    Joined pieces cs := by
  induction h with
  | last _ => exact .single _
  | cons hsep _ h ih =>
    cases ih with
    | none => cases h
    | single _ => exact .cons hsep (.single _)
    | cons hsep' ih => exact .cons hsep (.cons hsep' ih)

/-- Joined names are the pieces of the text that they are joined to. -/
theorem Joined.splits {segments : List String} {cs : List Char} (h : Joined segments cs)
    (hne : segments ≠ []) (hspeakable : ∀ s ∈ segments, Identifier.Speakable s) :
    Splits segments cs := by
  induction h with
  | none => exact absurd rfl hne
  | single segment =>
    have hunbroken := unbroken_of_speakable (hspeakable segment List.mem_cons_self) (.inl rfl)
    rw [List.dropLast_singleton, List.append_nil] at hunbroken
    exact .last hunbroken
  | cons hsep _ ih =>
    obtain ⟨hsegment, hmore⟩ := List.forall_mem_cons.1 hspeakable
    exact .cons hsep (unbroken_of_speakable hsegment hsep) (ih (List.cons_ne_nil _ _) hmore)

/-- Names that are joined to the empty text are none. -/
theorem Joined.eq_nil_iff {segments : List String} {cs : List Char} (h : Joined segments cs)
    (hspeakable : ∀ s ∈ segments, Identifier.Speakable s) : cs = [] ↔ segments = [] := by
  cases h with
  | none => simp
  | single segment =>
    have hsegment := toList_ne_nil_of_speakable (hspeakable segment List.mem_cons_self)
    simpa using hsegment
  | cons _ _ =>
    have hsegment := toList_ne_nil_of_speakable (hspeakable _ List.mem_cons_self)
    simp [hsegment]

/-- Joined names hold no blanks. -/
theorem Joined.isBlank {segments : List String} {cs : List Char} (h : Joined segments cs)
    (hspeakable : ∀ s ∈ segments, Identifier.Speakable s) : ∀ c ∈ cs, Text.isBlank c = false := by
  have hname {name : String} (h : Identifier.Speakable name) :
      ∀ c ∈ name.toList, Text.isBlank c = false :=
    Identifier.isBlank_of_wellFormed (Identifier.wellFormed_of_fault? h)
  induction h with
  | none => exact nofun
  | single segment => exact hname (hspeakable segment List.mem_cons_self)
  | cons hsep _ ih =>
    obtain ⟨hsegment, hmore⟩ := List.forall_mem_cons.1 hspeakable
    rw [List.forall_mem_append, List.forall_mem_append]
    exact ⟨hname hsegment, hsep.isBlank, ih hmore⟩

/-- Names with double colons between them are joined. -/
theorem joined_intercalate (segments : List String) :
    Joined segments ("::".intercalate segments).toList := by
  induction segments with
  | nil => exact .none
  | cons segment more ih =>
    cases more with
    | nil =>
      rw [String.intercalate_singleton]
      exact .single segment
    | cons next more =>
      rw [String.intercalate_cons_cons, String.toList_append, String.toList_append,
        List.append_assoc]
      exact .cons (.inr rfl) ih

/-! ## The segments of a namespace -/

/-- A blank namespace has no segments. -/
theorem segmentsOf_of_blank {namespaceText : String} (h : Text.trim namespaceText = "") :
    segmentsOf namespaceText = [] := by
  simp [segmentsOf, h]

/-- The segments of another namespace are the pieces of what it trims to. -/
theorem splits_iff_segmentsOf {namespaceText : String} (h : Text.trim namespaceText ≠ "")
    {pieces : List String} :
    Splits pieces (Text.trim namespaceText).toList ↔ segmentsOf namespaceText = pieces := by
  have hsegments : segmentsOf namespaceText =
      (splitSegments (Text.trim namespaceText).toList).map String.ofList := by
    simp [segmentsOf, h]
  rw [splits_iff, hsegments]

/-- The segments of a namespace, with separators between them, are what it trims to. -/
theorem joined_segmentsOf (namespaceText : String) :
    Joined (segmentsOf namespaceText) (Text.trim namespaceText).toList := by
  by_cases hblank : Text.trim namespaceText = ""
  · rw [segmentsOf_of_blank hblank, hblank]
    exact .none
  · exact ((splits_iff_segmentsOf hblank).2 rfl).joined

/-- **Joined names are found again.** -/
theorem segmentsOf_of_joined {segments : List String} {namespaceText : String}
    (h : Joined segments (Text.trim namespaceText).toList)
    (hspeakable : ∀ s ∈ segments, Identifier.Speakable s) :
    segmentsOf namespaceText = segments := by
  have hnil := h.eq_nil_iff hspeakable
  rw [String.toList_eq_nil_iff] at hnil
  by_cases hblank : Text.trim namespaceText = ""
  · rw [segmentsOf_of_blank hblank, hnil.1 hblank]
  · exact (splits_iff_segmentsOf hblank).1 (h.splits (mt hnil.2 hblank) hspeakable)

/-! ## Accepted paths and others -/

/-- A part of a path without a fault can name an item. -/
theorem partFault?_eq_none_iff {part : Part} {text : String} :
    partFault? part text = none ↔ Identifier.Speakable text := by
  simp [partFault?, Identifier.Speakable]

/-- The fault of a part of a path names the part and says what is wrong with it. -/
theorem partFault?_eq_some_iff {part : Part} {text : String} {fault : Fault} :
    partFault? part text = some fault ↔
      ∃ reason, Identifier.fault? text = some reason ∧ fault = ⟨part, text, reason⟩ := by
  simp only [partFault?, Option.map_eq_some_iff, @eq_comm _ fault]

/-- A path is accepted if each of its parts can name an item. -/
theorem parse_of_speakable {namespaceText name : String}
    (hsegments : ∀ s ∈ segmentsOf namespaceText, Identifier.Speakable s)
    (hname : Identifier.Speakable name) :
    parse namespaceText name = .ok ⟨segmentsOf namespaceText, name⟩ := by
  have hnone : (segmentsOf namespaceText).findSome? (partFault? .segment) = none :=
    List.findSome?_eq_none_iff.2 fun s hs => partFault?_eq_none_iff.2 (hsegments s hs)
  simp [parse, hnone, partFault?_eq_none_iff.2 hname]

/-- The first part that cannot name an item is reported, the segments before the name. -/
theorem parse_eq_error_iff_first {namespaceText name : String} {fault : Fault} :
    parse namespaceText name = .error fault ↔
      (∃ before piece after reason, segmentsOf namespaceText = before ++ piece :: after ∧
        (∀ s ∈ before, Identifier.Speakable s) ∧ Identifier.fault? piece = some reason ∧
          fault = ⟨.segment, piece, reason⟩) ∨
      (∀ s ∈ segmentsOf namespaceText, Identifier.Speakable s) ∧
        ∃ reason, Identifier.fault? name = some reason ∧ fault = ⟨.name, name, reason⟩ := by
  have hfirst : parse namespaceText name = .error fault ↔
      (segmentsOf namespaceText).findSome? (partFault? .segment) = some fault ∨
        (segmentsOf namespaceText).findSome? (partFault? .segment) = none ∧
          partFault? .name name = some fault := by
    unfold parse
    dsimp only
    cases (segmentsOf namespaceText).findSome? (partFault? .segment) with
    | some first => simp
    | none => cases partFault? .name name <;> simp
  rw [hfirst, List.findSome?_eq_none_iff, partFault?_eq_some_iff]
  simp only [List.findSome?_eq_some_iff, partFault?_eq_none_iff, partFault?_eq_some_iff]
  grind

/-- **The accepted paths** have a namespace of joined names, with blanks around it. -/
theorem parse_eq_ok_iff {namespaceText name : String} {c : Container} :
    parse namespaceText name = .ok c ↔
      Joined c.segments (Text.trim namespaceText).toList ∧
        (∀ s ∈ c.segments, Identifier.Speakable s) ∧ c.name = name ∧ Identifier.Speakable name := by
  constructor
  · intro h
    obtain ⟨rfl, hsegments, hname⟩ := speakable_of_parse h
    dsimp only at hsegments hname ⊢
    exact ⟨joined_segmentsOf namespaceText, hsegments, rfl, hname⟩
  · rintro ⟨hjoined, hsegments, rfl, hname⟩
    have hfound := segmentsOf_of_joined hjoined hsegments
    have hparse := parse_of_speakable (hfound ▸ hsegments) hname
    rwa [hfound] at hparse

/-- **What is reported** is the leftmost piece that is no name, or the name of the container. -/
theorem parse_eq_error_iff {namespaceText name : String} {fault : Fault} :
    parse namespaceText name = .error fault ↔
      (∃ before piece after reason, Text.trim namespaceText ≠ "" ∧
        Splits (before ++ piece :: after) (Text.trim namespaceText).toList ∧
        (∀ s ∈ before, Identifier.Speakable s) ∧ Identifier.fault? piece = some reason ∧
          fault = ⟨.segment, piece, reason⟩) ∨
      ∃ segments reason, Joined segments (Text.trim namespaceText).toList ∧
        (∀ s ∈ segments, Identifier.Speakable s) ∧ Identifier.fault? name = some reason ∧
          fault = ⟨.name, name, reason⟩ := by
  rw [parse_eq_error_iff_first]
  constructor
  · rintro (⟨before, piece, after, reason, hsegments, h⟩ | ⟨hsegments, reason, h⟩)
    · have hblank : Text.trim namespaceText ≠ "" := by
        intro hblank
        simp [segmentsOf_of_blank hblank] at hsegments
      exact .inl ⟨before, piece, after, reason, hblank,
        (splits_iff_segmentsOf hblank).2 hsegments, h⟩
    · exact .inr ⟨_, reason, joined_segmentsOf namespaceText, hsegments, h⟩
  · rintro (⟨before, piece, after, reason, hblank, hsplits, h⟩ | ⟨segments, reason, hjoined, h⟩)
    · exact .inl ⟨before, piece, after, reason, (splits_iff_segmentsOf hblank).1 hsplits, h⟩
    · have hfound := segmentsOf_of_joined hjoined h.1
      exact .inr ⟨hfound ▸ h.1, reason, h.2⟩

/-- **A container is known by its path**, if its parts are names.

The parts are the pieces of the path, because they are joined by double colons. -/
theorem eq_of_fullName_eq {c d : Container}
    (hc : ∀ s ∈ c.segments ++ [c.name], Identifier.Speakable s)
    (hd : ∀ s ∈ d.segments ++ [d.name], Identifier.Speakable s) (h : c.fullName = d.fullName) :
    c = d := by
  have hparts {e : Container} (he : ∀ s ∈ e.segments ++ [e.name], Identifier.Speakable s) :
      (splitSegments e.fullName.toList).map String.ofList = e.segments ++ [e.name] :=
    splits_iff.1 ((joined_intercalate _).splits (by simp) he)
  have happend : c.segments ++ [c.name] = d.segments ++ [d.name] := by
    rw [← hparts hc, ← hparts hd, h]
  obtain ⟨hsegments, hname⟩ := List.append_inj' happend rfl
  exact congrArg₂ Container.mk hsegments (List.singleton_inj.1 hname)

/-- The parts of an accepted path are names. -/
theorem speakable_parts_of_parse {namespaceText name : String} {c : Container}
    (h : parse namespaceText name = .ok c) :
    ∀ s ∈ c.segments ++ [c.name], Identifier.Speakable s := by
  obtain ⟨-, hsegments, hname⟩ := speakable_of_parse h
  rw [List.forall_mem_append, List.forall_mem_singleton]
  exact ⟨hsegments, hname⟩

/-! ## Main result -/

/-- **A namespace is some names with separators between them, or blank.**  A path is accepted
exactly if its namespace is one, apart from blanks around it, and its name can name an item, and
then it has these segments.  Otherwise the leftmost piece of the namespace that is no name is
reported, or the name if there is none, with what is wrong with it; the pieces are the parts between
points of the parts between double colons.  Names that are joined by any separators, with any blanks
around them, are found again, and accepted paths that read the same are the same.

**Proof sketch.** Both directions go through the pieces of the namespace.  A separator that ends in
a name, or in a name with the front of a separator behind it, would have a character that is in no
name, so joined names are pieces.  Conversely the pieces, with what separates them, are the text. -/
theorem parse_exact :
    (∀ (namespaceText name : String) (c : Container), parse namespaceText name = .ok c ↔
      Joined c.segments (Text.trim namespaceText).toList ∧
        (∀ s ∈ c.segments, Identifier.Speakable s) ∧ c.name = name ∧ Identifier.Speakable name) ∧
    (∀ (namespaceText name : String) (fault : Fault), parse namespaceText name = .error fault ↔
      (∃ before piece after reason, Text.trim namespaceText ≠ "" ∧
        Splits (before ++ piece :: after) (Text.trim namespaceText).toList ∧
        (∀ s ∈ before, Identifier.Speakable s) ∧ Identifier.fault? piece = some reason ∧
          fault = ⟨.segment, piece, reason⟩) ∨
      ∃ segments reason, Joined segments (Text.trim namespaceText).toList ∧
        (∀ s ∈ segments, Identifier.Speakable s) ∧ Identifier.fault? name = some reason ∧
          fault = ⟨.name, name, reason⟩) ∧
    (∀ (pieces : List String) (cs : List Char), Splits pieces cs ↔
      ((splitColons cs).flatMap (Text.pieces '.')).map String.ofList = pieces) ∧
    (∀ (segments : List String) (name word namespaceText : String),
      (∀ s ∈ segments, Identifier.Speakable s) → Identifier.Speakable name →
        Joined segments word.toList → Text.Padded word namespaceText →
          parse namespaceText name = .ok ⟨segments, name⟩) ∧
    ∀ (namespaceText name namespaceText' name' : String) (c d : Container),
      parse namespaceText name = .ok c → parse namespaceText' name' = .ok d →
        c.fullName = d.fullName → c = d := by
  refine ⟨fun _ _ _ => parse_eq_ok_iff, fun _ _ _ => parse_eq_error_iff, fun pieces cs => ?_,
    ?_, fun _ _ _ _ _ _ hc hd =>
      eq_of_fullName_eq (speakable_parts_of_parse hc) (speakable_parts_of_parse hd)⟩
  · rw [flatMap_pieces_splitColons]
    exact splits_iff
  · intro segments name word namespaceText hsegments hname hjoined hpadded
    have htrim : Text.trim namespaceText = word :=
      (Text.padded_iff (hjoined.isBlank hsegments)).1 hpadded
    exact parse_eq_ok_iff.2 ⟨htrim ▸ hjoined, hsegments, rfl, hname⟩

/-- Three names are found again behind an ideographic space, the piece behind the first two of three
colons is reported before the name, and a path is the same with another separator in its
namespace. -/
theorem parse_exact_of_three_names :
    parse "\u3000A.b::_c\n" "Out" = .ok ⟨["A", "b", "_c"], "Out"⟩ ∧
      parse "A:::b..c" "9" = .error ⟨.segment, ":b", .malformed⟩ ∧
      ∃ c d, parse "A.B" "C" = .ok c ∧ parse " A::B" "C" = .ok d ∧ c.fullName = d.fullName ∧
        c = d := by
  obtain ⟨-, herror, -, hpadded, hsame⟩ := parse_exact
  have hthree : Joined ["A", "b", "_c"] "A.b::_c".toList :=
    @Joined.cons "A" "b" ["_c"] _ _ (.inl rfl)
      (@Joined.cons "b" "_c" [] _ _ (.inr rfl) (.single "_c"))
  have hpoint : Joined ["A", "B"] "A.B".toList :=
    @Joined.cons "A" "B" [] _ _ (.inl rfl) (.single "B")
  have hcolons : Joined ["A", "B"] "A::B".toList :=
    @Joined.cons "A" "B" [] _ _ (.inr rfl) (.single "B")
  have hc : parse "A.B" "C" = .ok ⟨["A", "B"], "C"⟩ :=
    hpadded _ _ "A.B" _ (by decide) (by decide) hpoint ⟨"", "", by decide, by decide, by decide⟩
  have hd : parse " A::B" "C" = .ok ⟨["A", "B"], "C"⟩ :=
    hpadded _ _ "A::B" _ (by decide) (by decide) hcolons ⟨" ", "", by decide, by decide, by decide⟩
  refine ⟨?_, ?_, _, _, hc, hd, rfl, hsame _ _ _ _ _ _ hc hd rfl⟩
  · exact hpadded _ _ "A.b::_c" _ (by decide) (by decide) hthree
      ⟨"\u3000", "\n", by decide, by decide, by decide⟩
  · exact (herror _ _ _).2 (.inl ⟨["A"], ":b", ["", "c"], .malformed, by decide,
      splits_iff.2 (by decide), by decide, by decide, rfl⟩)

end BuildConst.Container
