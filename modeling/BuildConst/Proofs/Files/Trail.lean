import BuildConst.Proofs.Files.Frame

/-!
# Absolute paths, part by part

A path that begins at the root leads where its parts lead, one after the other.  The parts are
written here from the last to the first, so that those above a part are the rest of the list.
Making a directory at the end of a path, and asking whether one is there, come down to where the
parts above lead and to what is at that place.

## Main definitions

* `Path.ofTrail`, `Path.IsTrail` — absolute paths by their reversed parts.
* `Path.IsUsable` — paths that a file system looks at.
* `Disk.follow` — the directory that reversed parts lead to.
* `FileFault.passing` — what going through a place comes to if no directory can be made there.

## Main results

* `Path.isTrail_of_backwards` — the parts above the last one of an absolute path.
* `Disk.makeDirectory_ofTrail`, `Disk.isDirectory_ofTrail` — the operations, part by part.
* `Disk.follow_of_makeDirectory_error` — where a path breaks off if no directory can be made at its
  end.
-/

set_option relaxedAutoImplicit false
set_option autoImplicit false

namespace BuildConst

/-! ## Absolute paths by their reversed parts -/

namespace Path

/-- The path of reversed parts. -/
def ofTrail (trail : List String) : String :=
  "/".intercalate trail.reverse

/-- Reversed parts that begin at the root. -/
structure IsTrail (trail : List String) : Prop where
  root : ∀ part ∈ trail.getLast?, part = ""
  whole : ∀ part ∈ trail, '/' ∉ part.toList

/-- A path that is looked at by a file system. -/
def IsUsable (path : String) : Prop :=
  '\x00' ∉ path.toList ∧ path.utf8ByteSize < Disk.pathLimit

/-- The parts above a part begin at the root, too. -/
theorem IsTrail.above {part : String} {above : List String} (h : IsTrail (part :: above)) :
    IsTrail above where
  root p hp := by
    cases above with
    | nil => cases hp
    | cons next more => exact h.root p (by rwa [List.getLast?_cons_cons])
  whole p hp := h.whole p (List.mem_cons_of_mem _ hp)

/-- A part that names something is not the first one of an absolute path. -/
theorem IsTrail.above_ne_nil {part : String} {above : List String} (h : IsTrail (part :: above))
    (hpart : isFiller part = false) : above ≠ [] := by
  rintro rfl
  obtain rfl : part = "" := h.root part rfl
  cases hpart

/-- The parts of an absolute path are found again. -/
theorem parts_ofTrail {trail : List String} (h : IsTrail trail) (hne : trail ≠ []) :
    parts (ofTrail trail) = trail.reverse := by
  have hslash : "/".toList = ['/'] := rfl
  have hpieces : Text.pieces '/' (ofTrail trail).toList = trail.reverse.map String.toList := by
    rw [ofTrail, String.toList_intercalate, hslash]
    refine Text.pieces_intercalate (by simpa using hne) fun piece hpiece => ?_
    obtain ⟨part, hpart, rfl⟩ := List.mem_map.1 hpiece
    exact h.whole part (List.mem_reverse.1 hpart)
  rw [parts, hpieces]
  simp

/-- The path of a part begins with the path of the parts above it. -/
theorem ofTrail_cons {above : List String} (part : String) (hne : above ≠ []) :
    ofTrail (part :: above) = ofTrail above ++ "/" ++ part := by
  rw [ofTrail, List.reverse_cons,
    String.intercalate_append_of_ne_nil (by simpa using hne) (List.cons_ne_nil _ _),
    String.intercalate_singleton, ofTrail]

/-- The path of no parts is usable. -/
theorem isUsable_nil : IsUsable (ofTrail []) := by
  have hnul : '\x00' ∉ "".toList := by decide
  have hsize : "".utf8ByteSize < Disk.pathLimit := by decide
  exact ⟨hnul, hsize⟩

/-- If a path is usable, then so is that of the parts above. -/
theorem IsUsable.above {part : String} {above : List String}
    (h : IsUsable (ofTrail (part :: above))) : IsUsable (ofTrail above) := by
  cases above with
  | nil => exact isUsable_nil
  | cons next more =>
    obtain ⟨hnul, hsize⟩ := h
    rw [ofTrail_cons part (List.cons_ne_nil _ _), String.append_assoc] at hnul hsize
    rw [String.utf8ByteSize_append] at hsize
    rw [String.toList_append, List.mem_append, not_or] at hnul
    exact ⟨hnul.1, by omega⟩

/-- A part that names something stands behind a slash at the root. -/
theorem isAbsolute_ofTrail {part : String} {above : List String} (h : IsTrail (part :: above))
    (hpart : isFiller part = false) : isAbsolute (ofTrail (part :: above)) = true := by
  have hne := h.above_ne_nil hpart
  obtain ⟨more, hmore⟩ : ∃ more, above.reverse = "" :: more := by
    obtain ⟨front, last, rfl⟩ := List.eq_nil_or_concat' above |>.resolve_left hne
    obtain rfl : last = "" := h.above.root last (by simp)
    exact ⟨front.reverse, by simp⟩
  obtain ⟨next, rest, hrest⟩ : ∃ next rest, more ++ [part] = next :: rest :=
    List.exists_cons_of_ne_nil (by simp)
  have hslash : ("" ++ "/" : String).toList = ['/'] := by decide
  rw [isAbsolute, ofTrail, List.reverse_cons, hmore, List.cons_append, hrest,
    String.intercalate_cons_cons, String.toList_append, hslash]
  rfl

/-- The parts above the last one of an absolute path begin at the root. -/
theorem isTrail_of_backwards {path last : String} {above : List String}
    (habsolute : isAbsolute path = true) (h : backwards path = last :: above) : IsTrail above := by
  have hsuffix : above <:+ (parts path).reverse :=
    (List.suffix_cons last above).trans (h ▸ List.dropWhile_suffix isFiller)
  constructor
  · intro part hpart
    obtain ⟨rest, hpath⟩ : ∃ rest, path.toList = '/' :: rest := by
      simpa [isAbsolute, List.head?_eq_some_iff] using habsolute
    obtain ⟨lower, hlower⟩ := hsuffix
    have hfirst : (parts path).reverse.getLast? = some "" := by
      simp [parts, hpath, Text.pieces]
    rw [← hlower, List.getLast?_append, Option.mem_def.1 hpart] at hfirst
    simpa using hfirst
  · intro part hpart
    have hmem : part ∈ parts path := List.mem_reverse.1 (hsuffix.subset hpart)
    obtain ⟨piece, hpiece, rfl⟩ := List.mem_map.1 hmem
    simpa using Text.notMem_of_mem_pieces hpiece

/-- A part that names nothing adds no directory. -/
theorem chain_of_isFiller {part : String} (hpart : isFiller part = true) (above : List String) :
    chain (part :: above) = chain above := by
  rw [chain, if_pos hpart]

/-- A part that names something adds a directory. -/
theorem chain_of_not_isFiller {part : String} (hpart : isFiller part = false)
    (above : List String) : chain (part :: above) = ofTrail (part :: above) :: chain above := by
  rw [chain, hpart, if_neg Bool.false_ne_true]
  rfl

end Path

/-! ## Following parts -/

/-- What going through a place comes to if a directory cannot be made there: a name that is too long
stays so, and what has the place of the directory is a file. -/
def FileFault.passing : FileFault → FileFault
  | .fileExists => .notDirectory
  | fault => fault

namespace Disk

/-- The directory that reversed parts lead to from the root. -/
def follow (disk : Disk) (trail : List String) : Except FileFault Location :=
  trail.reverse.foldlM disk.enter []

variable {disk after : Disk} {part : String} {above : List String} {fault : FileFault}

/-- The last part is entered behind those above it. -/
theorem follow_cons (disk : Disk) (part : String) (above : List String) :
    disk.follow (part :: above) = disk.follow above >>= fun place => disk.enter place part := by
  simp only [follow, List.reverse_cons, List.foldlM_append, List.foldlM_cons, List.foldlM_nil,
    bind_pure]

/-- A part that names nothing leads nowhere else. -/
theorem follow_cons_of_isFiller (hpart : Path.isFiller part = true) :
    disk.follow (part :: above) = disk.follow above := by
  rw [follow_cons]
  cases disk.follow above with
  | error fault => rfl
  | ok place =>
    change disk.enter place part = _
    rw [enter, if_pos hpart]

/-- A path that is not usable leads nowhere, and not for lack of a directory. -/
theorem locate_of_not_isUsable {path : String} (h : ¬Path.IsUsable path) :
    ∃ fault, fault ≠ .noSuchFile ∧ ∀ disk : Disk, disk.locate path = .error fault := by
  by_cases hnul : '\x00' ∈ path.toList
  · exact ⟨.nulInName, by decide, fun disk => by rw [locate, if_pos hnul]⟩
  · have hsize : pathLimit ≤ path.utf8ByteSize :=
      Nat.le_of_not_lt fun hlt => h ⟨hnul, hlt⟩
    exact ⟨.nameTooLong, by decide, fun disk => by rw [locate, if_neg hnul, if_pos hsize]⟩

/-- A path leads to its last part in the directory that the parts above it lead to. -/
theorem locate_ofTrail (h : Path.IsTrail (part :: above)) (hpart : Path.isFiller part = false)
    (husable : Path.IsUsable (Path.ofTrail (part :: above))) :
    disk.locate (Path.ofTrail (part :: above)) =
      (disk.follow above).map fun directory => ⟨directory, part, false⟩ := by
  have habsolute := Path.isAbsolute_ofTrail h hpart
  have hparts := Path.parts_ofTrail h (List.cons_ne_nil _ _)
  have hsome : (Path.ofTrail (part :: above)).isEmpty = false := by
    rw [String.isEmpty_eq_false_iff]
    rintro hempty
    rw [hempty] at habsolute
    exact absurd habsolute (by decide)
  have hfirst : (part == "") = false := by
    simp only [Path.isFiller, Bool.or_eq_false_iff] at hpart
    exact hpart.1
  have hdrop : (part :: above).dropWhile (· == "") = part :: above :=
    List.dropWhile_cons_of_neg (by simp [hfirst])
  have hslash : ((part :: above).head? == some "") = false := by
    simpa using hfirst
  rw [locate, if_neg husable.1, if_neg (Nat.not_le.2 husable.2), hsome]
  simp only [Bool.false_eq_true, if_false, habsolute, if_true, hparts, List.reverse_reverse, hdrop,
    hslash]
  rw [follow]
  cases above.reverse.foldlM disk.enter [] <;> rfl

/-! ## Making a directory -/

/-- How a directory is made at the end of a path: where the parts above lead to, and if there is
nothing yet. -/
theorem makeDirectory_ofTrail (h : Path.IsTrail (part :: above))
    (hpart : Path.isFiller part = false)
    (husable : Path.IsUsable (Path.ofTrail (part :: above))) :
    disk.makeDirectory (Path.ofTrail (part :: above)) =
      disk.follow above >>= fun place =>
        if part = ".." then .error .fileExists
        else if nameLimit < part.utf8ByteSize then .error .nameTooLong
        else
          match disk.entry? (part :: place) with
          | some _ => .error .fileExists
          | none => .ok (disk.put (part :: place) .directory) := by
  have hdot : (part == ".") = false := by
    simp only [Path.isFiller, Bool.or_eq_false_iff] at hpart
    exact hpart.2
  rw [makeDirectory, locate_ofTrail h hpart husable]
  cases disk.follow above with
  | error fault => rfl
  | ok place =>
    simp only [Except.map, bind, Except.bind, Aim.isDots, hdot, Bool.false_or, beq_iff_eq,
      Aim.checkName, Aim.place]
    by_cases hlong : nameLimit < part.utf8ByteSize
    · simp only [hlong, if_true]
    · cases disk.entry? (part :: place) <;> simp [hlong]

/-- Whether the end of a path is a directory. -/
theorem isDirectory_ofTrail (h : Path.IsTrail (part :: above))
    (hpart : Path.isFiller part = false)
    (husable : Path.IsUsable (Path.ofTrail (part :: above))) :
    disk.isDirectory (Path.ofTrail (part :: above)) = true ↔
      ∃ place, disk.follow above = .ok place ∧
        (part = ".." ∨ disk.entry? (part :: place) = some .directory) := by
  have hdot : (part == ".") = false := by
    simp only [Path.isFiller, Bool.or_eq_false_iff] at hpart
    exact hpart.2
  rw [isDirectory, locate_ofTrail h hpart husable]
  cases disk.follow above with
  | error fault => simp [Except.map]
  | ok place => simp [Except.map, Aim.isDots, hdot, Aim.place]

/-- How a part that names something is entered. -/
theorem enter_of_not_isFiller (disk : Disk) (place : Location)
    (hpart : Path.isFiller part = false) :
    disk.enter place part =
      if part = ".." then .ok place.tail
      else if nameLimit < part.utf8ByteSize then .error .nameTooLong
      else
        match disk.entry? (part :: place) with
        | none => .error .noSuchFile
        | some (.file _) => .error .notDirectory
        | some .directory => .ok (part :: place) := by
  unfold enter
  exact if_neg (Bool.eq_false_iff.1 hpart)

/-- If the end of a path is no directory and none can be made there, either the parts above lead
nowhere, or the path breaks off at its last part. -/
theorem follow_of_makeDirectory_error (h : Path.IsTrail (part :: above))
    (hpart : Path.isFiller part = false)
    (husable : Path.IsUsable (Path.ofTrail (part :: above)))
    (hmake : disk.makeDirectory (Path.ofTrail (part :: above)) = .error fault)
    (hother : disk.isDirectory (Path.ofTrail (part :: above)) = false) :
    disk.follow above = .error fault ∨
      disk.follow (part :: above) = .error fault.passing ∧
        (fault = .nameTooLong ∨ fault = .fileExists) := by
  rw [makeDirectory_ofTrail h hpart husable] at hmake
  rw [← Bool.not_eq_true, isDirectory_ofTrail h hpart husable] at hother
  cases hplace : disk.follow above with
  | error other =>
    rw [hplace] at hmake
    have hsame : (.error other : Except FileFault Disk) = .error fault := hmake
    obtain rfl := Except.error.inj hsame
    exact .inl rfl
  | ok place =>
    refine .inr ?_
    rw [hplace] at hmake
    change (if part = ".." then _ else if _ then _ else _) = _ at hmake
    have hdots : part ≠ ".." := fun hdots => hother ⟨place, hplace, .inl hdots⟩
    have hdirectory : disk.entry? (part :: place) ≠ some .directory :=
      fun hdirectory => hother ⟨place, hplace, .inr hdirectory⟩
    rw [follow_cons, hplace]
    change disk.enter place part = _ ∧ _
    rw [enter_of_not_isFiller disk place hpart, if_neg hdots]
    rw [if_neg hdots] at hmake
    split at hmake
    next hlong =>
      obtain rfl := Except.error.inj hmake
      rw [if_pos hlong]
      exact ⟨rfl, .inl rfl⟩
    next hshort =>
      rw [if_neg hshort]
      split at hmake
      next entry hentry =>
        obtain rfl := Except.error.inj hmake
        cases entry with
        | directory => exact absurd hentry hdirectory
        | file bytes =>
          rw [hentry]
          exact ⟨rfl, .inr rfl⟩
      next => cases hmake

/-- The end of a path that is a directory can be gone through, unless its name is too long. -/
theorem follow_of_isDirectory (h : Path.IsTrail (part :: above))
    (hpart : Path.isFiller part = false)
    (husable : Path.IsUsable (Path.ofTrail (part :: above)))
    (hdirectory : disk.isDirectory (Path.ofTrail (part :: above)) = true) :
    (∃ place, disk.follow (part :: above) = .ok place) ∨
      disk.follow (part :: above) = .error .nameTooLong := by
  obtain ⟨place, hplace, hlast⟩ := (isDirectory_ofTrail h hpart husable).1 hdirectory
  rw [follow_cons, hplace]
  change (∃ next, disk.enter place part = .ok next) ∨ disk.enter place part = _
  rw [enter_of_not_isFiller disk place hpart]
  split
  next => exact .inl ⟨_, rfl⟩
  next hdots =>
    split
    next => exact .inr rfl
    next =>
      rw [hlast.resolve_left hdots]
      exact .inl ⟨_, rfl⟩

/-- A path that leads to a directory is there already. -/
theorem makeDirectory_of_isDirectory {path : String} (h : disk.isDirectory path = true) :
    ∃ fault, fault ≠ .noSuchFile ∧ disk.makeDirectory path = .error fault := by
  unfold isDirectory at h
  split at h
  next => cases h
  next aim haim =>
    simp only [makeDirectory, haim, bind, Except.bind]
    split
    next => exact ⟨.fileExists, by decide, rfl⟩
    next hdots =>
      have hentry : disk.entry? aim.place = some .directory := by
        simpa [hdots] using h
      by_cases hlong : nameLimit < aim.last.utf8ByteSize
      · rw [Aim.checkName, if_pos hlong]
        exact ⟨.nameTooLong, by decide, rfl⟩
      · rw [Aim.checkName, if_neg hlong, hentry]
        exact ⟨.fileExists, by decide, rfl⟩

/-- A path leads to the directory that was made. -/
theorem isDirectory_of_makeDirectory {path : String} (h : disk.makeDirectory path = .ok after) :
    after.isDirectory path = true := by
  have hgrows := grows_of_makeDirectory h
  unfold makeDirectory at h
  obtain ⟨aim, haim, h⟩ := Except.bind_eq_ok_iff.1 h
  split at h
  next => cases h
  next =>
    obtain ⟨-, -, h⟩ := Except.bind_eq_ok_iff.1 h
    split at h
    next => cases h
    next =>
      obtain rfl := Except.ok.inj h
      have hlocate := locate_of_directories hgrows.1 (fun _ => hgrows.directory) haim
      rw [isDirectory, hlocate]
      simp [entry_put aim.place_ne_nil]

end Disk

end BuildConst
