import BuildConst.Proofs.Files.Directories

/-!
# Making directories without going upwards

A file can stand at the place of a directory whose parent was not there before only if the path
leads to it in another way, that is, by going upwards.  Without going upwards a path leads to the
place of its names, if anywhere, and what is made on the way lies further up.  So making its
directories breaks off halfway for no other reason than a name that is too long.

## Main definitions

* `Path.names` — the parts of a path that name something.
* `Disk.Rooted` — everything on a disk lies in a directory.

## Main results

* `Disk.eq_names_of_follow` — where a path leads that does not go upwards.
* `Disk.fault_of_run_makeDirectories` — without going upwards no file is met halfway.
-/

set_option relaxedAutoImplicit false
set_option autoImplicit false

namespace BuildConst

/-! ## Names -/

/-- The names among reversed parts. -/
def Path.names (trail : List String) : Location :=
  trail.filter fun part => !isFiller part

theorem Path.names_cons_of_isFiller {part : String} (hpart : isFiller part = true)
    (above : List String) : names (part :: above) = names above := by
  simp [names, hpart]

theorem Path.names_cons_of_not_isFiller {part : String} (hpart : isFiller part = false)
    (above : List String) : names (part :: above) = part :: names above := by
  simp [names, hpart]

namespace Disk

/-- Everything on a disk lies in a directory. -/
def Rooted (disk : Disk) : Prop :=
  ∀ part place, disk.entry? (part :: place) ≠ none → disk.entry? place = some .directory

variable {disk after : Disk} {part : String} {above : List String} {fault : FileFault}

/-! ## Without going upwards -/

/-- Without going upwards, parts lead to the place of their names. -/
theorem eq_names_of_follow {trail : List String} (hup : ".." ∉ trail) {place : Location}
    (h : disk.follow trail = .ok place) :
    place = Path.names trail ∧ disk.entry? place = some .directory := by
  induction trail generalizing place with
  | nil =>
    obtain rfl := Except.ok.inj h
    exact ⟨rfl, if_pos rfl⟩
  | cons part above ih =>
    rw [List.mem_cons, not_or] at hup
    cases hpart : Path.isFiller part with
    | true =>
      rw [follow_cons_of_isFiller hpart] at h
      rw [Path.names_cons_of_isFiller hpart]
      exact ih hup.2 h
    | false =>
      rw [follow_cons] at h
      obtain ⟨outer, houter, h⟩ := Except.bind_eq_ok_iff.1 h
      obtain ⟨rfl, -⟩ := ih hup.2 houter
      rw [enter_of_not_isFiller disk _ hpart, if_neg (Ne.symm hup.1)] at h
      rw [Path.names_cons_of_not_isFiller hpart]
      split at h
      next => cases h
      next =>
        split at h
        next => cases h
        next => cases h
        next hentry =>
          obtain rfl := Except.ok.inj h
          exact ⟨rfl, hentry⟩

/-- Without going upwards, nothing is at the place of names that lead nowhere. -/
theorem entry_names_of_follow (hrooted : disk.Rooted) {trail : List String} (hup : ".." ∉ trail)
    (h : disk.follow trail = .error .noSuchFile) : disk.entry? (Path.names trail) = none := by
  induction trail with
  | nil => cases h
  | cons part above ih =>
    rw [List.mem_cons, not_or] at hup
    cases hpart : Path.isFiller part with
    | true =>
      rw [follow_cons_of_isFiller hpart] at h
      rw [Path.names_cons_of_isFiller hpart]
      exact ih hup.2 h
    | false =>
      rw [Path.names_cons_of_not_isFiller hpart]
      cases houter : disk.follow above with
      | error fault =>
        rw [follow_cons, houter] at h
        have hfault : (.error fault : Except FileFault Location) = .error .noSuchFile := h
        obtain rfl := Except.error.inj hfault
        by_contra hsome
        have habove := hrooted part (Path.names above) hsome
        rw [ih hup.2 houter] at habove
        cases habove
      | ok place =>
        obtain ⟨rfl, -⟩ := eq_names_of_follow hup.2 houter
        rw [follow_cons, houter] at h
        change disk.enter (Path.names above) part = _ at h
        rw [enter_of_not_isFiller disk _ hpart, if_neg (Ne.symm hup.1)] at h
        split at h
        next => cases h
        next =>
          split at h
          next hentry => exact hentry
          next => cases h
          next => cases h

/-- Making a directory at the end of a path that does not go upwards touches nothing beyond the place
of its names, and everything still lies in a directory. -/
theorem entry_of_makeDirectory (hrooted : disk.Rooted) (htrail : Path.IsTrail (part :: above))
    (hpart : Path.isFiller part = false)
    (husable : Path.IsUsable (Path.ofTrail (part :: above))) (hup : ".." ∉ part :: above)
    (h : disk.makeDirectory (Path.ofTrail (part :: above)) = .ok after) :
    after.Rooted ∧ ∀ place, (Path.names (part :: above)).length < place.length →
      after.entry? place = disk.entry? place := by
  rw [List.mem_cons, not_or] at hup
  rw [makeDirectory_ofTrail htrail hpart husable] at h
  obtain ⟨outer, houter, h⟩ := Except.bind_eq_ok_iff.1 h
  obtain ⟨rfl, hdirectory⟩ := eq_names_of_follow hup.2 houter
  rw [if_neg (Ne.symm hup.1)] at h
  split at h
  next => cases h
  next =>
    split at h
    next => cases h
    next hnone =>
      obtain rfl := Except.ok.inj h
      have hroot : part :: Path.names above ≠ [] := List.cons_ne_nil _ _
      have hgrows := grows_put hroot hnone
      constructor
      · intro inner place hentry
        rw [entry_put hroot] at hentry
        split at hentry
        next hsame =>
          obtain ⟨rfl, rfl⟩ := List.cons.inj hsame
          exact hgrows.directory hdirectory
        next => exact hgrows.directory (hrooted inner place hentry)
      · intro place hlong
        rw [Path.names_cons_of_not_isFiller hpart] at hlong
        rw [entry_put hroot, if_neg]
        rintro rfl
        exact Nat.lt_irrefl _ hlong

/-- The root is a directory. -/
theorem isDirectory_root (disk : Disk) : disk.isDirectory "/" = true := rfl

/-- Making the directories of a path that does not go upwards touches nothing beyond the place of
its names, and everything still lies in a directory. -/
theorem entry_of_run_makeDirectories (hrooted : disk.Rooted) {trail : List String}
    (htrail : Path.IsTrail trail) (husable : Path.IsUsable (Path.ofTrail trail))
    (hup : ".." ∉ trail)
    (h : (Files.makeDirectories (Path.chain trail) : StateM Disk _).run disk = (.ok (), after)) :
    after.Rooted ∧ ∀ place, (Path.names trail).length < place.length →
      after.entry? place = disk.entry? place := by
  induction trail generalizing after with
  | nil =>
    have hroot := run_makeDirectories_of_isDirectory [] (isDirectory_root disk)
    obtain ⟨-, rfl⟩ := Prod.mk.inj (hroot.symm.trans h)
    exact ⟨hrooted, fun _ _ => rfl⟩
  | cons part above ih =>
    have hup' : ".." ∉ above := fun hmem => hup (List.mem_cons_of_mem _ hmem)
    cases hpart : Path.isFiller part with
    | true =>
      rw [Path.chain_of_isFiller hpart] at h
      rw [Path.names_cons_of_isFiller hpart]
      exact ih htrail.above husable.above hup' h
    | false =>
      rw [Path.chain_of_not_isFiller hpart] at h
      rcases run_makeDirectories_cons h with ⟨hmake, -⟩ | ⟨_, -, -, -, rfl⟩ |
        ⟨-, outer, between, houter, ⟨_, -, hresult, -⟩ | ⟨rfl, hensure⟩⟩
      · exact entry_of_makeDirectory hrooted htrail hpart husable hup hmake
      · exact ⟨hrooted, fun _ _ => rfl⟩
      · cases hresult
      · obtain ⟨hbetween, hbeyond⟩ := ih htrail.above husable.above hup' houter
        have hlength (place : Location) (hlong : (Path.names (part :: above)).length < place.length) :
            (Path.names above).length < place.length := by
          rw [Path.names_cons_of_not_isFiller hpart, List.length_cons] at hlong
          omega
        rcases run_ensureDirectory_eq hensure with ⟨hmake, -⟩ | ⟨_, -, -, rfl⟩
        · obtain ⟨hafter, hfurther⟩ :=
            entry_of_makeDirectory hbetween htrail hpart husable hup hmake
          exact ⟨hafter, fun place hlong =>
            (hfurther place hlong).trans (hbeyond place (hlength place hlong))⟩
        · exact ⟨hbetween, fun place hlong => hbeyond place (hlength place hlong)⟩

/-- A directory is missing above only if the parts above lead nowhere. -/
theorem follow_of_makeDirectory_missing (htrail : Path.IsTrail (part :: above))
    (hpart : Path.isFiller part = false)
    (husable : Path.IsUsable (Path.ofTrail (part :: above)))
    (h : disk.makeDirectory (Path.ofTrail (part :: above)) = .error .noSuchFile) :
    disk.follow above = .error .noSuchFile := by
  rw [makeDirectory_ofTrail htrail hpart husable] at h
  cases hfollow : disk.follow above with
  | error fault =>
    rw [hfollow] at h
    have hfault : (.error fault : Except FileFault Disk) = .error .noSuchFile := h
    rw [Except.error.inj hfault]
  | ok place =>
    rw [hfollow] at h
    change (if _ then _ else if _ then _ else _) = _ at h
    split at h
    next => cases h
    next =>
      split at h
      next => cases h
      next => split at h <;> cases h

/-- A path that does not go upwards breaks off at a file only if there is one. -/
theorem follow_ne_notDirectory (hpart : Path.isFiller part = false) (hup : ".." ∉ above)
    (hvacant : disk.entry? (part :: Path.names above) = none)
    (habove : (∃ place, disk.follow above = .ok place) ∨ disk.follow above = .error .nameTooLong) :
    disk.follow (part :: above) ≠ .error .notDirectory := by
  rw [follow_cons]
  rcases habove with ⟨place, hplace⟩ | hlong
  · obtain ⟨rfl, -⟩ := eq_names_of_follow hup hplace
    rw [hplace]
    change disk.enter (Path.names above) part ≠ _
    rw [enter_of_not_isFiller disk _ hpart, hvacant]
    split
    next => nofun
    next => split <;> nofun
  · rw [hlong]
    nofun

/-- If making the directories of a usable path fails after some of them were made, then a name is
too long.

**Proof sketch.** Induction on the parts, the innermost first.  The directories above were missing,
so on the disk of the beginning there was nothing at the place of the directory; making those above
does not reach that far; and so there is no file that it could run into. -/
theorem fault_of_isUsable (hrooted : disk.Rooted) {trail : List String}
    (htrail : Path.IsTrail trail) (husable : Path.IsUsable (Path.ofTrail trail))
    (hup : ".." ∉ trail)
    (h : (Files.makeDirectories (Path.chain trail) : StateM Disk _).run disk =
      (.error fault, after)) : after = disk ∨ fault = .nameTooLong := by
  induction trail with
  | nil =>
    have hroot := run_makeDirectories_of_isDirectory [] (isDirectory_root disk)
    cases (Prod.mk.inj (hroot.symm.trans h)).1
  | cons part above ih =>
    have hup' : ".." ∉ above := fun hmem => hup (List.mem_cons_of_mem _ hmem)
    cases hpart : Path.isFiller part with
    | true =>
      rw [Path.chain_of_isFiller hpart] at h
      exact ih htrail.above husable.above hup' h
    | false =>
      rw [Path.chain_of_not_isFiller hpart] at h
      rcases run_makeDirectories_cons h with ⟨-, hresult⟩ | ⟨_, -, -, -, rfl⟩ |
        ⟨hmissing, outer, between, houter, ⟨_, rfl, hresult, rfl⟩ | ⟨rfl, hensure⟩⟩
      · cases hresult
      · exact .inl rfl
      · obtain rfl := Except.error.inj hresult
        exact ih htrail.above husable.above hup' houter
      · rcases run_ensureDirectory_eq hensure with ⟨-, hresult⟩ | ⟨last, hmake, hresult, rfl⟩
        · cases hresult
        · obtain ⟨hother, rfl⟩ := unlessDirectory_eq_error_iff.1 hresult.symm
          obtain ⟨hfollow, hfault⟩ := follow_of_outer htrail hpart husable houter hmake hother
          refine .inr (hfault.resolve_right ?_)
          rintro rfl
          -- There is nothing at the place of the directory, so the path does not break off at a file.
          have houtside := follow_of_makeDirectory_missing htrail hpart husable hmissing
          have hvacant : disk.entry? (part :: Path.names above) = none := by
            by_contra hsome
            have habove := hrooted part (Path.names above) hsome
            rw [entry_names_of_follow hrooted hup' houtside] at habove
            cases habove
          obtain ⟨-, hbeyond⟩ :=
            entry_of_run_makeDirectories hrooted htrail.above husable.above hup' houter
          rw [← hbeyond (part :: Path.names above) (Nat.lt_succ_self _)] at hvacant
          exact follow_ne_notDirectory hpart hup' hvacant
            (follow_of_run_makeDirectories htrail.above husable.above houter) hfollow

/-- **Without going upwards no file is met halfway**: if making the directories of a path fails after
some of them were made, then a name is too long. -/
theorem fault_of_run_makeDirectories (hrooted : disk.Rooted) {trail : List String}
    (htrail : Path.IsTrail trail) (hup : ".." ∉ trail)
    (h : (Files.makeDirectories (Path.chain trail) : StateM Disk _).run disk =
      (.error fault, after)) : after = disk ∨ fault = .nameTooLong := by
  induction trail with
  | nil => exact fault_of_isUsable hrooted htrail Path.isUsable_nil hup h
  | cons part above ih =>
    cases hpart : Path.isFiller part with
    | true =>
      rw [Path.chain_of_isFiller hpart] at h
      exact ih htrail.above (fun hmem => hup (List.mem_cons_of_mem _ hmem)) h
    | false =>
      by_cases husable : Path.IsUsable (Path.ofTrail (part :: above))
      · exact fault_of_isUsable hrooted htrail husable hup h
      · rw [Path.chain_of_not_isFiller hpart] at h
        exact .inl (eq_of_run_makeDirectories husable h)

end Disk

end BuildConst
