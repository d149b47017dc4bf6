import BuildConst.Proofs.Files.Trail

/-!
# Making directories again

The directories that a file lies in are tried from the innermost outwards, and made from the first
one that can be made inwards.  When that succeeds, the innermost one is there, and a further attempt
ends at once.  When it fails with some of them made, the path breaks off at the directory that could
not be made: its name is too long, or a file has its place.  A further attempt then breaks off at
the same place.  It gives the same fault if it is the innermost directory that cannot be made.
Otherwise it gives the fault of going through that place, which for a file is another one than that
of making a directory there.

## Main definitions

* `Disk.unlessDirectory` — what is answered when a directory cannot be made.

## Main results

* `Disk.run_makeDirectories_of_isDirectory` — directories that are there are not made.
* `Disk.isDirectory_of_run_makeDirectories` — directories that were made are there.
* `Disk.run_makeDirectories_again` — what a further attempt comes to after one that failed.
-/

set_option relaxedAutoImplicit false
set_option autoImplicit false

namespace BuildConst.Disk

variable {disk after : Disk} {part : String} {above : List String} {fault : FileFault}

/-! ## Runs -/

/-- An attempt to make a directory does so, or it fails and leaves the disk alone. -/
theorem run_makeDirectory_eq {path : String} {result : Except FileFault Unit}
    (h : (Files.makeDirectory path : StateM Disk _).run disk = (result, after)) :
    (disk.makeDirectory path = .ok after ∧ result = .ok ()) ∨
      ∃ fault, disk.makeDirectory path = .error fault ∧ result = .error fault ∧ after = disk := by
  change (attempt _).run disk = _ at h
  simp only [attempt, StateT.run] at h
  split at h
  next changed hchanged =>
    obtain ⟨rfl, rfl⟩ := Prod.mk.inj h
    exact .inl ⟨hchanged, rfl⟩
  next fault hfault =>
    obtain ⟨rfl, rfl⟩ := Prod.mk.inj h
    exact .inr ⟨fault, hfault, rfl, rfl⟩

/-- What is answered when a directory cannot be made: it may be there. -/
def unlessDirectory (disk : Disk) (path : String) (fault : FileFault) : Except FileFault Unit :=
  if disk.isDirectory path then .ok () else .error fault

/-- Asking for a directory that cannot be made leaves a disk alone. -/
theorem run_isDirectory (path : String) (fault : FileFault) (disk : Disk) :
    (do if ← Files.isDirectory path then pure (.ok ()) else pure (.error fault) :
      StateM Disk (Except FileFault Unit)).run disk = (disk.unlessDirectory path fault, disk) := by
  refine run_bind_eq_iff.2 ⟨disk.isDirectory path, disk, rfl, ?_⟩
  unfold unlessDirectory
  cases disk.isDirectory path <;> rfl

/-- The ways in which a directory is made unless it is there. -/
theorem run_ensureDirectory_eq {path : String} {result : Except FileFault Unit}
    (h : (Files.ensureDirectory path : StateM Disk _).run disk = (result, after)) :
    (disk.makeDirectory path = .ok after ∧ result = .ok ()) ∨
      ∃ fault, disk.makeDirectory path = .error fault ∧
        result = disk.unlessDirectory path fault ∧ after = disk := by
  obtain ⟨made, between, hmade, hrest⟩ := run_bind_eq_iff.1 h
  rcases run_makeDirectory_eq hmade with ⟨hmake, rfl⟩ | ⟨fault, hmake, rfl, rfl⟩
  · obtain ⟨rfl, rfl⟩ := Prod.mk.inj hrest
    exact .inl ⟨hmake, rfl⟩
  · obtain ⟨rfl, rfl⟩ := Prod.mk.inj ((run_isDirectory path fault between).symm.trans hrest)
    exact .inr ⟨fault, hmake, rfl, rfl⟩

/-- The ways in which a directory and those above it are made: it is made at once, or it cannot be
made whatever is above it, or those above it are made first. -/
theorem run_makeDirectories_cons {path : String} {rest : List String}
    {result : Except FileFault Unit}
    (h : (Files.makeDirectories (path :: rest) : StateM Disk _).run disk = (result, after)) :
    (disk.makeDirectory path = .ok after ∧ result = .ok ()) ∨
    (∃ fault, fault ≠ .noSuchFile ∧ disk.makeDirectory path = .error fault ∧
      result = disk.unlessDirectory path fault ∧ after = disk) ∨
    (disk.makeDirectory path = .error .noSuchFile ∧ ∃ outer between,
      (Files.makeDirectories rest : StateM Disk _).run disk = (outer, between) ∧
      ((∃ fault, outer = .error fault ∧ result = .error fault ∧ after = between) ∨
        outer = .ok () ∧
          (Files.ensureDirectory path : StateM Disk _).run between = (result, after))) := by
  obtain ⟨made, between, hmade, hrest⟩ := run_bind_eq_iff.1 h
  rcases run_makeDirectory_eq hmade with ⟨hmake, rfl⟩ | ⟨fault, hmake, rfl, rfl⟩
  · obtain ⟨rfl, rfl⟩ := Prod.mk.inj hrest
    exact .inl ⟨hmake, rfl⟩
  · refine .inr ?_
    by_cases hmissing : fault = .noSuchFile
    · subst hmissing
      obtain ⟨outer, further, houter, hrest⟩ := run_bind_eq_iff.1 hrest
      refine .inr ⟨hmake, outer, further, houter, ?_⟩
      cases outer with
      | error fault =>
        obtain ⟨rfl, rfl⟩ := Prod.mk.inj hrest
        exact .inl ⟨fault, rfl, rfl, rfl⟩
      | ok _ => exact .inr ⟨rfl, hrest⟩
    · split at hrest
      next heq => cases heq
      next heq => exact absurd (Except.error.inj heq) hmissing
      next fault' _ heq =>
        obtain rfl := Except.error.inj heq
        obtain ⟨rfl, rfl⟩ := Prod.mk.inj ((run_isDirectory path fault between).symm.trans hrest)
        exact .inl ⟨fault, hmissing, hmake, rfl, rfl⟩

/-- A directory that cannot be made whatever is above it is asked for, and nothing is made. -/
theorem run_makeDirectories_of_error {path : String} (rest : List String)
    (hmake : disk.makeDirectory path = .error fault) (hmissing : fault ≠ .noSuchFile) :
    (Files.makeDirectories (path :: rest) : StateM Disk _).run disk =
      (disk.unlessDirectory path fault, disk) := by
  rcases hrun : (Files.makeDirectories (path :: rest) : StateM Disk _).run disk with
    ⟨result, after⟩
  rcases run_makeDirectories_cons hrun with ⟨hmake', -⟩ | ⟨fault', -, hmake', rfl, rfl⟩ |
    ⟨hmake', -⟩
  · rw [hmake] at hmake'
    cases hmake'
  · rw [hmake] at hmake'
    obtain rfl := Except.error.inj hmake'
    rfl
  · rw [hmake] at hmake'
    exact absurd (Except.error.inj hmake') hmissing

/-- **Directories that are there are not made.** -/
theorem run_makeDirectories_of_isDirectory {path : String} (rest : List String)
    (h : disk.isDirectory path = true) :
    (Files.makeDirectories (path :: rest) : StateM Disk _).run disk = (.ok (), disk) := by
  obtain ⟨fault, hmissing, hmake⟩ := makeDirectory_of_isDirectory h
  rw [run_makeDirectories_of_error rest hmake hmissing, unlessDirectory, if_pos h]

/-- A path that is not usable is refused, and nothing is made. -/
theorem eq_of_run_makeDirectories {path : String} {rest : List String}
    {result : Except FileFault Unit} (hpath : ¬Path.IsUsable path)
    (h : (Files.makeDirectories (path :: rest) : StateM Disk _).run disk = (result, after)) :
    after = disk := by
  obtain ⟨other, hother, hlocate⟩ := locate_of_not_isUsable hpath
  have hmake : disk.makeDirectory path = .error other := by
    rw [makeDirectory, hlocate disk]
    rfl
  have hrun := run_makeDirectories_of_error rest hmake hother
  exact (Prod.mk.inj (h.symm.trans hrun)).2

/-- The answer to a directory that cannot be made is a success only if it is there. -/
theorem unlessDirectory_eq_ok_iff {path : String} :
    disk.unlessDirectory path fault = .ok () ↔ disk.isDirectory path = true := by
  unfold unlessDirectory
  split <;> simp_all

/-- The answer to a directory that cannot be made is a failure only if it is not there. -/
theorem unlessDirectory_eq_error_iff {path : String} {other : FileFault} :
    disk.unlessDirectory path fault = .error other ↔
      disk.isDirectory path = false ∧ fault = other := by
  unfold unlessDirectory
  split <;> simp_all

/-- If making directories succeeds, then the innermost one is there. -/
theorem isDirectory_of_run_makeDirectories {path : String} {rest : List String}
    (h : (Files.makeDirectories (path :: rest) : StateM Disk _).run disk = (.ok (), after)) :
    after.isDirectory path = true := by
  rcases run_makeDirectories_cons h with ⟨hmake, -⟩ | ⟨fault, -, -, hresult, rfl⟩ |
    ⟨-, outer, between, -, ⟨fault, -, hresult, -⟩ | ⟨-, hensure⟩⟩
  · exact isDirectory_of_makeDirectory hmake
  · exact unlessDirectory_eq_ok_iff.1 hresult.symm
  · cases hresult
  · rcases run_ensureDirectory_eq hensure with ⟨hmake, -⟩ | ⟨fault, -, hresult, rfl⟩
    · exact isDirectory_of_makeDirectory hmake
    · exact unlessDirectory_eq_ok_iff.1 hresult.symm

/-! ## A further attempt -/

/-- If making directories succeeds, then their path can be gone through, unless one of their names
is too long. -/
theorem follow_of_run_makeDirectories {trail : List String} (htrail : Path.IsTrail trail)
    (husable : Path.IsUsable (Path.ofTrail trail))
    (h : (Files.makeDirectories (Path.chain trail) : StateM Disk _).run disk = (.ok (), after)) :
    (∃ place, after.follow trail = .ok place) ∨ after.follow trail = .error .nameTooLong := by
  induction trail with
  | nil => exact .inl ⟨[], rfl⟩
  | cons part above ih =>
    cases hpart : Path.isFiller part with
    | true =>
      rw [Path.chain_of_isFiller hpart] at h
      rw [follow_cons_of_isFiller hpart]
      exact ih htrail.above husable.above h
    | false =>
      rw [Path.chain_of_not_isFiller hpart] at h
      exact follow_of_isDirectory htrail hpart husable (isDirectory_of_run_makeDirectories h)

/-- If a directory cannot be made although those above it are there, then its path breaks off at
its last part. -/
theorem follow_of_outer {between : Disk} (htrail : Path.IsTrail (part :: above))
    (hpart : Path.isFiller part = false)
    (husable : Path.IsUsable (Path.ofTrail (part :: above)))
    (houter : (Files.makeDirectories (Path.chain above) : StateM Disk _).run disk =
      (.ok (), between))
    (hmake : between.makeDirectory (Path.ofTrail (part :: above)) = .error fault)
    (hother : between.isDirectory (Path.ofTrail (part :: above)) = false) :
    between.follow (part :: above) = .error fault.passing ∧
      (fault = .nameTooLong ∨ fault = .fileExists) := by
  rcases follow_of_makeDirectory_error htrail hpart husable hmake hother with habove | hlast
  · rcases follow_of_run_makeDirectories htrail.above husable.above houter with
      ⟨place, hplace⟩ | hlong
    · rw [hplace] at habove
      cases habove
    · rw [hlong] at habove
      obtain rfl := Except.error.inj habove
      rw [follow_cons, hlong]
      exact ⟨rfl, .inl rfl⟩
  · exact hlast

/-- **Where the path breaks off**: if making directories fails after some of them were made, the
path leads to a part whose name is too long or that is a file.

**Proof sketch.** Induction on the parts, the innermost first.  Either the directories above fail,
and then the path breaks off above; or they are there, and then it does at the last part. -/
theorem follow_of_run_makeDirectories_error {trail : List String} (htrail : Path.IsTrail trail)
    (husable : Path.IsUsable (Path.ofTrail trail))
    (h : (Files.makeDirectories (Path.chain trail) : StateM Disk _).run disk =
      (.error fault, after)) :
    after = disk ∨ after.follow trail = .error fault.passing ∧
      (fault = .nameTooLong ∨ fault = .fileExists) := by
  induction trail with
  | nil =>
    rcases run_makeDirectories_cons h with ⟨-, hresult⟩ | ⟨_, -, -, -, rfl⟩ |
      ⟨-, outer, between, houter, ⟨_, rfl, -, -⟩ | ⟨-, hensure⟩⟩
    · cases hresult
    · exact .inl rfl
    · cases houter
    · obtain ⟨-, rfl⟩ := Prod.mk.inj houter
      rcases run_ensureDirectory_eq hensure with ⟨-, hresult⟩ | ⟨_, -, -, rfl⟩
      · cases hresult
      · exact .inl rfl
  | cons part above ih =>
    cases hpart : Path.isFiller part with
    | true =>
      rw [Path.chain_of_isFiller hpart] at h
      rw [follow_cons_of_isFiller hpart]
      exact ih htrail.above husable.above h
    | false =>
      rw [Path.chain_of_not_isFiller hpart] at h
      rcases run_makeDirectories_cons h with ⟨-, hresult⟩ | ⟨_, -, -, -, rfl⟩ |
        ⟨-, outer, between, houter, ⟨_, rfl, hresult, rfl⟩ | ⟨rfl, hensure⟩⟩
      · cases hresult
      · exact .inl rfl
      · obtain rfl := Except.error.inj hresult
        rcases ih htrail.above husable.above houter with hsame | ⟨hfollow, hfault⟩
        · exact .inl hsame
        · rw [follow_cons, hfollow]
          exact .inr ⟨rfl, hfault⟩
      · rcases run_ensureDirectory_eq hensure with ⟨-, hresult⟩ | ⟨_, hmake, hresult, rfl⟩
        · cases hresult
        · obtain ⟨hother, rfl⟩ := unlessDirectory_eq_error_iff.1 hresult.symm
          exact .inr (follow_of_outer htrail hpart husable houter hmake hother)

/-- If the path of the directories above breaks off, then none is made. -/
theorem run_makeDirectories_of_follow (htrail : Path.IsTrail (part :: above))
    (hpart : Path.isFiller part = false)
    (husable : Path.IsUsable (Path.ofTrail (part :: above)))
    (hfollow : disk.follow above = .error fault) (hpresent : fault ≠ .noSuchFile) :
    (Files.makeDirectories (Path.ofTrail (part :: above) :: Path.chain above) :
      StateM Disk _).run disk = (.error fault, disk) := by
  have hmake : disk.makeDirectory (Path.ofTrail (part :: above)) = .error fault := by
    rw [makeDirectory_ofTrail htrail hpart husable, hfollow]
    rfl
  have hother : disk.isDirectory (Path.ofTrail (part :: above)) = false := by
    rw [← Bool.not_eq_true, isDirectory_ofTrail htrail hpart husable, hfollow]
    rintro ⟨place, hplace, -⟩
    cases hplace
  rw [run_makeDirectories_of_error _ hmake hpresent, unlessDirectory_eq_error_iff.2 ⟨hother, rfl⟩]

/-- **What a further attempt comes to** after making directories failed: nothing more is made, and
the fault is the same, unless a file that was met halfway is now gone through.

**Proof sketch.** If nothing was made the attempt is the same one.  Otherwise the path breaks off
(`follow_of_run_makeDirectories_error`): at its last part, where the same directory cannot be made
again, or above, where the first directory that is tried now cannot be reached. -/
theorem run_makeDirectories_again {trail : List String} (htrail : Path.IsTrail trail)
    (h : (Files.makeDirectories (Path.chain trail) : StateM Disk _).run disk =
      (.error fault, after)) :
    ∃ further, (Files.makeDirectories (Path.chain trail) : StateM Disk _).run after =
        (.error further, after) ∧
      (further = fault ∨ fault = .fileExists ∧ further = .notDirectory ∧ after ≠ disk) := by
  induction trail with
  | nil =>
    rcases follow_of_run_makeDirectories_error htrail Path.isUsable_nil h with rfl | ⟨hfollow, -⟩
    · exact ⟨fault, h, .inl rfl⟩
    · cases hfollow
  | cons part above ih =>
    cases hpart : Path.isFiller part with
    | true =>
      rw [Path.chain_of_isFiller hpart] at h ⊢
      exact ih htrail.above h
    | false =>
      rw [Path.chain_of_not_isFiller hpart] at h ⊢
      by_cases husable : Path.IsUsable (Path.ofTrail (part :: above))
      · rcases run_makeDirectories_cons h with ⟨-, hresult⟩ | ⟨_, -, -, -, rfl⟩ |
          ⟨hmissing, outer, between, houter, ⟨_, rfl, hresult, rfl⟩ | ⟨rfl, hensure⟩⟩
        · cases hresult
        · exact ⟨fault, h, .inl rfl⟩
        · obtain rfl := Except.error.inj hresult
          rcases follow_of_run_makeDirectories_error htrail.above husable.above houter with
            rfl | ⟨hfollow, hfault⟩
          · exact ⟨fault, h, .inl rfl⟩
          · rcases hfault with rfl | rfl
            · exact ⟨.nameTooLong,
                run_makeDirectories_of_follow htrail hpart husable hfollow (by decide), .inl rfl⟩
            · have hagain :=
                run_makeDirectories_of_follow htrail hpart husable hfollow (by decide)
              refine ⟨.notDirectory, hagain, .inr ⟨rfl, rfl, ?_⟩⟩
              rintro rfl
              rw [makeDirectory_ofTrail htrail hpart husable, hfollow] at hmissing
              cases hmissing
        · rcases run_ensureDirectory_eq hensure with ⟨-, hresult⟩ | ⟨last, hmake, hresult, rfl⟩
          · cases hresult
          · obtain ⟨hother, rfl⟩ := unlessDirectory_eq_error_iff.1 hresult.symm
            obtain ⟨-, hfault⟩ := follow_of_outer htrail hpart husable houter hmake hother
            have hpresent : last ≠ .noSuchFile := by
              rcases hfault with rfl | rfl <;> decide
            refine ⟨last, ?_, .inl rfl⟩
            rw [run_makeDirectories_of_error _ hmake hpresent, hresult]
      · obtain rfl := eq_of_run_makeDirectories husable h
        exact ⟨fault, h, .inl rfl⟩

end BuildConst.Disk
