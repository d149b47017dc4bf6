import BuildConst.Proofs.Strategies
import BuildConst.Proofs.Commands
import BuildConst.Proofs.Files.Rooted

/-!
# Running a compilation again

A run finds what an earlier one left: the directories are there, and the file holds the bytes that
are written to it again.  So it ends like the earlier one and changes nothing.  A run that failed
after it had made some directories fails again.  It says the same, unless the earlier one met a file
halfway: a directory cannot be made there because something has that name, and from then on the
path cannot be gone through because a file is no directory.  This happens only if the path of the
target goes upwards.

## Main definitions

* `Disk.MeetsFile` — some directories of a path were made before it ran into a file.

## Main results

* `Artifact.run_store_again`, `Artifact.run_emit_again` — an artifact that is written again.
* `Disk.not_meetsFile` — without going upwards no file is met halfway.
* `compile_repeated` — a run that is repeated ends alike.
-/

set_option relaxedAutoImplicit false
set_option autoImplicit false

namespace BuildConst

namespace Disk

/-! ## Disks that were written to -/

/-- An entry that is put in the place of another one leaves no trace of it. -/
theorem putEntry_putEntry (place : Location) (first second : Entry)
    (entries : List (Location × Entry)) :
    putEntry place second (putEntry place first entries) = putEntry place second entries := by
  induction entries with
  | nil => rw [putEntry, putEntry, putEntry, if_pos rfl]
  | cons entry rest ih =>
    obtain ⟨other, old⟩ := entry
    by_cases hplace : other = place
    · rw [putEntry, if_pos hplace, putEntry, if_pos rfl, putEntry, if_pos hplace]
    · rw [putEntry, if_neg hplace, putEntry, if_neg hplace, ih, putEntry, if_neg hplace]

/-- What is put at a place twice might as well be put there once. -/
theorem put_put (disk : Disk) (place : Location) (first second : Entry) :
    (disk.put place first).put place second = disk.put place second := by
  rw [put, put, put, putEntry_putEntry]

/-- A path leads to the same file once it was written. -/
theorem aimOfWrite_put {disk : Disk} {path : String} {aim : Aim}
    (h : disk.aimOfWrite path = .ok aim) (bytes : List UInt8) :
    (disk.put aim.place (.file bytes)).aimOfWrite path = .ok aim := by
  obtain ⟨-, hdots, hslash, hname, -⟩ := aimOfWrite_eq_ok_iff.1 h
  refine aimOfWrite_eq_ok_iff.2 ⟨locate_put_of_aimOfWrite h bytes, hdots, hslash, hname, ?_⟩
  rw [entry_put aim.place_ne_nil, if_pos rfl]
  nofun

/-- A path that leads to a directory still does as long as directories stay. -/
theorem isDirectory_of_directories {disk after : Disk} (hhere : after.here = disk.here)
    (hdirs : ∀ place, disk.entry? place = some .directory → after.entry? place = some .directory)
    {path : String} (h : disk.isDirectory path = true) : after.isDirectory path = true := by
  unfold isDirectory at h ⊢
  split at h
  next => cases h
  next aim haim =>
    rw [locate_of_directories hhere hdirs haim]
    simp only [Bool.or_eq_true, beq_iff_eq] at h ⊢
    exact h.imp_right (hdirs aim.place)

/-- Directories that were made need not be made again as long as directories stay. -/
theorem run_makeDirectories_of_directories {paths : List String} {disk between after : Disk}
    (h : (Files.makeDirectories paths : StateM Disk _).run disk = (.ok (), between))
    (hhere : after.here = between.here)
    (hdirs : ∀ place, between.entry? place = some .directory →
      after.entry? place = some .directory) :
    (Files.makeDirectories paths : StateM Disk _).run after = (.ok (), after) := by
  cases paths with
  | nil => rfl
  | cons path above =>
    exact run_makeDirectories_of_isDirectory above
      (isDirectory_of_directories hhere hdirs (isDirectory_of_run_makeDirectories h))

/-! ## Files that are met halfway -/

/-- Some of the directories that a path lies in were made, and then one of them could not be because
something else has its name. -/
structure MeetsFile (disk after : Disk) (path : String) : Prop where
  run : (Files.makeDirectories (Path.parents path) : StateM Disk _).run disk =
    (.error .fileExists, after)
  made : after ≠ disk

/-- If a file was met, then a path lies in a directory. -/
theorem MeetsFile.headD_mem_head? {path : String} {disk after : Disk}
    (h : disk.MeetsFile after path) :
    (Path.parents path).headD path ∈ (Path.parents path).head? := by
  have hrun := h.run
  cases hparents : Path.parents path with
  | nil =>
    rw [hparents] at hrun
    cases (Prod.mk.inj hrun).1
  | cons directory above => rfl

/-- The directories that an absolute path lies in are those of parts that begin at the root. -/
theorem parents_eq_chain {path : String} (habsolute : Path.isAbsolute path = true) :
    Path.parents path = [] ∨ ∃ last above, Path.backwards path = last :: above ∧
      Path.IsTrail above ∧ Path.parents path = Path.chain above := by
  cases hback : Path.backwards path with
  | nil => exact .inl (by rw [Path.parents, hback])
  | cons last above =>
    exact .inr ⟨last, above, rfl, Path.isTrail_of_backwards habsolute hback,
      by rw [Path.parents, hback]⟩

/-- **What a further attempt at the directories of a path comes to** after one that failed: the
same, unless a file was met halfway, which is no directory. -/
theorem run_makeDirectories_parents_again {path : String} {disk after : Disk} {fault : FileFault}
    (habsolute : Path.isAbsolute path = true)
    (h : (Files.makeDirectories (Path.parents path) : StateM Disk _).run disk =
      (.error fault, after)) :
    ∃ further, (Files.makeDirectories (Path.parents path) : StateM Disk _).run after =
        (.error further, after) ∧
      (further = fault ∨
        disk.MeetsFile after path ∧ fault = .fileExists ∧ further = .notDirectory) := by
  rcases parents_eq_chain habsolute with hnone | ⟨_, above, -, htrail, hchain⟩
  · rw [hnone] at h
    cases (Prod.mk.inj h).1
  · obtain ⟨further, hfurther, hsame | ⟨rfl, hother, hmade⟩⟩ :=
      run_makeDirectories_again htrail (hchain ▸ h)
    · exact ⟨further, hchain ▸ hfurther, .inl hsame⟩
    · exact ⟨further, hchain ▸ hfurther, .inr ⟨⟨h, hmade⟩, rfl, hother⟩⟩

/-- **Without going upwards no file is met halfway.** -/
theorem not_meetsFile {path : String} {disk after : Disk} (hrooted : disk.Rooted)
    (habsolute : Path.isAbsolute path = true) (hup : ".." ∉ Path.parts path) :
    ¬disk.MeetsFile after path := by
  intro hmeets
  rcases parents_eq_chain habsolute with hnone | ⟨last, above, hback, htrail, hchain⟩
  · have hrun := hmeets.run
    rw [hnone] at hrun
    cases (Prod.mk.inj hrun).1
  · have hsuffix : last :: above <:+ (Path.parts path).reverse :=
      hback ▸ List.dropWhile_suffix Path.isFiller
    have hup' : ".." ∉ above := fun hmem =>
      hup (List.mem_reverse.1 (hsuffix.subset (List.mem_cons_of_mem _ hmem)))
    rcases fault_of_run_makeDirectories hrooted htrail hup' (hchain ▸ hmeets.run) with hsame | hlong
    · exact hmeets.made hsame
    · cases hlong

end Disk

/-! ## Artifacts that are written again -/

namespace Artifact

/-- **Storing the same bytes again** comes to the same and changes nothing, unless a file was met
halfway. -/
theorem run_store_again {path : String} {bytes : List UInt8} {disk after : Disk}
    {result : Except EmissionFault Unit} (habsolute : Path.isAbsolute path = true)
    (h : (store path bytes : StateM Disk _).run disk = (result, after)) :
    ∃ further, (store path bytes : StateM Disk _).run after = (further, after) ∧
      (further = result ∨ disk.MeetsFile after path ∧
        result = .error (.file ((Path.parents path).headD path) .fileExists) ∧
        further = .error (.file ((Path.parents path).headD path) .notDirectory)) := by
  obtain ⟨made, between, hmade, h⟩ := Disk.run_bind_eq_iff.1 h
  cases made with
  | error fault =>
    obtain ⟨rfl, rfl⟩ := Prod.mk.inj h
    obtain ⟨further, hfurther, hcases⟩ :=
      Disk.run_makeDirectories_parents_again habsolute hmade
    refine ⟨.error (.file ((Path.parents path).headD path) further),
      Disk.run_bind_eq_iff.2 ⟨_, _, hfurther, rfl⟩, ?_⟩
    rcases hcases with rfl | ⟨hmeets, rfl, rfl⟩
    · exact .inl rfl
    · exact .inr ⟨hmeets, rfl, rfl⟩
  | ok _ =>
    cases haim : between.aimOfWrite path with
    | error fault =>
      have hwrite := Disk.run_writeFile_of_fault haim bytes
      obtain ⟨_, _, hwritten, hlast⟩ := Disk.run_bind_eq_iff.1 h
      rw [hwrite] at hwritten
      obtain ⟨rfl, rfl⟩ := Prod.mk.inj hwritten
      obtain ⟨rfl, rfl⟩ := Prod.mk.inj hlast
      have hagain := Disk.run_makeDirectories_of_directories hmade rfl fun _ hdir => hdir
      exact ⟨_, Disk.run_bind_eq_iff.2
        ⟨_, _, hagain, Disk.run_bind_eq_iff.2 ⟨_, _, hwrite, rfl⟩⟩, .inl rfl⟩
    | ok aim =>
      have hwrite := Disk.run_writeFile_of_aim haim bytes
      obtain ⟨_, _, hwritten, hlast⟩ := Disk.run_bind_eq_iff.1 h
      rw [hwrite] at hwritten
      obtain ⟨rfl, rfl⟩ := Prod.mk.inj hwritten
      obtain ⟨rfl, rfl⟩ := Prod.mk.inj hlast
      obtain ⟨-, -, -, -, hvacant⟩ := Disk.aimOfWrite_eq_ok_iff.1 haim
      have hagain := Disk.run_makeDirectories_of_directories hmade
        (Disk.here_put between aim.place (.file bytes))
        fun _ => Disk.directory_put_file aim.place_ne_nil hvacant bytes
      have hwrite' := Disk.run_writeFile_of_aim (Disk.aimOfWrite_put haim bytes) bytes
      rw [Disk.put_put] at hwrite'
      exact ⟨_, Disk.run_bind_eq_iff.2
        ⟨_, _, hagain, Disk.run_bind_eq_iff.2 ⟨_, _, hwrite', rfl⟩⟩, .inl rfl⟩

/-- Writing an artifact leaves the working directory where it is. -/
theorem here_of_run_emit {strategy : Strategy} {t : Table} {c : Container} {target : String}
    {disk after : Disk} {result : Except EmissionFault String}
    (h : (emit strategy t c target : StateM Disk _).run disk = (result, after)) :
    after.here = disk.here := by
  rcases run_emit h with ⟨_, _, between, -, -, -, hgrows, hwrite⟩ | ⟨-, hgrows⟩
  · obtain ⟨aim, -, hstores⟩ := Disk.stores_of_write hgrows hwrite
    exact hstores.here
  · exact hgrows.1

/-- From one working directory, writing an artifact is refused on every disk, or it comes down to
storing the same bytes at the same path. -/
theorem run_emit_cases (strategy : Strategy) (t : Table) (c : Container) (target : String)
    (disk : Disk) :
    (∃ fault, ∀ other : Disk, other.here = disk.here →
      (emit strategy t c target : StateM Disk _).run other = (.error fault, other)) ∨
    ∃ bytes, ∀ other : Disk, other.here = disk.here → ∀ result after,
      (store (disk.resolve target) bytes : StateM Disk _).run other = (result, after) →
      (emit strategy t c target : StateM Disk _).run other =
        (result.map fun _ => disk.resolve target, after) := by
  have hpath (other : Disk) (hhere : other.here = disk.here) :
      other.resolve target = disk.resolve target := by
    rw [Disk.resolve, hhere, Disk.resolve]
  cases hstem : Path.stem? (disk.resolve target) with
  | none =>
    refine .inl ⟨.noFileName (disk.resolve target), fun other hhere => ?_⟩
    rw [← hpath other hhere] at hstem ⊢
    exact run_emit_of_noFileName hstem
  | some moduleName =>
    cases hrender : render strategy t c moduleName with
    | error fault =>
      refine .inl ⟨fault, fun other hhere => ?_⟩
      rw [← hpath other hhere] at hstem
      exact run_emit_of_unrendered hstem hrender
    | ok bytes =>
      refine .inr ⟨bytes, fun other hhere result after hstore => ?_⟩
      rw [← hpath other hhere] at hstem hstore ⊢
      exact run_emit_of_rendered hstem hrender hstore

/-- **Writing the same artifact again** comes to the same and changes nothing, unless a file was met
halfway. -/
theorem run_emit_again {strategy : Strategy} {t : Table} {c : Container} {target : String}
    {disk after : Disk} {result : Except EmissionFault String}
    (h : (emit strategy t c target : StateM Disk _).run disk = (result, after)) :
    ∃ further, (emit strategy t c target : StateM Disk _).run after = (further, after) ∧
      (further = result ∨ ∃ directory, disk.MeetsFile after (disk.resolve target) ∧
        directory ∈ (Path.parents (disk.resolve target)).head? ∧
        result = .error (.file directory .fileExists) ∧
        further = .error (.file directory .notDirectory)) := by
  have hhere := here_of_run_emit h
  rcases run_emit_cases strategy t c target disk with ⟨fault, hrefused⟩ | ⟨bytes, hemit⟩
  · rw [hrefused disk rfl] at h
    obtain ⟨rfl, rfl⟩ := Prod.mk.inj h
    exact ⟨_, hrefused disk rfl, .inl rfl⟩
  · rcases hstored : (store (disk.resolve target) bytes : StateM Disk _).run disk with
      ⟨stored, between⟩
    rw [hemit disk rfl _ _ hstored] at h
    obtain ⟨rfl, rfl⟩ := Prod.mk.inj h
    obtain ⟨again, hagain, rfl | ⟨hmeets, rfl, rfl⟩⟩ :=
      run_store_again (disk.isAbsolute_resolve target) hstored
    · exact ⟨_, hemit between hhere _ _ hagain, .inl rfl⟩
    · refine ⟨_, hemit between hhere _ _ hagain, .inr ⟨_, hmeets, ?_, rfl, rfl⟩⟩
      exact hmeets.headD_mem_head?

end Artifact

/-! ## Runs -/

/-- **A run that is repeated ends alike**: on the disk that a run left, the same run ends with the
same status, artifact and table, and it leaves the disk as it is.  Its diagnostics are the same,
too, unless the earlier run failed as it met a file on its way to the innermost directory: it could
not make a directory there because something exists, and from then on there is something on the way
that is no directory.  On a disk where everything lies in a directory this does not happen to a path
that does not go upwards.

**Proof sketch.** A run that is blocked has left the disk alone.  Otherwise it comes down to storing
the artifact.  If the directories could be made they are there from then on, and the file is written
once more, or refused once more; if they could not, the path breaks off at a part that is still
there (`Disk.run_makeDirectories_again`). -/
theorem compile_repeated (ds : List Declaration) (config : Config) (disk : Disk) :
    ∃ first second after,
      (compile ds config : StateM Disk Outcome).run disk = (first, after) ∧
      (compile ds config : StateM Disk Outcome).run after = (second, after) ∧
      second.status = first.status ∧ second.artifact? = first.artifact? ∧
      second.table = first.table ∧
      (second.diagnostics = first.diagnostics ∨
        first.status = .failed ∧ disk.MeetsFile after (disk.resolve config.target) ∧
        ∃ directory ∈ (Path.parents (disk.resolve config.target)).head?,
          first.diagnostics = (collect ds).diagnostics ++
            [.emissionFailed (EmissionFault.file directory .fileExists).message] ∧
          second.diagnostics = (collect ds).diagnostics ++
            [.emissionFailed (EmissionFault.file directory .notDirectory).message]) ∧
      (disk.Rooted → ".." ∉ Path.parts (disk.resolve config.target) → second = first) := by
  rcases hrun : (compile ds config : StateM Disk Outcome).run disk with ⟨first, after⟩
  rcases run_compile hrun with ⟨fault, hfault, rfl, rfl⟩ | ⟨c, hc, herrors, rfl, rfl⟩ |
    ⟨c, path, hc, hclean, hemit, rfl⟩ | ⟨c, fault, hc, hclean, hemit, rfl⟩
  · exact ⟨_, _, _, rfl, hrun, rfl, rfl, rfl, .inl rfl, fun _ _ => rfl⟩
  · exact ⟨_, _, _, rfl, hrun, rfl, rfl, rfl, .inl rfl, fun _ _ => rfl⟩
  · have hready : (collect ds).isReady = true := by simp [Collected.isReady, hclean]
    obtain ⟨further, hagain, rfl | ⟨_, -, -, hresult, -⟩⟩ := Artifact.run_emit_again hemit
    · exact ⟨_, _, _, rfl, run_compile_of_isReady hc hready hagain, rfl, rfl, rfl, .inl rfl,
        fun _ _ => rfl⟩
    · cases hresult
  · have hready : (collect ds).isReady = true := by simp [Collected.isReady, hclean]
    obtain ⟨further, hagain, rfl | ⟨directory, hmeets, hdirectory, hresult, rfl⟩⟩ :=
      Artifact.run_emit_again hemit
    · exact ⟨_, _, _, rfl, run_compile_of_isReady hc hready hagain, rfl, rfl, rfl, .inl rfl,
        fun _ _ => rfl⟩
    · obtain rfl := Except.error.inj hresult
      refine ⟨_, _, _, rfl, run_compile_of_isReady hc hready hagain, rfl, rfl, rfl,
        .inr ⟨rfl, hmeets, directory, hdirectory, rfl, rfl⟩, fun hrooted hup => ?_⟩
      exact absurd hmeets (Disk.not_meetsFile hrooted (disk.isAbsolute_resolve _) hup)

/-- With a file `f` beside it, the target `x/../f/g/t.rs` leads through a directory that is not there
and then to the file.  The first run makes that directory and finds something at `f` that keeps it
from making `f/g`.  The second run finds that `f` is no directory. -/
theorem diagnostics_of_run_halfway :
    ∃ first second after,
      (compile [⟨"A=1", none⟩] { target := "x/../f/g/t.rs" } : StateM Disk Outcome).run
          ⟨[(["f"], .file [])], []⟩ = (first, after) ∧
      (compile [⟨"A=1", none⟩] { target := "x/../f/g/t.rs" } : StateM Disk Outcome).run after =
          (second, after) ∧
      first.diagnostics =
        [.emissionFailed "I/O error on '/x/../f/g': File exists (os error 17)"] ∧
      second.diagnostics =
        [.emissionFailed "I/O error on '/x/../f/g': Not a directory (os error 20)"] ∧
      second.diagnostics ≠ first.diagnostics := by
  refine ⟨⟨.failed, (collect [⟨"A=1", none⟩]).table, _⟩,
    ⟨.failed, (collect [⟨"A=1", none⟩]).table, _⟩,
    ⟨[(["f"], .file []), (["x"], .directory)], []⟩, ?_, ?_, rfl, rfl, ?_⟩
  · change (_ : Outcome × Disk) = _
    decide +kernel
  · change (_ : Outcome × Disk) = _
    decide +kernel
  · decide +kernel

end BuildConst
