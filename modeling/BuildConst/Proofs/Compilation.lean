import BuildConst.Compilation
import BuildConst.Proofs.Files.Frame

/-!
# How a run ends

A run is blocked if a declaration or the name of the container is at fault, and then it has not
touched the disk.  Otherwise it either stores its artifact or fails; a failed run leaves no file
behind, though it may leave directories.

## Main definitions

* `Disk.resolve` — the absolute path of a target on a disk.

## Main results

* `Artifact.run_emit_of_rendered` — writing an artifact comes down to storing its bytes.
* `Artifact.run_emit` — what writing an artifact does to a disk.
* `compile_ends` — the outcome of a run and the disk that it leaves.
-/

set_option relaxedAutoImplicit false
set_option autoImplicit false

namespace BuildConst

/-- The absolute path of a target, from the working directory of a disk. -/
def Disk.resolve (disk : Disk) (target : String) : String :=
  Path.join (Disk.pathOf disk.here) target

namespace Artifact

/-- Resolving a target leaves a disk alone. -/
theorem run_resolve (target : String) (disk : Disk) :
    (resolve target : StateM Disk String).run disk = (disk.resolve target, disk) := rfl

/-- Storing bytes writes a file once directories were made, or fails and adds directories at
most. -/
theorem run_store {path : String} {bytes : List UInt8} {disk after : Disk}
    {result : Except EmissionFault Unit}
    (h : (store path bytes : StateM Disk _).run disk = (result, after)) :
    (∃ between, result = .ok () ∧ Disk.Grows disk between ∧
        between.write path bytes = .ok after) ∨
      (∃ fault, result = .error fault) ∧ Disk.Grows disk after := by
  obtain ⟨made, between, hmade, h⟩ := Disk.run_bind_eq_iff.1 h
  have hgrows := Disk.run_makeDirectories hmade
  cases made with
  | error fault =>
    obtain ⟨rfl, rfl⟩ := Prod.mk.inj h
    exact Or.inr ⟨⟨_, rfl⟩, hgrows⟩
  | ok _ =>
    obtain ⟨written, further, hwritten, hlast⟩ := Disk.run_bind_eq_iff.1 h
    rcases Disk.run_attempt_eq hwritten with ⟨rfl, hwrite⟩ | ⟨⟨fault, rfl⟩, rfl⟩
    · obtain ⟨rfl, rfl⟩ := Prod.mk.inj hlast
      exact Or.inl ⟨between, rfl, hgrows, hwrite⟩
    · obtain ⟨rfl, rfl⟩ := Prod.mk.inj hlast
      exact Or.inr ⟨⟨_, rfl⟩, hgrows⟩

section Emission

variable {strategy : Strategy} {t : Table} {c : Container} {target : String} {disk after : Disk}

/-- Writing an artifact is refused if the path of its target has no last part. -/
theorem run_emit_of_noFileName (hstem : Path.stem? (disk.resolve target) = none) :
    (emit strategy t c target : StateM Disk _).run disk =
      (.error (.noFileName (disk.resolve target)), disk) := by
  refine Disk.run_bind_eq_iff.2 ⟨_, _, run_resolve target disk, ?_⟩
  rw [hstem]
  rfl

/-- Writing an artifact is refused if its table cannot be rendered. -/
theorem run_emit_of_unrendered {moduleName : String} {fault : EmissionFault}
    (hstem : Path.stem? (disk.resolve target) = some moduleName)
    (hrender : render strategy t c moduleName = .error fault) :
    (emit strategy t c target : StateM Disk _).run disk = (.error fault, disk) := by
  refine Disk.run_bind_eq_iff.2 ⟨_, _, run_resolve target disk, ?_⟩
  rw [hstem]
  dsimp only
  rw [hrender]
  rfl

/-- Writing an artifact comes down to storing its bytes, if its target has a name and its table can
be rendered. -/
theorem run_emit_of_rendered {moduleName : String} {bytes : List UInt8}
    {stored : Except EmissionFault Unit}
    (hstem : Path.stem? (disk.resolve target) = some moduleName)
    (hrender : render strategy t c moduleName = .ok bytes)
    (hstore : (store (disk.resolve target) bytes : StateM Disk _).run disk = (stored, after)) :
    (emit strategy t c target : StateM Disk _).run disk =
      (stored.map fun _ => disk.resolve target, after) := by
  refine Disk.run_bind_eq_iff.2 ⟨_, _, run_resolve target disk, ?_⟩
  rw [hstem]
  dsimp only
  rw [hrender]
  refine Disk.run_bind_eq_iff.2 ⟨_, _, hstore, ?_⟩
  cases stored <;> rfl

/-- **An artifact is stored whole or not at all**: its path is that of the target, its bytes are
those that the table is rendered to, and a failure adds directories at most. -/
theorem run_emit {result : Except EmissionFault String}
    (h : (emit strategy t c target : StateM Disk _).run disk = (result, after)) :
    (∃ moduleName bytes between, result = .ok (disk.resolve target) ∧
        Path.stem? (disk.resolve target) = some moduleName ∧
        render strategy t c moduleName = .ok bytes ∧ Disk.Grows disk between ∧
        between.write (disk.resolve target) bytes = .ok after) ∨
      (∃ fault, result = .error fault) ∧ Disk.Grows disk after := by
  cases hstem : Path.stem? (disk.resolve target) with
  | none =>
    rw [run_emit_of_noFileName hstem] at h
    obtain ⟨rfl, rfl⟩ := Prod.mk.inj h
    exact Or.inr ⟨⟨_, rfl⟩, .refl _⟩
  | some moduleName =>
    cases hrender : render strategy t c moduleName with
    | error fault =>
      rw [run_emit_of_unrendered hstem hrender] at h
      obtain ⟨rfl, rfl⟩ := Prod.mk.inj h
      exact Or.inr ⟨⟨_, rfl⟩, .refl _⟩
    | ok bytes =>
      rcases hstore : (store (disk.resolve target) bytes : StateM Disk _).run disk with
        ⟨stored, further⟩
      rw [run_emit_of_rendered hstem hrender hstore] at h
      obtain ⟨rfl, rfl⟩ := Prod.mk.inj h
      rcases run_store hstore with ⟨made, rfl, hgrows, hwrite⟩ | ⟨⟨fault, rfl⟩, hgrows⟩
      · exact Or.inl ⟨moduleName, bytes, made, rfl, rfl, hrender, hgrows, hwrite⟩
      · exact Or.inr ⟨⟨_, rfl⟩, hgrows⟩

end Emission

end Artifact

/-! ## Diagnostics -/

/-- The diagnostic for a container that cannot be named is an error. -/
theorem Container.Fault.isError_diagnostic (f : Container.Fault) : f.diagnostic.isError = true := by
  unfold Container.Fault.diagnostic
  split <;> rfl

/-- Diagnostics that end in an error hold one. -/
theorem Diagnostic.hasErrors_concat (ds : List Diagnostic) {d : Diagnostic}
    (h : d.isError = true) : hasErrors (ds ++ [d]) = true := by
  rw [hasErrors_append]
  simp [hasErrors, h]

/-! ## Runs -/

/-- The four ways in which a run ends.

**Proof sketch.** By the order of the checks.  The container is looked at first, then the
diagnostics, and only then is anything written. -/
theorem run_compile {ds : List Declaration} {config : Config} {disk after : Disk}
    {outcome : Outcome} (h : (compile ds config : StateM Disk _).run disk = (outcome, after)) :
    (∃ fault, Container.parse config.namespaceText config.className = .error fault ∧
      after = disk ∧
      outcome = ⟨.blocked, (collect ds).table, (collect ds).diagnostics ++ [fault.diagnostic]⟩) ∨
    (∃ c, Container.parse config.namespaceText config.className = .ok c ∧
      Diagnostic.hasErrors (collect ds).diagnostics = true ∧ after = disk ∧
      outcome = ⟨.blocked, (collect ds).table, (collect ds).diagnostics⟩) ∨
    (∃ c path, Container.parse config.namespaceText config.className = .ok c ∧
      Diagnostic.hasErrors (collect ds).diagnostics = false ∧
      (Artifact.emit config.strategy (collect ds).table c config.target :
        StateM Disk _).run disk = (.ok path, after) ∧
      outcome = ⟨.done path, (collect ds).table, (collect ds).diagnostics⟩) ∨
    ∃ c fault, Container.parse config.namespaceText config.className = .ok c ∧
      Diagnostic.hasErrors (collect ds).diagnostics = false ∧
      (Artifact.emit config.strategy (collect ds).table c config.target :
        StateM Disk _).run disk = (.error fault, after) ∧
      outcome = ⟨.failed, (collect ds).table,
        (collect ds).diagnostics ++ [.emissionFailed fault.message]⟩ := by
  unfold compile at h
  split at h
  next fault hfault =>
    obtain ⟨rfl, rfl⟩ := Prod.mk.inj h
    exact Or.inl ⟨fault, hfault, rfl, rfl⟩
  next c hc =>
    refine Or.inr ?_
    cases herrors : Diagnostic.hasErrors (collect ds).diagnostics with
    | true =>
      have hblocked : ¬(collect ds).isReady = true := by simp [Collected.isReady, herrors]
      rw [if_neg hblocked] at h
      obtain ⟨rfl, rfl⟩ := Prod.mk.inj h
      exact Or.inl ⟨c, hc, rfl, rfl, rfl⟩
    | false =>
      have hready : (collect ds).isReady = true := by simp [Collected.isReady, herrors]
      rw [if_pos hready] at h
      obtain ⟨result, between, hresult, h⟩ := Disk.run_bind_eq_iff.1 h
      cases result with
      | ok path =>
        obtain ⟨rfl, rfl⟩ := Prod.mk.inj h
        exact Or.inr (Or.inl ⟨c, path, hc, rfl, hresult, rfl⟩)
      | error fault =>
        obtain ⟨rfl, rfl⟩ := Prod.mk.inj h
        exact Or.inr (Or.inr ⟨c, fault, hc, rfl, hresult, rfl⟩)

/-- **How a run ends.**  It is blocked exactly if the declarations hold an error or the container
cannot be named, and then the disk is as before.  If it is done, the artifact is at the path of the
target and holds the rendered table, and nothing else changed but for new directories.  If it
failed, nothing changed but for new directories.  The table is always the one that was collected,
and a run succeeds exactly if it is done.

**Proof sketch.** By the four ways in which a run ends (`run_compile`).  In the last one the disk
is that of `Artifact.run_emit`, which leaves a file only when the write at its end succeeds. -/
theorem compile_ends (ds : List Declaration) (config : Config) (disk : Disk) :
    ∃ outcome after, (compile ds config : StateM Disk Outcome).run disk = (outcome, after) ∧
      outcome.table = (collect ds).table ∧
      (outcome.success = true ↔ ∃ artifact, outcome.status = .done artifact) ∧
      (outcome.status = .blocked ↔ Diagnostic.hasErrors (collect ds).diagnostics = true ∨
        ∃ fault, Container.parse config.namespaceText config.className = .error fault) ∧
      (outcome.status = .blocked → after = disk ∧
        (∀ c, Container.parse config.namespaceText config.className = .ok c →
          outcome.diagnostics = (collect ds).diagnostics) ∧
        ∀ fault, Container.parse config.namespaceText config.className = .error fault →
          fault.diagnostic.isError = true ∧
          outcome.diagnostics = (collect ds).diagnostics ++ [fault.diagnostic]) ∧
      (∀ artifact, outcome.status = .done artifact →
        artifact = disk.resolve config.target ∧
        outcome.diagnostics = (collect ds).diagnostics ∧
        ∃ c moduleName bytes aim,
          Container.parse config.namespaceText config.className = .ok c ∧
          Path.stem? artifact = some moduleName ∧
          Artifact.render config.strategy (collect ds).table c moduleName = .ok bytes ∧
          after.read artifact = .ok bytes ∧
          after.locate artifact = .ok aim ∧
          Disk.Stores disk after aim.place bytes) ∧
      (outcome.status = .failed → Disk.Grows disk after ∧
        ∃ c fault, Container.parse config.namespaceText config.className = .ok c ∧
          (Artifact.emit config.strategy (collect ds).table c config.target :
            StateM Disk _).run disk = (.error fault, after) ∧
          outcome.diagnostics = (collect ds).diagnostics ++ [.emissionFailed fault.message]) := by
  rcases hrun : (compile ds config : StateM Disk Outcome).run disk with ⟨outcome, after⟩
  refine ⟨outcome, after, rfl, ?_⟩
  rcases run_compile hrun with ⟨fault, hfault, rfl, rfl⟩ | ⟨c, hc, herrors, rfl, rfl⟩ |
    ⟨c, path, hc, hclean, hresult, rfl⟩ | ⟨c, fault, hc, hclean, hresult, rfl⟩
  · have herrors := Diagnostic.hasErrors_concat (collect ds).diagnostics fault.isError_diagnostic
    refine ⟨rfl, ?_, ?_, fun _ => ⟨rfl, ?_, ?_⟩, nofun, nofun⟩
    · simp [Outcome.success, herrors]
    · simp [hfault]
    · intro c hc
      rw [hc] at hfault
      cases hfault
    · intro fault' hfault'
      rw [hfault] at hfault'
      obtain rfl := Except.error.inj hfault'
      exact ⟨fault.isError_diagnostic, rfl⟩
  · refine ⟨rfl, ?_, ?_, fun _ => ⟨rfl, fun _ _ => rfl, ?_⟩, nofun, nofun⟩
    · simp [Outcome.success, herrors]
    · simp [herrors]
    · intro fault hfault
      rw [hc] at hfault
      cases hfault
  · rcases Artifact.run_emit hresult with
      ⟨moduleName, bytes, made, hpath, hstem, hbytes, hgrows, hwrite⟩ | ⟨⟨fault, hfault⟩, -⟩
    · obtain rfl := Except.ok.inj hpath
      obtain ⟨aim, haim, hstores⟩ := Disk.stores_of_write hgrows hwrite
      refine ⟨rfl, ?_, ?_, nofun, ?_, nofun⟩
      · simp [Outcome.success, hclean]
      · simp [hclean, hc]
      · intro artifact hdone
        obtain rfl := Status.done.inj hdone
        exact ⟨rfl, rfl, c, moduleName, bytes, aim, hc, hstem, hbytes,
          Disk.read_of_write hwrite, haim, hstores⟩
    · cases hfault
  · rcases Artifact.run_emit hresult with ⟨_, _, _, hpath, -⟩ | ⟨-, hgrows⟩
    · cases hpath
    · have herrors := Diagnostic.hasErrors_concat (collect ds).diagnostics
        (d := .emissionFailed fault.message) rfl
      refine ⟨rfl, ?_, ?_, nofun, nofun, fun _ => ⟨hgrows, c, fault, hc, hresult, rfl⟩⟩
      · simp [Outcome.success, herrors]
      · simp [hclean, hc]

end BuildConst
