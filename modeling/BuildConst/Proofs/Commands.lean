import BuildConst.CommandLine.Program
import BuildConst.Proofs.Image.Capacity
import BuildConst.Proofs.Compilation

/-!
# What commands do to a disk

Declarations are gathered by reading alone.  So a check leaves the disk as it is, and a run that
writes an artifact begins where the command did.  An image can be inspected under the path that was
printed for it, since that path is absolute and cannot be taken for a switch.

## Main definitions

* `Disk.load`, `Disk.layers` — the declarations of a file on a disk, and of several.
* `Disk.gather` — the declarations that are gathered on a disk.

## Main results

* `Command.run_gather` — gathering declarations leaves a disk alone.
* `run_answer_check`, `run_answer_emit`, `run_answer_inspect` — the answers to commands.
* `Command.parse_inspect` — an absolute path can be inspected.
-/

set_option relaxedAutoImplicit false
set_option autoImplicit false

namespace BuildConst

/-! ## Gathering declarations -/

/-- The declarations of a file on a disk. -/
def Disk.load (disk : Disk) (path : String) :
    Except Declaration.LoadFault (List Declaration) :=
  match disk.read path with
  | .error fault => .error (.unreadable path fault)
  | .ok bytes => Declaration.ofBytes path bytes

/-- The declarations of several files on a disk, a list for each. -/
def Disk.layers (disk : Disk) (paths : List String) :
    Except Declaration.LoadFault (List (List Declaration)) :=
  paths.mapM disk.load

/-- Loading a declaration file gives its declarations and leaves a disk alone. -/
theorem Declaration.run_load (path : String) (disk : Disk) :
    (load path : StateM Disk _).run disk = (disk.load path, disk) := by
  have hread : (Files.readFile path : StateM Disk _).run disk = (disk.read path, disk) := rfl
  refine Disk.run_bind_eq_iff.2 ⟨_, _, hread, ?_⟩
  rw [Disk.load]
  cases disk.read path <;> rfl

/-- Loading several declaration files gives their declarations one after the other and leaves a disk
alone. -/
theorem Declaration.run_loadAll (paths : List String) (disk : Disk) :
    (loadAll paths : StateM Disk _).run disk = ((disk.layers paths).map List.flatten, disk) := by
  induction paths with
  | nil => rfl
  | cons path more ih =>
    refine Disk.run_bind_eq_iff.2 ⟨_, _, run_load path disk, ?_⟩
    rw [Disk.layers] at ih ⊢
    rw [List.mapM_cons]
    cases disk.load path with
    | error fault => rfl
    | ok ds =>
      refine Disk.run_bind_eq_iff.2 ⟨_, _, ih, ?_⟩
      cases more.mapM disk.load <;> rfl

/-- The declarations that are gathered on a disk. -/
def Disk.gather (disk : Disk) (sources : Sources) : Except Failure (List Declaration) :=
  ((Command.gather sources : StateM Disk _).run disk).1

/-- **Gathering declarations leaves a disk alone.** -/
theorem Command.run_gather (sources : Sources) (disk : Disk) :
    (gather sources : StateM Disk _).run disk = (disk.gather sources, disk) := by
  have hload := Declaration.run_loadAll sources.files disk
  have hrun : ∃ answer, (gather sources : StateM Disk _).run disk = (answer, disk) := by
    cases hlayers : disk.layers sources.files with
    | error fault =>
      rw [hlayers] at hload
      exact ⟨_, Disk.run_bind_eq_iff.2 ⟨_, _, hload, rfl⟩⟩
    | ok layers =>
      rw [hlayers] at hload
      exact ⟨_, Disk.run_bind_eq_iff.2 ⟨_, _, hload, rfl⟩⟩
  obtain ⟨answer, hanswer⟩ := hrun
  rw [Disk.gather, hanswer]

/-! ## Answers -/

/-- The answer to arguments that amount to a command is that to the command. -/
theorem run_answer_of_parse {arguments : List String} {command : Command}
    (h : Command.parse arguments = .ok command) {disk after : Disk}
    {result : Except Failure Reply}
    (hrun : (command.execute : StateM Disk _).run disk = (result, after)) :
    (answer arguments : StateM Disk Reply).run disk = (Command.reply result, after) := by
  unfold answer
  rw [h]
  exact Disk.run_bind_eq_iff.2 ⟨_, _, hrun, rfl⟩

/-- **A check leaves a disk alone**, and prints what was collected. -/
theorem run_answer_check {arguments : List String} {sources : Sources}
    (h : Command.parse arguments = .ok (.check sources)) (disk : Disk) :
    (answer arguments : StateM Disk Reply).run disk =
      (Command.reply ((disk.gather sources).map fun ds => Command.checked (collect ds)), disk) := by
  refine run_answer_of_parse h ?_
  have hgather := Command.run_gather sources disk
  cases hds : disk.gather sources with
  | error failure =>
    rw [hds] at hgather
    exact Disk.run_bind_eq_iff.2 ⟨_, _, hgather, rfl⟩
  | ok ds =>
    rw [hds] at hgather
    exact Disk.run_bind_eq_iff.2 ⟨_, _, hgather, rfl⟩

/-- A run whose declarations cannot be gathered leaves a disk alone. -/
theorem run_answer_emit_of_error {arguments : List String} {config : Config} {sources : Sources}
    (h : Command.parse arguments = .ok (.emit config sources)) {disk : Disk} {failure : Failure}
    (hds : disk.gather sources = .error failure) :
    (answer arguments : StateM Disk Reply).run disk = (Command.reply (.error failure), disk) := by
  refine run_answer_of_parse h ?_
  have hgather := Command.run_gather sources disk
  rw [hds] at hgather
  exact Disk.run_bind_eq_iff.2 ⟨_, _, hgather, rfl⟩

/-- **A run compiles what was gathered** on the same disk, and prints how that ended. -/
theorem run_answer_emit {arguments : List String} {config : Config} {sources : Sources}
    (h : Command.parse arguments = .ok (.emit config sources)) {disk after : Disk}
    {ds : List Declaration} (hds : disk.gather sources = .ok ds) {outcome : Outcome}
    (hrun : (compile ds config : StateM Disk Outcome).run disk = (outcome, after)) :
    (answer arguments : StateM Disk Reply).run disk = (Command.emitted outcome, after) := by
  have hgather := Command.run_gather sources disk
  rw [hds] at hgather
  have hexecute : ((Command.emit config sources).execute : StateM Disk _).run disk =
      (.ok (Command.emitted outcome), after) :=
    Disk.run_bind_eq_iff.2 ⟨_, _, hgather, Disk.run_bind_eq_iff.2 ⟨_, _, hrun, rfl⟩⟩
  exact run_answer_of_parse h hexecute

/-- **An image that can be read is shown**, and the disk stays as it is. -/
theorem run_answer_inspect {arguments : List String} {path : String} {json : Bool}
    (h : Command.parse arguments = .ok (.inspect path json)) {disk : Disk} {bytes : List UInt8}
    (hbytes : disk.read path = .ok bytes) {image : Image} (himage : Image.decode bytes = .ok image) :
    (answer arguments : StateM Disk Reply).run disk = (Command.inspected image json, disk) := by
  have hread : (Files.readFile path : StateM Disk _).run disk = (.ok bytes, disk) := by
    rw [← hbytes]
    rfl
  have hload : (Image.load path : StateM Disk _).run disk = (.ok image, disk) := by
    refine Disk.run_bind_eq_iff.2 ⟨_, _, hread, ?_⟩
    dsimp only
    rw [himage]
    rfl
  have hexecute : ((Command.inspect path json).execute : StateM Disk _).run disk =
      (.ok (Command.inspected image json), disk) :=
    Disk.run_bind_eq_iff.2 ⟨_, _, hload, rfl⟩
  exact run_answer_of_parse h hexecute

/-! ## Paths that are printed -/

/-- The path of something that is named from inside an absolute directory is absolute. -/
theorem Path.isAbsolute_join {directory : String} (h : isAbsolute directory = true)
    (path : String) : isAbsolute (join directory path) = true := by
  have hhead : directory.toList.head? = some '/' := by simpa [isAbsolute] using h
  unfold join
  split
  next habsolute => exact habsolute
  next => split <;> simp [isAbsolute, hhead]

/-- The path of a target is absolute, whatever the target is. -/
theorem Disk.isAbsolute_resolve (disk : Disk) (target : String) :
    Path.isAbsolute (disk.resolve target) = true := by
  have hroot : Path.isAbsolute (pathOf disk.here) = true := by
    simp [Path.isAbsolute, pathOf]
  exact Path.isAbsolute_join hroot target

/-- **An absolute path can be inspected**: it does not begin with a hyphen, so it is no switch. -/
theorem Command.parse_inspect {path : String} (h : Path.isAbsolute path = true) :
    parse ["inspect", path] = .ok (.inspect path false) := by
  obtain ⟨rest, hpath⟩ : ∃ rest, path.toList = '/' :: rest := by
    cases hchars : path.toList with
    | nil => simp [Path.isAbsolute, hchars] at h
    | cons c rest =>
      obtain rfl : c = '/' := by simpa [Path.isAbsolute, hchars] using h
      exact ⟨rest, rfl⟩
  have hsome : path.isEmpty = false := by
    rw [String.isEmpty_eq_false_iff]
    rintro rfl
    cases hpath
  have hstep : Scan.step .inspect {} path = .ok { pending := some (.operand path) } := by
    simp [Scan.step, hpath]
    rfl
  have hsettle : Scan.settle { pending := some (.operand path) } = .ok { operand := some path } := by
    simp [Scan.settle, hsome]
  have hword : Verb.ofWord? "inspect" = some .inspect := by decide
  have harguments : ofArguments .inspect [path] = .ok (.inspect path false) := by
    rw [ofArguments, List.foldlM_cons, hstep]
    exact Except.bind_eq_ok_iff.2 ⟨_, rfl, Except.bind_eq_ok_iff.2 ⟨_, hsettle, rfl⟩⟩
  rw [parse, if_neg (by decide), hword]
  exact harguments

end BuildConst
