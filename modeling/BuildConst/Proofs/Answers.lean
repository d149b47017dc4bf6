import BuildConst.Proofs.Gathering
import BuildConst.Proofs.Inspection

/-!
# What can be relied on after a command

A script that calls the program sees three things: the exit status, what was printed, and the files.
The status says whether the standard output can be used: with the status 1 nothing was printed
there.  Only a run that writes an artifact changes a file, and it does not begin before all
declarations were gathered.

## Main definitions

* `Reply.Reliable` — a status of 0 or 1, and nothing printed with the latter.
* `Command.files` — the declaration files that a command uses.

## Main results

* `Command.reliable_reply` — answers of commands that end are reliable.
* `Command.run_execute_inspect` — inspecting leaves a disk alone, whatever is found.
* `Command.exit_emitted` — a run is reported as a success exactly if it found no error.
* `answer_contract` — status, output and files after any command.
-/

set_option relaxedAutoImplicit false
set_option autoImplicit false

namespace BuildConst

/-- A reply with a status of 0 or 1.  With the latter nothing was printed. -/
structure Reply.Reliable (r : Reply) : Prop where
  status : r.exit = 0 ∨ r.exit = 1
  silent : r.exit = 1 → r.stdout = ""

/-- The declaration files that a command uses. -/
def Command.files : Command → List String
  | .emit _ sources | .check sources => sources.files
  | .inspect _ _ => []

namespace Command

/-! ## Replies -/

/-- The reply of a check is reliable. -/
theorem reliable_checked (found : Collected) : (checked found).Reliable := by
  unfold checked
  dsimp only
  split
  next => exact ⟨.inl rfl, nofun⟩
  next => exact ⟨.inr rfl, fun _ => rfl⟩

/-- The reply of a run is reliable. -/
theorem reliable_emitted (outcome : Outcome) : (emitted outcome).Reliable := by
  unfold emitted
  dsimp only
  split
  next => exact ⟨.inl rfl, nofun⟩
  next => exact ⟨.inr rfl, fun _ => rfl⟩

/-- The reply of an inspection is reliable. -/
theorem reliable_inspected (image : Image) (json : Bool) : (inspected image json).Reliable :=
  ⟨.inl rfl, nofun⟩

/-- **The answer to a command is reliable** if its reply is.  A failure prints nothing. -/
theorem reliable_reply {result : Except Failure Reply}
    (h : ∀ r, result = .ok r → r.Reliable) : (reply result).Reliable := by
  cases result with
  | error failure => exact ⟨.inr rfl, fun _ => rfl⟩
  | ok r => exact h r rfl

/-- **A run is reported as a success exactly if it found no error**, and then the path of its
artifact is printed, which is that of the target. -/
theorem exit_emitted {ds : List Declaration} {config : Config} {disk after : Disk}
    {outcome : Outcome}
    (hrun : (compile ds config : StateM Disk Outcome).run disk = (outcome, after)) :
    ((emitted outcome).exit = 0 ↔ Diagnostic.hasErrors outcome.diagnostics = false) ∧
      ((emitted outcome).exit = 0 → (emitted outcome).stdout = disk.resolve config.target ++ "\n") := by
  rcases run_compile hrun with ⟨fault, -, -, rfl⟩ | ⟨c, -, herrors, -, rfl⟩ |
    ⟨c, path, -, hclean, hwritten, rfl⟩ | ⟨c, fault, -, -, -, rfl⟩
  · have herrors := Diagnostic.hasErrors_concat (collect ds).diagnostics fault.isError_diagnostic
    simp [emitted, herrors]
  · simp [emitted, herrors]
  · rcases Artifact.run_emit hwritten with ⟨_, _, _, hpath, -⟩ | ⟨⟨fault, hfault⟩, -⟩
    · obtain rfl := Except.ok.inj hpath
      exact ⟨⟨fun _ => hclean, fun _ => rfl⟩, fun _ => rfl⟩
    · cases hfault
  · have herror : (Diagnostic.emissionFailed fault.message).isError = true := rfl
    have herrors := Diagnostic.hasErrors_concat (collect ds).diagnostics herror
    simp [emitted, herrors]

/-! ## Runs -/

variable {disk : Disk}

/-- **Inspecting leaves a disk alone**, whether there is an image at the path or not. -/
theorem run_execute_inspect (path : String) (json : Bool) (disk : Disk) :
    ∃ result : Except Failure Reply,
      ((inspect path json).execute : StateM Disk _).run disk = (result, disk) ∧
        ∀ r, result = .ok r → r.Reliable := by
  have hread : (Files.readFile path : StateM Disk _).run disk = (disk.read path, disk) := rfl
  have hload : ∃ loaded, (Image.load path : StateM Disk _).run disk = (loaded, disk) := by
    cases hbytes : disk.read path with
    | error fault =>
      rw [hbytes] at hread
      exact ⟨_, Disk.run_bind_eq_iff.2 ⟨_, _, hread, rfl⟩⟩
    | ok bytes =>
      rw [hbytes] at hread
      cases hdecode : Image.decode bytes with
      | error fault =>
        exact ⟨_, Disk.run_bind_eq_iff.2 ⟨_, _, hread, by dsimp only; rw [hdecode]; rfl⟩⟩
      | ok image =>
        exact ⟨_, Disk.run_bind_eq_iff.2 ⟨_, _, hread, by dsimp only; rw [hdecode]; rfl⟩⟩
  obtain ⟨loaded, hload⟩ := hload
  cases loaded with
  | error fault => exact ⟨_, Disk.run_bind_eq_iff.2 ⟨_, _, hload, rfl⟩, nofun⟩
  | ok image =>
    refine ⟨_, Disk.run_bind_eq_iff.2 ⟨_, _, hload, rfl⟩, ?_⟩
    intro r hr
    obtain rfl := Except.ok.inj hr
    exact reliable_inspected image json

/-- A command whose declarations cannot be gathered fails for the same cause, and leaves a disk
alone. -/
theorem run_execute_of_fault {command : Command} {fault : Declaration.LoadFault}
    (h : disk.layers command.files = .error fault) :
    (command.execute : StateM Disk _).run disk =
      (.error ⟨fault.message, some fileHelp⟩, disk) := by
  cases command with
  | emit config sources =>
    have hgather := run_gather sources disk
    rw [Disk.gather_of_fault h] at hgather
    exact Disk.run_bind_eq_iff.2 ⟨_, _, hgather, rfl⟩
  | check sources =>
    have hgather := run_gather sources disk
    rw [Disk.gather_of_fault h] at hgather
    exact Disk.run_bind_eq_iff.2 ⟨_, _, hgather, rfl⟩
  | inspect path json => cases h

end Command

/-- **What can be relied on after a command.**  The exit status is 0 or 1, and nothing was printed
with the latter.  Only a run that writes an artifact changes the disk.  If one of the declaration
files cannot be read or decoded, the command fails and changes nothing: the report names the first
such file and is all that is printed.  Otherwise a run compiles what was gathered, and its status
is 0 exactly if it found no error; then it prints the path of its artifact.

**Proof sketch.** By the kind of the command.  Gathering leaves the disk alone and stops at the first
file at fault (`Disk.layers_eq_error_iff`), before anything else is done.  The rest is how checks,
inspections and runs end. -/
theorem answer_contract {arguments : List String} {command : Command}
    (h : Command.parse arguments = .ok command) (disk : Disk) :
    ∃ reply after, (answer arguments : StateM Disk Reply).run disk = (reply, after) ∧
      reply.Reliable ∧
      ((∀ config sources, command ≠ .emit config sources) → after = disk) ∧
      ((∃ path ∈ command.files, ∃ fault, disk.load path = .error fault) →
        ∃ before path later fault, command.files = before ++ path :: later ∧
          (∀ earlier ∈ before, ∃ ds, disk.load earlier = .ok ds) ∧
          disk.load path = .error fault ∧
          ((∃ cause, fault.message = "cannot read declaration file '" ++ path ++ "': " ++ cause) ∨
            ∃ cause, fault.message =
              "declaration file '" ++ path ++ "' is not a valid declaration list: " ++ cause) ∧
          (command.execute : StateM Disk _).run disk =
            (.error ⟨fault.message, some Command.fileHelp⟩, disk) ∧
          reply = { exit := 1
                    stderr := Failure.report ⟨fault.message, some Command.fileHelp⟩ } ∧
          after = disk) ∧
      ∀ config sources, command = .emit config sources →
        (∀ path ∈ sources.files, ∃ ds, disk.load path = .ok ds) →
        ∃ ds outcome, disk.gather sources = .ok ds ∧
          (compile ds config : StateM Disk Outcome).run disk = (outcome, after) ∧
          reply = Command.emitted outcome ∧
          (reply.exit = 0 ↔ Diagnostic.hasErrors outcome.diagnostics = false) ∧
          (reply.exit = 0 → reply.stdout = disk.resolve config.target ++ "\n") := by
  cases hlayers : disk.layers command.files with
  | error fault =>
    obtain ⟨before, path, later, hfiles, hbefore, hfault⟩ := Disk.layers_eq_error_iff.1 hlayers
    have hexecute := Command.run_execute_of_fault hlayers
    refine ⟨_, _, run_answer_of_parse h hexecute, Command.reliable_reply nofun, fun _ => rfl,
      fun _ => ?_, ?_⟩
    · exact ⟨before, path, later, fault, hfiles, hbefore, hfault,
        Declaration.LoadFault.message_of_load hfault, hexecute, rfl, rfl⟩
    · rintro config sources rfl hsources
      obtain ⟨ds, hds⟩ := hsources path (by
        rw [show sources.files = _ from hfiles]
        exact List.mem_append_right _ List.mem_cons_self)
      rw [hds] at hfault
      cases hfault
  | ok layers =>
    have hnone : ¬∃ path ∈ command.files, ∃ fault, disk.load path = .error fault := by
      rintro ⟨path, hpath, fault, hfault⟩
      obtain ⟨ds, hds⟩ := Disk.exists_load_of_layers hlayers path hpath
      rw [hds] at hfault
      cases hfault
    cases command with
    | inspect path json =>
      obtain ⟨result, hexecute, hreliable⟩ := Command.run_execute_inspect path json disk
      exact ⟨_, _, run_answer_of_parse h hexecute, Command.reliable_reply hreliable, fun _ => rfl,
        fun hfault => absurd hfault hnone, nofun⟩
    | check sources =>
      have hrun := run_answer_check h disk
      rw [Disk.gather_of_layers hlayers] at hrun
      exact ⟨_, _, hrun, Command.reliable_checked _, fun _ => rfl,
        fun hfault => absurd hfault hnone, nofun⟩
    | emit config sources =>
      have hgather := Disk.gather_of_layers hlayers
      rcases hcompile : (compile (layers.flatten ++ sources.arguments.map Declaration.ofArgument)
        config : StateM Disk Outcome).run disk with ⟨outcome, after⟩
      refine ⟨_, _, run_answer_emit h hgather hcompile, Command.reliable_emitted _,
        fun hother => absurd rfl (hother config sources), fun hfault => absurd hfault hnone, ?_⟩
      intro config' sources' hcommand _
      obtain ⟨rfl, rfl⟩ := Command.emit.inj hcommand
      obtain ⟨hexit, hstdout⟩ := Command.exit_emitted hcompile
      exact ⟨_, outcome, hgather, hcompile, rfl, hexit, hstdout⟩

/-- A run whose second file is missing fails for that file and leaves no artifact, although the first
file and an argument give a constant each. -/
theorem answer_contract_of_missing_file :
    ∃ reply,
      (answer ["emit-rust", "-o", "out.rs", "--from", "a.json", "-D", "B=2", "--from", "b.json"] :
          StateM Disk Reply).run ⟨[(["a.json"], .file (Text.Utf8.encode "[\"A=1\"]"))], []⟩ =
        (reply, ⟨[(["a.json"], .file (Text.Utf8.encode "[\"A=1\"]"))], []⟩) ∧
      reply.exit = 1 ∧ reply.stdout = "" ∧
      reply.stderr = Failure.report
        ⟨"cannot read declaration file 'b.json': No such file or directory (os error 2)",
          some Command.fileHelp⟩ := by
  have hparse : Command.parse
      ["emit-rust", "-o", "out.rs", "--from", "a.json", "-D", "B=2", "--from", "b.json"] =
        .ok (.emit { target := "out.rs" } ⟨["a.json", "b.json"], ["B=2"]⟩) := by
    decide
  have hfirst : Disk.load ⟨[(["a.json"], .file (Text.Utf8.encode "[\"A=1\"]"))], []⟩ "a.json" =
      .ok [⟨"A=1", none⟩] := by
    decide +kernel
  have hsecond : Disk.load ⟨[(["a.json"], .file (Text.Utf8.encode "[\"A=1\"]"))], []⟩ "b.json" =
      .error (.unreadable "b.json" .noSuchFile) := by
    decide +kernel
  obtain ⟨reply, after, hrun, -, -, hfault, -⟩ :=
    answer_contract hparse ⟨[(["a.json"], .file (Text.Utf8.encode "[\"A=1\"]"))], []⟩
  obtain ⟨before, path, later, fault, hfiles, -, hpath, -, -, rfl, rfl⟩ :=
    hfault ⟨"b.json", by decide, _, hsecond⟩
  have hmem : path ∈ ["a.json", "b.json"] := by
    rw [show ["a.json", "b.json"] = _ from hfiles]
    exact List.mem_append_right _ List.mem_cons_self
  obtain rfl : fault = .unreadable "b.json" .noSuchFile := by
    rcases List.mem_pair.1 hmem with rfl | rfl
    · rw [hfirst] at hpath
      cases hpath
    · exact Except.error.inj (hpath.symm.trans hsecond)
  exact ⟨_, hrun, rfl, rfl, rfl⟩

end BuildConst
