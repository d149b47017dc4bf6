import BuildConst.Proofs.Agreement
import BuildConst.Proofs.Commands
import BuildConst.Proofs.Text.Lines

/-!
# What is checked is what is found in an image

A check prints the constants that were collected, a line for each.  An image that is written from
the same declarations and then inspected shows the same lines below the path of the container.
Names, kinds and rendered values hold no line break, so the lines of what is printed are those of
the constants.

## Main definitions

* `Command.line`, `Command.headLine` — the line of a constant, and the first line of an image.

## Main results

* `Command.lines_unlines_line` — a constant is shown on one line.
* `Command.describeImage_ofTable` — what is shown for the image of a table.
* `check_agrees_with_inspect` — checking, writing and inspecting agree.
-/

set_option relaxedAutoImplicit false
set_option autoImplicit false

namespace BuildConst

/-! ## Stems of paths -/

namespace Path

/-- A part of a path is cut from it. -/
theorem sublist_of_mem_parts {path part : String} (h : part ∈ parts path) :
    part.toList.Sublist path.toList := by
  obtain ⟨piece, hpiece, rfl⟩ := List.mem_map.1 h
  rw [String.toList_ofList]
  exact (List.sublist_flatten_of_mem hpiece).trans (Text.flatten_pieces_sublist '/' path.toList)

/-- The last part of a path is one of its parts. -/
theorem mem_parts_of_fileName? {path name : String} (h : fileName? path = some name) :
    name ∈ parts path := by
  unfold fileName? at h
  split at h
  · cases h
  next last above hbackwards =>
    split_ifs at h
    obtain rfl := Option.some.inj h
    have hmem : last ∈ backwards path := by rw [hbackwards]; exact List.mem_cons_self
    exact List.mem_reverse.1 ((List.dropWhile_sublist _).mem hmem)

/-- A stem is cut from the name that it belongs to. -/
theorem stemOf_sublist (name : String) : (stemOf name).toList.Sublist name.toList := by
  unfold stemOf
  split
  · exact List.Sublist.refl _
  · exact List.Sublist.refl _
  next hsplit =>
    obtain ⟨hname, -⟩ := Text.splitFirst_eq_some_iff.1 hsplit
    rw [String.toList_ofList, ← List.reverse_reverse name.toList, hname]
    exact ((List.sublist_cons_self _ _).trans (List.sublist_append_right _ _)).reverse

/-- The stem of a path is cut from the path. -/
theorem stem_sublist {path stem : String} (h : stem? path = some stem) :
    stem.toList.Sublist path.toList := by
  obtain ⟨name, hname, rfl⟩ := Option.map_eq_some_iff.1 h
  exact (stemOf_sublist name).trans (sublist_of_mem_parts (mem_parts_of_fileName? hname))

end Path

/-- A path that leads anywhere is short. -/
theorem Disk.size_of_locate {disk : Disk} {path : String} {aim : Aim}
    (h : disk.locate path = .ok aim) : path.utf8ByteSize < pathLimit := by
  unfold locate at h
  split_ifs at h with _ hlong
  · exact Nat.lt_of_not_le hlong
  · exact Nat.lt_of_not_le hlong

/-! ## Lines that are printed -/

namespace Command

/-- The line that shows a constant. -/
def line (c : Constant) : String :=
  c.name ++ ": " ++ c.value.kind.name ++ " = " ++ c.value.rendered

/-- The line that an image begins with when it is shown. -/
def headLine (moduleName : String) : String :=
  "module " ++ moduleName ++ " (format 1, written by defconst 0.1.0)"

/-- Constants are shown line by line. -/
theorem join_constantLine (constants : List Constant) :
    String.join (constants.map constantLine) = Text.unlines (constants.map line) := by
  rw [Text.unlines, List.map_map]
  rfl

/-- What is shown for the image of a table: the module, the path of the container, and below it the
lines of the constants. -/
theorem describeImage_ofTable (t : Table) (c : Container) (moduleName : String) :
    describeImage (.ofTable t c moduleName) =
      Text.unlines (headLine moduleName :: c.fullName ::
        (t.constants.map line).map fun l => "  " ++ l) := by
  have hend : " (format " ++ (toString (1 : Nat) ++ (s!", written by {programName} " ++
      (programVersion ++ ")\n"))) = " (format 1, written by defconst 0.1.0)" ++ "\n" := by
    decide
  have hhead : "module " ++ moduleName ++ " (format " ++ toString (1 : Nat) ++
      s!", written by {programName} " ++ programVersion ++ ")\n" =
        headLine moduleName ++ "\n" := by
    rw [headLine, String.append_assoc, String.append_assoc, String.append_assoc,
      String.append_assoc, hend, ← String.append_assoc]
  have hlines : String.join (t.constants.map fun a => "  " ++ constantLine a) =
      Text.unlines ((t.constants.map line).map fun l => "  " ++ l) := by
    rw [Text.unlines, List.map_map, List.map_map]
    refine congrArg String.join (List.map_congr_left fun a _ => ?_)
    show "  " ++ (line a ++ "\n") = "  " ++ line a ++ "\n"
    rw [String.append_assoc]
  rw [Text.unlines_cons, Text.unlines_cons, ← hlines, ← hhead]
  show _ ++ String.join [_] = _
  rw [String.join_cons, String.join_nil, String.append_empty]
  rfl

/-- **A constant is shown in visible characters**, if its name can be written. -/
theorem isVisible_line {c : Constant} (h : Identifier.Speakable c.name) :
    Text.IsVisible (line c) := by
  have hname := Identifier.isVisible_of_speakable h
  have hkind : Text.IsVisible (": " ++ c.value.kind.name ++ " = ") := by
    cases c.value.kind <;> exact Text.isVisible_of_isPlain (by decide)
  simp only [Text.isVisible_append] at hkind
  simp only [line, Text.isVisible_append]
  exact ⟨⟨⟨⟨hname, hkind.1.1⟩, hkind.1.2⟩, hkind.2⟩, c.value.isVisible_rendered⟩

/-- The lines of the constants that were collected are found again in what is printed. -/
theorem lines_unlines_line (ds : List Declaration) :
    Text.lines (Text.unlines ((collect ds).table.constants.map line)) =
      (collect ds).table.constants.map line := by
  apply Text.lines_unlines
  intro l hl
  obtain ⟨c, hc, rfl⟩ := List.mem_map.1 hl
  exact Text.isLine_of_isVisible (isVisible_line (speakable_of_mem_collect c hc))

/-- A check succeeds exactly if no error was found. -/
theorem exit_checked (found : Collected) : (checked found).exit = 0 ↔ found.isReady = true := by
  unfold checked
  dsimp only
  split
  next hready => simp [hready]
  next hblocked => simp [hblocked]

/-- What a check that succeeds prints are the lines of the constants. -/
theorem stdout_checked {found : Collected} (h : found.isReady = true) :
    (checked found).stdout = Text.unlines (found.table.constants.map line) := by
  rw [checked, if_pos h]
  exact join_constantLine _

/-- A run succeeds only if it is done, and then it prints the path of its artifact. -/
theorem done_of_emitted {outcome : Outcome} (h : (emitted outcome).exit = 0) :
    ∃ path, outcome.status = .done path ∧ (emitted outcome).stdout = path ++ "\n" := by
  unfold emitted at h ⊢
  cases hstatus : outcome.status with
  | blocked => simp [hstatus] at h
  | done path => exact ⟨path, rfl, rfl⟩
  | failed => simp [hstatus] at h

end Command

/-! ## Runs that write images -/

/-- If the container can be named, a run is blocked by errors alone. -/
theorem isReady_iff_of_run {ds : List Declaration} {config : Config} {disk after : Disk}
    {outcome : Outcome} {c : Container}
    (hc : Container.parse config.namespaceText config.className = .ok c)
    (hrun : (compile ds config : StateM Disk Outcome).run disk = (outcome, after)) :
    (collect ds).isReady = true ↔ outcome.status ≠ .blocked := by
  unfold Collected.isReady
  rcases run_compile hrun with ⟨_, hfault, -, -⟩ | ⟨_, -, herrors, -, rfl⟩ |
    ⟨_, _, -, hclean, -, rfl⟩ | ⟨_, _, -, hclean, -, rfl⟩
  · rw [hc] at hfault
    cases hfault
  · simp [herrors]
  · simp [hclean]
  · simp [hclean]

/-- A run that is done has stored the image of what was collected. -/
theorem run_compile_image {ds : List Declaration} {config : Config} {disk after : Disk}
    {outcome : Outcome} {path : String} (hform : config.strategy = .image)
    (hrun : (compile ds config : StateM Disk Outcome).run disk = (outcome, after))
    (hdone : outcome.status = .done path) :
    ∃ c moduleName bytes, Container.parse config.namespaceText config.className = .ok c ∧
      (collect ds).isReady = true ∧ Path.isAbsolute path = true ∧
      Path.stem? path = some moduleName ∧ Wire.TextFits moduleName ∧
      Artifact.render .image (collect ds).table c moduleName = .ok bytes ∧
      after.read path = .ok bytes := by
  rcases run_compile hrun with ⟨_, -, -, rfl⟩ | ⟨_, -, -, -, rfl⟩ |
    ⟨c, written, hc, hclean, hresult, rfl⟩ | ⟨_, _, -, -, -, rfl⟩
  · cases hdone
  · cases hdone
  · obtain rfl := Status.done.inj hdone
    rw [hform] at hresult
    rcases Artifact.run_emit hresult with
      ⟨moduleName, bytes, between, hpath, hstem, hbytes, -, hwrite⟩ | ⟨⟨_, hfault⟩, -⟩
    · obtain rfl := Except.ok.inj hpath
      have hready : (collect ds).isReady = true := by simp [Collected.isReady, hclean]
      obtain ⟨aim, haim, -⟩ := Disk.stores_of_write (.refl between) hwrite
      have hsize := Disk.size_of_locate haim
      have hfits : Wire.TextFits (disk.resolve config.target) := by
        have hlimit : Disk.pathLimit ≤ 2 ^ 64 := by decide
        show (disk.resolve config.target).utf8ByteSize < 2 ^ 64
        omega
      have hname : Wire.TextFits moduleName := by
        have hcut := Wire.textFits_of_sublist (Path.stem_sublist hstem) hfits
        rwa [String.ofList_toList] at hcut
      exact ⟨c, moduleName, bytes, hc, hready, disk.isAbsolute_resolve _, hstem, hname, hbytes,
        Disk.read_of_write hwrite⟩
    · cases hfault
  · cases hdone

/-! ## Main result -/

/-- **Checking, writing and inspecting agree.**  Let a check and a run that writes an image be given
the same declarations on the same disk.  If these can be gathered and the container can be named,
then the check succeeds exactly if the run is not blocked.  If the run prints the path of an image,
then the check succeeds, and inspecting that path shows the module, the path of the container, and
below it the lines that the check printed, in their order, with two spaces in front of each.  The
texts that are given have to be short enough for their lengths to be put in eight bytes.

**Proof sketch.** The run stores the image of the table that the check prints, so reading the
printed path gives that image back.  What is shown for it consists of the lines of its constants,
and these are the lines of what the check printed, as no line of a constant holds a line break
(`Command.lines_unlines_line`). -/
theorem check_agrees_with_inspect {checkArguments emitArguments : List String}
    {sources : Sources} {config : Config} {disk : Disk}
    (hcheck : Command.parse checkArguments = .ok (.check sources))
    (hemit : Command.parse emitArguments = .ok (.emit config sources))
    (hform : config.strategy = .image)
    (hfits : ∀ ds, disk.gather sources = .ok ds → Wire.ListFits Declaration.Fits ds)
    (hnamespace : Wire.TextFits config.namespaceText) (hname : Wire.TextFits config.className) :
    ∃ check emit after,
      (answer checkArguments : StateM Disk Reply).run disk = (check, disk) ∧
      (answer emitArguments : StateM Disk Reply).run disk = (emit, after) ∧
      (∀ ds c, disk.gather sources = .ok ds →
        Container.parse config.namespaceText config.className = .ok c →
        ∃ outcome, (compile ds config : StateM Disk Outcome).run disk = (outcome, after) ∧
          emit = Command.emitted outcome ∧ (check.exit = 0 ↔ outcome.status ≠ .blocked)) ∧
      (emit.exit = 0 → ∃ path moduleName c,
        emit.stdout = path ++ "\n" ∧ Path.stem? path = some moduleName ∧
        Container.parse config.namespaceText config.className = .ok c ∧ check.exit = 0 ∧
        check.stdout = Text.unlines (Text.lines check.stdout) ∧
        (answer ["inspect", path] : StateM Disk Reply).run after =
          ({ exit := 0
             stdout := Text.unlines (Command.headLine moduleName :: c.fullName ::
              (Text.lines check.stdout).map fun l => "  " ++ l) }, after)) := by
  cases hds : disk.gather sources with
  | error failure =>
    refine ⟨_, _, _, run_answer_check hcheck disk, run_answer_emit_of_error hemit hds, ?_, ?_⟩
    · intro ds c hds'
      cases hds'
    · intro hexit
      cases hexit
  | ok ds =>
    rcases hrun : (compile ds config : StateM Disk Outcome).run disk with ⟨outcome, after⟩
    have hchecked := run_answer_check hcheck disk
    rw [hds] at hchecked
    refine ⟨_, _, after, hchecked, run_answer_emit hemit hds hrun, ?_, ?_⟩
    · intro ds' c hds' hc
      obtain rfl := Except.ok.inj hds'
      refine ⟨outcome, hrun, rfl, ?_⟩
      exact (Command.exit_checked _).trans (isReady_iff_of_run hc hrun)
    · intro hexit
      obtain ⟨path, hdone, hstdout⟩ := Command.done_of_emitted hexit
      obtain ⟨c, moduleName, bytes, hc, hready, habsolute, hstem, hmodule, hbytes, hread⟩ :=
        run_compile_image hform hrun hdone
      obtain ⟨bytes', hbytes', hdecode⟩ := Image.exists_render_collect
        ⟨hfits ds hds, hnamespace, hname, hmodule⟩ hc
      obtain rfl := Except.ok.inj (hbytes.symm.trans hbytes')
      have hlines : Text.lines (Command.checked (collect ds)).stdout =
          (collect ds).table.constants.map Command.line := by
        rw [Command.stdout_checked hready, Command.lines_unlines_line]
      have hinspect := run_answer_inspect (Command.parse_inspect habsolute) hread hdecode
      refine ⟨path, moduleName, c, hstdout, hstem, hc, (Command.exit_checked _).2 hready, ?_, ?_⟩
      · show (Command.checked (collect ds)).stdout =
          Text.unlines (Text.lines (Command.checked (collect ds)).stdout)
        rw [hlines]
        exact Command.stdout_checked hready
      · have hshown : Command.inspected (.ofTable (collect ds).table c moduleName) false =
            { exit := 0
              stdout := Text.unlines (Command.headLine moduleName :: c.fullName ::
                ((collect ds).table.constants.map Command.line).map fun l => "  " ++ l) } := by
          rw [← Command.describeImage_ofTable]
          rfl
        rw [hinspect, hshown, ← hlines]
        rfl

/-- A text with a line break inside and an integer are checked, written to an image, and found again
below the path of the container. -/
theorem check_agrees_with_inspect_of_line_break :
    ∃ check emit after,
      (answer ["check", "-D", "A=x\ny", "-D", "Int:N=7"] : StateM Disk Reply).run ⟨[], []⟩ =
        (check, ⟨[], []⟩) ∧
      (answer ["emit-module", "-o", "out/c.dcm", "-D", "A=x\ny", "-D", "Int:N=7"] :
        StateM Disk Reply).run ⟨[], []⟩ = (emit, after) ∧
      check.stdout = "A: String = \"x\\ny\"\nN: Int = 7\n" ∧
      emit.exit = 0 ∧ emit.stdout = "/out/c.dcm" ++ "\n" ∧
      (answer ["inspect", "/out/c.dcm"] : StateM Disk Reply).run after =
        ({ exit := 0
           stdout := "module c (format 1, written by defconst 0.1.0)\n" ++
            "Preprocessor::DefineConstants\n  A: String = \"x\\ny\"\n  N: Int = 7\n" },
          after) := by
  have hcheck : Command.parse ["check", "-D", "A=x\ny", "-D", "Int:N=7"] =
      .ok (.check ⟨[], ["A=x\ny", "Int:N=7"]⟩) := by
    decide
  have hemit : Command.parse ["emit-module", "-o", "out/c.dcm", "-D", "A=x\ny", "-D", "Int:N=7"] =
      .ok (.emit ⟨"out/c.dcm", "Preprocessor", "DefineConstants", .image⟩
        ⟨[], ["A=x\ny", "Int:N=7"]⟩) := by
    decide
  have hgather : Disk.gather ⟨[], []⟩ ⟨[], ["A=x\ny", "Int:N=7"]⟩ =
      .ok [⟨"A=x\ny", none⟩, ⟨"N=7", some "Int"⟩] := by
    decide +kernel
  have hfits : ∀ ds, Disk.gather ⟨[], []⟩ ⟨[], ["A=x\ny", "Int:N=7"]⟩ = .ok ds →
      Wire.ListFits Declaration.Fits ds := by
    intro ds hds
    obtain rfl := Except.ok.inj (hgather.symm.trans hds)
    decide
  obtain ⟨check, emit, after, hrun, hrun', -, hinspect⟩ :=
    check_agrees_with_inspect hcheck hemit rfl hfits (by decide) (by decide)
  have hprinted : check.stdout = "A: String = \"x\\ny\"\nN: Int = 7\n" := by
    rw [show check = _ from (congrArg Prod.fst hrun).symm]
    decide +kernel
  have hexit : emit.exit = 0 := by
    rw [show emit = _ from (congrArg Prod.fst hrun').symm]
    decide +kernel
  have hstdout : emit.stdout = "/out/c.dcm" ++ "\n" := by
    rw [show emit = _ from (congrArg Prod.fst hrun').symm]
    decide +kernel
  obtain ⟨path, moduleName, c, hpath, hstem, hc, -, -, hshown⟩ := hinspect hexit
  obtain rfl : path = "/out/c.dcm" :=
    (String.append_left_inj "\n").1 (hpath.symm.trans hstdout)
  obtain rfl : moduleName = "c" := by
    have hname : Path.stem? "/out/c.dcm" = some "c" := by decide
    exact Option.some.inj (hstem.symm.trans hname)
  obtain rfl : c = ⟨["Preprocessor"], "DefineConstants"⟩ := by
    have hparse : Container.parse "Preprocessor" "DefineConstants" =
        .ok ⟨["Preprocessor"], "DefineConstants"⟩ := by
      decide
    exact Except.ok.inj (hc.symm.trans hparse)
  refine ⟨check, emit, after, hrun, hrun', hprinted, hexit, hstdout, ?_⟩
  rw [hshown, hprinted]
  refine congrArg (fun stdout => (({ exit := 0, stdout } : Reply), after)) ?_
  decide +kernel

end BuildConst
