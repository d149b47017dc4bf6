import BuildConst.Proofs.CommandLine.Grammar
import BuildConst.Proofs.CommandLine.Order
import BuildConst.Proofs.Gathering
import BuildConst.Proofs.Table.Layers

/-!
# Precedence on the command line

Where a definition stands on the command line does not matter, as long as the files keep their order
among each other and the definitions keep theirs.  All files come before all definitions, so what a
file declares cannot be changed by a definition, and of several files the first one decides.

## Main definitions

* `DeclaresValidly` — whether a name has a constant among some declarations.

## Main results

* `exists_first_layer` — the first file that declares a name decides its value.
* `command_line_precedence` — which definition of a name is in force, whatever the order of the
  options.
-/

set_option relaxedAutoImplicit false
set_option autoImplicit false

namespace BuildConst

/-- One of some declarations is valid and declares a name. -/
def DeclaresValidly (ds : List Declaration) (name : String) : Prop :=
  ∃ d ∈ ds, ∃ c, d.validate.constant = some c ∧ c.name = name

/-- A name is in a table exactly if it is declared validly. -/
theorem isSome_find?_collect_iff {ds : List Declaration} {name : String} :
    ((collect ds).table.find? name).isSome = true ↔ DeclaresValidly ds name := by
  rw [table_collect, History.find?_of, List.find?_isSome]
  constructor
  · rintro ⟨c, hc, hname⟩
    obtain ⟨d, hd, hconstant⟩ := List.mem_filterMap.1 hc
    exact ⟨d, hd, c, hconstant, beq_iff_eq.1 hname⟩
  · rintro ⟨d, hd, c, hconstant, hname⟩
    exact ⟨c, List.mem_filterMap.2 ⟨d, hd, hconstant⟩, beq_iff_eq.2 hname⟩

/-! ## Layers -/

/-- **The first layer that declares a name decides its value**, whatever is declared below. -/
theorem exists_first_layer {layers : List (List Declaration)} {name : String}
    (h : ∃ layer ∈ layers, DeclaresValidly layer name) :
    ∃ before layer later c, layers = before ++ layer :: later ∧
      (∀ earlier ∈ before, ¬DeclaresValidly earlier name) ∧ DeclaresValidly layer name ∧
      (collect layer).table.find? name = some c ∧
      ∀ below, (collect (layers.flatten ++ below)).table.find? name = some c := by
  have hfirst : (layers.findSome? fun ds => (collect ds).table.find? name).isSome = true := by
    obtain ⟨layer, hlayer, hdeclares⟩ := h
    exact List.findSome?_isSome_iff.2 ⟨layer, hlayer, isSome_find?_collect_iff.2 hdeclares⟩
  obtain ⟨c, hc⟩ := Option.isSome_iff_exists.1 hfirst
  obtain ⟨before, layer, later, rfl, hlayer, hbefore⟩ := List.findSome?_eq_some_iff.1 hc
  refine ⟨before, layer, later, c, rfl, ?_, ?_, hlayer, ?_⟩
  · intro earlier hearlier hdeclares
    have hsome := isSome_find?_collect_iff.2 hdeclares
    rw [hbefore earlier hearlier] at hsome
    cases hsome
  · apply isSome_find?_collect_iff.1
    rw [hlayer]
    rfl
  · intro below
    rw [table_collect_append, Table.find?_onto, table_collect_flatten, Table.find?_layered,
      List.findSome?_map, Function.comp_def, hc, Option.some_or]

/-! ## Commands -/

/-- Arguments that amount to the same command have the same answer. -/
theorem run_answer_congr {arguments arguments' : List String}
    (h : Command.parse arguments' = Command.parse arguments) (disk : Disk) :
    (answer arguments' : StateM Disk Reply).run disk =
      (answer arguments : StateM Disk Reply).run disk := by
  unfold answer
  rw [h]

/-! ## Main result -/

/-- **Precedence on the command line**, for commands that gather declarations.  The arguments are
options as they are written, and the options may change places as long as the files keep their order
and the definitions keep theirs: the answer is the same on every disk, and the same is left there.
The table is that of the files in order, on top of each other, on top of that of the definitions.
So a name that one of the files declares validly has the value that the first such file gives it,
whatever the definitions are.

**Proof sketch.** A command line that is accepted can be taken apart (`Command.exists_commandLine`),
and its command depends on the values of each switch only (`Scan.command_congr`).  What is gathered
are the declarations of the files, followed by the definitions (`Disk.gather_of_layers`), and lists
of declarations one after the other amount to their tables on top of each other
(`table_collect_flatten`). -/
theorem command_line_precedence {arguments : List String} {command : Command} {sources : Sources}
    (h : Command.parse arguments = .ok command) (hsources : command.sources? = some sources) :
    (∃ (verb : Verb) (os : List (Occurrence verb)) (closed : Bool),
      arguments = commandLine verb os closed) ∧
    (∀ (verb : Verb) (os : List (Occurrence verb)) (closed : Bool),
      arguments = commandLine verb os closed →
        sources = ⟨Occurrence.values os .declarationFile, Occurrence.values os .define⟩ ∧
        ∀ os', Occurrence.Reordered os os' →
          Command.parse (commandLine verb os' closed) = .ok command ∧
          ∀ disk : Disk, (answer (commandLine verb os' closed) : StateM Disk Reply).run disk =
            (answer arguments : StateM Disk Reply).run disk) ∧
    ∀ (disk : Disk) (layers : List (List Declaration)), disk.layers sources.files = .ok layers →
      ∃ ds, disk.gather sources = .ok ds ∧
        (collect ds).table = Table.layered
          (layers.map (fun layer => (collect layer).table) ++
            [(collect (sources.arguments.map Declaration.ofArgument)).table]) ∧
        (command = .check sources →
          (answer arguments : StateM Disk Reply).run disk =
            (Command.checked (collect ds), disk)) ∧
        (∀ config, command = .emit config sources → ∃ outcome after,
          (compile ds config : StateM Disk Outcome).run disk = (outcome, after) ∧
          outcome.table = (collect ds).table ∧
          (answer arguments : StateM Disk Reply).run disk = (Command.emitted outcome, after)) ∧
        ∀ name, (∃ layer ∈ layers, DeclaresValidly layer name) →
          ∃ before layer later c, layers = before ++ layer :: later ∧
            (∀ earlier ∈ before, ¬DeclaresValidly earlier name) ∧ DeclaresValidly layer name ∧
            (collect layer).table.find? name = some c ∧
            ∀ others ds', disk.gather ⟨sources.files, others⟩ = .ok ds' →
              (collect ds').table.find? name = some c := by
  refine ⟨?_, ?_, ?_⟩
  · apply Command.exists_commandLine h
    rintro path json rfl
    cases hsources
  · rintro verb os closed rfl
    refine ⟨Command.sources_of_parse h hsources, fun os' hreordered => ?_⟩
    have hparse := Command.parse_reordered h hreordered
    exact ⟨hparse, run_answer_congr (hparse.trans h.symm)⟩
  · intro disk layers hlayers
    have hgather := Disk.gather_of_layers hlayers
    refine ⟨_, hgather, ?_, ?_, ?_, ?_⟩
    · have hflatten : layers.flatten ++ sources.arguments.map Declaration.ofArgument =
          (layers ++ [sources.arguments.map Declaration.ofArgument]).flatten := by simp
      rw [hflatten, table_collect_flatten, List.map_append]
      rfl
    · rintro rfl
      have hrun := run_answer_check h disk
      rw [hgather] at hrun
      exact hrun
    · rintro config rfl
      rcases hcompile : (compile (layers.flatten ++ sources.arguments.map Declaration.ofArgument)
        config : StateM Disk Outcome).run disk with ⟨outcome, after⟩
      refine ⟨outcome, after, rfl, ?_, run_answer_emit h hgather hcompile⟩
      rcases run_compile hcompile with ⟨_, -, -, rfl⟩ | ⟨_, -, -, -, rfl⟩ | ⟨_, _, -, -, -, rfl⟩ |
        ⟨_, _, -, -, -, rfl⟩ <;> rfl
    · intro name hname
      obtain ⟨before, layer, later, c, hsplit, hbefore, hlayer, hfind, hbelow⟩ :=
        exists_first_layer hname
      refine ⟨before, layer, later, c, hsplit, hbefore, hlayer, hfind, ?_⟩
      intro others ds' hds'
      have hothers : disk.gather ⟨sources.files, others⟩ = _ := Disk.gather_of_layers hlayers
      obtain rfl := Except.ok.inj (hothers.symm.trans hds')
      exact hbelow _

/-- A definition gives way to a file, in front of it and behind it. -/
theorem command_line_precedence_of_one_name :
    ∃ ds,
      Command.parse ["emit-rust", "--target", "out.rs", "--define", "A=2", "--from", "a.json"] =
        .ok (.emit { target := "out.rs" } ⟨["a.json"], ["A=2"]⟩) ∧
      Command.parse ["emit-rust", "--from", "a.json", "--define", "A=2", "--target", "out.rs"] =
        .ok (.emit { target := "out.rs" } ⟨["a.json"], ["A=2"]⟩) ∧
      Disk.gather ⟨[(["a.json"], .file (Text.Utf8.encode "[\"A=1\"]"))], []⟩
        ⟨["a.json"], ["A=2"]⟩ = .ok ds ∧
      (collect ds).table.find? "A" = some ⟨"A", .string "1"⟩ := by
  have hparse : Command.parse
      ["emit-rust", "--target", "out.rs", "--define", "A=2", "--from", "a.json"] =
        .ok (.emit { target := "out.rs" } ⟨["a.json"], ["A=2"]⟩) := by
    decide
  have hlayers : Disk.layers ⟨[(["a.json"], .file (Text.Utf8.encode "[\"A=1\"]"))], []⟩
      ["a.json"] = .ok [[⟨"A=1", none⟩]] := by
    decide +kernel
  have hoption (s : Switch) (value : String) (hmem : s ∈ Verb.switches .emitSource)
      (hvalue : s.takesValue = true) (hhead : value.toList.head? ≠ some '-') :
      ∃ o : Occurrence .emitSource, o.switch = s ∧ o.words = ["--" ++ s.long, value] :=
    ⟨⟨s, value, _, hmem, hvalue, .longApart (.inr fun c hc hhyphen => hhead (hhyphen ▸ hc))⟩,
      rfl, rfl⟩
  obtain ⟨target, htarget, hout⟩ := hoption .target "out.rs" (by decide) rfl (by decide)
  obtain ⟨define, hdefine, htwo⟩ := hoption .define "A=2" (by decide) rfl (by decide)
  obtain ⟨file, hfile, hone⟩ := hoption .declarationFile "a.json" (by decide) rfl (by decide)
  have hreordered : Occurrence.Reordered [target, define, file] [file, define, target] :=
    ⟨(List.reverse_perm [target, define, file]).symm, by simp [htarget, hdefine, hfile],
      by simp [htarget, hdefine, hfile]⟩
  obtain ⟨-, horder, htable⟩ := command_line_precedence hparse rfl
  obtain ⟨-, hsame⟩ := horder .emitSource [target, define, file] false
    (by simp [commandLine, Verb.word, Switch.long, hout, htwo, hone])
  have hline : commandLine .emitSource [file, define, target] false =
      ["emit-rust", "--from", "a.json", "--define", "A=2", "--target", "out.rs"] := by
    simp [commandLine, Verb.word, Switch.long, hout, htwo, hone]
  have hparse' := (hsame _ hreordered).1
  rw [hline] at hparse'
  obtain ⟨ds, hgather, -, -, -, hname⟩ := htable _ _ hlayers
  obtain ⟨before, layer, later, c, hsplit, -, -, hfind, hothers⟩ :=
    hname "A" ⟨_, List.mem_singleton_self _, _, List.mem_singleton_self _, ⟨"A", .string "1"⟩,
      by decide, rfl⟩
  obtain rfl : layer = [⟨"A=1", none⟩] := by
    have hmem : layer ∈ before ++ layer :: later := List.mem_append_right _ List.mem_cons_self
    rw [← hsplit] at hmem
    exact List.mem_singleton.1 hmem
  have hfirst : (collect [⟨"A=1", none⟩]).table.find? "A" = some ⟨"A", .string "1"⟩ := by
    decide
  obtain rfl := Option.some.inj (hfirst.symm.trans hfind)
  exact ⟨ds, hparse, hparse', hgather, hothers _ _ hgather⟩

end BuildConst
