import BuildConst.Proofs.Compilation
import BuildConst.Proofs.Listing.Grammar

/-!
# The form of an artifact decides its bytes and nothing else

Both forms of an artifact can be rendered from whatever was collected, as every name that has to be
written is an identifier of the language.  From there on only the file system decides how a run
ends, and it does not look at the bytes.  So two runs that differ in the form of the artifact end
alike and leave disks that differ in one file.

## Main definitions

* `Source.IsIdentifier` — a text that the language reads as a name.
* `Disk.SameBut` — two disks that differ at most in the content of one file.
* `Disk.EndAlike` — runs that differ at most in the bytes that they store.

## Main results

* `Source.isIdentifier_spell` — names are spelled as identifiers.
* `Artifact.exists_render` — both forms can be rendered.
* `Artifact.endAlike_emit` — both forms are written to the same place, or to none.
* `compile_of_strategies` — the form of an artifact decides its bytes and nothing else.
-/

set_option relaxedAutoImplicit false
set_option autoImplicit false

namespace BuildConst

/-! ## Names -/

/-- A text that the language reads as a name: it is one token, which is a word that is no keyword,
or a raw identifier that may be one. -/
def Source.IsIdentifier (text name : String) : Prop :=
  ∃ t, tokens? text = some [t] ∧ Listing.nameOf? t = some name

/-- Names are spelled as identifiers. -/
theorem Source.isIdentifier_spell {name : String} (h : Identifier.Speakable name) :
    IsIdentifier (spell name) name :=
  ⟨_, Lexer.tokens?_spell (Identifier.speakable_iff.1 h).1, Listing.nameOf?_ofName h⟩

/-- A collected table is rendered in both forms. -/
theorem Artifact.exists_render (ds : List Declaration) (c : Container) (strategy : Strategy)
    (moduleName : String) :
    ∃ bytes, render strategy (collect ds).table c moduleName = .ok bytes := by
  cases strategy with
  | source =>
    refine ⟨Text.Utf8.encode (Source.text (collect ds).table c), ?_⟩
    rw [render, Source.render_of_speakable speakable_of_mem_collect c]
  | image => exact ⟨_, rfl⟩

/-! ## Disks -/

/-- Two disks that hold the same, but for what is in the file at one place. -/
structure Disk.SameBut (place : Location) (disk other : Disk) : Prop where
  here : disk.here = other.here
  file : ∃ bytes, disk.entry? place = some (.file bytes)
  fileOfOther : ∃ bytes, other.entry? place = some (.file bytes)
  elsewhere : ∀ further, further ≠ place → disk.entry? further = other.entry? further

/-- Files that are put at the same place make a difference there only. -/
theorem Disk.sameBut_put (disk : Disk) {place : Location} (h : place ≠ [])
    (bytes bytes' : List UInt8) :
    SameBut place (disk.put place (.file bytes)) (disk.put place (.file bytes')) where
  here := rfl
  file := ⟨bytes, by rw [entry_put h, if_pos rfl]⟩
  fileOfOther := ⟨bytes', by rw [entry_put h, if_pos rfl]⟩
  elsewhere further hfurther := by
    rw [entry_put h, entry_put h, if_neg hfurther, if_neg hfurther]

/-- Runs of one family fail alike, or they succeed alike and each of them leaves a file at the place
of a path, on the same disk otherwise. -/
def Disk.EndAlike {ι ε α : Type} (path : String) (result : α) (run : ι → Except ε α × Disk) :
    Prop :=
  (∃ fault after, ∀ i, run i = (.error fault, after)) ∨
    ∃ (aim : Aim) (between : Disk), between.aimOfWrite path = .ok aim ∧
      ∀ i, ∃ bytes, run i = (.ok result, between.put aim.place (.file bytes))

/-! ## Runs -/

/-- A file is written to where its path aims, whatever its bytes are. -/
theorem Disk.run_writeFile_of_aim {disk : Disk} {path : String} {aim : Aim}
    (h : disk.aimOfWrite path = .ok aim) (bytes : List UInt8) :
    (Files.writeFile path bytes : StateM Disk _).run disk =
      (.ok (), disk.put aim.place (.file bytes)) := by
  have hwrite : disk.write path bytes = .ok (disk.put aim.place (.file bytes)) := by
    rw [write_eq_map, h]
    rfl
  simp only [Files.writeFile, attempt, StateT.run, hwrite]

/-- A path that aims nowhere is refused, whatever the bytes are. -/
theorem Disk.run_writeFile_of_fault {disk : Disk} {path : String} {fault : FileFault}
    (h : disk.aimOfWrite path = .error fault) (bytes : List UInt8) :
    (Files.writeFile path bytes : StateM Disk _).run disk = (.error fault, disk) := by
  have hwrite : disk.write path bytes = .error fault := by
    rw [write_eq_map, h]
    rfl
  simp only [Files.writeFile, attempt, StateT.run, hwrite]

namespace Artifact

/-- Whether bytes can be stored, and where, does not depend on them. -/
theorem endAlike_store (path : String) (disk : Disk) :
    Disk.EndAlike path () fun bytes => (store path bytes : StateM Disk _).run disk := by
  rcases hmade : (Files.makeDirectories (Path.parents path) : StateM Disk _).run disk with
    ⟨made, between⟩
  cases made with
  | error fault =>
    exact .inl ⟨_, between, fun bytes => Disk.run_bind_eq_iff.2 ⟨_, _, hmade, rfl⟩⟩
  | ok _ =>
    cases haim : between.aimOfWrite path with
    | error fault =>
      refine .inl ⟨.file path fault, between, fun bytes => ?_⟩
      exact Disk.run_bind_eq_iff.2 ⟨_, _, hmade, Disk.run_bind_eq_iff.2
        ⟨_, _, Disk.run_writeFile_of_fault haim bytes, rfl⟩⟩
    | ok aim =>
      refine .inr ⟨aim, between, haim, fun bytes => ⟨bytes, ?_⟩⟩
      exact Disk.run_bind_eq_iff.2 ⟨_, _, hmade, Disk.run_bind_eq_iff.2
        ⟨_, _, Disk.run_writeFile_of_aim haim bytes, rfl⟩⟩

/-- Whether an artifact can be written, and where, does not depend on its form. -/
theorem endAlike_emit (ds : List Declaration) (c : Container) (target : String) (disk : Disk) :
    Disk.EndAlike (disk.resolve target) (disk.resolve target) fun strategy =>
      (emit strategy (collect ds).table c target : StateM Disk _).run disk := by
  cases hstem : Path.stem? (disk.resolve target) with
  | none =>
    exact .inl ⟨.noFileName (disk.resolve target), disk, fun _ => run_emit_of_noFileName hstem⟩
  | some moduleName =>
    rcases endAlike_store (disk.resolve target) disk with
      ⟨fault, after, hstore⟩ | ⟨aim, between, haim, hstore⟩
    · refine .inl ⟨fault, after, fun strategy => ?_⟩
      obtain ⟨bytes, hbytes⟩ := exists_render ds c strategy moduleName
      exact run_emit_of_rendered hstem hbytes (hstore bytes)
    · refine .inr ⟨aim, between, haim, fun strategy => ?_⟩
      obtain ⟨bytes, hbytes⟩ := exists_render ds c strategy moduleName
      obtain ⟨stored, hstored⟩ := hstore bytes
      exact ⟨stored, run_emit_of_rendered hstem hbytes hstored⟩

end Artifact

/-- What a run produced once it tried to write its artifact. -/
def Collected.outcome (c : Collected) : Except EmissionFault String → Outcome
  | .ok path => ⟨.done path, c.table, c.diagnostics⟩
  | .error fault => ⟨.failed, c.table, c.diagnostics ++ [.emissionFailed fault.message]⟩

/-- A run of a ready list goes on with writing its artifact. -/
theorem run_compile_of_isReady {ds : List Declaration} {config : Config} {c : Container}
    {disk after : Disk} {result : Except EmissionFault String}
    (hc : Container.parse config.namespaceText config.className = .ok c)
    (hready : (collect ds).isReady = true)
    (h : (Artifact.emit config.strategy (collect ds).table c config.target :
      StateM Disk _).run disk = (result, after)) :
    (compile ds config : StateM Disk _).run disk = ((collect ds).outcome result, after) := by
  unfold compile
  dsimp only
  rw [hc]
  dsimp only
  rw [if_pos hready]
  refine Disk.run_bind_eq_iff.2 ⟨_, _, h, ?_⟩
  cases result <;> rfl

/-- **The form of an artifact decides its bytes and nothing else**: runs for both forms end with the
same status, table and diagnostics.  They leave the same disk if no artifact was written, and
otherwise disks that differ at most in the content of the artifact.  Every collected table can be
rendered into every container, and each name on the way is spelled as an identifier.

**Proof sketch.** A run is blocked before its form is looked at.  Otherwise both forms are rendered,
because the names of collected constants and of containers have passed the check of names; and
writing the bytes succeeds or fails whatever they are (`Artifact.endAlike_emit`). -/
theorem compile_of_strategies (ds : List Declaration) (target namespaceText className : String)
    (disk : Disk) :
    (∃ outcome source image,
      (compile ds ⟨target, namespaceText, className, .source⟩ : StateM Disk Outcome).run disk =
        (outcome, source) ∧
      (compile ds ⟨target, namespaceText, className, .image⟩ : StateM Disk Outcome).run disk =
        (outcome, image) ∧
      (outcome.artifact? = none → source = image) ∧
      ∀ artifact, outcome.artifact? = some artifact → ∃ aim,
        source.locate artifact = .ok aim ∧ image.locate artifact = .ok aim ∧
          Disk.SameBut aim.place source image) ∧
    ∀ c, Container.parse namespaceText className = .ok c →
      (∀ strategy moduleName, ∃ bytes,
        Artifact.render strategy (collect ds).table c moduleName = .ok bytes) ∧
      ∀ name ∈ c.segments ++ c.name :: (collect ds).table.names,
        Identifier.wellFormed name = true ∧ name ∉ Identifier.reservedNames ∧
          Source.IsIdentifier (Source.spell name) name := by
  constructor
  · cases hc : Container.parse namespaceText className with
    | error fault =>
      refine ⟨⟨.blocked, (collect ds).table, (collect ds).diagnostics ++ [fault.diagnostic]⟩,
        disk, disk, ?_, ?_, fun _ => rfl, nofun⟩
      · simp only [compile, hc]
        rfl
      · simp only [compile, hc]
        rfl
    | ok c =>
      cases hready : (collect ds).isReady with
      | false =>
        refine ⟨⟨.blocked, (collect ds).table, (collect ds).diagnostics⟩, disk, disk, ?_, ?_,
          fun _ => rfl, nofun⟩
        · simp only [compile, hc, hready]
          rfl
        · simp only [compile, hc, hready]
          rfl
      | true =>
        rcases Artifact.endAlike_emit ds c target disk with
          ⟨fault, after, hemit⟩ | ⟨aim, between, haim, hemit⟩
        · exact ⟨(collect ds).outcome (.error fault), after, after,
            run_compile_of_isReady hc hready (hemit .source),
            run_compile_of_isReady hc hready (hemit .image), fun _ => rfl, nofun⟩
        · obtain ⟨bytes, hsource⟩ := hemit .source
          obtain ⟨bytes', himage⟩ := hemit .image
          refine ⟨(collect ds).outcome (.ok (disk.resolve target)), _, _,
            run_compile_of_isReady hc hready hsource, run_compile_of_isReady hc hready himage,
            nofun, ?_⟩
          intro artifact hartifact
          obtain rfl := Option.some.inj hartifact
          exact ⟨aim, Disk.locate_put_of_aimOfWrite haim bytes,
            Disk.locate_put_of_aimOfWrite haim bytes',
            Disk.sameBut_put between aim.place_ne_nil bytes bytes'⟩
  · intro c hc
    obtain ⟨-, hsegments, hname⟩ := Container.speakable_of_parse hc
    refine ⟨fun strategy moduleName => Artifact.exists_render ds c strategy moduleName, ?_⟩
    intro name hmem
    have hspeakable : Identifier.Speakable name := by
      rcases List.mem_append.1 hmem with hsegment | hrest
      · exact hsegments name hsegment
      · rcases List.mem_cons.1 hrest with rfl | hconstant
        · exact hname
        · obtain ⟨k, hk, rfl⟩ := List.mem_map.1 hconstant
          exact speakable_of_mem_collect k hk
    obtain ⟨hform, hreserved⟩ := Identifier.speakable_iff.1 hspeakable
    exact ⟨hform, hreserved, Source.isIdentifier_spell hspeakable⟩

/-- A table with a keyword for a name is rendered into a container whose path consists of keywords,
and all of them are spelled as identifiers. -/
theorem compile_of_strategies_of_keywords :
    Container.parse "mod::fn" "type" = .ok ⟨["mod", "fn"], "type"⟩ ∧
    (∃ bytes, Artifact.render .source (collect [⟨"match=7", some "int"⟩]).table
      ⟨["mod", "fn"], "type"⟩ "out" = .ok bytes) ∧
    Source.IsIdentifier (Source.spell "fn") "fn" ∧
    Source.IsIdentifier (Source.spell "match") "match" := by
  have hcontainer : Container.parse "mod::fn" "type" = .ok ⟨["mod", "fn"], "type"⟩ := by decide
  obtain ⟨-, hrendered⟩ := compile_of_strategies [⟨"match=7", some "int"⟩] "out.rs" "mod::fn"
    "type" ⟨[], []⟩
  obtain ⟨hbytes, hnames⟩ := hrendered _ hcontainer
  exact ⟨hcontainer, hbytes .source "out", (hnames "fn" (by decide)).2.2,
    (hnames "match" (by decide)).2.2⟩

end BuildConst
