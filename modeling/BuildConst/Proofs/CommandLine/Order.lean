import BuildConst.Proofs.CommandLine.Options

/-!
# The order of options

Options that are given together are taken if no value is empty that must not be and no switch is
given twice that must not be repeated.  Neither depends on the order of the options.  The command
depends on the values of each switch in the order in which they are written, and so options may
change places as long as the files keep their order and the definitions keep theirs.

## Main definitions

* `Occurrence.values` — the values of a switch.
* `Occurrence.Acceptable` — options that may be given together.
* `Occurrence.Reordered` — the same options in another order.
* `Command.sources?` — where the declarations of a command come from.

## Main results

* `Occurrence.foldlM_take_eq_ok_iff` — when options are taken one after the other.
* `Command.parse_reordered` — options in another order give the same command.
* `Command.sources_of_parse` — the files and the definitions of a command.
-/

set_option relaxedAutoImplicit false
set_option autoImplicit false

namespace BuildConst

/-- Where the declarations of a command come from, unless it is an inspection. -/
def Command.sources? : Command → Option Sources
  | .emit _ sources | .check sources => some sources
  | .inspect _ _ => none

namespace Occurrence

variable {verb : Verb} {os os' : List (Occurrence verb)}

/-- The values of a switch in the order in which they are written. -/
def values (os : List (Occurrence verb)) (s : Switch) : List String :=
  (os.filter fun o => o.switch == s).map value

/-- Options that may be given together. -/
structure Acceptable (os : List (Occurrence verb)) : Prop where
  filled : ∀ o ∈ os, o.switch.refusesEmpty = true → o.value ≠ ""
  single : os.Pairwise fun o o' => o.switch.isRepeatable = false → o.switch ≠ o'.switch

/-- The same options in another order, in which the files and the definitions keep theirs. -/
structure Reordered (os os' : List (Occurrence verb)) : Prop where
  perm : os.Perm os'
  files : (os.filter fun o => o.switch == .declarationFile) =
    os'.filter fun o => o.switch == .declarationFile
  defines : (os.filter fun o => o.switch == .define) = os'.filter fun o => o.switch == .define

/-! ## Options one after the other -/

/-- A switch was given if it was given before or is the last one. -/
theorem has_concat (scan : Scan) (s t : Switch) (value : String) :
    ({ scan with given := scan.given ++ [(s, value)] } : Scan).has t = (scan.has t || s == t) := by
  simp [Scan.has]

/-- **Options are taken one after the other** if they may be given together and none of them was
given before.

**Proof sketch.** By induction on the options.  What was given before an option is what the scan has
and the options that come first, so it is enough to compare an option with those that follow it. -/
theorem foldlM_take_eq_ok_iff {scan final : Scan} :
    os.foldlM (fun t o => t.take o.switch o.value) scan = .ok final ↔
      Acceptable os ∧ (∀ o ∈ os, o.switch.isRepeatable = false → scan.has o.switch = false) ∧
        final = { scan with given := scan.given ++ os.map fun o => (o.switch, o.value) } := by
  induction os generalizing scan with
  | nil =>
    constructor
    · rintro ⟨⟩
      exact ⟨⟨nofun, .nil⟩, nofun, by simp⟩
    · rintro ⟨-, -, rfl⟩
      simp only [List.map_nil, List.append_nil]
      rfl
  | cons o os ih =>
    rw [List.foldlM_cons]
    constructor
    · intro h
      obtain ⟨next, htake, h⟩ := Except.bind_eq_ok_iff.1 h
      obtain ⟨hnew, hfilled, rfl⟩ := Scan.take_eq_ok_iff.1 htake
      obtain ⟨hacceptable, hothers, rfl⟩ := ih.1 h
      have hother (o' : Occurrence verb) (ho' : o' ∈ os) (hsingle : o'.switch.isRepeatable = false) :
          scan.has o'.switch = false ∧ o.switch ≠ o'.switch := by
        have hhas := hothers o' ho' hsingle
        rw [has_concat, Bool.or_eq_false_iff] at hhas
        exact ⟨hhas.1, beq_eq_false_iff_ne.1 hhas.2⟩
      refine ⟨⟨?_, ?_⟩, ?_, ?_⟩
      · exact List.forall_mem_cons.2 ⟨hfilled, hacceptable.filled⟩
      · refine List.pairwise_cons.2 ⟨fun o' ho' hsingle hsame => ?_, hacceptable.single⟩
        rw [hsame] at hsingle
        exact (hother o' ho' hsingle).2 hsame
      · exact List.forall_mem_cons.2 ⟨hnew, fun o' ho' hsingle => (hother o' ho' hsingle).1⟩
      · simp
    · rintro ⟨⟨hfilled, hsingle⟩, hnew, rfl⟩
      obtain ⟨hfirst, hlater⟩ := List.pairwise_cons.1 hsingle
      obtain ⟨hnewfirst, hnewlater⟩ := List.forall_mem_cons.1 hnew
      obtain ⟨hfilledfirst, hfilledlater⟩ := List.forall_mem_cons.1 hfilled
      refine Except.bind_eq_ok_iff.2
        ⟨_, Scan.take_eq_ok_iff.2 ⟨hnewfirst, hfilledfirst, rfl⟩, ih.2 ⟨⟨hfilledlater, hlater⟩, ?_, ?_⟩⟩
      · intro o' ho' hrepeat
        rw [has_concat, hnewlater o' ho' hrepeat, Bool.false_or, beq_eq_false_iff_ne]
        intro hsame
        rw [← hsame] at hrepeat
        exact hfirst o' ho' hrepeat hsame
      · simp

/-- The values of a switch are those of its options. -/
theorem values_given (os : List (Occurrence verb)) (s : Switch) :
    ({ given := os.map fun o => (o.switch, o.value) } : Scan).values s = values os s := by
  rw [Scan.values, values, List.filter_map, List.map_map]
  rfl

/-! ## Options in another order -/

/-- Options that may be given together may be so in another order. -/
theorem Acceptable.of_perm (h : Acceptable os) (hperm : os.Perm os') : Acceptable os' where
  filled o ho := h.filled o (hperm.mem_iff.2 ho)
  single := by
    refine (hperm.pairwise_iff ?_).1 h.single
    intro o o' hrelated hsingle hsame
    rw [hsame] at hsingle
    exact hrelated hsingle hsame.symm

/-- A switch that must not be repeated has one option at most. -/
theorem Acceptable.length_filter_le (h : Acceptable os) {s : Switch}
    (hs : s.isRepeatable = false) : (os.filter fun o => o.switch == s).length ≤ 1 := by
  have hpairwise := h.single.filter fun o => o.switch == s
  have hswitch (o : Occurrence verb) (ho : o ∈ os.filter fun o => o.switch == s) : o.switch = s :=
    beq_iff_eq.1 (List.mem_filter.1 ho).2
  rcases hfilter : os.filter fun o => o.switch == s with _ | ⟨o, _ | ⟨o', rest⟩⟩
  · rw [hfilter]
    exact Nat.zero_le _
  · rw [hfilter]
    exact Nat.le_refl _
  · rw [hfilter] at hpairwise hswitch
    have hfirst := hswitch o List.mem_cons_self
    have hsecond := hswitch o' (List.mem_cons_of_mem _ List.mem_cons_self)
    have hne := (List.pairwise_cons.1 hpairwise).1 o' List.mem_cons_self (hfirst ▸ hs)
    exact absurd (hfirst.trans hsecond.symm) hne

/-- Options in another order have the same values for each switch. -/
theorem Reordered.values_eq (h : Reordered os os') (hacceptable : Acceptable os) (s : Switch) :
    values os' s = values os s := by
  have hfilter : (os'.filter fun o => o.switch == s) = os.filter fun o => o.switch == s := by
    have hperm := h.perm.filter fun o => o.switch == s
    by_cases hs : s.isRepeatable = true
    · cases s with
      | declarationFile => exact h.files.symm
      | define => exact h.defines.symm
      | _ => cases hs
    · have hlength := hacceptable.length_filter_le (Bool.eq_false_iff.2 hs)
      rcases hfilter : os.filter fun o => o.switch == s with _ | ⟨o, _ | ⟨o', rest⟩⟩
      · rw [hfilter] at hperm ⊢
        exact hperm.nil_eq.symm
      · rw [hfilter] at hperm ⊢
        exact (List.singleton_perm.1 hperm).symm
      · rw [hfilter] at hlength
        exact absurd hlength (by simp)
  rw [values, hfilter, values]

end Occurrence

/-! ## Commands -/

/-- Whether a switch was given is known from its values. -/
theorem Scan.has_eq (scan : Scan) (s : Switch) : scan.has s = !(scan.values s).isEmpty := by
  rw [Bool.eq_iff_iff, Scan.has, Scan.values]
  simp [List.filter_eq_nil_iff]

/-- The command of a scan depends on the values of each switch, and on the operand. -/
theorem Scan.command_congr {verb : Verb} {scan scan' : Scan}
    (hvalues : ∀ s, scan'.values s = scan.values s) (hoperand : scan'.operand = scan.operand) :
    scan'.command verb = scan.command verb := by
  have hemit (strategy : Strategy) : scan'.emitCommand strategy = scan.emitCommand strategy := by
    simp only [emitCommand, value?, sources, hvalues]
  cases verb with
  | emitSource => exact hemit .source
  | emitImage => exact hemit .image
  | check => simp only [command, sources, hvalues]
  | inspect => simp only [command, has_eq, hvalues, hoperand]

/-- Where the declarations of a command come from is known from the values of two switches. -/
theorem Scan.sources_of_command {verb : Verb} {scan : Scan} {command : Command}
    (hcommand : scan.command verb = .ok command) {sources : Sources}
    (h : command.sources? = some sources) : sources = scan.sources := by
  have hemit {strategy : Strategy} (hemitted : scan.emitCommand strategy = .ok command) :
      sources = scan.sources := by
    unfold emitCommand at hemitted
    split at hemitted
    next => cases hemitted
    next =>
      obtain rfl := Except.ok.inj hemitted
      exact (Option.some.inj h).symm
  cases verb with
  | emitSource => exact hemit hcommand
  | emitImage => exact hemit hcommand
  | check =>
    obtain rfl := Except.ok.inj hcommand
    exact (Option.some.inj h).symm
  | inspect =>
    rw [Scan.command] at hcommand
    split at hcommand
    next => cases hcommand
    next =>
      obtain rfl := Except.ok.inj hcommand
      cases h

namespace Command

open Occurrence

variable {verb : Verb} {os os' : List (Occurrence verb)} {closed : Bool} {command : Command}

/-- **The command of options** that may be given together is that of their values. -/
theorem parse_commandLine_eq_ok_iff :
    parse (commandLine verb os closed) = .ok command ↔ Acceptable os ∧
      ({ given := os.map fun o => (o.switch, o.value) } : Scan).command verb = .ok command := by
  rw [parse_commandLine, Except.bind_eq_ok_iff]
  constructor
  · rintro ⟨final, htake, hcommand⟩
    obtain ⟨hacceptable, -, rfl⟩ := foldlM_take_eq_ok_iff.1 htake
    exact ⟨hacceptable, hcommand⟩
  · rintro ⟨hacceptable, hcommand⟩
    exact ⟨_, foldlM_take_eq_ok_iff.2 ⟨hacceptable, fun _ _ _ => rfl, rfl⟩, hcommand⟩

/-- **Options in another order give the same command.** -/
theorem parse_reordered (hparse : parse (commandLine verb os closed) = .ok command)
    (h : Reordered os os') : parse (commandLine verb os' closed) = .ok command := by
  obtain ⟨hacceptable, hcommand⟩ := parse_commandLine_eq_ok_iff.1 hparse
  refine parse_commandLine_eq_ok_iff.2 ⟨hacceptable.of_perm h.perm, ?_⟩
  rw [← hcommand]
  apply Scan.command_congr
  · intro s
    rw [values_given, values_given, h.values_eq hacceptable]
  · rfl

/-- **The files and the definitions of a command** are the values of their switches in the order in
which they are written. -/
theorem sources_of_parse (hparse : parse (commandLine verb os closed) = .ok command)
    {sources : Sources} (h : command.sources? = some sources) :
    sources = ⟨values os .declarationFile, values os .define⟩ := by
  obtain ⟨-, hcommand⟩ := parse_commandLine_eq_ok_iff.1 hparse
  rw [← values_given, ← values_given, Scan.sources_of_command hcommand h, Scan.sources]

end Command

end BuildConst
