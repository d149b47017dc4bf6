import BuildConst.Proofs.CommandLine.Options

/-!
# Command lines that are accepted

A command without an operand accepts nothing but options as they are written, and perhaps the two
hyphens that end them.  So every command line that amounts to such a command can be taken apart into
its options.

## Main definitions

* `IsOptions` — words that are options as they are written.
* `Scan.Advance` — what a word that is accepted comes to.
* `Scan.Completes` — the words that may come next.

## Main results

* `Scan.advance_of_step` — the cases of a word that is accepted.
* `Scan.completes_of_run` — the options in words that are accepted.
* `Command.exists_commandLine` — the options in a command line that is accepted.
-/

set_option relaxedAutoImplicit false
set_option autoImplicit false

namespace BuildConst

/-- Words that are options as they are written, perhaps with the two hyphens that end them. -/
def IsOptions (verb : Verb) (words : List String) : Prop :=
  ∃ (os : List (Occurrence verb)) (closed : Bool),
    words = os.flatMap Occurrence.words ++ if closed then ["--"] else []

/-- One more option may be written in front of others. -/
theorem IsOptions.append {verb : Verb} {words : List String} (h : IsOptions verb words)
    (o : Occurrence verb) : IsOptions verb (o.words ++ words) := by
  obtain ⟨os, closed, rfl⟩ := h
  exact ⟨o :: os, closed, by rw [List.flatMap_cons, List.append_assoc]⟩

namespace Scan

variable {verb : Verb} {scan next : Scan} {word : String}

/-- What a word comes to that is accepted by a command without an operand.  It ends the options, or
it is the value that the switch before it awaits, or it is a switch with its value, or a switch that
awaits its value. -/
inductive Advance (verb : Verb) (scan : Scan) (word : String) (next : Scan) : Prop
  | closes (hword : word = "--") (hnext : next = { scan with onlyOperands := true })
  | supplies (s : Switch) (hpending : scan.pending = some (.awaiting s)) (hplain : IsPlain word)
      (hnext : next = { scan with pending := some (.valued s word) })
  | attaches (o : Occurrence verb) (hwords : o.words = [word]) (settled : Scan)
      (hsettle : scan.settle = .ok settled) (htake : settled.take o.switch o.value = .ok next)
  | awaits (s : Switch) (hmem : s ∈ verb.switches) (hvalue : s.takesValue = true)
      (hwritten : ∀ value, IsPlain value → s.Writes value [word, value]) (settled : Scan)
      (hsettle : scan.settle = .ok settled)
      (hnext : next = { settled with pending := some (.awaiting s) })

/-- Words that may come next: a switch that awaits its value must have it. -/
def Completes (verb : Verb) (scan : Scan) (words : List String) : Prop :=
  match scan.pending with
  | some (.awaiting _) =>
    ∃ value more, words = value :: more ∧ IsPlain value ∧ IsOptions verb more
  | _ => IsOptions verb words

/-- Only an inspection has an operand. -/
theorem takesOperand_of_command {command : Command} (h : scan.command verb = .ok command)
    (hcommand : ∀ path json, command ≠ .inspect path json) : verb.takesOperand = false := by
  cases verb with
  | emitSource => rfl
  | emitImage => rfl
  | check => rfl
  | inspect =>
    rw [Scan.command] at h
    split at h
    next => cases h
    next path _ => exact absurd (Except.ok.inj h).symm (hcommand path _)

/-! ## Single words -/

/-- A command without an operand has one switch without a value, and that is a request for help. -/
theorem flag_ne_ok (hverb : verb.takesOperand = false) {s : Switch} (hmem : s ∈ verb.switches)
    (hvalue : s.takesValue = false) : scan.flag s ≠ .ok next := by
  have hhelp : s = .help := by
    revert hverb hmem hvalue
    cases verb <;> cases s <;> decide
  subst hhelp
  intro h
  obtain ⟨settled, -, h⟩ := Except.bind_eq_ok_iff.1 h
  cases h

/-- A switch that is accepted by a command without an operand takes a value. -/
theorem switch_eq_ok (hverb : verb.takesOperand = false) {s : Switch} (hmem : s ∈ verb.switches)
    {attached : Option String} (h : scan.switch s attached = .ok next) :
    s.takesValue = true ∧ ∃ settled, scan.settle = .ok settled ∧
      (∀ value, attached = some value → settled.take s value = .ok next) ∧
      (attached = none → next = { settled with pending := some (.awaiting s) }) := by
  unfold switch at h
  split at h
  next hvalue =>
    obtain ⟨settled, hsettle, h⟩ := Except.bind_eq_ok_iff.1 h
    refine ⟨hvalue, settled, hsettle, ?_, ?_⟩
    · rintro value rfl
      exact h
    · rintro rfl
      exact (Except.ok.inj h).symm
  next hvalue =>
    split at h
    next => cases h
    next => exact absurd h (flag_ne_ok hverb hmem (Bool.eq_false_iff.2 hvalue))

/-- A word that is a switch with its value. -/
theorem advance_of_attached (hverb : verb.takesOperand = false) {s : Switch}
    (hmem : s ∈ verb.switches) {value : String} (hwritten : s.Writes value [word])
    (h : scan.switch s (some value) = .ok next) : Advance verb scan word next := by
  obtain ⟨hvalue, settled, hsettle, htake, -⟩ := switch_eq_ok hverb hmem h
  exact .attaches ⟨s, value, [word], hmem, hvalue, hwritten⟩ rfl settled hsettle (htake _ rfl)

/-- A word that is a switch whose value is the next word. -/
theorem advance_of_apart (hverb : verb.takesOperand = false) {s : Switch}
    (hmem : s ∈ verb.switches)
    (hwritten : ∀ value, IsPlain value → s.Writes value [word, value])
    (h : scan.switch s none = .ok next) : Advance verb scan word next := by
  obtain ⟨hvalue, settled, hsettle, -, hnext⟩ := switch_eq_ok hverb hmem h
  exact .awaits s hmem hvalue hwritten settled hsettle (hnext rfl)

/-- A word that is no switch is accepted as a value. -/
theorem advance_of_plain (hverb : verb.takesOperand = false) (hword : IsPlain word)
    (h : scan.plain verb word = .ok next) : Advance verb scan word next := by
  unfold plain at h
  split at h
  next s hpending => exact .supplies s hpending hword (Except.ok.inj h).symm
  next =>
    rw [addOperand, hverb] at h
    cases h

/-- A word with two hyphens in front that is accepted is the name of a switch, alone or with a
value. -/
theorem advance_of_longForm (hverb : verb.takesOperand = false) {body : List Char}
    (hword : word.toList = '-' :: '-' :: body) (h : scan.longForm verb.switches body = .ok next) :
    Advance verb scan word next := by
  unfold longForm at h
  cases hsplit : Text.splitFirst '=' body with
  | some pair =>
    obtain ⟨name, value⟩ := pair
    obtain ⟨hbody, -⟩ := Text.splitFirst_eq_some_iff.1 hsplit
    rw [hsplit] at h
    dsimp only at h
    split at h
    next s hfind =>
      have hname : s.long = String.ofList name := by simpa using List.find?_some hfind
      have hwhole : word = "--" ++ s.long ++ "=" ++ String.ofList value :=
        String.toList_inj.1 (by simp [hword, hbody, hname])
      subst hwhole
      exact advance_of_attached hverb (List.mem_of_find?_eq_some hfind) (.longAttached _) h
    next => cases h
  | none =>
    rw [hsplit] at h
    dsimp only at h
    split at h
    next s hfind =>
      have hname : s.long = String.ofList body := by simpa using List.find?_some hfind
      have hwhole : word = "--" ++ s.long := String.toList_inj.1 (by simp [hword, hname])
      subst hwhole
      exact advance_of_apart hverb (List.mem_of_find?_eq_some hfind) (fun _ => .longApart) h
    next => cases h

/-- A word with one hyphen in front that is accepted holds the letter of a switch, alone or with a
value. -/
theorem advance_of_shortForm (hverb : verb.takesOperand = false) {c : Char} {rest : List Char}
    (hword : word.toList = '-' :: c :: rest)
    (h : scan.shortForm verb.switches (c :: rest) = .ok next) : Advance verb scan word next := by
  rw [shortForm] at h
  split at h
  next => cases h
  next s hfind =>
    have hshort : s.short? = some c := by simpa using List.find?_some hfind
    have hmem := List.mem_of_find?_eq_some hfind
    split at h
    next hvalue =>
      split at h
      next =>
        have hwhole : word = "-" ++ String.singleton c := String.toList_inj.1 (by simp [hword])
        subst hwhole
        exact advance_of_apart hverb hmem (fun _ => .shortApart hshort) h
      next value =>
        have hwhole : word = "-" ++ String.singleton c ++ "=" ++ String.ofList value :=
          String.toList_inj.1 (by simp [hword])
        subst hwhole
        exact advance_of_attached hverb hmem (.shortEquals hshort _) h
      next hsome hother =>
        have hwhole : word = "-" ++ String.singleton c ++ String.ofList rest :=
          String.toList_inj.1 (by simp [hword])
        subst hwhole
        apply advance_of_attached hverb hmem (.shortAttached hshort ?_ ?_) h
        · intro hempty
          exact hsome (String.ofList_eq_empty_iff.1 hempty)
        · rw [String.toList_ofList]
          intro hequals
          obtain ⟨value, hrest⟩ := List.head?_eq_some_iff.1 hequals
          exact hother value hrest
    next hvalue =>
      obtain ⟨flagged, hflag, -⟩ := Except.bind_eq_ok_iff.1 h
      exact absurd hflag (flag_ne_ok hverb hmem (Bool.eq_false_iff.2 hvalue))

/-- **The cases of a word that is accepted** while switches can be given. -/
theorem advance_of_step (hverb : verb.takesOperand = false) (honly : scan.onlyOperands = false)
    (h : scan.step verb word = .ok next) : Advance verb scan word next := by
  rw [step, honly, if_neg Bool.false_ne_true] at h
  split at h
  next hword =>
    exact .closes (String.toList_inj.1 hword) (Except.ok.inj h).symm
  next hword => exact advance_of_longForm hverb hword h
  next hword =>
    exact advance_of_plain hverb (.inl (String.toList_inj.1 hword)) h
  next letters hnone hname halone hword =>
    cases letters with
    | nil => exact absurd rfl halone
    | cons c rest => exact advance_of_shortForm hverb hword h
  next hother =>
    apply advance_of_plain hverb (.inr ?_) h
    rintro c hc rfl
    obtain ⟨letters, hletters⟩ := List.head?_eq_some_iff.1 hc
    exact hother letters hletters

/-! ## Whole runs -/

/-- Nothing is accepted after the options were ended. -/
theorem eq_nil_of_onlyOperands (hverb : verb.takesOperand = false)
    (honly : scan.onlyOperands = true) {words : List String}
    (h : words.foldlM (step verb) scan = .ok next) : words = [] ∧ next = scan := by
  cases words with
  | nil => exact ⟨rfl, (Except.ok.inj h).symm⟩
  | cons word more =>
    rw [List.foldlM_cons, step, if_pos honly, addOperand, hverb] at h
    cases h

/-- A scan that can be settled awaits no value. -/
theorem completes_of_settle {settled : Scan} (h : scan.settle = .ok settled) {words : List String}
    (hwords : IsOptions verb words) : Completes verb scan words := by
  unfold Completes
  split
  next hpending =>
    rw [settle, hpending] at h
    cases h
  next => exact hwords

/-- **The options in words that are accepted.**

**Proof sketch.** By induction on the words.  A switch that awaits its value is made an option by the
word after it, which is why the scan in between is part of the statement. -/
theorem completes_of_run (hverb : verb.takesOperand = false) {words : List String}
    {scan settled : Scan} (honly : scan.onlyOperands = false)
    (h : words.foldlM (step verb) scan >>= settle = .ok settled) : Completes verb scan words := by
  induction words generalizing scan with
  | nil => exact completes_of_settle h ⟨[], false, rfl⟩
  | cons word more ih =>
    obtain ⟨last, hrun, hsettled⟩ := Except.bind_eq_ok_iff.1 h
    rw [List.foldlM_cons] at hrun
    obtain ⟨next, hstep, hmore⟩ := Except.bind_eq_ok_iff.1 hrun
    have hrest : more.foldlM (step verb) next >>= settle = .ok settled :=
      Except.bind_eq_ok_iff.2 ⟨last, hmore, hsettled⟩
    cases advance_of_step hverb honly hstep with
    | closes hword hnext =>
      subst hword hnext
      obtain ⟨rfl, rfl⟩ := eq_nil_of_onlyOperands hverb rfl hmore
      rw [settle_onlyOperands] at hsettled
      obtain ⟨t, hsettle, -⟩ := Except.map_eq_ok_iff.1 hsettled
      exact completes_of_settle hsettle ⟨[], true, rfl⟩
    | supplies s hpending hplain hnext =>
      subst hnext
      have hoptions : IsOptions verb more := ih (by exact honly) hrest
      rw [Completes, hpending]
      exact ⟨word, more, rfl, hplain, hoptions⟩
    | attaches o hwords t hsettle htake =>
      obtain ⟨hpending, hsame⟩ := settle_eq_ok hsettle
      obtain ⟨-, -, rfl⟩ := take_eq_ok_iff.1 htake
      have hoptions : Completes verb _ more := ih (by exact hsame.trans honly) hrest
      rw [Completes, hpending] at hoptions
      have hcons := hoptions.append o
      rw [hwords] at hcons
      exact completes_of_settle hsettle hcons
    | awaits s hmem hvalue hwritten t hsettle hnext =>
      subst hnext
      obtain ⟨value, rest, rfl, hplain, hoptions⟩ :=
        ih (by exact (settle_eq_ok hsettle).2.trans honly) hrest
      exact completes_of_settle hsettle
        (hoptions.append ⟨s, value, [word, value], hmem, hvalue, hwritten value hplain⟩)

end Scan

/-! ## Main result -/

/-- **The options in a command line that is accepted**, for any command but an inspection. -/
theorem Command.exists_commandLine {arguments : List String} {command : Command}
    (h : parse arguments = .ok command) (hcommand : ∀ path json, command ≠ .inspect path json) :
    ∃ (verb : Verb) (os : List (Occurrence verb)) (closed : Bool),
      arguments = commandLine verb os closed := by
  cases arguments with
  | nil => cases h
  | cons argument rest =>
    rw [parse] at h
    split at h
    next => cases h
    next =>
      split at h
      next verb hverb =>
        obtain ⟨last, hrun, h⟩ := Except.bind_eq_ok_iff.1 h
        obtain ⟨settled, hsettle, h⟩ := Except.bind_eq_ok_iff.1 h
        have hword : verb.word = argument := by simpa using List.find?_some hverb
        have hoperand := Scan.takesOperand_of_command h hcommand
        obtain ⟨os, closed, rfl⟩ : IsOptions verb rest :=
          Scan.completes_of_run hoperand rfl (Except.bind_eq_ok_iff.2 ⟨last, hrun, hsettle⟩)
        exact ⟨verb, os, closed, by rw [commandLine, hword]⟩
      next => cases h

end BuildConst
