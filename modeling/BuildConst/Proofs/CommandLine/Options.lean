import BuildConst.CommandLine.Arguments
import BuildConst.Proofs.Success

/-!
# Options as they are written

An option is a switch with a value.  It is written as one word or as two: the value is attached to
the name of the switch, or to its letter, or it is the next word, which must not look like a switch.
However an option is written, once the words behind it show that it is complete it has been taken
with its value.

## Main definitions

* `Switch.Writes` — the ways in which an option is written.
* `Occurrence` — an option of a command, as it is written.
* `commandLine` — the arguments for a command with some options.

## Main results

* `Scan.run_words` — what the words of one option come to.
* `Scan.run_occurrences` — what the words of several options come to.
* `Command.parse_commandLine` — the command of options that are taken one after the other.
-/

set_option relaxedAutoImplicit false
set_option autoImplicit false

namespace BuildConst

/-- A word that cannot be taken for a switch: it does not begin with a hyphen, or is one. -/
def IsPlain (word : String) : Prop :=
  word = "-" ∨ ∀ c ∈ word.toList.head?, c ≠ '-'

/-- The ways in which a switch is written with a value. -/
inductive Switch.Writes (s : Switch) : String → List String → Prop
  | longAttached (value : String) : Writes s value ["--" ++ s.long ++ "=" ++ value]
  | longApart {value : String} (h : IsPlain value) : Writes s value ["--" ++ s.long, value]
  | shortAttached {c : Char} (hc : s.short? = some c) {value : String} (hne : value ≠ "")
      (hother : value.toList.head? ≠ some '=') :
      Writes s value ["-" ++ String.singleton c ++ value]
  | shortEquals {c : Char} (hc : s.short? = some c) (value : String) :
      Writes s value ["-" ++ String.singleton c ++ "=" ++ value]
  | shortApart {c : Char} (hc : s.short? = some c) {value : String} (h : IsPlain value) :
      Writes s value ["-" ++ String.singleton c, value]

/-- An option of a command, as it is written. -/
structure Occurrence (verb : Verb) where
  switch : Switch
  value : String
  words : List String
  available : switch ∈ verb.switches
  valued : switch.takesValue = true
  written : switch.Writes value words

/-- The arguments for a command with some options, perhaps with the two hyphens that end them. -/
def commandLine (verb : Verb) (os : List (Occurrence verb)) (closed : Bool) : List String :=
  verb.word :: (os.flatMap Occurrence.words ++ if closed then ["--"] else [])

/-- The word for a command is found. -/
theorem Verb.ofWord?_word (verb : Verb) : ofWord? verb.word = some verb := by
  cases verb <;> decide

/-! ## Finding switches -/

namespace Switch

/-- A switch is found by its name. -/
theorem find?_long {s : Switch} {available : List Switch} (h : s ∈ available) :
    available.find? (fun t => t.long == s.long) = some s := by
  have hinj (t : Switch) (ht : t.long = s.long) : t = s := by
    revert ht
    cases t <;> cases s <;> decide
  cases hfound : available.find? fun t => t.long == s.long with
  | none => exact absurd (beq_self_eq_true s.long) (List.find?_eq_none.1 hfound s h)
  | some t => rw [hinj t (by simpa using List.find?_some hfound)]

/-- A switch is found by its letter. -/
theorem find?_short {s : Switch} {c : Char} (hc : s.short? = some c) {available : List Switch}
    (h : s ∈ available) : available.find? (fun t => t.short? == some c) = some s := by
  have hinj (t : Switch) (ht : t.short? = s.short?) : t = s := by
    have hsome : s.short?.isSome = true := by rw [hc]; rfl
    revert ht hsome
    cases t <;> cases s <;> decide
  cases hfound : available.find? fun t => t.short? == some c with
  | none => exact absurd (by rw [hc]; exact beq_self_eq_true _) (List.find?_eq_none.1 hfound s h)
  | some t =>
    have ht : t.short? = some c := by simpa using List.find?_some hfound
    rw [hinj t (ht.trans hc.symm)]

/-- No name of a switch holds an equals sign. -/
theorem equals_notMem_long (s : Switch) : '=' ∉ s.long.toList := by
  cases s <;> decide

/-- Every switch has a name. -/
theorem long_ne_nil (s : Switch) : s.long.toList ≠ [] := by
  cases s <;> decide

/-- No letter of a switch is a hyphen. -/
theorem ne_hyphen_of_short {s : Switch} {c : Char} (h : s.short? = some c) : c ≠ '-' := by
  rintro rfl
  revert h
  cases s <;> decide

end Switch

namespace Scan

variable {verb : Verb} {scan settled : Scan}

/-! ## Single words -/

/-- A word that is no switch is a value or an operand. -/
theorem step_of_isPlain (h : scan.onlyOperands = false) {word : String} (hword : IsPlain word) :
    scan.step verb word = scan.plain verb word := by
  rw [step, h, if_neg Bool.false_ne_true]
  rcases hword with rfl | hhead
  · rfl
  · split
    next hchars => exact absurd rfl (hhead '-' (by rw [hchars]; rfl))
    next hchars => exact absurd rfl (hhead '-' (by rw [hchars]; rfl))
    next => rfl
    next hchars => exact absurd rfl (hhead '-' (by rw [hchars]; rfl))
    next => rfl

/-- A word with two hyphens in front is the name of a switch. -/
theorem step_of_long (h : scan.onlyOperands = false) {word : String} {body : List Char}
    (hword : word.toList = '-' :: '-' :: body) (hbody : body ≠ []) :
    scan.step verb word = scan.longForm verb.switches body := by
  rw [step, h, if_neg Bool.false_ne_true, hword]
  cases body with
  | nil => exact absurd rfl hbody
  | cons c rest => rfl

/-- A word with one hyphen in front holds the letter of a switch. -/
theorem step_of_short (h : scan.onlyOperands = false) {word : String} {c : Char}
    {rest : List Char} (hword : word.toList = '-' :: c :: rest) (hc : c ≠ '-') :
    scan.step verb word = scan.shortForm verb.switches (c :: rest) := by
  rw [step, h, if_neg Bool.false_ne_true, hword]
  split
  next heq =>
    obtain ⟨-, heq⟩ := List.cons.inj heq
    exact absurd (List.cons.inj heq).1 hc
  next heq =>
    obtain ⟨-, heq⟩ := List.cons.inj heq
    exact absurd (List.cons.inj heq).1 hc
  next heq => cases heq
  next heq => rw [(List.cons.inj heq).2]
  next hother => exact absurd rfl (hother _)

/-- The name of a switch alone awaits a value. -/
theorem longForm_apart {s : Switch} {available : List Switch} (h : s ∈ available) :
    scan.longForm available s.long.toList = scan.switch s none := by
  rw [longForm, Text.splitFirst_eq_none_iff.2 s.equals_notMem_long]
  dsimp only
  rw [String.ofList_toList, Switch.find?_long h]

/-- The name of a switch with an equals sign has its value behind it. -/
theorem longForm_attached {s : Switch} {available : List Switch} (h : s ∈ available)
    (value : String) :
    scan.longForm available (s.long.toList ++ '=' :: value.toList) =
      scan.switch s (some value) := by
  rw [longForm, Text.splitFirst_eq_some_iff.2 ⟨rfl, s.equals_notMem_long⟩]
  dsimp only
  rw [String.ofList_toList, String.ofList_toList, Switch.find?_long h]

/-- The letter of a switch alone awaits a value. -/
theorem shortForm_apart {s : Switch} {c : Char} (hc : s.short? = some c)
    (hvalue : s.takesValue = true) {available : List Switch} (h : s ∈ available) :
    scan.shortForm available [c] = scan.switch s none := by
  rw [shortForm, Switch.find?_short hc h]
  dsimp only
  rw [if_pos hvalue]

/-- The letter of a switch may have its value behind an equals sign. -/
theorem shortForm_equals {s : Switch} {c : Char} (hc : s.short? = some c)
    (hvalue : s.takesValue = true) {available : List Switch} (h : s ∈ available)
    (value : String) :
    scan.shortForm available (c :: '=' :: value.toList) = scan.switch s (some value) := by
  rw [shortForm, Switch.find?_short hc h]
  dsimp only
  rw [if_pos hvalue]
  change scan.switch s (some (String.ofList value.toList)) = _
  rw [String.ofList_toList]

/-- The letter of a switch may have its value right behind it. -/
theorem shortForm_attached {s : Switch} {c : Char} (hc : s.short? = some c)
    (hvalue : s.takesValue = true) {available : List Switch} (h : s ∈ available)
    {value : String} (hne : value ≠ "") (hother : value.toList.head? ≠ some '=') :
    scan.shortForm available (c :: value.toList) = scan.switch s (some value) := by
  rw [shortForm, Switch.find?_short hc h]
  dsimp only
  rw [if_pos hvalue]
  split
  next hnil => exact absurd (String.toList_eq_nil_iff.1 hnil) hne
  next hequals => exact absurd (by rw [hequals]; rfl) hother
  next => rw [String.ofList_toList]

/-! ## Taking options -/

/-- An option is taken unless it was given before, though it must not be repeated, or its value is
empty, though it must not be. -/
theorem take_eq_ok_iff {s : Switch} {value : String} {next : Scan} :
    scan.take s value = .ok next ↔
      (s.isRepeatable = false → scan.has s = false) ∧ (s.refusesEmpty = true → value ≠ "") ∧
        next = { scan with given := scan.given ++ [(s, value)] } := by
  have hok {t : Scan} : (Except.ok t : Except Refusal Scan) = .ok next ↔ next = t :=
    ⟨fun heq => (Except.ok.inj heq).symm, fun heq => by rw [heq]⟩
  unfold take
  cases s.isRepeatable <;> cases scan.has s <;> cases s.refusesEmpty <;>
    by_cases hempty : value = "" <;> simp [hempty, hok]

/-- What is settled is complete. -/
theorem settle_eq_ok (h : scan.settle = .ok settled) :
    settled.pending = none ∧ settled.onlyOperands = scan.onlyOperands := by
  unfold settle at h
  dsimp only at h
  split at h
  next =>
    obtain rfl := Except.ok.inj h
    exact ⟨rfl, rfl⟩
  next => cases h
  next =>
    obtain ⟨-, -, rfl⟩ := take_eq_ok_iff.1 h
    exact ⟨rfl, rfl⟩
  next =>
    split at h
    next => cases h
    next =>
      obtain rfl := Except.ok.inj h
      exact ⟨rfl, rfl⟩

/-- What is complete need not be settled. -/
theorem settle_of_pending (h : scan.pending = none) : scan.settle = .ok scan := by
  unfold settle
  rw [h]
  dsimp only
  rw [← h]

/-- A switch with its value attached is taken once what was not complete is settled. -/
theorem switch_attached {s : Switch} (hvalue : s.takesValue = true) (value : String) :
    scan.switch s (some value) = (scan.settle >>= fun t => t.take s value) := by
  rw [switch, if_pos hvalue]

/-- A switch and the value behind it are not complete until the next word is looked at. -/
theorem foldlM_apart (h : scan.onlyOperands = false) {s : Switch} (hvalue : s.takesValue = true)
    {word value : String} (hword : scan.step verb word = scan.switch s none)
    (hplain : IsPlain value) :
    [word, value].foldlM (step verb) scan =
      scan.settle.map fun t => { t with pending := some (.valued s value) } := by
  rw [List.foldlM_cons, hword, switch, if_pos hvalue]
  cases hsettle : scan.settle with
  | error refusal => rfl
  | ok t =>
    have honly : ({ t with pending := some (.awaiting s) } : Scan).onlyOperands = false :=
      (settle_eq_ok hsettle).2.trans h
    have hlast : step verb { t with pending := some (.awaiting s) } value =
        .ok { t with pending := some (.valued s value) } :=
      (step_of_isPlain honly hplain).trans rfl
    change [value].foldlM (step verb) { t with pending := some (.awaiting s) } = _
    rw [List.foldlM_cons, hlast]
    rfl

/-- The words of an option come to its being taken, or to its value being the last word that was
looked at. -/
theorem foldlM_words (o : Occurrence verb) (h : scan.onlyOperands = false) :
    o.words.foldlM (step verb) scan = (scan.settle >>= fun t => t.take o.switch o.value) ∨
      o.words.foldlM (step verb) scan =
        scan.settle.map fun t => { t with pending := some (.valued o.switch o.value) } := by
  obtain ⟨s, value, words, hmem, hvalue, hwritten⟩ := o
  have hlong : '-' :: '-' :: s.long.toList = ("--" ++ s.long).toList := by simp
  cases hwritten with
  | longAttached value =>
    have hword : ("--" ++ s.long ++ "=" ++ value).toList =
        '-' :: '-' :: (s.long.toList ++ '=' :: value.toList) := by simp
    have hstep : scan.step verb _ = _ := step_of_long h hword (by simp)
    rw [longForm_attached hmem, switch_attached hvalue] at hstep
    exact .inl (by rw [List.foldlM_cons, hstep]; exact bind_pure _)
  | longApart hplain =>
    have hstep : scan.step verb _ = _ := step_of_long h hlong.symm s.long_ne_nil
    rw [longForm_apart hmem] at hstep
    exact .inr (foldlM_apart h hvalue hstep hplain)
  | @shortAttached c hc value hne hother =>
    have hword : ("-" ++ String.singleton c ++ value).toList = '-' :: c :: value.toList := by simp
    have hstep : scan.step verb _ = _ := step_of_short h hword (Switch.ne_hyphen_of_short hc)
    rw [shortForm_attached hc hvalue hmem hne hother, switch_attached hvalue] at hstep
    exact .inl (by rw [List.foldlM_cons, hstep]; exact bind_pure _)
  | @shortEquals c hc value =>
    have hword : ("-" ++ String.singleton c ++ "=" ++ value).toList =
        '-' :: c :: '=' :: value.toList := by simp
    have hstep : scan.step verb _ = _ := step_of_short h hword (Switch.ne_hyphen_of_short hc)
    rw [shortForm_equals hc hvalue hmem, switch_attached hvalue] at hstep
    exact .inl (by rw [List.foldlM_cons, hstep]; exact bind_pure _)
  | @shortApart c hc value hplain =>
    have hword : ("-" ++ String.singleton c).toList = ['-', c] := by simp
    have hstep : scan.step verb _ = _ := step_of_short h hword (Switch.ne_hyphen_of_short hc)
    rw [shortForm_apart hc hvalue hmem] at hstep
    exact .inr (foldlM_apart h hvalue hstep hplain)

/-- **What the words of one option come to** once they are settled: the option is taken. -/
theorem run_words (o : Occurrence verb) (h : scan.onlyOperands = false) :
    (∀ next, o.words.foldlM (step verb) scan = .ok next → next.onlyOperands = false) ∧
      (o.words.foldlM (step verb) scan >>= settle) =
        (scan.settle >>= fun t => t.take o.switch o.value) := by
  rcases foldlM_words o h with hwords | hwords
  · rw [hwords]
    cases hsettle : scan.settle with
    | error refusal => exact ⟨nofun, rfl⟩
    | ok t =>
      obtain ⟨hpending, honly⟩ := settle_eq_ok hsettle
      change (∀ next, t.take o.switch o.value = .ok next → _) ∧
        (t.take o.switch o.value >>= settle) = t.take o.switch o.value
      cases htake : t.take o.switch o.value with
      | error refusal => exact ⟨nofun, rfl⟩
      | ok next =>
        obtain ⟨-, -, rfl⟩ := take_eq_ok_iff.1 htake
        refine ⟨?_, settle_of_pending hpending⟩
        rintro _ ⟨⟩
        exact honly.trans h
  · rw [hwords]
    cases hsettle : scan.settle with
    | error refusal => exact ⟨nofun, rfl⟩
    | ok t =>
      obtain ⟨hpending, honly⟩ := settle_eq_ok hsettle
      refine ⟨?_, ?_⟩
      · rintro _ ⟨⟩
        exact honly.trans h
      · change take { t with pending := none } o.switch o.value = t.take o.switch o.value
        rw [← hpending]

/-- **What the words of several options come to** once they are settled: the options are taken one
after the other. -/
theorem run_occurrences (os : List (Occurrence verb)) (h : scan.onlyOperands = false) :
    (∀ next, (os.flatMap Occurrence.words).foldlM (step verb) scan = .ok next →
        next.onlyOperands = false) ∧
      ((os.flatMap Occurrence.words).foldlM (step verb) scan >>= settle) =
        (scan.settle >>= fun t => os.foldlM (fun t o => t.take o.switch o.value) t) := by
  induction os generalizing scan with
  | nil =>
    refine ⟨?_, (bind_pure _).symm⟩
    rintro _ ⟨⟩
    exact h
  | cons o os ih =>
    obtain ⟨honly, hwords⟩ := run_words o h
    rw [List.flatMap_cons, List.foldlM_append]
    simp only [List.foldlM_cons]
    rw [← bind_assoc scan.settle, ← hwords]
    cases hmid : o.words.foldlM (step verb) scan with
    | error refusal => exact ⟨nofun, rfl⟩
    | ok mid => exact ih (honly mid hmid)

/-! ## Words without further switches -/

/-- An option is taken in the same way when no further switches can be given. -/
theorem take_onlyOperands (scan : Scan) (s : Switch) (value : String) :
    ({ scan with onlyOperands := true } : Scan).take s value =
      (scan.take s value).map fun t => { t with onlyOperands := true } := by
  have hhas : ({ scan with onlyOperands := true } : Scan).has s = scan.has s := rfl
  rw [take, take, hhas]
  cases s.isRepeatable <;> cases scan.has s <;> cases s.refusesEmpty <;> cases value.isEmpty <;> rfl

/-- What is not complete is settled in the same way when no further switches can be given. -/
theorem settle_onlyOperands (scan : Scan) :
    ({ scan with onlyOperands := true } : Scan).settle =
      scan.settle.map fun t => { t with onlyOperands := true } := by
  unfold settle
  dsimp only
  cases scan.pending with
  | none => rfl
  | some pending =>
    cases pending with
    | awaiting s => rfl
    | valued s value => exact take_onlyOperands { scan with pending := none } s value
    | operand value =>
      dsimp only
      cases value.isEmpty <;> rfl

/-- The command of a scan does not depend on whether further switches can be given. -/
theorem command_onlyOperands (scan : Scan) :
    ({ scan with onlyOperands := true } : Scan).command verb = scan.command verb := by
  cases verb <;> rfl

/-- Two hyphens at the end change nothing. -/
theorem run_closing (h : scan.onlyOperands = false) (closed : Bool) :
    ((if closed then ["--"] else []).foldlM (step verb) scan >>= fun t =>
      t.settle >>= command verb) = (scan.settle >>= command verb) := by
  cases closed with
  | false => rfl
  | true =>
    have hstep : step verb scan "--" = .ok { scan with onlyOperands := true } := by
      rw [step, h]
      rfl
    rw [if_pos rfl, List.foldlM_cons, hstep]
    change (({ scan with onlyOperands := true } : Scan).settle >>= command verb) = _
    rw [settle_onlyOperands]
    cases scan.settle with
    | error refusal => rfl
    | ok t => exact command_onlyOperands t

end Scan

/-! ## Main result -/

/-- **The command of options**, if it is one, is that of the options taken one after the other. -/
theorem Command.parse_commandLine {verb : Verb} (os : List (Occurrence verb)) (closed : Bool) :
    parse (commandLine verb os closed) =
      (os.foldlM (fun t o => t.take o.switch o.value) {} >>= Scan.command verb) := by
  obtain ⟨honly, hrun⟩ := Scan.run_occurrences os (show ({} : Scan).onlyOperands = false from rfl)
  have hhelp : verb.word ≠ helpWord := by
    cases verb <;> decide
  rw [commandLine, parse, if_neg hhelp, Verb.ofWord?_word]
  dsimp only
  rw [ofArguments, List.foldlM_append, bind_assoc]
  refine Eq.trans ?_ (congrArg (· >>= Scan.command verb) hrun)
  cases hwords : (os.flatMap Occurrence.words).foldlM (Scan.step verb) {} with
  | error refusal => rfl
  | ok t => exact Scan.run_closing (honly t hwords) closed

end BuildConst
