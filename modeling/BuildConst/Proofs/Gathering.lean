import Mathlib.Data.List.Forall2
import BuildConst.Proofs.Commands

/-!
# Where declarations come from

The files of a command are read one after the other, and each gives a list of declarations.  The
declarations of the command are those of the files in order, followed by the arguments.  If a file
gives none, then the first such file decides the answer, and its message names it.

## Main results

* `Disk.layers_eq_ok_iff`, `Disk.layers_eq_error_iff` — when all files give declarations, and which
  file is at fault otherwise.
* `Disk.gather_of_layers`, `Disk.gather_of_fault` — what is gathered.
* `Declaration.LoadFault.message_of_load` — a fault names its file.
-/

set_option relaxedAutoImplicit false
set_option autoImplicit false

namespace BuildConst

/-! ## Lists of results -/

/-- A list of steps succeeds if each of them does. -/
theorem mapM_eq_ok_iff {α β ε : Type} {f : α → Except ε β} {xs : List α} {ys : List β} :
    xs.mapM f = .ok ys ↔ List.Forall₂ (fun x y => f x = .ok y) xs ys := by
  induction xs generalizing ys with
  | nil =>
    rw [List.mapM_nil, List.forall₂_nil_left_iff]
    exact ⟨fun h => (Except.ok.inj h).symm, fun h => congrArg Except.ok h.symm⟩
  | cons x xs ih =>
    rw [List.mapM_cons, List.forall₂_cons_left_iff]
    constructor
    · intro h
      obtain ⟨y, hy, h⟩ := Except.bind_eq_ok_iff.1 h
      obtain ⟨more, hmore, h⟩ := Except.bind_eq_ok_iff.1 h
      exact ⟨y, more, hy, ih.1 hmore, (Except.ok.inj h).symm⟩
    · rintro ⟨y, more, hy, hmore, rfl⟩
      exact Except.bind_eq_ok_iff.2 ⟨y, hy, Except.bind_eq_ok_iff.2 ⟨more, ih.2 hmore, rfl⟩⟩

/-- A list of steps fails with a step that fails if none before it does. -/
theorem mapM_of_first_error {α β ε : Type} {f : α → Except ε β} {before later : List α} {x : α}
    {e : ε} (hbefore : ∀ earlier ∈ before, ∃ y, f earlier = .ok y) (hx : f x = .error e) :
    (before ++ x :: later).mapM f = .error e := by
  induction before with
  | nil =>
    rw [List.nil_append, List.mapM_cons, hx]
    rfl
  | cons first before ih =>
    obtain ⟨⟨y, hy⟩, hrest⟩ := List.forall_mem_cons.1 hbefore
    rw [List.cons_append, List.mapM_cons, hy, ih hrest]
    rfl

/-- A list of steps that fails has a first step that does. -/
theorem exists_first_error_of_mapM {α β ε : Type} {f : α → Except ε β} {xs : List α} {e : ε}
    (h : xs.mapM f = .error e) : ∃ before x later, xs = before ++ x :: later ∧
      (∀ earlier ∈ before, ∃ y, f earlier = .ok y) ∧ f x = .error e := by
  induction xs with
  | nil => cases h
  | cons x xs ih =>
    rw [List.mapM_cons] at h
    cases hx : f x with
    | error other =>
      rw [hx] at h
      obtain rfl := Except.error.inj h
      exact ⟨[], x, xs, rfl, nofun, hx⟩
    | ok y =>
      rw [hx] at h
      have hxs : xs.mapM f = .error e := by
        cases hmore : xs.mapM f with
        | error other =>
          rw [hmore] at h
          exact congrArg Except.error (Except.error.inj h)
        | ok more =>
          rw [hmore] at h
          cases h
      obtain ⟨before, first, later, rfl, hbefore, hfirst⟩ := ih hxs
      exact ⟨x :: before, first, later, rfl, List.forall_mem_cons.2 ⟨⟨y, hx⟩, hbefore⟩, hfirst⟩

/-- A list of steps fails with the first one that fails. -/
theorem mapM_eq_error_iff {α β ε : Type} {f : α → Except ε β} {xs : List α} {e : ε} :
    xs.mapM f = .error e ↔ ∃ before x later, xs = before ++ x :: later ∧
      (∀ earlier ∈ before, ∃ y, f earlier = .ok y) ∧ f x = .error e := by
  constructor
  · exact exists_first_error_of_mapM
  · rintro ⟨before, x, later, rfl, hbefore, hx⟩
    exact mapM_of_first_error hbefore hx

/-! ## Declaration files -/

namespace Disk

variable {disk : Disk} {paths : List String}

/-- All files give declarations if each of them does. -/
theorem layers_eq_ok_iff {layers : List (List Declaration)} :
    disk.layers paths = .ok layers ↔
      List.Forall₂ (fun path ds => disk.load path = .ok ds) paths layers :=
  mapM_eq_ok_iff

/-- If all files give declarations, then each of them does. -/
theorem exists_load_of_layers {layers : List (List Declaration)}
    (h : disk.layers paths = .ok layers) : ∀ path ∈ paths, ∃ ds, disk.load path = .ok ds := by
  have hboth : List.Forall₂
      (fun path ds => (∃ ds, disk.load path = .ok ds) ∧ disk.load path = .ok ds) paths layers :=
    List.Forall₂.imp (fun _ ds hds => ⟨⟨ds, hds⟩, hds⟩) (layers_eq_ok_iff.1 h)
  exact ((List.forall₂_and_left paths layers).1 hboth).1

/-- The first file that gives no declarations is the one at fault. -/
theorem layers_eq_error_iff {fault : Declaration.LoadFault} :
    disk.layers paths = .error fault ↔ ∃ before path later, paths = before ++ path :: later ∧
      (∀ earlier ∈ before, ∃ ds, disk.load earlier = .ok ds) ∧ disk.load path = .error fault :=
  mapM_eq_error_iff

/-- **What is gathered** are the declarations of the files in order, followed by the arguments. -/
theorem gather_of_layers {sources : Sources} {layers : List (List Declaration)}
    (h : disk.layers sources.files = .ok layers) :
    disk.gather sources =
      .ok (layers.flatten ++ sources.arguments.map Declaration.ofArgument) := by
  have hrun := Declaration.run_loadAll sources.files disk
  rw [h] at hrun
  have hgather : (Command.gather sources : StateM Disk _).run disk =
      (.ok (layers.flatten ++ sources.arguments.map Declaration.ofArgument), disk) :=
    run_bind_eq_iff.2 ⟨_, _, hrun, rfl⟩
  rw [gather, hgather]

/-- **Nothing is gathered** if a file is at fault. -/
theorem gather_of_fault {sources : Sources} {fault : Declaration.LoadFault}
    (h : disk.layers sources.files = .error fault) :
    disk.gather sources = .error ⟨fault.message, some Command.fileHelp⟩ := by
  have hrun := Declaration.run_loadAll sources.files disk
  rw [h] at hrun
  have hgather : (Command.gather sources : StateM Disk _).run disk =
      (.error ⟨fault.message, some Command.fileHelp⟩, disk) :=
    run_bind_eq_iff.2 ⟨_, _, hrun, rfl⟩
  rw [gather, hgather]

end Disk

/-- A file that gives no declarations cannot be read, or its text is no list of declarations.
Either way the message names the file. -/
theorem Declaration.LoadFault.message_of_load {disk : Disk} {path : String} {fault : LoadFault}
    (h : disk.load path = .error fault) :
    (∃ cause, fault.message = "cannot read declaration file '" ++ path ++ "': " ++ cause) ∨
      ∃ cause, fault.message =
        "declaration file '" ++ path ++ "' is not a valid declaration list: " ++ cause := by
  unfold Disk.load ofBytes at h
  split at h
  next cause _ =>
    obtain rfl := Except.error.inj h
    exact .inl ⟨cause.message, rfl⟩
  next =>
    split at h
    next =>
      obtain rfl := Except.error.inj h
      exact .inl ⟨FileFault.notText.message, rfl⟩
    next =>
      split at h
      next error _ =>
        obtain rfl := Except.error.inj h
        exact .inr ⟨error.message, rfl⟩
      next => cases h

end BuildConst
