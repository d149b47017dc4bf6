import Mathlib.Data.List.Basic
import Mathlib.Tactic.SplitIfs
import BuildConst.Files.Disk
import BuildConst.Proofs.Success

/-!
# What file operations leave alone

Making directories adds directories and changes nothing else, whether it succeeds or fails halfway.
Writing a file changes one place of the disk, and the path of the file leads there afterwards.

## Main definitions

* `Disk.Grows` — a disk gained at most directories.
* `Disk.Stores` — a disk gained a file, and otherwise at most directories.
* `Disk.aimOfWrite` — where a file can be written.

## Main results

* `Disk.run_makeDirectories` — making directories adds directories at most.
* `Disk.write_eq_map` — the bytes of a file have no say in whether and where it is written.
* `Disk.stores_of_write`, `Disk.read_of_write` — what writing a file does.
-/

set_option relaxedAutoImplicit false
set_option autoImplicit false

namespace BuildConst.Disk

/-- At a place there is the same on both disks, or else a directory that is new. -/
def SameOrMade (before after : Disk) (place : Location) : Prop :=
  after.entry? place = before.entry? place ∨
    before.entry? place = none ∧ after.entry? place = some .directory

/-- The later disk holds everything that the earlier one does, and beyond that only directories. -/
def Grows (before after : Disk) : Prop :=
  after.here = before.here ∧ ∀ place, SameOrMade before after place

/-- The later disk holds a file at a place where there was no directory.  Everywhere else it holds
what the earlier one does, and beyond that only directories. -/
structure Stores (before after : Disk) (place : Location) (bytes : List UInt8) : Prop where
  here : after.here = before.here
  file : after.entry? place = some (.file bytes)
  vacant : before.entry? place ≠ some .directory
  elsewhere : ∀ other, other ≠ place → SameOrMade before after other

/-! ## Entries -/

/-- An entry that was put at a place is found there. -/
theorem lookup_putEntry (place other : Location) (entry : Entry)
    (entries : List (Location × Entry)) :
    (putEntry place entry entries).lookup other =
      if other = place then some entry else entries.lookup other := by
  induction entries with
  | nil =>
    rw [putEntry, List.lookup_cons]
    by_cases h : other = place
    · simp [h]
    · simp [h, beq_eq_false_iff_ne.2 h]
  | cons first rest ih =>
    obtain ⟨key, old⟩ := first
    rw [putEntry]
    by_cases hkey : key = place
    · subst hkey
      rw [if_pos rfl, List.lookup_cons, List.lookup_cons]
      by_cases h : other = key
      · simp [h]
      · simp [h, beq_eq_false_iff_ne.2 h]
    · rw [if_neg hkey, List.lookup_cons, List.lookup_cons, ih]
      by_cases h : other = key
      · subst h
        simp [hkey]
      · simp [beq_eq_false_iff_ne.2 h]

/-- Only the place where an entry is put changes. -/
theorem entry_put {place : Location} (h : place ≠ []) (disk : Disk) (entry : Entry)
    (other : Location) :
    entry? (disk.put place entry) other =
      if other = place then some entry else disk.entry? other := by
  unfold entry? put
  by_cases hroot : other = []
  · subst hroot
    rw [if_pos rfl, if_neg h.symm, if_pos rfl]
  · rw [if_neg hroot, if_neg hroot, lookup_putEntry]

/-- The working directory stays where it is. -/
theorem here_put (disk : Disk) (place : Location) (entry : Entry) :
    (disk.put place entry).here = disk.here := rfl

/-- The place that a path leads to is not the root. -/
theorem Aim.place_ne_nil (aim : Aim) : aim.place ≠ [] :=
  List.cons_ne_nil _ _

/-! ## Growing disks -/

/-- A disk that stays the same grows by nothing. -/
theorem Grows.refl (disk : Disk) : Grows disk disk :=
  ⟨rfl, fun _ => Or.inl rfl⟩

/-- A disk that grows twice grows. -/
theorem Grows.trans {before between after : Disk} (h : Grows before between)
    (h' : Grows between after) : Grows before after := by
  refine ⟨h'.1.trans h.1, fun place => ?_⟩
  rcases h.2 place with heq | ⟨hnone, hmade⟩
  · rcases h'.2 place with heq' | ⟨hnone', hmade'⟩
    · exact Or.inl (heq'.trans heq)
    · exact Or.inr ⟨heq ▸ hnone', hmade'⟩
  · rcases h'.2 place with heq' | ⟨hnone', -⟩
    · exact Or.inr ⟨hnone, heq'.trans hmade⟩
    · rw [hmade] at hnone'
      cases hnone'

/-- Directories stay. -/
theorem Grows.directory {before after : Disk} (h : Grows before after) {place : Location}
    (hdir : before.entry? place = some .directory) : after.entry? place = some .directory := by
  rcases h.2 place with heq | ⟨-, hmade⟩
  · rw [heq, hdir]
  · exact hmade

/-- A directory that is put where there is nothing lets a disk grow. -/
theorem grows_put {disk : Disk} {place : Location} (h : place ≠ [])
    (hnone : disk.entry? place = none) : Grows disk (disk.put place .directory) := by
  refine ⟨rfl, fun other => ?_⟩
  by_cases hother : other = place
  · subst hother
    exact Or.inr ⟨hnone, by rw [entry_put h, if_pos rfl]⟩
  · exact Or.inl (by rw [entry_put h, if_neg hother])

/-! ## Operations on disks -/

/-- A directory is made where there is nothing. -/
theorem grows_of_makeDirectory {disk after : Disk} {path : String}
    (h : disk.makeDirectory path = .ok after) : Grows disk after := by
  unfold makeDirectory at h
  obtain ⟨aim, -, h⟩ := Except.bind_eq_ok_iff.1 h
  split at h
  · cases h
  · obtain ⟨-, -, h⟩ := Except.bind_eq_ok_iff.1 h
    split at h
    · cases h
    next hnone =>
      obtain rfl := Except.ok.inj h
      exact grows_put aim.place_ne_nil hnone

/-- A part of a path that leads into a directory still does if directories stay. -/
theorem enter_of_directories {disk after : Disk}
    (hdirs : ∀ place, disk.entry? place = some .directory → after.entry? place = some .directory)
    {place next : Location} {part : String} (h : disk.enter place part = .ok next) :
    after.enter place part = .ok next := by
  unfold enter at h ⊢
  split_ifs at h ⊢
  · exact h
  · exact h
  · split at h
    · cases h
    · cases h
    next hdir =>
      rw [hdirs _ hdir]
      exact h

/-- Parts of a path that lead into a directory still do if directories stay. -/
theorem foldlM_enter_of_directories {disk after : Disk}
    (hdirs : ∀ place, disk.entry? place = some .directory → after.entry? place = some .directory)
    {parts : List String} {start next : Location} (h : parts.foldlM disk.enter start = .ok next) :
    parts.foldlM after.enter start = .ok next := by
  induction parts generalizing start with
  | nil => exact h
  | cons part parts ih =>
    rw [List.foldlM_cons] at h ⊢
    obtain ⟨between, hfirst, hrest⟩ := Except.bind_eq_ok_iff.1 h
    exact Except.bind_eq_ok_iff.2 ⟨between, enter_of_directories hdirs hfirst, ih hrest⟩

/-- Where a path leads does not change as long as directories stay. -/
theorem locate_of_directories {disk after : Disk} (hhere : after.here = disk.here)
    (hdirs : ∀ place, disk.entry? place = some .directory → after.entry? place = some .directory)
    {path : String} {aim : Aim} (h : disk.locate path = .ok aim) :
    after.locate path = .ok aim := by
  unfold locate at h ⊢
  rw [hhere]
  dsimp only at h ⊢
  split_ifs at h ⊢
  all_goals
    split at h
    · exact h
    · obtain ⟨directory, hdirectory, h⟩ := Except.bind_eq_ok_iff.1 h
      exact Except.bind_eq_ok_iff.2
        ⟨directory, foldlM_enter_of_directories hdirs hdirectory, h⟩

/-- Where a path leads if a file can be written there. -/
def aimOfWrite (disk : Disk) (path : String) : Except FileFault Aim := do
  let aim ← disk.locate path
  if aim.isDots || aim.slash then .error .isDirectory
  else
    aim.checkName
    match disk.entry? aim.place with
    | some .directory => .error .isDirectory
    | _ => .ok aim

/-- A path leads to a file that can be written if it names one, and there is no directory of that
name. -/
theorem aimOfWrite_eq_ok_iff {disk : Disk} {path : String} {aim : Aim} :
    disk.aimOfWrite path = .ok aim ↔
      disk.locate path = .ok aim ∧ aim.isDots = false ∧ aim.slash = false ∧
        aim.checkName = .ok () ∧ disk.entry? aim.place ≠ some .directory := by
  constructor
  · intro h
    obtain ⟨found, hfound, h⟩ := Except.bind_eq_ok_iff.1 h
    split_ifs at h with hdots
    simp only [Bool.or_eq_true, not_or, Bool.not_eq_true] at hdots
    obtain ⟨⟨⟩, hname, h⟩ := Except.bind_eq_ok_iff.1 h
    split at h
    · cases h
    next hvacant =>
      obtain rfl := Except.ok.inj h
      exact ⟨hfound, hdots.1, hdots.2, hname, hvacant⟩
  · rintro ⟨haim, hdots, hslash, hname, hvacant⟩
    refine Except.bind_eq_ok_iff.2 ⟨aim, haim, ?_⟩
    rw [hdots, hslash, Bool.or_false, if_neg Bool.false_ne_true]
    refine Except.bind_eq_ok_iff.2 ⟨(), hname, ?_⟩
    split
    next hdir => exact absurd hdir hvacant
    next => rfl

/-- Writing puts the bytes where the path leads to.  Whether that can be done, and where it is, does
not depend on the bytes. -/
theorem write_eq_map (disk : Disk) (path : String) (bytes : List UInt8) :
    disk.write path bytes =
      (disk.aimOfWrite path).map fun aim => disk.put aim.place (.file bytes) := by
  unfold write aimOfWrite
  cases disk.locate path with
  | error fault => rfl
  | ok aim =>
    simp only [bind, Except.bind]
    split
    · rfl
    · cases aim.checkName with
      | error fault => rfl
      | ok _ =>
        cases disk.entry? aim.place with
        | none => rfl
        | some entry => cases entry <;> rfl

/-- Directories stay where they are when a file is put where there is none. -/
theorem directory_put_file {disk : Disk} {place : Location} (hroot : place ≠ [])
    (hvacant : disk.entry? place ≠ some .directory) (bytes : List UInt8) {other : Location}
    (hdir : disk.entry? other = some .directory) :
    entry? (disk.put place (.file bytes)) other = some .directory := by
  rw [entry_put hroot, if_neg]
  · exact hdir
  · rintro rfl
    exact hvacant hdir

/-- A path leads to the same place once a file was written there. -/
theorem locate_put_of_aimOfWrite {disk : Disk} {path : String} {aim : Aim}
    (h : disk.aimOfWrite path = .ok aim) (bytes : List UInt8) :
    (disk.put aim.place (.file bytes)).locate path = .ok aim := by
  obtain ⟨haim, -, -, -, hvacant⟩ := aimOfWrite_eq_ok_iff.1 h
  exact locate_of_directories (here_put _ _ _)
    (fun _ => directory_put_file aim.place_ne_nil hvacant bytes) haim

/-- A file that was written holds its bytes. -/
theorem read_of_write {disk after : Disk} {path : String} {bytes : List UInt8}
    (h : disk.write path bytes = .ok after) : after.read path = .ok bytes := by
  rw [write_eq_map] at h
  obtain ⟨aim, haim, rfl⟩ := Except.map_eq_ok_iff.1 h
  obtain ⟨-, hdots, hslash, hname, -⟩ := aimOfWrite_eq_ok_iff.1 haim
  refine Except.bind_eq_ok_iff.2 ⟨aim, locate_put_of_aimOfWrite haim bytes, ?_⟩
  rw [hdots, if_neg Bool.false_ne_true]
  refine Except.bind_eq_ok_iff.2 ⟨(), hname, ?_⟩
  rw [entry_put aim.place_ne_nil, if_pos rfl, hslash]
  rfl

/-- A file that is written once directories were made is stored where its path leads to. -/
theorem stores_of_write {before disk after : Disk} {path : String} {bytes : List UInt8}
    (hgrows : Grows before disk) (h : disk.write path bytes = .ok after) :
    ∃ aim, after.locate path = .ok aim ∧ Stores before after aim.place bytes := by
  rw [write_eq_map] at h
  obtain ⟨aim, haim, rfl⟩ := Except.map_eq_ok_iff.1 h
  obtain ⟨-, -, -, -, hvacant⟩ := aimOfWrite_eq_ok_iff.1 haim
  refine ⟨aim, locate_put_of_aimOfWrite haim bytes, hgrows.1, ?_, ?_, ?_⟩
  · rw [entry_put aim.place_ne_nil, if_pos rfl]
  · exact fun hdir => hvacant (hgrows.directory hdir)
  · intro other hother
    unfold SameOrMade
    rw [entry_put aim.place_ne_nil, if_neg hother]
    exact hgrows.2 other

/-! ## Runs of operations -/

/-- A run of two steps is a run of the first and then one of the second. -/
theorem run_bind_eq_iff {α β : Type} {x : StateM Disk α} {f : α → StateM Disk β}
    {disk after : Disk} {b : β} :
    (x >>= f).run disk = (b, after) ↔
      ∃ a between, x.run disk = (a, between) ∧ (f a).run between = (b, after) := by
  constructor
  · exact fun h => ⟨_, _, rfl, h⟩
  · rintro ⟨a, between, hx, hf⟩
    rw [StateT.run_bind, hx]
    exact hf

/-- A change that is attempted takes place or leaves the disk alone. -/
theorem run_attempt_eq {change : Disk → Except FileFault Disk} {disk after : Disk}
    {result : Except FileFault Unit} (h : (attempt change).run disk = (result, after)) :
    (result = .ok () ∧ change disk = .ok after) ∨
      (∃ fault, result = .error fault) ∧ after = disk := by
  cases hchange : change disk with
  | ok changed =>
    simp only [attempt, StateT.run, hchange] at h
    obtain ⟨rfl, rfl⟩ := Prod.mk.inj h
    exact Or.inl ⟨rfl, rfl⟩
  | error fault =>
    simp only [attempt, StateT.run, hchange] at h
    obtain ⟨rfl, rfl⟩ := Prod.mk.inj h
    exact Or.inr ⟨⟨fault, rfl⟩, rfl⟩

/-- Making a directory adds a directory at most. -/
theorem run_makeDirectory {disk after : Disk} {path : String} {result : Except FileFault Unit}
    (h : (Files.makeDirectory path : StateM Disk _).run disk = (result, after)) :
    Grows disk after := by
  rcases run_attempt_eq h with ⟨-, hmade⟩ | ⟨-, rfl⟩
  · exact grows_of_makeDirectory hmade
  · exact .refl _

/-- An answer that depends on whether a path leads to a directory leaves a disk alone. -/
theorem run_ite_isDirectory {α : Type} {disk after : Disk} {path : String} {yes no result : α}
    (h : (do if ← Files.isDirectory path then pure yes else pure no : StateM Disk α).run disk =
      (result, after)) : after = disk := by
  obtain ⟨found, between, hfound, h⟩ := run_bind_eq_iff.1 h
  obtain ⟨-, rfl⟩ := Prod.mk.inj hfound
  cases found with
  | true => exact (Prod.mk.inj h).2.symm
  | false => exact (Prod.mk.inj h).2.symm

/-- Making a directory unless it is there adds a directory at most. -/
theorem run_ensureDirectory {disk after : Disk} {path : String} {result : Except FileFault Unit}
    (h : (Files.ensureDirectory path : StateM Disk _).run disk = (result, after)) :
    Grows disk after := by
  obtain ⟨made, between, hmade, h⟩ := run_bind_eq_iff.1 h
  have hgrows := run_makeDirectory hmade
  cases made with
  | ok _ =>
    obtain ⟨-, rfl⟩ := Prod.mk.inj h
    exact hgrows
  | error fault =>
    obtain rfl := run_ite_isDirectory h
    exact hgrows

/-- **Making a directory and those above it adds directories at most**, however far it gets.

**Proof sketch.** Induction on the directories, the innermost first.  Each attempt at one of them
adds a directory at most, and so do the attempts at those above it. -/
theorem run_makeDirectories {paths : List String} {disk after : Disk}
    {result : Except FileFault Unit}
    (h : (Files.makeDirectories paths : StateM Disk _).run disk = (result, after)) :
    Grows disk after := by
  induction paths generalizing disk after result with
  | nil =>
    obtain ⟨-, rfl⟩ := Prod.mk.inj h
    exact .refl _
  | cons path above ih =>
    obtain ⟨made, between, hmade, h⟩ := run_bind_eq_iff.1 h
    have hgrows := run_makeDirectory hmade
    split at h
    · obtain ⟨-, rfl⟩ := Prod.mk.inj h
      exact hgrows
    · obtain ⟨others, further, hothers, h⟩ := run_bind_eq_iff.1 h
      have hgrows' := hgrows.trans (ih hothers)
      cases others with
      | ok _ => exact hgrows'.trans (run_ensureDirectory h)
      | error fault =>
        obtain ⟨-, rfl⟩ := Prod.mk.inj h
        exact hgrows'
    · obtain rfl := run_ite_isDirectory h
      exact hgrows

end BuildConst.Disk
