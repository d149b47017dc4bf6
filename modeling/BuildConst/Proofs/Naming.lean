import BuildConst.Artifact.Source
import BuildConst.Collected
import BuildConst.Proofs.Text.Visible
import BuildConst.Proofs.Validation

/-!
# The names in tables and containers can be written

Every constant that is collected has passed the check of its name, and so has every part of the path
of a container that is accepted.

## Main definitions

* `Identifier.Speakable` — a name that an item of the emitted source may have.

## Main results

* `speakable_of_mem_collect` — the names of collected constants.
* `Source.render_of_speakable` — tables with such names are rendered.
* `Container.speakable_of_parse` — the parts of an accepted path.
-/

set_option relaxedAutoImplicit false
set_option autoImplicit false

namespace BuildConst

/-! ## Names -/

/-- A name that an item of the emitted source may have. -/
def Identifier.Speakable (name : String) : Prop :=
  fault? name = none

instance (name : String) : Decidable (Identifier.Speakable name) :=
  inferInstanceAs (Decidable (Identifier.fault? name = none))

/-- Names have the form of names and are not reserved. -/
theorem Identifier.speakable_iff {name : String} :
    Speakable name ↔ wellFormed name ∧ name ∉ reservedNames := by
  unfold Speakable fault?
  cases wellFormed name <;> simp

/-- The characters of a name are visible. -/
theorem Identifier.isVisible_of_speakable {name : String} (h : Speakable name) :
    Text.IsVisible name := by
  intro c hc
  have hform := (speakable_iff.1 h).1
  obtain ⟨hlow, hhigh⟩ := code_of_isSubsequent (isSubsequent_of_wellFormed hform c hc)
  exact Text.isPrintable_of_ascii (by omega) (by omega)

/-! ## Tables -/

/-- A declaration that denotes a constant gives it a name that can be written. -/
theorem Declaration.speakable_of_validate {d : Declaration} {c : Constant}
    (h : d.validate.constant = some c) : Identifier.Speakable c.name :=
  (constant_validate_eq_some_iff.1 h).2.1

/-- The constants of a table after one was added are the ones it had and possibly the new one. -/
theorem Table.mem_insert {t : Table} {c d : Constant} (h : d ∈ (t.insert c).constants) :
    d ∈ t.constants ∨ d = c := by
  unfold insert at h
  split at h
  · simpa using h
  · exact .inl h

/-- A further declaration adds no constant but the one that it denotes. -/
theorem Collected.mem_add {c : Collected} {d : Declaration} {k : Constant}
    (h : k ∈ (c.add d).table.constants) :
    k ∈ c.table.constants ∨ d.validate.constant = some k := by
  unfold add at h
  dsimp only at h
  split at h
  · exact .inl h
  next new hnew =>
    rcases Table.mem_insert h with hold | rfl
    · exact .inl hold
    · exact .inr hnew

/-- What holds of every constant that a declaration denotes holds of every collected constant. -/
theorem forall_mem_collect {P : Constant → Prop} {ds : List Declaration}
    (h : ∀ d ∈ ds, ∀ c, d.validate.constant = some c → P c) :
    ∀ c ∈ (collect ds).table.constants, P c := by
  refine List.foldlRecOn (motive := fun found => ∀ c ∈ found.table.constants, P c) ds
    Collected.add ?_ ?_
  · exact fun c hc => absurd hc List.not_mem_nil
  · intro found ih d hd c hc
    rcases Collected.mem_add hc with hold | hnew
    · exact ih c hold
    · exact h d hd c hnew

/-- **Names of constants**: every collected constant has a name that can be written. -/
theorem speakable_of_mem_collect {ds : List Declaration} :
    ∀ c ∈ (collect ds).table.constants, Identifier.Speakable c.name :=
  forall_mem_collect fun _ _ _ h => Declaration.speakable_of_validate h

/-- A table whose names can be written is rendered as source text. -/
theorem Source.render_of_speakable {t : Table} (h : ∀ k ∈ t.constants, Identifier.Speakable k.name)
    (c : Container) : render t c = .ok (text t c) := by
  have hnone : t.constants.any unspeakable = false := by
    refine List.any_eq_false.2 fun k hk => ?_
    have hreserved := (Identifier.speakable_iff.1 (h k hk)).2
    simp [unspeakable, hreserved]
  rw [render, hnone]
  rfl

/-! ## Containers -/

/-- A part of a path without a fault can be written. -/
theorem Container.speakable_of_partFault? {part : Part} {text : String}
    (h : partFault? part text = none) : Identifier.Speakable text := by
  simpa [partFault?, Identifier.Speakable] using h

/-- **Names of containers**: the parts of an accepted path are those of the texts that it was
accepted for, and each of them can be written. -/
theorem Container.speakable_of_parse {namespaceText name : String} {c : Container}
    (h : parse namespaceText name = .ok c) :
    c = ⟨segmentsOf namespaceText, name⟩ ∧ (∀ s ∈ c.segments, Identifier.Speakable s) ∧
      Identifier.Speakable c.name := by
  unfold parse at h
  generalize segmentsOf namespaceText = segments at h ⊢
  dsimp only at h
  split at h
  · cases h
  next hsegments =>
    split at h
    · cases h
    next hname =>
      obtain rfl := Except.ok.inj h
      refine ⟨rfl, fun s hs => ?_, speakable_of_partFault? hname⟩
      exact speakable_of_partFault? (List.findSome?_eq_none_iff.1 hsegments s hs)

end BuildConst
