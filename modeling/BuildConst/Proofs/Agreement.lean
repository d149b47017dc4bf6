import BuildConst.Proofs.Image.Capacity
import BuildConst.Proofs.Image.Decoding
import BuildConst.Proofs.Source.Layout
import BuildConst.Proofs.Table.History

/-!
# Both forms of an artifact say the same

Source text is read by the grammar of its language, and an image by the layout of images.  Whatever
was declared, both readings find the same names, kinds and values in the same order, under the same
path.  So neither form holds anything that the other one lacks.

## Main results

* `artifacts_agree` — source text and images hold the same constants.
-/

set_option relaxedAutoImplicit false
set_option autoImplicit false

namespace BuildConst

/-- A constant is known from what source text should declare of it. -/
theorem Constant.entry_injective : Function.Injective entry := by
  intro c c' h
  obtain ⟨hname, -, hvalue⟩ := Listing.Entry.mk.inj h
  cases c
  cases c'
  exact congrArg₂ Constant.mk hname hvalue

/-- Constants and their container are known from what source text should declare of them. -/
theorem Listing.of_inj {c c' : Container} {constants constants' : List Constant} :
    of c constants = of c' constants' ↔ c = c' ∧ constants = constants' := by
  constructor
  · intro h
    obtain ⟨hsegments, hname, hentries⟩ := Listing.mk.inj h
    refine ⟨?_, List.map_injective_iff.2 Constant.entry_injective hentries⟩
    cases c
    cases c'
    exact congrArg₂ Container.mk hsegments hname
  · rintro ⟨rfl, rfl⟩
    rfl

/-- Source text is read as the container and the constants that it was rendered from. -/
theorem Source.exists_render_collect (ds : List Declaration) {namespaceText name : String}
    {c : Container} (h : Container.parse namespaceText name = .ok c) :
    ∃ text, render (collect ds).table c = .ok text ∧
      Listing.read? text = some (Listing.of c (collect ds).table.constants) := by
  obtain ⟨-, hsegments, hname⟩ := Container.speakable_of_parse h
  exact ⟨_, render_of_speakable speakable_of_mem_collect c,
    read?_text speakable_of_mem_collect hsegments hname⟩

/-- Images are read as the container and the constants that they were rendered from. -/
theorem Image.exists_render_collect {ds : List Declaration}
    {namespaceText name moduleName : String} (hfits : InputsFit ds namespaceText name moduleName)
    {c : Container} (h : Container.parse namespaceText name = .ok c) :
    ∃ bytes, Artifact.render .image (collect ds).table c moduleName = .ok bytes ∧
      decode bytes = .ok (ofTable (collect ds).table c moduleName) :=
  ⟨_, rfl, decode_eq_ok_iff.2 ⟨isCurrent_ofTable _ _ _, fits_collect hfits h, List.prefix_refl _⟩⟩

/-! ## Main result -/

/-- **Both forms of an artifact say the same**: source text and an image of what was collected are
both rendered; the one is read as the container and the names, kinds and values of the constants in
table order, and the other one holds a single type with that container and those constants.  So two
tables in their containers have the same source text exactly if they have the same image.

**Proof sketch.** Every name that has to be written can be, so source text is read as what it was
rendered from; and so is an image, as nothing in it is too long.  Texts or images that are equal are
read alike, so they were rendered from the same table and container. -/
theorem artifacts_agree {ds ds' : List Declaration}
    {namespaceText namespaceText' name name' moduleName : String}
    (hfits : Image.InputsFit ds namespaceText name moduleName)
    (hfits' : Image.InputsFit ds' namespaceText' name' moduleName) {c c' : Container}
    (h : Container.parse namespaceText name = .ok c)
    (h' : Container.parse namespaceText' name' = .ok c') :
    (∃ text bytes image type,
      Source.render (collect ds).table c = .ok text ∧
      Artifact.render .image (collect ds).table c moduleName = .ok bytes ∧
      Listing.read? text = some (Listing.of c (collect ds).table.constants) ∧
      Image.decode bytes = .ok image ∧ image.types = [type] ∧
      Listing.of type.container type.accessors = Listing.of c (collect ds).table.constants ∧
      type.container = c ∧ type.accessors = (collect ds).table.constants) ∧
    (Source.render (collect ds).table c = Source.render (collect ds').table c' ↔
      Artifact.render .image (collect ds).table c moduleName =
        Artifact.render .image (collect ds').table c' moduleName) := by
  obtain ⟨text, htext, hread⟩ := Source.exists_render_collect ds h
  obtain ⟨text', htext', hread'⟩ := Source.exists_render_collect ds' h'
  obtain ⟨bytes, hbytes, hdecode⟩ := Image.exists_render_collect hfits h
  obtain ⟨bytes', hbytes', hdecode'⟩ := Image.exists_render_collect hfits' h'
  refine ⟨⟨text, bytes, _, ⟨c, (collect ds).table.constants⟩, htext, hbytes, hread, hdecode, rfl,
    rfl, rfl, rfl⟩, ?_⟩
  constructor
  · intro hsource
    rw [htext, htext', Except.ok.injEq] at hsource
    rw [hsource, hread', Option.some.injEq, Listing.of_inj] at hread
    obtain ⟨hc, hconstants⟩ := hread
    rw [Table.eq_of_constants hconstants, hc]
  · intro himage
    rw [hbytes, hbytes', Except.ok.injEq] at himage
    rw [himage, hdecode', Except.ok.injEq] at hdecode
    obtain ⟨-, -, htypes⟩ := Image.mk.inj hdecode
    obtain ⟨hc, hconstants⟩ := Image.TypeDef.mk.inj (List.singleton_inj.1 htypes)
    rw [Table.eq_of_constants hconstants, hc]

/-- An integer, a text with quotes and a list are read back from both forms, and a later declaration
of a name shows in neither. -/
theorem artifacts_agree_of_three_kinds :
    ∃ text bytes image,
      Source.render (collect [⟨"LOW=-2147483648", some "int"⟩, ⟨"type=say \"hé\"", none⟩,
        ⟨"DIRS=a;;b", some "array"⟩, ⟨"LOW=1", none⟩]).table ⟨["Build", "mod"], "C"⟩ = .ok text ∧
      Artifact.render .image (collect [⟨"LOW=-2147483648", some "int"⟩,
        ⟨"type=say \"hé\"", none⟩, ⟨"DIRS=a;;b", some "array"⟩, ⟨"LOW=1", none⟩]).table
          ⟨["Build", "mod"], "C"⟩ "out" = .ok bytes ∧
      Listing.read? text = some ⟨["Build", "mod"], "C",
        [⟨"LOW", .int, .int (-2147483648)⟩, ⟨"type", .string, .string "say \"hé\""⟩,
          ⟨"DIRS", .stringArray, .stringArray ["a", "b"]⟩]⟩ ∧
      Image.decode bytes = .ok image ∧
      image.types = [⟨⟨["Build", "mod"], "C"⟩, [⟨"LOW", .int (-2147483648)⟩,
        ⟨"type", .string "say \"hé\""⟩, ⟨"DIRS", .stringArray ["a", "b"]⟩]⟩] := by
  have hfits : Image.InputsFit [⟨"LOW=-2147483648", some "int"⟩, ⟨"type=say \"hé\"", none⟩,
      ⟨"DIRS=a;;b", some "array"⟩, ⟨"LOW=1", none⟩] "Build::mod" "C" "out" :=
    ⟨by decide, by decide, by decide, by decide⟩
  have hcontainer : Container.parse "Build::mod" "C" = .ok ⟨["Build", "mod"], "C"⟩ := by decide
  have hconstants : (collect [⟨"LOW=-2147483648", some "int"⟩, ⟨"type=say \"hé\"", none⟩,
      ⟨"DIRS=a;;b", some "array"⟩, ⟨"LOW=1", none⟩]).table.constants =
      [⟨"LOW", .int (-2147483648)⟩, ⟨"type", .string "say \"hé\""⟩,
        ⟨"DIRS", .stringArray ["a", "b"]⟩] := by
    decide
  obtain ⟨⟨text, bytes, image, ⟨container, accessors⟩, htext, hbytes, hread, himage, htypes, -,
    rfl, rfl⟩, -⟩ := artifacts_agree hfits hfits hcontainer hcontainer
  rw [hconstants] at hread htypes
  exact ⟨text, bytes, image, htext, hbytes, hread, himage, htypes⟩

end BuildConst
