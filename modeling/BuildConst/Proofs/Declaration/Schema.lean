import BuildConst.Declaration.File
import BuildConst.Proofs.Json.Grammar

/-!
# Declaration files are decoded exactly by their schema

A declaration file is a list of entries.  An entry is a string, or an object with one member
`define` that is a string, at most one member `type` that is a string or null, and any other
members.  A text of a document is accepted exactly if the document is such a list, and what comes
out are the declarations of its entries in their order, with the texts that the strings stand for.

## Main definitions

* `Json.Lacks`, `Json.HasOne` — how often a key occurs in an object.
* `Declaration.Entry` — the entries of declaration files, and what they declare.

## Main results

* `Declaration.ofJson?_eq_some_iff` — the declaration of an entry.
* `Declaration.toOption_parseList` — what is read from any text of a document.
* `Declaration.parseList_decides_schema` — the schema decides.
-/

set_option relaxedAutoImplicit false
set_option autoImplicit false

namespace BuildConst

/-! ## Keys -/

namespace Json

/-- No member has a key. -/
def Lacks (key : String) (members : List (String × Json)) : Prop :=
  ∀ member ∈ members, member.1 ≠ key

/-- Exactly one member has a key, and its value is as given. -/
def HasOne (key : String) (value : Json) (members : List (String × Json)) : Prop :=
  ∃ before after, members = before ++ (key, value) :: after ∧ Lacks key before ∧ Lacks key after

variable {key : String} {members : List (String × Json)}

/-- A key without values does not occur. -/
theorem valuesOf_eq_nil_iff : valuesOf key members = [] ↔ Lacks key members := by
  simp [valuesOf, Lacks]

/-- A key with a single value occurs once. -/
theorem valuesOf_eq_singleton_iff {value : Json} :
    valuesOf key members = [value] ↔ HasOne key value members := by
  simp only [valuesOf, List.map_eq_singleton_iff, List.filter_eq_cons_iff, List.filter_eq_nil_iff,
    beq_iff_eq]
  constructor
  · rintro ⟨⟨_, _⟩, ⟨before, after, rfl, hbefore, rfl, hafter⟩, rfl⟩
    exact ⟨before, after, rfl, hbefore, hafter⟩
  · rintro ⟨before, after, rfl, hbefore, hafter⟩
    exact ⟨(key, value), ⟨before, after, rfl, hbefore, rfl, hafter⟩, rfl⟩

end Json

namespace Declaration

open Json

/-! ## Entries -/

/-- The entries of declaration files, and the declarations that they stand for. -/
inductive Entry : Json → Declaration → Prop
  | bare (text : String) : Entry (.string text) ⟨text, none⟩
  | plain {members : List (String × Json)} {text : String}
      (hdefine : HasOne "define" (.string text) members) (htype : Lacks "type" members) :
      Entry (.object members) ⟨text, none⟩
  | untyped {members : List (String × Json)} {text : String}
      (hdefine : HasOne "define" (.string text) members) (htype : HasOne "type" .null members) :
      Entry (.object members) ⟨text, none⟩
  | typed {members : List (String × Json)} {text hint : String}
      (hdefine : HasOne "define" (.string text) members)
      (htype : HasOne "type" (.string hint) members) : Entry (.object members) ⟨text, some hint⟩

/-- **Entries**: a document is taken as a declaration exactly if it is an entry that stands for
it. -/
theorem ofJson?_eq_some_iff {v : Json} {d : Declaration} : ofJson? v = some d ↔ Entry v d := by
  constructor
  · intro h
    unfold ofJson? at h
    split at h
    next text =>
      obtain rfl := Option.some.inj h
      exact .bare text
    next members =>
      split at h
      next text hdefine htype =>
        obtain rfl := Option.some.inj h
        exact .plain (valuesOf_eq_singleton_iff.1 hdefine) (valuesOf_eq_nil_iff.1 htype)
      next text hdefine htype =>
        obtain rfl := Option.some.inj h
        exact .untyped (valuesOf_eq_singleton_iff.1 hdefine) (valuesOf_eq_singleton_iff.1 htype)
      next text hint hdefine htype =>
        obtain rfl := Option.some.inj h
        exact .typed (valuesOf_eq_singleton_iff.1 hdefine) (valuesOf_eq_singleton_iff.1 htype)
      next => cases h
    next => cases h
  · intro h
    cases h with
    | bare text => rfl
    | plain hdefine htype =>
      simp only [ofJson?, valuesOf_eq_singleton_iff.2 hdefine, valuesOf_eq_nil_iff.2 htype]
    | untyped hdefine htype =>
      simp only [ofJson?, valuesOf_eq_singleton_iff.2 hdefine, valuesOf_eq_singleton_iff.2 htype]
    | typed hdefine htype =>
      simp only [ofJson?, valuesOf_eq_singleton_iff.2 hdefine, valuesOf_eq_singleton_iff.2 htype]

/-- The declarations of a list are those of its entries. -/
theorem mapM_ofJson?_eq_some_iff {items : List Json} {ds : List Declaration} :
    items.mapM ofJson? = some ds ↔ List.Forall₂ Entry items ds := by
  induction items generalizing ds with
  | nil => simp [List.forall₂_nil_left_iff, eq_comm]
  | cons item items ih =>
    simp only [List.mapM_cons, Option.bind_eq_bind, Option.pure_def, Option.bind_eq_some_iff,
      Option.some.injEq, ofJson?_eq_some_iff, ih, List.forall₂_cons_left_iff]
    constructor
    · rintro ⟨d, hd, ds, hds, rfl⟩
      exact ⟨d, ds, hd, hds, rfl⟩
    · rintro ⟨d, ds, hd, hds, rfl⟩
      exact ⟨d, hd, ds, hds, rfl⟩

/-! ## Texts -/

/-- An item of the list is read, and it is an entry or nothing. -/
theorem answers_readItem {item : Json} {text : List Char} (hdepth : item.depth < depthLimit - 1)
    (h : Writes item text) : Answers readItem text (ofJson? item) := by
  intro rest hrest
  have hread := (answers_readValue hdepth h).eq_ok hrest
  simp only [readItem, hread, bind, Except.bind]
  cases ofJson? item <;> rfl

/-- What is read from any text of a list are the declarations of its items. -/
theorem toOption_readList {items : List Json} {text : List Char}
    (hdepth : (Json.array items).depth < depthLimit) (h : Writes (.array items) text)
    (rest : List Char) :
    (readList (text ++ rest)).toOption = (items.mapM ofJson?).map fun ds => (ds, rest) := by
  have hlist (cs : List Char) : readList ('[' :: cs) = readItems readItem cs := rfl
  cases h with
  | emptyArray hblanks =>
    rw [List.cons_append, List.append_assoc, List.singleton_append, hlist,
      enumerates_items.empty hblanks]
    rfl
  | array hitems hinner =>
    have hread : ∀ item ∈ items, ∀ t, Writes item t → Answers readItem t (ofJson? item) := by
      intro item hitem t ht
      have hitemDepth := depth_le_of_mem_items hitem
      have hdeep : itemsDepth items + 1 < depthLimit := hdepth
      exact answers_readItem (by omega) ht
    rw [List.cons_append, List.append_assoc, List.singleton_append, hlist,
      enumerates_items.toOption_entries hitems hinner (fun _ _ ht => ht.opens) hread]

/-- Nothing is read where no list opens. -/
theorem toOption_readList_of_ne {cs : List Char} (h : ∀ rest, skipBlanks cs ≠ '[' :: rest) :
    (readList cs).toOption = none := by
  unfold readList
  split
  next => rfl
  next rest hrest => exact absurd hrest (h rest)
  next => rfl
  next => cases readValue depthLimit (skipBlanks cs) <;> rfl

/-- Only lists begin with a bracket. -/
theorem exists_array_of_writes {v : Json} {rest : List Char} (h : Writes v ('[' :: rest)) :
    ∃ items, v = .array items := by
  generalize htext : '[' :: rest = text at h
  cases h with
  | @natural n =>
    obtain ⟨c, ds, hdigits, hc⟩ := exists_toDigits n
    rw [hdigits] at htext
    obtain ⟨rfl, -⟩ := List.cons.inj htext
    exact absurd hc (by decide)
  | emptyArray => exact ⟨_, rfl⟩
  | array => exact ⟨_, rfl⟩
  | _ => exact absurd (List.cons.inj htext).1 (by decide)

/-- A whole text is read if a list is read from its front and only blanks are left. -/
theorem toOption_parseList (text : String) :
    (parseList text).toOption =
      (readList text.toList).toOption.bind fun (ds, rest) =>
        if skipBlanks rest = [] then some ds else none := by
  unfold parseList
  dsimp only
  cases readList text.toList with
  | error fault => rfl
  | ok result =>
    obtain ⟨ds, rest⟩ := result
    cases hrest : skipBlanks rest <;> simp [hrest, Except.toOption]

/-- Blanks in front of the list are skipped. -/
theorem readList_append {before : List Char} (h : Blanks before) (cs : List Char) :
    readList (before ++ cs) = readList cs := by
  rw [readList, readList, skipBlanks_append h]

/-- What is read from any text of a list are the declarations of its items. -/
theorem toOption_parseList_of_array {items : List Json} {text : String}
    (hdepth : (Json.array items).depth < depthLimit) (h : (Json.array items).Document text) :
    (parseList text).toOption = items.mapM ofJson? := by
  obtain ⟨before, inner, behind, hbefore, hinner, hbehind, htext⟩ := h
  rw [toOption_parseList, htext, readList_append hbefore, toOption_readList hdepth hinner]
  cases items.mapM ofJson? with
  | none => rfl
  | some ds => simp [skipBlanks_of_blanks hbehind]

/-- Nothing is read from a text of a document that is no list. -/
theorem toOption_parseList_of_ne {v : Json} {text : String} (hv : ∀ items, v ≠ .array items)
    (h : v.Document text) : (parseList text).toOption = none := by
  obtain ⟨before, inner, behind, hbefore, hinner, hbehind, htext⟩ := h
  rw [toOption_parseList, htext, readList_append hbefore, toOption_readList_of_ne]
  · rfl
  · rw [skipBlanks_of_opens hinner.opens]
    intro rest hbracket
    obtain ⟨c, inner, rfl, -⟩ := hinner.opens
    obtain ⟨rfl, -⟩ := List.cons.inj hbracket
    obtain ⟨items, rfl⟩ := exists_array_of_writes hinner
    exact hv items rfl

/-! ## Main result -/

/-- A list of which one item is no entry has no declarations. -/
theorem mapM_ofJson?_eq_none_iff {items : List Json} :
    items.mapM ofJson? = none ↔ ∃ item ∈ items, ∀ d, ¬Entry item d := by
  have hnone (item : Json) : ofJson? item = none ↔ ∀ d, ¬Entry item d := by
    simp only [Option.eq_none_iff_forall_ne_some, ne_eq, ofJson?_eq_some_iff]
  simp only [← hnone]
  induction items with
  | nil => simp
  | cons item items ih =>
    simp only [List.mapM_cons, List.mem_cons, exists_eq_or_imp, ← ih]
    cases ofJson? item <;> cases items.mapM ofJson? <;> simp

/-- **Declaration files are decoded exactly by their schema.**  Let a text be any text of a document
in which lists and objects are nested less than 128 deep.  Then declarations are read from the text
exactly if the document is a list of entries, and they are those of the entries in their order.
Otherwise, that is if the document is no list or one of its items is no entry, the whole text is
rejected.

**Proof sketch.** Whatever blanks and escapes were chosen, each item of a list is read back as the
document that it is, and then taken as a declaration or not; so the reader of the list answers with
the declarations of all items, or with nothing.  A document that is no list does not begin with a
bracket. -/
theorem parseList_decides_schema {v : Json} {text : String} (hdepth : v.depth < 128)
    (h : v.Document text) :
    (∀ ds, parseList text = .ok ds ↔ ∃ items, v = .array items ∧ List.Forall₂ Entry items ds) ∧
      ((∃ e, parseList text = .error e) ↔
        ∀ items, v = .array items → ∃ item ∈ items, ∀ d, ¬Entry item d) := by
  have hok (ds : List Declaration) :
      parseList text = .ok ds ↔ (parseList text).toOption = some ds := by
    cases parseList text <;> simp [Except.toOption]
  have herror : (∃ e, parseList text = .error e) ↔ (parseList text).toOption = none := by
    cases parseList text <;> simp [Except.toOption]
  simp only [hok, herror]
  by_cases hlist : ∃ items, v = .array items
  · obtain ⟨items, rfl⟩ := hlist
    rw [toOption_parseList_of_array hdepth h, mapM_ofJson?_eq_none_iff]
    simp [mapM_ofJson?_eq_some_iff]
  · rw [not_exists] at hlist
    rw [toOption_parseList_of_ne hlist h]
    simp [hlist]

/-- A surrogate pair and a line break are decoded, members that are not asked for may be repeated,
and a type may be null. -/
theorem parseList_decides_schema_of_escapes :
    let text :=
      "[\"S=\\ud83d\\uDE00\\n\" ,\x7b\"x\":-2,\"x\":[ ],\"define\":\"B=1\",\"type\" : null\x7d]\n"
    ∃ v : Json, v.depth < 128 ∧ v.Document text ∧
      parseList text = .ok [⟨"S=😀\n", none⟩, ⟨"B=1", none⟩] := by
  intro text
  have hhigh : Text.HexNumeral ['d', '8', '3', 'd'] 0xD83D :=
    (((Text.HexNumeral.digit (c := 'd') (n := 13) (by decide)).concat (c := '8') (d := 8)
      (by decide)).concat (c := '3') (d := 3) (by decide)).concat (c := 'd') (d := 13) (by decide)
  have hlow : Text.HexNumeral ['D', 'E', '0', '0'] 0xDE00 :=
    (((Text.HexNumeral.digit (c := 'D') (n := 13) (by decide)).concat (c := 'E') (d := 14)
      (by decide)).concat (c := '0') (d := 0) (by decide)).concat (c := '0') (d := 0) (by decide)
  have hpair : Spelling '😀' ['\\', 'u', 'd', '8', '3', 'd', '\\', 'u', 'D', 'E', '0', '0'] :=
    .pair rfl rfl hhigh hlow (by decide) (by decide) (by decide)
  have hbreak : Spelling '\n' ['\\', 'n'] := .letter (by decide)
  have hbare : Writes (.string "S=😀\n") _ :=
    .string (.cons (.plain (by decide) (by decide) (by decide))
      (.cons (.plain (by decide) (by decide) (by decide)) (.cons hpair (.cons hbreak .nil))))
  have hnone : Blanks [] := by decide
  have hspace : Blanks [' '] := by decide
  have hx : Body "x".toList ['x'] := body_self (by decide)
  have hdefine : Body "define".toList "define".toList := body_self (by decide)
  have htype : Body "type".toList "type".toList := body_self (by decide)
  have hvalue : Body "B=1".toList "B=1".toList := body_self (by decide)
  have hobject : Writes (.object [("x", .number (.whole (-2))), ("x", .array []),
      ("define", .string "B=1"), ("type", .null)]) _ :=
    .object (.cons (.intro hx hnone hnone (.negative (n := 2) (by decide) (by decide)))
      (.cons (.intro hx hnone hnone (.emptyArray hspace))
        (.cons (.intro hdefine hnone hnone (.string hvalue))
          (.cons (.intro htype hspace hspace .null) .nil))))
      (.cons hnone hnone (.cons hnone hnone (.cons hnone hnone (.single hnone hnone))))
  have hlist : Document (.array [.string "S=😀\n", .object [("x", .number (.whole (-2))),
      ("x", .array []), ("define", .string "B=1"), ("type", .null)]]) text :=
    ⟨[], _, ['\n'], hnone, .array (.cons hbare (.cons hobject .nil))
      (.cons hnone hspace (.single hnone hnone)), by decide, by decide⟩
  refine ⟨_, by decide, hlist, ((parseList_decides_schema (by decide) hlist).1 _).2
    ⟨_, rfl, .cons (.bare _) (.cons (.untyped ?_ ?_) .nil)⟩⟩
  · exact ⟨[_, _], [_], rfl, by simp [Lacks], by simp [Lacks]⟩
  · exact ⟨[_, _, _], [], rfl, by simp [Lacks], by simp [Lacks]⟩

end Declaration

end BuildConst
