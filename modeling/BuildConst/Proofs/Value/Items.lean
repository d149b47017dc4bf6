import BuildConst.Proofs.Value.Language

/-!
# The items of a list

The items of a text are its longest stretches without semicolons, from the left to the right.  So
nothing but the semicolons is lost, and how many of them stand between two items does not matter.

## Main definitions

* `Value.Stretch` — a stretch without semicolons that cannot be made longer, and where it begins.
* `Value.Lists` — all stretches of a text, in order.
* `Value.spaced` — items with semicolons between them and around them.

## Main results

* `Value.Runs.exists_lists` — the items of a text are its stretches.
* `Value.Runs.flatMap_toList` — the characters of the items are those that are no semicolons.
* `Value.readItems_exact` — what is read as a list, and what is not.
-/

set_option relaxedAutoImplicit false
set_option autoImplicit false

namespace BuildConst.Value

/-- A stretch of a text that begins behind a number of characters.  It is not empty and holds no
semicolon, and it cannot be made longer because there is a semicolon or an end of the text on either
side. -/
def Stretch (cs : List Char) (start : Nat) (item : String) : Prop :=
  ∃ before after, cs = before ++ (item.toList ++ after) ∧ before.length = start ∧
    item ≠ "" ∧ ';' ∉ item.toList ∧ (before = [] ∨ [';'] <:+ before) ∧
      (after = [] ∨ [';'] <+: after)

/-- All stretches of a text from the left to the right, each with the number of characters before
it. -/
structure Lists (cs : List Char) (found : List (Nat × String)) : Prop where
  ordered : found.Pairwise fun p q => p.1 < q.1
  mem_iff (start : Nat) (item : String) : (start, item) ∈ found ↔ Stretch cs start item

/-- Items with semicolons around them: `front` before the first item, one more than the number that
a further item comes with before that item, and `back` behind the last item. -/
def spaced (back : Nat) : Nat → String → List (Nat × String) → List Char
  | front, first, [] => List.replicate front ';' ++ (first.toList ++ List.replicate back ';')
  | front, first, (extra, next) :: more =>
    List.replicate front ';' ++ (first.toList ++ spaced back (extra + 1) next more)

/-! ## Stretches -/

/-- The characters of a text without semicolons are others. -/
theorem decide_ne_semicolon {cs : List Char} (hfree : ';' ∉ cs) :
    ∀ c ∈ cs, decide (c ≠ ';') = true :=
  fun c hc => decide_eq_true (List.forall_mem_ne'.2 hfree c hc)

/-- What stands before the first semicolon is determined by the text. -/
theorem takeWhile_append_of_free {front rest : List Char} (hfree : ';' ∉ front)
    (hrest : rest = [] ∨ [';'] <+: rest) : (front ++ rest).takeWhile (· ≠ ';') = front := by
  rw [List.takeWhile_append_of_pos (decide_ne_semicolon hfree)]
  rcases hrest with rfl | ⟨tail, rfl⟩ <;> simp

/-- A stretch that begins at the front ends at the first semicolon. -/
theorem stretch_zero_iff {piece rest : List Char} {item : String} (hfree : ';' ∉ piece)
    (hrest : rest = [] ∨ [';'] <+: rest) :
    Stretch (piece ++ rest) 0 item ↔ item ≠ "" ∧ item.toList = piece := by
  constructor
  · rintro ⟨before, after, hcs, hlength, hne, hitem, -, hafter⟩
    obtain rfl := List.length_eq_zero_iff.1 hlength
    refine ⟨hne, ?_⟩
    rw [← takeWhile_append_of_free hfree hrest, hcs, List.nil_append,
      takeWhile_append_of_free hitem hafter]
  · rintro ⟨hne, rfl⟩
    exact ⟨[], rest, rfl, rfl, hne, hfree, .inl rfl, hrest⟩

/-- A stretch that does not begin at the front begins behind a semicolon. -/
theorem Stretch.length_lt {piece rest : List Char} {start : Nat} {item : String}
    (h : Stretch (piece ++ rest) start item) (hfree : ';' ∉ piece) (hstart : start ≠ 0) :
    piece.length < start := by
  obtain ⟨before, after, hcs, rfl, -, -, hbefore, -⟩ := h
  by_contra hle
  have hbegin : before <+: piece :=
    List.prefix_of_prefix_length_le ⟨_, hcs.symm⟩ (List.prefix_append _ _) (by omega)
  have hsuffix : [';'] <:+ before := hbefore.resolve_left fun h => hstart (by simp [h])
  exact hfree (hbegin.subset (hsuffix.subset List.mem_cons_self))

/-- A stretch ends at the end of the text at the latest. -/
theorem Stretch.lt_length {cs : List Char} {start : Nat} {item : String}
    (h : Stretch cs start item) : start < cs.length := by
  obtain ⟨before, after, rfl, rfl, hne, -⟩ := h
  have hpos : 0 < item.toList.length := List.length_pos_iff.2 (by simpa using hne)
  simp only [List.length_append]
  omega

/-- The stretches behind a semicolon are those of what stands there. -/
theorem stretch_append_iff {piece rest : List Char} {start : Nat} {item : String} :
    Stretch (piece ++ ';' :: rest) (piece.length + 1 + start) item ↔ Stretch rest start item := by
  have hlength : (piece ++ [';']).length = piece.length + 1 := by simp
  rw [List.append_cons, ← hlength]
  constructor
  · rintro ⟨before, after, hcs, hstart, hne, hitem, hbefore, hafter⟩
    -- What stands before the stretch is long enough to hold the semicolon.
    have hbegin : piece ++ [';'] <+: before :=
      List.prefix_of_prefix_length_le (List.prefix_append _ _) ⟨_, hcs.symm⟩ (by omega)
    obtain ⟨before, rfl⟩ := hbegin
    rw [List.append_assoc _ before, List.append_cancel_left_eq] at hcs
    rw [List.length_append, Nat.add_left_cancel_iff] at hstart
    refine ⟨before, after, hcs, hstart, hne, hitem, ?_, hafter⟩
    rcases before.eq_nil_or_concat with rfl | ⟨front, c, rfl⟩
    · exact .inl rfl
    · have hsuffix := hbefore.resolve_left (by simp)
      exact .inr (List.suffix_of_suffix_length_le hsuffix (List.suffix_append _ _) (by simp))
  · rintro ⟨before, after, rfl, rfl, hne, hitem, hbefore, hafter⟩
    refine ⟨piece ++ [';'] ++ before, after, by simp, List.length_append, hne, hitem, .inr ?_,
      hafter⟩
    rcases hbefore with rfl | hsuffix
    · simp
    · exact hsuffix.trans (List.suffix_append _ _)

/-! ## All stretches in order -/

/-- A text without characters has no stretches. -/
theorem lists_nil : Lists [] [] := by
  refine ⟨List.Pairwise.nil, fun start item => ?_⟩
  refine iff_of_false List.not_mem_nil fun h => ?_
  exact absurd h.lt_length (Nat.not_lt_zero _)

/-- A text without semicolons is its only stretch. -/
theorem lists_item {item : String} (hne : item ≠ "") (hfree : ';' ∉ item.toList) :
    Lists item.toList [(0, item)] := by
  refine ⟨List.pairwise_singleton _ _, fun start found => ?_⟩
  have hzero := @stretch_zero_iff item.toList [] found hfree (.inl rfl)
  rw [List.append_nil] at hzero
  rw [List.mem_singleton, Prod.mk.injEq]
  constructor
  · rintro ⟨rfl, rfl⟩
    exact hzero.2 ⟨hne, rfl⟩
  · intro h
    obtain rfl : start = 0 := by
      by_contra hstart
      have hlength := h.lt_length
      rw [← List.append_nil item.toList] at h
      have hpassed := h.length_lt hfree hstart
      omega
    exact ⟨rfl, String.toList_inj.1 (hzero.1 h).2⟩

/-- Stretches that begin some characters later. -/
def later (count : Nat) (found : List (Nat × String)) : List (Nat × String) :=
  found.map fun p => (count + p.1, p.2)

/-- They are in the same order. -/
theorem pairwise_later {count : Nat} {found : List (Nat × String)}
    (h : found.Pairwise fun p q => p.1 < q.1) :
    (later count found).Pairwise fun p q => p.1 < q.1 := by
  rw [later, List.pairwise_map]
  exact h.imp fun hlt => Nat.add_lt_add_left hlt count

/-- The stretches of a text that do not begin at its front are those behind its first semicolon. -/
theorem Lists.mem_later_iff {rest piece : List Char} {found : List (Nat × String)}
    (h : Lists rest found) (hfree : ';' ∉ piece) {start : Nat} {item : String} :
    (start, item) ∈ later (piece.length + 1) found ↔
      start ≠ 0 ∧ Stretch (piece ++ ';' :: rest) start item := by
  simp only [later, List.mem_map, Prod.mk.injEq, Prod.exists]
  constructor
  · rintro ⟨start, item, hmem, rfl, rfl⟩
    exact ⟨by omega, stretch_append_iff.2 ((h.mem_iff start item).1 hmem)⟩
  · rintro ⟨hstart, hstretch⟩
    obtain ⟨start, rfl⟩ := Nat.exists_eq_add_of_le (hstretch.length_lt hfree hstart)
    exact ⟨start, item, (h.mem_iff start item).2 (stretch_append_iff.1 hstretch), rfl, rfl⟩

/-- The stretches of a text with a semicolon before it are those of the text. -/
theorem Lists.cons_semicolon {rest : List Char} {found : List (Nat × String)}
    (h : Lists rest found) : Lists (';' :: rest) (later 1 found) := by
  have hmem {start : Nat} {item : String} :=
    @Lists.mem_later_iff rest [] found h List.not_mem_nil start item
  refine ⟨pairwise_later h.ordered, fun start item => hmem.trans (and_iff_right_of_imp ?_)⟩
  rintro hstretch rfl
  have hzero := (@stretch_zero_iff [] (';' :: rest) item (by simp) (.inr (by simp))).1 hstretch
  exact hzero.1 (String.toList_eq_nil_iff.1 hzero.2)

/-- The stretches of a text that begins with an item are the item and those behind its semicolon. -/
theorem Lists.cons_item {item : String} {rest : List Char} {found : List (Nat × String)}
    (h : Lists rest found) (hne : item ≠ "") (hfree : ';' ∉ item.toList) :
    Lists (item.toList ++ ';' :: rest) ((0, item) :: later (item.toList.length + 1) found) := by
  constructor
  · refine List.pairwise_cons.2 ⟨fun p hp => ?_, pairwise_later h.ordered⟩
    exact Nat.pos_of_ne_zero ((h.mem_later_iff hfree).1 hp).1
  · intro start other
    rw [List.mem_cons, h.mem_later_iff hfree, Prod.mk.injEq]
    by_cases hstart : start = 0
    · subst hstart
      rw [stretch_zero_iff hfree (.inr (by simp)), String.toList_inj]
      grind
    · simp [hstart]

/-- **The items of a text are its stretches**, from the left to the right. -/
theorem Runs.exists_lists {cs : List Char} {items : List String} (h : Runs cs items) :
    ∃ found, Lists cs found ∧ found.map Prod.snd = items := by
  have hsame (count : Nat) (found : List (Nat × String)) :
      (later count found).map Prod.snd = found.map Prod.snd := by
    simp [later, Function.comp_def]
  induction h with
  | nil => exact ⟨[], lists_nil, rfl⟩
  | skip _ ih =>
    obtain ⟨found, hfound, rfl⟩ := ih
    exact ⟨_, hfound.cons_semicolon, hsame _ _⟩
  | last hne hfree => exact ⟨_, lists_item hne hfree, rfl⟩
  | item hne hfree _ ih =>
    obtain ⟨found, hfound, rfl⟩ := ih
    exact ⟨_, hfound.cons_item hne hfree, by rw [List.map_cons, hsame]⟩

/-! ## What is lost, and what does not matter -/

/-- **No character but the semicolons is lost.** -/
theorem Runs.flatMap_toList {cs : List Char} {items : List String} (h : Runs cs items) :
    items.flatMap String.toList = cs.filter (· ≠ ';') := by
  have hkept {item : String} (hfree : ';' ∉ item.toList) :
      item.toList.filter (· ≠ ';') = item.toList :=
    List.filter_eq_self.2 (decide_ne_semicolon hfree)
  induction h with
  | nil => rfl
  | skip _ ih => simpa using ih
  | last _ hfree => simpa using (hkept hfree).symm
  | item _ hfree _ ih =>
    rw [List.flatMap_cons, ih, List.filter_append, hkept hfree]
    simp

/-- Semicolons in front of a text add no item. -/
theorem runs_semicolons (count : Nat) {cs : List Char} {items : List String} (h : Runs cs items) :
    Runs (List.replicate count ';' ++ cs) items := by
  induction count with
  | zero => exact h
  | succ count ih => exact ih.skip

/-- Items with one semicolon more before them. -/
theorem spaced_succ (back front : Nat) (first : String) (more : List (Nat × String)) :
    spaced back (front + 1) first more = ';' :: spaced back front first more := by
  cases more <;> rfl

/-- **The number of semicolons does not matter.** -/
theorem runs_spaced (back front : Nat) (first : String) (more : List (Nat × String))
    (h : ∀ item ∈ first :: more.map Prod.snd, item ≠ "" ∧ ';' ∉ item.toList) :
    Runs (spaced back front first more) (first :: more.map Prod.snd) := by
  induction more generalizing front first with
  | nil =>
    obtain ⟨hne, hfree⟩ := h first List.mem_cons_self
    refine runs_semicolons front ?_
    cases back with
    | zero =>
      rw [List.replicate_zero, List.append_nil]
      exact .last hne hfree
    | succ back =>
      have hback := runs_semicolons back Runs.nil
      rw [List.append_nil] at hback
      exact .item hne hfree hback
  | cons p more ih =>
    obtain ⟨extra, next⟩ := p
    obtain ⟨hfirst, hmore⟩ := List.forall_mem_cons.1 h
    refine runs_semicolons front ?_
    rw [spaced_succ]
    exact .item hfirst.1 hfirst.2 (ih extra next hmore)

/-- **What is no list** consists of semicolons. -/
theorem readItems_eq_error_iff {text : String} {fault : Fault} :
    readItems text = .error fault ↔ (∀ c ∈ text.toList, c = ';') ∧ fault = .emptyArray text := by
  constructor
  · intro h
    refine ⟨?_, readItems_eq_error h⟩
    by_contra! hsome
    rw [readItems_eq_ok_iff.2 ⟨runs_pieces text.toList, hsome⟩] at h
    cases h
  · rintro ⟨hall, rfl⟩
    cases hread : readItems text with
    | error fault => rw [readItems_eq_error hread]
    | ok items =>
      obtain ⟨-, c, hc, hne⟩ := readItems_eq_ok_iff.1 hread
      exact absurd (hall c hc) hne

/-! ## Main result -/

/-- **Reading a list loses only separators.**  A text is no list exactly if it consists of
semicolons.  The items of any other text are its stretches without semicolons that cannot be made
longer, from the left to the right.  So no item is empty or holds a semicolon, the items in a row
are the text without its semicolons, and they are read again from the text in which one semicolon
stands between them.  Items that are not empty and hold no semicolon are read from any text that has
at least one semicolon between them and any number at either end.

**Proof sketch.** A text without its first item and the semicolon behind it has the same stretches
but the first, which begin so many characters earlier.  The stretches of the whole follow by
induction on the items. -/
theorem readItems_exact :
    (∀ (text : String) (fault : Fault), readItems text = .error fault ↔
      (∀ c ∈ text.toList, c = ';') ∧ fault = .emptyArray text) ∧
    (∀ text : String, (∃ c ∈ text.toList, c ≠ ';') → ∃ items, readItems text = .ok items ∧
      (∃ found, Lists text.toList found ∧ found.map Prod.snd = items) ∧
      (∀ item ∈ items, item ≠ "" ∧ ';' ∉ item.toList) ∧
      String.join items = String.ofList (text.toList.filter (· ≠ ';')) ∧
      readItems (";".intercalate items) = .ok items) ∧
    ∀ (back front : Nat) (first : String) (more : List (Nat × String)),
      (∀ item ∈ first :: more.map Prod.snd, item ≠ "" ∧ ';' ∉ item.toList) →
        readItems (String.ofList (spaced back front first more)) =
          .ok (first :: more.map Prod.snd) := by
  refine ⟨fun _ _ => readItems_eq_error_iff, fun text hsome => ?_,
    fun back front first more h => ?_⟩
  · have hruns := runs_pieces text.toList
    have hread := readItems_eq_ok_iff.2 ⟨hruns, hsome⟩
    obtain ⟨hne, hitems⟩ := declarable_of_readItems hread
    refine ⟨_, hread, hruns.exists_lists, hitems, ?_, readItems_intercalate hne hitems⟩
    rw [← String.toList_inj, String.toList_join, String.toList_ofList, hruns.flatMap_toList]
  · have hruns := runs_spaced back front first more h
    rw [readItems_eq_ok_iff, String.toList_ofList]
    exact ⟨hruns, hruns.ne_nil_iff.1 (List.cons_ne_nil _ _)⟩

/-- A text with blanks and letters of several bytes is a list, whose first item is a blank, and two
items are read with several semicolons around them. -/
theorem readItems_exact_of_blank_item :
    (∃ items, readItems ";; ;é=1;;" = .ok items ∧ String.join items = " é=1") ∧
      readItems (String.ofList (spaced 2 1 " " [(1, "é=1")])) = .ok [" ", "é=1"] ∧
      spaced 2 1 " " [(1, "é=1")] = "; ;;é=1;;".toList := by
  obtain ⟨-, hlist, hspaced⟩ := readItems_exact
  obtain ⟨items, hread, -, -, hjoin, -⟩ := hlist ";; ;é=1;;" ⟨' ', by decide, by decide⟩
  refine ⟨⟨items, hread, ?_⟩, hspaced 2 1 " " [(1, "é=1")] (by decide), by decide⟩
  rw [hjoin]
  decide

end BuildConst.Value
