import Mathlib.Algebra.GroupWithZero.Nat
import BuildConst.Text.Split
import BuildConst.Proofs.Text.Visible

/-!
# Lines

A text that is put together from lines falls apart into the same lines again, if no line holds a
line break itself.  Visible texts do not.

## Main definitions

* `Text.lines`, `Text.unlines` — the lines of a text, and the text of lines.
* `Text.IsLine` — a text without line breaks.
* `Text.VisibleLines` — a text of so many visible lines.
* `Text.Shown` — the same of the lines that are found in a text.

## Main results

* `Text.lines_unlines` — lines are found again.
* `Text.isLine_of_isVisible` — visible texts are lines.
* `Text.VisibleLines.shown` — the visible lines of a text are found in it.
-/

set_option relaxedAutoImplicit false
set_option autoImplicit false

namespace BuildConst

namespace Text

/-- The lines of a text, each of which ends at a line break.  What stands behind the last line break
is no line. -/
def lines (s : String) : List String :=
  (pieces '\n' s.toList).dropLast.map String.ofList

/-- The text of lines, with a line break behind each of them. -/
def unlines (ls : List String) : String :=
  String.join (ls.map fun l => l ++ "\n")

/-- A text without line breaks. -/
def IsLine (s : String) : Prop :=
  '\n' ∉ s.toList

instance (s : String) : Decidable (IsLine s) :=
  inferInstanceAs (Decidable ('\n' ∉ s.toList))

/-! ## Lines and texts -/

/-- The first line of a text stands before the others. -/
theorem unlines_cons (l : String) (ls : List String) :
    unlines (l :: ls) = l ++ "\n" ++ unlines ls := by
  rw [unlines, List.map_cons, String.join_cons, unlines]

/-- The lines of one text may follow those of another one. -/
theorem unlines_append (ls ls' : List String) :
    unlines (ls ++ ls') = unlines ls ++ unlines ls' := by
  rw [unlines, unlines, unlines, List.map_append, String.join_append]

/-- A line is the first one of the text that follows it. -/
theorem pieces_toList_append {l : String} (h : IsLine l) (s : String) :
    pieces '\n' (l ++ "\n" ++ s).toList = l.toList :: pieces '\n' s.toList := by
  have hbreak : "\n".toList = ['\n'] := rfl
  rw [String.toList_append, String.toList_append, hbreak, List.append_assoc,
    List.singleton_append, pieces_append_cons h]

/-- **Lines are found again** in the text that is put together from them. -/
theorem lines_unlines {ls : List String} (h : ∀ l ∈ ls, IsLine l) : lines (unlines ls) = ls := by
  induction ls with
  | nil => rfl
  | cons l ls ih =>
    have hrest := ih fun l' hl' => h l' (List.mem_cons_of_mem _ hl')
    rw [lines] at hrest ⊢
    rw [unlines_cons, pieces_toList_append (h l List.mem_cons_self),
      List.dropLast_cons_of_ne_nil (pieces_ne_nil _ _), List.map_cons, String.ofList_toList, hrest]

/-- **A visible text is one line**: the line break is not printable. -/
theorem isLine_of_isVisible {s : String} (h : IsVisible s) : IsLine s := by
  intro hbreak
  have hprintable : isPrintable '\n' = true := h _ hbreak
  exact absurd hprintable (by decide +kernel)

/-- A text of two parts is a line exactly if both of them are. -/
@[simp]
theorem isLine_append {s t : String} : IsLine (s ++ t) ↔ IsLine s ∧ IsLine t := by
  rw [IsLine, String.toList_append, List.mem_append, not_or]
  exact Iff.rfl

/-! ## Texts of visible lines -/

/-- A text that consists of so many visible lines, each with a line break behind it. -/
def VisibleLines (n : Nat) (s : String) : Prop :=
  ∃ ls, s = unlines ls ∧ ls.length = n ∧ ∀ l ∈ ls, IsVisible l

/-- The empty text has no lines. -/
theorem VisibleLines.empty : VisibleLines 0 "" :=
  ⟨[], rfl, rfl, by simp⟩

/-- A visible text with a line break behind it is one line. -/
theorem IsVisible.visibleLines {l : String} (h : IsVisible l) : VisibleLines 1 (l ++ "\n") :=
  ⟨[l], by simp [unlines], rfl, by simpa using h⟩

/-- The visible lines of one text may follow those of another one. -/
theorem VisibleLines.append {n m : Nat} {s t : String} (h : VisibleLines n s)
    (h' : VisibleLines m t) : VisibleLines (n + m) (s ++ t) := by
  obtain ⟨ls, rfl, rfl, hls⟩ := h
  obtain ⟨ls', rfl, rfl, hls'⟩ := h'
  exact ⟨ls ++ ls', (unlines_append ls ls').symm, List.length_append,
    List.forall_mem_append.2 ⟨hls, hls'⟩⟩

/-- The lines of several texts add up. -/
theorem VisibleLines.join {α : Type} {write : α → String} {height : α → Nat} {xs : List α}
    (h : ∀ x ∈ xs, VisibleLines (height x) (write x)) :
    VisibleLines (xs.map height).sum (String.join (xs.map write)) := by
  induction xs with
  | nil => exact .empty
  | cons x xs ih =>
    rw [List.map_cons, List.map_cons, List.sum_cons, String.join_cons]
    exact (h x List.mem_cons_self).append (ih fun y hy => h y (List.mem_cons_of_mem _ hy))

/-- A text that shows so many lines: nothing but visible characters and the line breaks behind its
lines. -/
structure Shown (n : Nat) (s : String) : Prop where
  whole : s = unlines (lines s)
  count : (lines s).length = n
  visible : ∀ l ∈ lines s, IsVisible l
  clean : ∀ l ∈ lines s, ∀ c ∈ l.toList, ¬IsHidden c

/-- **The visible lines that a text consists of are shown by it.** -/
theorem VisibleLines.shown {n : Nat} {s : String} (h : VisibleLines n s) : Shown n s := by
  obtain ⟨ls, rfl, rfl, hls⟩ := h
  have hlines : lines (unlines ls) = ls :=
    lines_unlines fun l hl => isLine_of_isVisible (hls l hl)
  refine ⟨by rw [hlines], by rw [hlines], by rwa [hlines], ?_⟩
  rw [hlines]
  exact fun l hl c hc => not_isHidden_of_isPrintable (hls l hl c hc)

end Text

end BuildConst
