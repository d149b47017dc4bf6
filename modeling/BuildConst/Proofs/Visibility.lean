import Mathlib.Data.List.Forall2
import BuildConst.Proofs.Inspection
import BuildConst.Proofs.Source.Height

/-!
# Values cannot hide anything in what is written

The texts of declarations come from outside, and their characters pass through validation as they
are.  They get into artifacts in source form and into the output of a check, and there every
character is written as itself only if it is printable.  So a value can neither begin a line of its
own nor bring in a character that hides or reorders others.

## Main results

* `Command.shown_checked` — the lines that a check prints.
* `values_stay_visible` — artifacts in source form and checks show visible lines only.
-/

set_option relaxedAutoImplicit false
set_option autoImplicit false

namespace BuildConst

/-- The lines of constants begin with their names. -/
theorem Command.forall₂_line (constants : List Constant) :
    List.Forall₂ (fun c l => ∃ rest, l = c.name ++ ": " ++ rest) constants
      (constants.map line) := by
  rw [List.forall₂_map_right_iff, List.forall₂_same]
  intro c _
  refine ⟨c.value.kind.name ++ " = " ++ c.value.rendered, ?_⟩
  simp only [line, String.append_assoc]

/-- **Checks**: what a check that succeeds prints are as many visible lines as there are constants,
each of which begins with the name of its constant. -/
theorem Command.shown_checked {ds : List Declaration} (h : (collect ds).isReady = true) :
    Text.Shown (collect ds).table.size (checked (collect ds)).stdout ∧
      List.Forall₂ (fun c l => ∃ rest, l = c.name ++ ": " ++ rest)
        (collect ds).table.constants (Text.lines (checked (collect ds)).stdout) := by
  rw [stdout_checked h, lines_unlines_line]
  refine ⟨Text.VisibleLines.shown ⟨_, rfl, List.length_map _, fun l hl => ?_⟩, forall₂_line _⟩
  obtain ⟨c, hc, rfl⟩ := List.mem_map.1 hl
  exact isVisible_line (speakable_of_mem_collect c hc)

/-- **Values cannot hide anything in what is written.**  For all declarations and every container
that can be named, the artifact in source form consists of as many visible lines as its layout
says; apart from the line breaks behind them, it holds printable characters only, and none that
hides or reorders others.  If the declarations are found to be free of errors, then a check of them
prints as many visible lines as there are constants, and each line begins with the name of its
constant.

**Proof sketch.** Names consist of ASCII letters, digits and underscores, and literals and rendered
values are escaped character by character, so every line that is put together from them and from
fixed words is visible.  A line break is not printable, so these lines are the ones that are found
in the text. -/
theorem values_stay_visible (ds : List Declaration) :
    (∀ namespaceText name c, Container.parse namespaceText name = .ok c →
      ∃ text, Source.render (collect ds).table c = .ok text ∧
        Text.Shown (Source.height (collect ds).table c) text) ∧
    ((collect ds).isReady = true →
      Text.Shown (collect ds).table.size (Command.checked (collect ds)).stdout ∧
        List.Forall₂ (fun c l => ∃ rest, l = c.name ++ ": " ++ rest)
          (collect ds).table.constants (Text.lines (Command.checked (collect ds)).stdout)) ∧
    (∀ arguments sources (disk : Disk), Command.parse arguments = .ok (.check sources) →
      disk.gather sources = .ok ds →
      (answer arguments : StateM Disk Reply).run disk =
        (Command.checked (collect ds), disk)) := by
  refine ⟨fun namespaceText name c hc => ?_, Command.shown_checked,
    fun arguments sources disk hparse hds => ?_⟩
  · have hnames : ∀ k ∈ (collect ds).table.constants, Identifier.Speakable k.name :=
      speakable_of_mem_collect
    obtain ⟨-, hsegments, hname⟩ := Container.speakable_of_parse hc
    exact ⟨_, Source.render_of_speakable hnames c,
      (Source.visibleLines_text hnames hsegments hname).shown⟩
  · have hchecked := run_answer_check hparse disk
    rw [hds] at hchecked
    exact hchecked

/-- A text with an override of the writing direction and a line break, and a list with a line
separator in it, are shown on 13 lines by the artifact and on two by a check. -/
theorem values_stay_visible_of_override :
    let ds : List Declaration := [⟨"A=\u202e\nB", none⟩, ⟨"L=\u2028;x", some "StringArray"⟩]
    Container.parse "N" "C" = .ok ⟨["N"], "C"⟩ ∧ (collect ds).isReady = true ∧
      (∃ text, Source.render (collect ds).table ⟨["N"], "C"⟩ = .ok text ∧ Text.Shown 13 text) ∧
      Text.Shown 2 (Command.checked (collect ds)).stdout := by
  intro ds
  have hparse : Container.parse "N" "C" = .ok ⟨["N"], "C"⟩ := by decide
  have hready : (collect ds).isReady = true := by decide +kernel
  have hheight : Source.height (collect ds).table ⟨["N"], "C"⟩ = 13 := by decide +kernel
  have hsize : (collect ds).table.size = 2 := by decide +kernel
  obtain ⟨hsource, hcheck, -⟩ := values_stay_visible ds
  refine ⟨hparse, hready, ?_, ?_⟩
  · rw [← hheight]
    exact hsource "N" "C" _ hparse
  · rw [← hsize]
    exact (hcheck hready).1

end BuildConst
