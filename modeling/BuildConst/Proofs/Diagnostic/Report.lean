import BuildConst.Diagnostic.Report
import BuildConst.Proofs.Diagnostic.Unbroken

/-!
# Reports are read back

A report shows each diagnostic on a first line with its severity and message, followed by a line for
the declaration and for each note and each hint.  Names and values stand in these lines as they were
given, but what a line says is decided by the signs that it begins with, and no text can bring in a
line of its own.  So a report is read back line by line.

## Main definitions

* `ReportLine`, `ReportLine.write` — the lines of a report, by what they say.
* `ReportLine.read?`, `ReportLine.take` — what a line says, and where it belongs.
* `Diagnostic.ofLines?` — the diagnostics that lines show.

## Main results

* `Diagnostic.ofLines?_eq_some_iff` — lines show one list of diagnostics at most.
* `Diagnostic.countP_flatMap_lines` — the lines that begin with a severity are as many as its
  diagnostics.
* `report_identifies_diagnostics` — the report on declarations identifies every diagnostic.
-/

set_option relaxedAutoImplicit false
set_option autoImplicit false

namespace BuildConst

/-! ## Lines of reports -/

/-- What a line of a report says: how a diagnostic begins, where it was found, or a remark on it. -/
inductive ReportLine where
  | head (severity : Severity) (message : String)
  | declaration (text : String)
  | note (text : String)
  | hint (text : String)
deriving DecidableEq, Repr

namespace ReportLine

/-- The signs that a line begins with. -/
def mark : ReportLine → String
  | .head .error _ => "error: "
  | .head .warning _ => "warning: "
  | .declaration _ => "  --> "
  | .note _ => "  = note: "
  | .hint _ => "  = hint: "

/-- The text behind the signs. -/
def text : ReportLine → String
  | .head _ text | .declaration text | .note text | .hint text => text

/-- A line as it is shown. -/
def write (line : ReportLine) : String :=
  line.mark ++ line.text

/-- The forms of lines. -/
def forms : List (String → ReportLine) :=
  [.head .error, .head .warning, .declaration, .note, .hint]

/-- Whether a text begins with signs. -/
def begins (mark shown : String) : Bool :=
  mark.toList.isPrefixOf shown.toList

/-- The text of a line behind the signs of a form. -/
def behind? (mark shown : String) : Option String :=
  (shown.toList.dropPrefix? mark.toList).map String.ofList

/-- What a line says: the form is the first one whose signs it begins with. -/
def read? (shown : String) : Option ReportLine :=
  forms.findSome? fun form => (behind? (form "").mark shown).map form

/-- The diagnostics with a further line, the last one first.  A diagnostic has one declaration at
most, and its declaration, its notes and its hints come in this order. -/
def take : List Diagnostic → ReportLine → Option (List Diagnostic)
  | found, .head severity message => some ({ severity, message } :: found)
  | ⟨severity, message, none, [], []⟩ :: found, .declaration text =>
    some (⟨severity, message, some text, [], []⟩ :: found)
  | ⟨severity, message, origin, notes, []⟩ :: found, .note text =>
    some (⟨severity, message, origin, notes ++ [text], []⟩ :: found)
  | ⟨severity, message, origin, notes, hints⟩ :: found, .hint text =>
    some (⟨severity, message, origin, notes, hints ++ [text]⟩ :: found)
  | _, _ => none

end ReportLine

namespace Diagnostic

/-- The lines that show a diagnostic. -/
def lines (d : Diagnostic) : List ReportLine :=
  .head d.severity d.message :: (d.declaration.toList.map .declaration ++ d.notes.map .note ++
    d.hints.map .hint)

/-- The diagnostics that lines show. -/
def ofLines? (shown : List String) : Option (List Diagnostic) := do
  let lines ← shown.mapM ReportLine.read?
  let found ← lines.foldlM ReportLine.take []
  some found.reverse

end Diagnostic

/-! ## Single lines -/

namespace ReportLine

/-- The signs that a line begins with hold no line break. -/
theorem isLine_mark (line : ReportLine) : Text.IsLine line.mark := by
  match line with
  | .head .error _ => exact (by decide : Text.IsLine "error: ")
  | .head .warning _ => exact (by decide : Text.IsLine "warning: ")
  | .declaration _ => exact (by decide : Text.IsLine "  --> ")
  | .note _ => exact (by decide : Text.IsLine "  = note: ")
  | .hint _ => exact (by decide : Text.IsLine "  = hint: ")

/-- A text stands behind signs exactly if these and the text are the line. -/
theorem behind?_eq_some_iff {mark shown text : String} :
    behind? mark shown = some text ↔ shown = mark ++ text := by
  simp only [behind?, Option.map_eq_some_iff, List.dropPrefix?_eq_some_iff, beq_iff_eq]
  constructor
  · rintro ⟨cs, ⟨_, hshown, rfl⟩, rfl⟩
    rw [← String.toList_inj, String.toList_append, String.toList_ofList, hshown]
  · rintro rfl
    exact ⟨text.toList, ⟨_, String.toList_append, rfl⟩, String.ofList_toList⟩

/-- A line that was written says what it was written for. -/
theorem read?_write (line : ReportLine) : read? line.write = some line := by
  cases line with
  | head severity _ =>
    cases severity <;> simp [read?, forms, write, mark, text, behind?, List.dropPrefix?]
  | _ => simp [read?, forms, write, mark, text, behind?, List.dropPrefix?]

/-- **A line says one thing**: no signs of one form begin those of another. -/
theorem read?_eq_some_iff {shown : String} {line : ReportLine} :
    read? shown = some line ↔ shown = line.write := by
  constructor
  · intro h
    have hform : ∀ form ∈ forms, ∀ text, (form text).mark = (form "").mark ∧
        (form text).text = text := by
      simp [forms, mark, ReportLine.text]
    obtain ⟨form, hmem, hline⟩ := List.exists_of_findSome?_eq_some h
    obtain ⟨text, hbehind, rfl⟩ := Option.map_eq_some_iff.1 hline
    obtain ⟨hmark, htext⟩ := hform form hmem text
    rw [write, hmark, htext, behind?_eq_some_iff.1 hbehind]
  · rintro rfl
    exact read?_write line

/-- Lines say one thing each. -/
theorem mapM_read?_eq_some_iff {shown : List String} {lines : List ReportLine} :
    shown.mapM read? = some lines ↔ shown = lines.map write := by
  induction shown generalizing lines with
  | nil => simp [eq_comm]
  | cons first shown ih =>
    simp only [List.mapM_cons, Option.bind_eq_bind, Option.pure_def, Option.bind_eq_some_iff,
      Option.some.injEq, read?_eq_some_iff, ih]
    constructor
    · rintro ⟨line, rfl, lines, rfl, rfl⟩
      rfl
    · intro h
      obtain ⟨line, rest, rfl, hline, hrest⟩ := List.map_eq_cons_iff.1 h.symm
      exact ⟨line, hline.symm, rest, hrest.symm, rfl⟩

/-! ## Diagnostics of lines -/

variable {found next : List Diagnostic}

/-- **A further line is shown behind the others** by the diagnostics that were read. -/
theorem lines_of_take {line : ReportLine} (h : take found line = some next) :
    next.reverse.flatMap Diagnostic.lines = found.reverse.flatMap Diagnostic.lines ++ [line] := by
  unfold take at h
  split at h
  all_goals cases h
  all_goals simp [Diagnostic.lines]

/-- Diagnostics that were read from lines show these lines. -/
theorem lines_of_foldlM {lines : List ReportLine} (h : lines.foldlM take found = some next) :
    next.reverse.flatMap Diagnostic.lines = found.reverse.flatMap Diagnostic.lines ++ lines := by
  induction lines generalizing found with
  | nil =>
    obtain rfl := Option.some.inj h
    exact (List.append_nil _).symm
  | cons line lines ih =>
    rw [List.foldlM_cons, Option.bind_eq_bind, Option.bind_eq_some_iff] at h
    obtain ⟨between, hline, hlines⟩ := h
    rw [ih hlines, lines_of_take hline, List.append_assoc, List.singleton_append]

/-- Remarks of one form go behind those of the diagnostic that was begun last, if each of them
does. -/
theorem foldlM_take_map {form : String → ReportLine} {d : List String → Diagnostic}
    (h : ∀ texts text, take (d texts :: found) (form text) = some (d (texts ++ [text]) :: found))
    (texts more : List String) :
    (more.map form).foldlM take (d texts :: found) = some (d (texts ++ more) :: found) := by
  induction more generalizing texts with
  | nil => simp
  | cons text more ih =>
    rw [List.map_cons, List.foldlM_cons, h, Option.bind_eq_bind, Option.bind_some, ih,
      List.append_assoc, List.singleton_append]

/-- **The lines of a diagnostic are read as it**, whatever was read before. -/
theorem foldlM_take_lines (d : Diagnostic) : d.lines.foldlM take found = some (d :: found) := by
  obtain ⟨severity, message, origin, notes, hints⟩ := d
  have hhead : take found (head severity message) =
      some (⟨severity, message, none, [], []⟩ :: found) := rfl
  have horigin : (origin.toList.map declaration).foldlM take
      (⟨severity, message, none, [], []⟩ :: found) =
        some (⟨severity, message, origin, [], []⟩ :: found) := by
    cases origin <;> rfl
  have hnotes : (notes.map note).foldlM take (⟨severity, message, origin, [], []⟩ :: found) =
      some (⟨severity, message, origin, notes, []⟩ :: found) :=
    foldlM_take_map (d := fun notes => ⟨severity, message, origin, notes, []⟩)
      (fun _ _ => rfl) [] notes
  have hhints : (hints.map hint).foldlM take (⟨severity, message, origin, notes, []⟩ :: found) =
      some (⟨severity, message, origin, notes, hints⟩ :: found) :=
    foldlM_take_map (d := fun hints => ⟨severity, message, origin, notes, hints⟩)
      (fun _ _ => rfl) [] hints
  simp only [Diagnostic.lines, List.foldlM_cons, List.foldlM_append, hhead, horigin, hnotes, hhints,
    Option.bind_eq_bind, Option.bind_some]

/-- The lines of diagnostics are read as them. -/
theorem foldlM_take_flatMap (ds : List Diagnostic) :
    (ds.flatMap Diagnostic.lines).foldlM take found = some (ds.reverse ++ found) := by
  induction ds generalizing found with
  | nil => rfl
  | cons d ds ih =>
    rw [List.flatMap_cons, List.foldlM_append, foldlM_take_lines, Option.bind_eq_bind,
      Option.bind_some, ih, List.reverse_cons, List.append_assoc, List.singleton_append]

end ReportLine

namespace Diagnostic

/-- **Lines show one list of diagnostics at most**, and each list is shown on lines of its own. -/
theorem ofLines?_eq_some_iff {shown : List String} {ds : List Diagnostic} :
    ofLines? shown = some ds ↔ shown = (ds.flatMap lines).map ReportLine.write := by
  simp only [ofLines?, Option.bind_eq_bind, Option.bind_eq_some_iff, Option.some.injEq,
    ReportLine.mapM_read?_eq_some_iff]
  constructor
  · rintro ⟨read, rfl, found, hfound, rfl⟩
    have hlines := ReportLine.lines_of_foldlM hfound
    rw [List.reverse_nil, List.flatMap_nil, List.nil_append] at hlines
    rw [hlines]
  · rintro rfl
    refine ⟨_, rfl, _, ReportLine.foldlM_take_flatMap ds, ?_⟩
    rw [List.append_nil, List.reverse_reverse]

/-! ## Texts of reports -/

/-- Remarks of one form are shown line by line. -/
theorem join_remarkLine (form : String → ReportLine) (mark : String)
    (h : ∀ text, (form text).write = "  " ++ mark ++ " " ++ text) (texts : List String) :
    String.join (texts.map (remarkLine .plain mark)) =
      Text.unlines ((texts.map form).map ReportLine.write) := by
  rw [Text.unlines, List.map_map, List.map_map]
  refine congrArg String.join (List.map_congr_left fun text _ => ?_)
  simp [remarkLine, Palette.plain, h, String.append_assoc]

/-- **A diagnostic is shown line by line.** -/
theorem format_plain (d : Diagnostic) :
    format .plain d = Text.unlines (d.lines.map ReportLine.write) := by
  have hhead : (ReportLine.head d.severity d.message).write =
      d.severity.label ++ ": " ++ d.message := by
    cases d.severity <;> rfl
  rw [lines, List.map_cons, Text.unlines_cons, List.map_append, List.map_append,
    Text.unlines_append, Text.unlines_append, hhead,
    ← join_remarkLine .declaration "-->" (fun _ => rfl),
    ← join_remarkLine .note "= note:" (fun _ => rfl),
    ← join_remarkLine .hint "= hint:" (fun _ => rfl)]
  simp [format, Palette.plain, String.append_assoc]

/-- Diagnostics are shown line by line. -/
theorem join_format_plain (ds : List Diagnostic) :
    String.join (ds.map (format .plain)) =
      Text.unlines ((ds.flatMap lines).map ReportLine.write) := by
  induction ds with
  | nil => rfl
  | cons d ds ih =>
    rw [List.map_cons, String.join_cons, ih, format_plain, List.flatMap_cons, List.map_append,
      Text.unlines_append]

/-- The text of a line is a text of the diagnostic that it belongs to. -/
theorem text_mem_of_mem_lines {d : Diagnostic} {line : ReportLine} (h : line ∈ d.lines) :
    line.text ∈ d.texts := by
  have htexts : d.lines.map ReportLine.text = d.texts := by
    simp [lines, texts, ReportLine.text, Function.comp_def]
  exact htexts ▸ List.mem_map_of_mem h

/-- **The lines of a report are found in it**, if no text brings in a line break. -/
theorem lines_join_format {ds : List Diagnostic} (h : ∀ d ∈ ds, d.IsUnbroken) :
    Text.lines (String.join (ds.map (format .plain))) =
      (ds.flatMap lines).map ReportLine.write := by
  rw [join_format_plain]
  refine Text.lines_unlines (List.forall_mem_map.2 fun line hline => ?_)
  obtain ⟨d, hd, hline⟩ := List.mem_flatMap.1 hline
  exact Text.isLine_append.2 ⟨line.isLine_mark, h d hd _ (text_mem_of_mem_lines hline)⟩

end Diagnostic

/-! ## Counting -/

namespace ReportLine

/-- A line begins with the signs of a severity exactly if a diagnostic of it begins there. -/
theorem begins_write {severity : Severity} {line : ReportLine} :
    begins (head severity "").mark line.write = true ↔
      ∃ message, line = head severity message := by
  have hwrite (message : String) : (head severity "").mark ++ message =
      (head severity message).write := by
    cases severity <;> rfl
  constructor
  · intro h
    obtain ⟨cs, hcs⟩ := List.isPrefixOf_iff_prefix.1 h
    have hline : line.write = (head severity (String.ofList cs)).write := by
      rw [← hwrite, ← String.toList_inj, String.toList_append, String.toList_ofList, hcs]
    have hsame := read?_write line
    rw [hline, read?_write] at hsame
    exact ⟨_, (Option.some.inj hsame).symm⟩
  · rintro ⟨message, rfl⟩
    rw [← hwrite, begins, String.toList_append]
    exact List.isPrefixOf_iff_prefix.2 (List.prefix_append _ _)

end ReportLine

namespace Diagnostic

/-- One line of a diagnostic begins with the signs of its severity, and none with those of the other
one. -/
theorem countP_lines (severity : Severity) (d : Diagnostic) :
    (d.lines.map ReportLine.write).countP (ReportLine.begins (ReportLine.head severity "").mark) =
      if d.severity == severity then 1 else 0 := by
  have hremarks : ∀ line ∈ d.declaration.toList.map ReportLine.declaration ++
      d.notes.map ReportLine.note ++ d.hints.map ReportLine.hint,
        ¬ReportLine.begins (ReportLine.head severity "").mark line.write = true := by
    intro line hline hbegins
    obtain ⟨message, rfl⟩ := ReportLine.begins_write.1 hbegins
    simp at hline
  have hhead : ReportLine.begins (ReportLine.head severity "").mark
      (ReportLine.head d.severity d.message).write = (d.severity == severity) := by
    rw [Bool.eq_iff_iff, ReportLine.begins_write]
    simp
  rw [lines, List.map_cons, List.countP_cons, hhead,
    List.countP_eq_zero.2 (List.forall_mem_map.2 hremarks), Nat.zero_add]

/-- **Lines that begin with the signs of a severity** are as many as the diagnostics of it. -/
theorem countP_flatMap_lines (severity : Severity) (ds : List Diagnostic) :
    ((ds.flatMap lines).map ReportLine.write).countP
        (ReportLine.begins (ReportLine.head severity "").mark) =
      ds.countP fun d => d.severity == severity := by
  induction ds with
  | nil => rfl
  | cons d ds ih =>
    rw [List.flatMap_cons, List.map_append, List.countP_append, ih, countP_lines, List.countP_cons,
      Nat.add_comm]

/-- Errors are counted by their severity. -/
theorem length_errors (ds : List Diagnostic) :
    (errors ds).length = ds.countP fun d => d.severity == .error :=
  List.countP_eq_length_filter.symm

/-- Warnings are counted by their severity. -/
theorem length_warnings (ds : List Diagnostic) :
    (warnings ds).length = ds.countP fun d => d.severity == .warning := by
  have hweight : (fun d : Diagnostic => !d.isError) = fun d => d.severity == .warning := by
    funext d
    rw [isError]
    cases d.severity <;> rfl
  rw [warnings, hweight, List.countP_eq_length_filter]

end Diagnostic

/-! ## Main result -/

/-- **The report on declarations identifies every diagnostic.**  If no text and no hint of the
declarations holds a line break, then the report without colours consists of lines, and these are
read back, one by one, as the diagnostics that were found: their severities, messages, declarations,
notes and hints, in their order.  So other declarations with the same report have the same
diagnostics.  The lines that begin with `error: ` are as many as the errors, those that begin with
`warning: ` as many as the warnings, and these are the numbers at the end of the report.

**Proof sketch.** No text of a diagnostic holds a line break (`isUnbroken_collect`): names, values
and hints are parts of declarations, and literals hold none.  So the report falls apart into the
lines it was put together from (`Diagnostic.lines_join_format`).  A line that was written says what
it was written for, since no signs of one form begin those of another one, and what follows the
signs may be any text.  Then `Diagnostic.ofLines?_eq_some_iff` gives back the diagnostics, and
`Diagnostic.countP_flatMap_lines` the counts. -/
theorem report_identifies_diagnostics {ds : List Declaration} (h : ∀ d ∈ ds, d.IsUnbroken) :
    let found := (collect ds).diagnostics
    let shown := String.join (found.map (Diagnostic.format .plain))
    let errors := (Text.lines shown).countP (ReportLine.begins "error: ")
    let warnings := (Text.lines shown).countP (ReportLine.begins "warning: ")
    shown = Text.unlines (Text.lines shown) ∧
    Diagnostic.ofLines? (Text.lines shown) = some found ∧
    (∀ es : List Declaration, (∀ e ∈ es, e.IsUnbroken) →
      String.join ((collect es).diagnostics.map (Diagnostic.format .plain)) = shown →
      (collect es).diagnostics = found) ∧
    errors = (Diagnostic.errors found).length ∧
    warnings = (Diagnostic.warnings found).length ∧
    Diagnostic.report .plain found =
      if found.isEmpty then ""
      else shown ++ toString errors ++ " error(s), " ++ toString warnings ++ " warning(s)\n" := by
  intro found shown errors warnings
  have hlines : Text.lines shown = (found.flatMap Diagnostic.lines).map ReportLine.write :=
    Diagnostic.lines_join_format (isUnbroken_collect h)
  have hread : Diagnostic.ofLines? (Text.lines shown) = some found :=
    Diagnostic.ofLines?_eq_some_iff.2 hlines
  have herrors : errors = (Diagnostic.errors found).length := by
    have hcount := Diagnostic.countP_flatMap_lines .error found
    rw [← hlines, ← Diagnostic.length_errors] at hcount
    exact hcount
  have hwarnings : warnings = (Diagnostic.warnings found).length := by
    have hcount := Diagnostic.countP_flatMap_lines .warning found
    rw [← hlines, ← Diagnostic.length_warnings] at hcount
    exact hcount
  refine ⟨?_, hread, fun es hes hsame => ?_, herrors, hwarnings, ?_⟩
  · rw [hlines]
    exact Diagnostic.join_format_plain found
  · have hother : Diagnostic.ofLines? (Text.lines shown) = some (collect es).diagnostics := by
      rw [← hsame]
      exact Diagnostic.ofLines?_eq_some_iff.2
        (Diagnostic.lines_join_format (isUnbroken_collect hes))
    rw [hread] at hother
    exact (Option.some.inj hother).symm
  · rw [herrors, hwarnings, Diagnostic.report]
    simp [Diagnostic.summary, shown, String.append_assoc]

/-- A text that looks like a hint, a kind that looks like an error, and a name used twice. -/
theorem report_identifies_diagnostics_of_texts_like_lines :
    let ds : List Declaration :=
      [⟨"  = hint: c", none⟩, ⟨"A=1", some "error: int"⟩, ⟨"A=\t2", none⟩]
    let found := (collect ds).diagnostics
    let shown := String.join (found.map (Diagnostic.format .plain))
    (∀ d ∈ ds, d.IsUnbroken) ∧
    Text.lines shown =
      ["error: Illegal key-value pair '  = hint: c'",
       "  -->   = hint: c",
       "  = hint: Declarations have the form KEY=VALUE",
       "warning: Constant 'A' has unsupported type 'error: int'. " ++
         "Supported types are: String,Bool,Int,StringArray",
       "  = note: The constant is treated as String",
       "warning: Constant 'A' was already defined. Existing value is '\"1\"'. " ++
         "New value is '\"\\t2\"'. Ignoring the new value"] ∧
    Diagnostic.ofLines? (Text.lines shown) = some found ∧
    (Text.lines shown).countP (ReportLine.begins "error: ") = 1 ∧
    (Text.lines shown).countP (ReportLine.begins "warning: ") = 2 ∧
    Diagnostic.report .plain found = shown ++ "1 error(s), 2 warning(s)\n" := by
  intro ds found shown
  have hunbroken : ∀ d ∈ ds, d.IsUnbroken := by
    simp only [ds, List.forall_mem_cons]
    exact ⟨⟨by decide, nofun⟩, ⟨by decide, by decide⟩, ⟨by decide, nofun⟩, nofun⟩
  obtain ⟨-, hread, -, herrors, hwarnings, hreport⟩ := report_identifies_diagnostics hunbroken
  have hone : (Diagnostic.errors found).length = 1 := by decide +kernel
  have htwo : (Diagnostic.warnings found).length = 2 := by decide +kernel
  have hsome : found.isEmpty = false := by decide +kernel
  refine ⟨hunbroken, ?_, hread, herrors.trans hone, hwarnings.trans htwo, ?_⟩
  · rw [Diagnostic.lines_join_format (isUnbroken_collect hunbroken)]
    decide +kernel
  rw [hreport, hsome, herrors, hone, hwarnings, htwo, String.append_assoc, String.append_assoc,
    String.append_assoc]
  rfl

end BuildConst
