import BuildConst.Diagnostic

/-!
# The report of diagnostics

A diagnostic is shown on one line with its severity and message, followed by one line for the
declaration and for each remark.  A list of diagnostics ends with a line that counts them.

## Main definitions

* `Diagnostic.Palette` — what is written around the parts of a line.
* `Diagnostic.format` — the lines of one diagnostic.
* `Diagnostic.summary`, `Diagnostic.report` — the count, and the text for a list.
-/

set_option relaxedAutoImplicit false
set_option autoImplicit false

namespace BuildConst.Diagnostic

/-- The texts that switch the appearance of what follows them. -/
structure Palette where
  severity : Severity → String
  mark : String
  bold : String
  reset : String

/-- The palette that changes nothing. -/
def Palette.plain : Palette where
  severity _ := ""
  mark := ""
  bold := ""
  reset := ""

/-- The palette of a terminal: errors are red, warnings yellow, and marks cyan. -/
def Palette.terminal : Palette where
  severity
    | .error => "\x1b[31m"
    | .warning => "\x1b[33m"
  mark := "\x1b[36m"
  bold := "\x1b[1m"
  reset := "\x1b[0m"

/-- A line below the first one of a diagnostic: a mark and a text. -/
def remarkLine (p : Palette) (mark text : String) : String :=
  "  " ++ p.mark ++ mark ++ p.reset ++ " " ++ text ++ "\n"

/-- The lines of a diagnostic, in the order message, declaration, notes, hints. -/
def format (p : Palette) (d : Diagnostic) : String :=
  p.bold ++ p.severity d.severity ++ d.severity.label ++ p.reset ++ p.bold ++ ": " ++ d.message ++
    p.reset ++ "\n" ++
    String.join (d.declaration.toList.map (remarkLine p "-->")) ++
    String.join (d.notes.map (remarkLine p "= note:")) ++
    String.join (d.hints.map (remarkLine p "= hint:"))

/-- The count of a list of diagnostics. -/
def summary (ds : List Diagnostic) : String :=
  toString (errors ds).length ++ " error(s), " ++ toString (warnings ds).length ++ " warning(s)"

/-- The text that shows a list of diagnostics: each of them and then the count.  Nothing is shown
for the empty list. -/
def report (p : Palette) (ds : List Diagnostic) : String :=
  if ds.isEmpty then ""
  else String.join (ds.map (format p)) ++ summary ds ++ "\n"

end BuildConst.Diagnostic
