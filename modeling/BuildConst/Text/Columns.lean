import BuildConst.Text.Columns.Wide
import BuildConst.Text.Columns.ZeroWidth
import BuildConst.Text.ControlSequence

/-!
# The width of texts

How many columns of a terminal a text takes.  Each character counts on its own, whatever its
neighbours are, and control sequences take no column.

## Main definitions

* `Text.columnsOf` — the width of a character.
* `Text.columns` — the width of a text.
-/

set_option relaxedAutoImplicit false
set_option autoImplicit false

namespace BuildConst.Text

/-- The width of a character in columns.  One Khmer sign is written as three letters. -/
def columnsOf (c : Char) : Nat :=
  if Columns.zeroWidth.contains c then 0
  else if Columns.wide.contains c then 2
  else if c = '\u17d8' then 3
  else 1

/-- The width of a text in columns. -/
def columns (cs : List Char) : Nat :=
  ((shown cs).map columnsOf).foldr (· + ·) 0

end BuildConst.Text
