import BuildConst.Text.Unprintable

/-!
# Quoted texts

A quoted text stands between double quotes.  Inside, every character that has no visible form is
written as an escape: five of them by a letter or sign after a backslash, the others by their
number in lower-case hexadecimal digits between braces.

## Main definitions

* `Text.isPrintable` — the characters that stand for themselves.
* `Text.escape` — the written form of one character.
* `Text.quote` — the written form of a whole text.
-/

set_option relaxedAutoImplicit false
set_option autoImplicit false

namespace BuildConst.Text

/-- A character with a visible form of its own, or the space. -/
def isPrintable (c : Char) : Bool :=
  !Unprintable.chars.contains c

/-- The hexadecimal escape of a character: its number in lower-case digits, without padding,
between braces after a backslash and the letter `u`. -/
def hexEscape (c : Char) : List Char :=
  '\\' :: 'u' :: '{' :: Nat.toDigits 16 c.toNat ++ ['}']

/-- The written form of one character inside quotes. -/
def escape (c : Char) : List Char :=
  if c = '\x00' then ['\\', '0']
  else if c = '\t' then ['\\', 't']
  else if c = '\n' then ['\\', 'n']
  else if c = '\r' then ['\\', 'r']
  else if c = '"' then ['\\', '"']
  else if c = '\\' then ['\\', '\\']
  else if isPrintable c then [c]
  else hexEscape c

/-- The written form of a list of characters: each is escaped on its own, and the whole stands
between quotes. -/
def quoteChars (cs : List Char) : List Char :=
  '"' :: cs.flatMap escape ++ ['"']

/-- The written form of a text. -/
def quote (s : String) : String :=
  String.ofList (quoteChars s.toList)

end BuildConst.Text
