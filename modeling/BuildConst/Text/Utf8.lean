/-!
# UTF-8

Texts are written as bytes in UTF-8.  Reading goes through the bytes once, holding the character
that is being read; it stops at the first byte that cannot continue, and says where the character
began and how many of its bytes were good.

## Main definitions

* `Text.Utf8.encode` — the bytes of a text.
* `Text.Utf8.decode` — the text of a list of bytes.
* `Text.Utf8.Fault` — why bytes are no text.
-/

set_option relaxedAutoImplicit false
set_option autoImplicit false

namespace BuildConst.Text.Utf8

/-- The bytes of a text. -/
def encode (s : String) : List UInt8 :=
  s.toList.flatMap String.utf8EncodeChar

/-- Why bytes are no text: from an index on, a number of bytes begin no character, or the bytes end
inside a character. -/
inductive Fault where
  | invalid (index length : Nat)
  | incomplete (index : Nat)
deriving DecidableEq, Repr

/-- The text that describes a fault. -/
def Fault.message : Fault → String
  | .invalid index length =>
    "invalid utf-8 sequence of " ++ toString length ++ " bytes from index " ++ toString index
  | .incomplete index => "incomplete utf-8 byte sequence from index " ++ toString index

/-- A character whose first bytes were read: the bits so far, the number of bytes read and owed,
and the least and greatest value of the next byte. -/
structure Partial where
  bits : Nat
  taken : Nat
  owed : Nat
  low : Nat
  high : Nat
deriving DecidableEq, Repr

/-- The character that begins with a byte from `0x80` on, if there is one.  The bounds on the second
byte leave out longer spellings than needed, the surrogates, and numbers beyond the last
character. -/
def lead? (b : Nat) : Option Partial :=
  if b < 0xC2 then none
  else if b < 0xE0 then some ⟨b - 0xC0, 1, 1, 0x80, 0xBF⟩
  else if b < 0xF0 then
    some ⟨b - 0xE0, 1, 2, if b = 0xE0 then 0xA0 else 0x80, if b = 0xED then 0x9F else 0xBF⟩
  else if b < 0xF5 then
    some ⟨b - 0xF0, 1, 3, if b = 0xF0 then 0x90 else 0x80, if b = 0xF4 then 0x8F else 0xBF⟩
  else none

/-- Read the characters of a list of bytes.  The character that is being read, if any, began at
`start`. -/
def decodeFrom (start : Nat) : Option Partial → List UInt8 → Except Fault (List Char)
  | none, [] => .ok []
  | none, b :: rest =>
    let n := b.toNat
    if n < 0x80 then (decodeFrom (start + 1) none rest).map (Char.ofNat n :: ·)
    else
      match lead? n with
      | some p => decodeFrom start (some p) rest
      | none => .error (.invalid start 1)
  | some _, [] => .error (.incomplete start)
  | some p, b :: rest =>
    let n := b.toNat
    if p.low ≤ n ∧ n ≤ p.high then
      let bits := 64 * p.bits + (n - 0x80)
      if p.owed = 1 then
        (decodeFrom (start + p.taken + 1) none rest).map (Char.ofNat bits :: ·)
      else decodeFrom start (some ⟨bits, p.taken + 1, p.owed - 1, 0x80, 0xBF⟩) rest
    else .error (.invalid start p.taken)

/-- The text of a list of bytes. -/
def decode (bytes : List UInt8) : Except Fault String :=
  (decodeFrom 0 none bytes).map String.ofList

end BuildConst.Text.Utf8
