import BuildConst.Json.Fault

/-!
# Reading numerals

A numeral without a fraction and an exponent is an integer if it fits 64 bits.  Any other one is a
floating point number: its digits are taken as long as they fit 64 bits, and then scaled by a power
of ten.

## Main definitions

* `Json.readNumeral` — the number that a text begins with, after a minus sign if there was one.
-/

set_option relaxedAutoImplicit false
set_option autoImplicit false

namespace BuildConst.Json

/-- The greatest significand of a numeral. -/
def greatestSignificand : Nat := Nat.pow 2 64 - 1

/-- The greatest exponent that is written out in digits. -/
def greatestWrittenExponent : Nat := Nat.pow 2 31 - 1

/-- Take digits as long as the number that they continue does not exceed a limit.  The result is
the number, the count of the digits taken and the rest. -/
def gather (limit : Nat) (n : Nat) : List Char → Nat × Nat × List Char
  | [] => (n, 0, [])
  | c :: rest =>
    let next := 10 * n + (c.toNat - '0'.toNat)
    if c.isDigit ∧ next ≤ limit then
      let (m, count, left) := gather limit next rest
      (m, count + 1, left)
    else (n, 0, c :: rest)

/-- Whether a text begins with a digit. -/
def startsWithDigit (cs : List Char) : Bool :=
  cs.head?.any Char.isDigit

/-- The floating point number of a significand and an exponent. -/
def scaled (negative : Bool) (significand : Nat) (exponent : Int) (rest : List Char) :
    Except Fault (Number × List Char) :=
  match Binary64.scale significand exponent with
  | some x => .ok (.binary negative x, rest)
  | none => .error (.before .numberOutOfRange rest)

/-- The number of a numeral whose exponent sign and digits are next. -/
def readExponent (negative : Bool) (significand : Nat) (exponent : Int) (cs : List Char) :
    Except Fault (Number × List Char) :=
  let (down, digits) :=
    match cs with
    | '+' :: rest => (false, rest)
    | '-' :: rest => (true, rest)
    | _ => (false, cs)
  match digits with
  | [] => .error (.before .endInValue [])
  | c :: _ =>
    if c.isDigit then
      let (n, _, rest) := gather greatestWrittenExponent 0 digits
      if startsWithDigit rest then
        -- The exponent alone decides, unless all digits before it are zero.
        if significand ≠ 0 ∧ !down then .error (.inside .numberOutOfRange rest)
        else .ok (.binary negative .zero, rest.dropWhile Char.isDigit)
      else scaled negative significand (if down then exponent - n else exponent + n) rest
    else .error (.inside .invalidNumber digits)

/-- The number of a numeral whose digits after the point are next. -/
def readFraction (negative : Bool) (significand : Nat) (exponent : Int) (cs : List Char) :
    Except Fault (Number × List Char) :=
  if startsWithDigit cs then
    let (n, count, rest) := gather greatestSignificand significand cs
    let rest := rest.dropWhile Char.isDigit
    match rest with
    | 'e' :: after | 'E' :: after => readExponent negative n (exponent - count) after
    | _ => scaled negative n (exponent - count) rest
  else
    match cs with
    | [] => .error (.before .endInValue [])
    | _ => .error (.inside .invalidNumber cs)

/-- The integer of a significand, or the nearest number if it does not fit 64 bits with its sign. -/
def wholeNumber (negative : Bool) (significand : Nat) : Number :=
  if !negative then .whole significand
  else if significand = 0 ∨ Nat.pow 2 63 < significand then
    .binary true ((Binary64.nearest significand 1).getD .zero)
  else .whole (-(significand : Int))

/-- The number of a numeral whose digits before the point were read.  Digits that did not fit the
significand count as a power of ten. -/
def readRest (negative : Bool) (significand : Nat) (cs : List Char) :
    Except Fault (Number × List Char) :=
  let extra := (cs.takeWhile Char.isDigit).length
  match cs.dropWhile Char.isDigit with
  | '.' :: after => readFraction negative significand extra after
  | 'e' :: after | 'E' :: after => readExponent negative significand extra after
  | rest =>
    if extra = 0 then .ok (wholeNumber negative significand, rest)
    else scaled negative significand extra rest

/-- The number that a text begins with, after its minus sign if it is negative. -/
def readNumeral (negative : Bool) (cs : List Char) : Except Fault (Number × List Char) :=
  match cs with
  | [] => .error (.before .endInValue [])
  | '0' :: rest =>
    if startsWithDigit rest then .error (.inside .invalidNumber rest)
    else readRest negative 0 rest
  | c :: _ =>
    if c.isDigit then
      let (n, _, rest) := gather greatestSignificand 0 cs
      readRest negative n rest
    else .error (.inside .invalidNumber cs)

end BuildConst.Json
