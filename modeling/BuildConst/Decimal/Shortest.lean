import BuildConst.Decimal.Binary64

/-!
# The shortest decimal form of a floating point number

Of all decimal numerals that are nearer to a number than to its neighbours in the format, the form
shown has the fewest digits, and of those it is the nearest.

## Main definitions

* `Binary64.shortest` — the digits and the power of ten.
* `Binary64.text` — the form that is shown.
-/

set_option relaxedAutoImplicit false
set_option autoImplicit false

namespace BuildConst.Binary64

/-- The fractions between which a numeral is read as a given number, over one denominator: the
lower end, the number itself and the upper end. -/
structure Neighbourhood where
  lower : Nat
  value : Nat
  upper : Nat
  den : Nat
  closed : Bool

/-- The neighbourhood of a number.  Below a power of two the format is twice as dense. -/
def neighbourhood (x : Binary64) : Neighbourhood :=
  let narrow := x.mantissa = Nat.pow 2 52 ∧ leastExponent < x.exponent
  let (scaleUp, den) :=
    if 0 ≤ x.exponent then (Nat.pow 2 x.exponent.toNat, 4)
    else (1, 4 * Nat.pow 2 (-x.exponent).toNat)
  { lower := (4 * x.mantissa - (if narrow then 1 else 2)) * scaleUp
    value := 4 * x.mantissa * scaleUp
    upper := (4 * x.mantissa + 2) * scaleUp
    den
    closed := x.mantissa % 2 = 0 }

/-- Whether the fraction `num / den` lies in a neighbourhood. -/
def Neighbourhood.holds (h : Neighbourhood) (num den : Nat) : Bool :=
  if h.closed then h.lower * den ≤ num * h.den && num * h.den ≤ h.upper * den
  else h.lower * den < num * h.den && num * h.den < h.upper * den

/-- The multiple of a power of ten with a given number of digits that is nearest to the number, if
it lies in the neighbourhood.  The even one of two that are equally near is taken. -/
def onGrid? (h : Neighbourhood) (power : Int) : Option Nat :=
  let (unit, part) :=
    if 0 ≤ power then (Nat.pow 10 power.toNat, 1) else (1, Nat.pow 10 (-power).toNat)
  let num := h.value * part
  let den := h.den * unit
  let below := num / den
  let nearer := roundQuotient num den
  let farther := if nearer = below then below + 1 else below
  if h.holds (nearer * unit) part && 0 < nearer then some nearer
  else if h.holds (farther * unit) part && 0 < farther then some farther
  else none

/-- The first grid that has a point in the neighbourhood, from coarse to fine. -/
def firstGrid (h : Neighbourhood) (power : Int) : Nat → Nat × Int
  | 0 => ((onGrid? h power).getD 0, power)
  | steps + 1 =>
    match onGrid? h power with
    | some digits => (digits, power)
    | none => firstGrid h (power - 1) steps

/-- The digits of the shortest form of a number other than zero, and their power of ten.  The search
begins above the greatest number and ends below the least one. -/
def shortest (x : Binary64) : Nat × Int :=
  firstGrid x.neighbourhood 309 700

/-- The form in which a number is shown: positional if the point is near the digits, with a power of
ten otherwise, which always has a sign. -/
def text (x : Binary64) : String :=
  if x.mantissa = 0 then "0.0"
  else
    let (n, power) := x.shortest
    let digits := Nat.toDigits 10 n
    let point : Int := digits.length + power
    let zeros (k : Int) : List Char := List.replicate k.toNat '0'
    if 0 ≤ power ∧ point ≤ 16 then String.ofList (digits ++ zeros power ++ ['.', '0'])
    else if 0 < point ∧ point ≤ 16 then
      String.ofList (digits.take point.toNat ++ '.' :: digits.drop point.toNat)
    else if -5 < point ∧ point ≤ 0 then
      String.ofList ('0' :: '.' :: zeros (-point) ++ digits)
    else
      let mantissa :=
        match digits with
        | [d] => [d]
        | d :: rest => d :: '.' :: rest
        | [] => []
      let sign := if 1 ≤ point then '+' else '-'
      String.ofList (mantissa ++ ['e', sign]) ++ toString (point - 1).natAbs

end BuildConst.Binary64
