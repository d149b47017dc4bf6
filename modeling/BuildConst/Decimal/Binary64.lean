/-!
# Binary floating point numbers

The finite numbers of the 64-bit binary format without their sign, as a mantissa and a power of
two, and the two operations by which a decimal numeral is turned into one: each gives the exact
result rounded to the nearest number of the format, a tie going to the even mantissa.

## Main definitions

* `Binary64` — a number of the format.
* `Binary64.nearest` — the number nearest to a fraction.
* `Binary64.scale` — a whole number times a power of ten, in the steps of a numeral reader.
-/

set_option relaxedAutoImplicit false
set_option autoImplicit false

namespace BuildConst

/-- The number `mantissa * 2 ^ exponent`. -/
structure Binary64 where
  mantissa : Nat
  exponent : Int
deriving DecidableEq, Repr

namespace Binary64

/-- The least exponent of the format. -/
def leastExponent : Int := -1074

/-- The greatest exponent of the format. -/
def greatestExponent : Int := 971

/-- The number zero. -/
def zero : Binary64 := ⟨0, leastExponent⟩

/-- A number as a fraction. -/
def fraction (x : Binary64) : Nat × Nat :=
  if 0 ≤ x.exponent then (x.mantissa * Nat.pow 2 x.exponent.toNat, 1)
  else (x.mantissa, Nat.pow 2 (-x.exponent).toNat)

/-- A fraction divided by a power of two. -/
def unscale (num den : Nat) (exponent : Int) : Nat × Nat :=
  if 0 ≤ exponent then (num, den * Nat.pow 2 exponent.toNat)
  else (num * Nat.pow 2 (-exponent).toNat, den)

/-- A quotient rounded to the nearest whole number, a tie to the even one. -/
def roundQuotient (num den : Nat) : Nat :=
  let quotient := num / den
  let remainder := num % den
  if 2 * remainder < den then quotient
  else if den < 2 * remainder then quotient + 1
  else if quotient % 2 = 0 then quotient
  else quotient + 1

/-- The number nearest to a fraction, or nothing if that is beyond the format. -/
def nearest (num den : Nat) : Option Binary64 :=
  if num = 0 then some zero
  else
    let guess : Int := (num.log2 : Int) - (den.log2 : Int) - 52
    let (n, d) := unscale num den guess
    let exponent := max leastExponent (if n / d < Nat.pow 2 52 then guess - 1 else guess)
    let (n, d) := unscale num den exponent
    let mantissa := roundQuotient n d
    let (mantissa, exponent) :=
      if mantissa = Nat.pow 2 53 then (Nat.pow 2 52, exponent + 1) else (mantissa, exponent)
    if greatestExponent < exponent then none else some ⟨mantissa, exponent⟩

/-- The number nearest to a product. -/
def mul (x y : Binary64) : Option Binary64 :=
  let (a, b) := x.fraction
  let (c, d) := y.fraction
  nearest (a * c) (b * d)

/-- The number nearest to a quotient by a number other than zero. -/
def div (x y : Binary64) : Binary64 :=
  let (a, b) := x.fraction
  let (c, d) := y.fraction
  (nearest (a * d) (b * c)).getD zero

/-- The number nearest to a power of ten that is within the format. -/
def powerOfTen (n : Nat) : Binary64 :=
  (nearest (Nat.pow 10 n) 1).getD zero

/-- The number for the numeral `significand * 10 ^ exponent`, or nothing if it is beyond the format.
The significand is rounded first and the product or quotient after that; quotients by more than the
greatest power of ten are taken in two steps. -/
def scale (significand : Nat) (exponent : Int) : Option Binary64 :=
  let x := (nearest significand 1).getD zero
  if 0 ≤ exponent then
    if exponent ≤ 308 then x.mul (powerOfTen exponent.toNat)
    else if x = zero then some zero
    else none
  else
    let n := (-exponent).toNat
    if n ≤ 308 then some (x.div (powerOfTen n))
    else if n ≤ 616 then some ((x.div (powerOfTen 308)).div (powerOfTen (n - 308)))
    else some zero

end Binary64

end BuildConst
