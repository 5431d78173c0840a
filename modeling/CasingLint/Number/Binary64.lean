/-!
# Binary floating-point numbers

Durations and settings hold numbers in the 64-bit binary format.  A finite one is
kept as sign, mantissa and exponent, so that every operation on it is exact
arithmetic on natural numbers.  `ofRatio` is the one place where rounding happens:
it gives the nearest representable number, and of two equally near ones the one
with the even mantissa.
-/

namespace CasingLint.Number

/-- The nearest natural number to a quotient; a half goes to the even neighbour. -/
def roundDiv (numerator denominator : Nat) : Nat :=
  let quotient := numerator / denominator
  let twice := 2 * (numerator % denominator)
  if twice < denominator then quotient
  else if denominator < twice then quotient + 1
  else if quotient % 2 = 0 then quotient
  else quotient + 1

/-- Two to a power. -/
def powerOfTwo (exponent : Nat) : Nat :=
  Nat.pow 2 exponent

/-- Ten to a power. -/
def powerOfTen (exponent : Nat) : Nat :=
  Nat.pow 10 exponent

/-- A number in the 64-bit binary format; a finite one stands for `± mantissa · 2 ^ exponent`. -/
inductive Binary64 where
  | finite (negative : Bool) (mantissa : Nat) (exponent : Int)
  | infinite (negative : Bool)
  | nan
  deriving DecidableEq, Repr

namespace Binary64

/-- The least exponent of the format. -/
def minExponent : Int := -1074

/-- The greatest exponent of the format. -/
def maxExponent : Int := 971

/-- A quotient divided by a power of two, as a new quotient. -/
def scaleDown (numerator denominator : Nat) (exponent : Int) : Nat × Nat :=
  if exponent < 0 then (numerator * powerOfTwo exponent.natAbs, denominator)
  else (numerator, denominator * powerOfTwo exponent.natAbs)

/--
The exponent at which a positive quotient has a mantissa of 53 binary digits, or
the least exponent there is.
-/
def exponentFor (numerator denominator : Nat) : Int :=
  let guess : Int := (numerator.log2 : Int) - (denominator.log2 : Int) - 53
  let (scaled, unit) := scaleDown numerator denominator guess
  let exact := if unit * powerOfTwo 53 ≤ scaled then guess + 1 else guess
  max exact minExponent

/-- The number nearest to a quotient. -/
def ofRatio (negative : Bool) (numerator denominator : Nat) : Binary64 :=
  if numerator = 0 then
    .finite negative 0 minExponent
  else
    let exponent := exponentFor numerator denominator
    let (scaled, unit) := scaleDown numerator denominator exponent
    let mantissa := roundDiv scaled unit
    let (mantissa, exponent) :=
      if mantissa = powerOfTwo 53 then (powerOfTwo 52, exponent + 1) else (mantissa, exponent)
    if maxExponent < exponent then .infinite negative else .finite negative mantissa exponent

/-- The size of a finite number as a quotient. -/
def ratio (mantissa : Nat) (exponent : Int) : Nat × Nat :=
  if exponent < 0 then (mantissa, powerOfTwo exponent.natAbs)
  else (mantissa * powerOfTwo exponent.natAbs, 1)

/-- Is the number below zero? -/
def isNegative : Binary64 → Bool
  | .finite negative mantissa _ => negative && decide (0 < mantissa)
  | .infinite negative => negative
  | .nan => false

/-- Is the number zero? -/
def isZero : Binary64 → Bool
  | .finite _ mantissa _ => mantissa == 0
  | _ => false

/-- Is the number finite and without a fractional part? -/
def isWhole : Binary64 → Bool
  | .finite _ mantissa exponent =>
    let (numerator, denominator) := ratio mantissa exponent
    numerator % denominator == 0
  | _ => false

/-- Is the number strictly below a natural number? -/
def isBelow (number : Binary64) (bound : Nat) : Bool :=
  match number with
  | .finite negative mantissa exponent =>
    let (numerator, denominator) := ratio mantissa exponent
    if negative && decide (0 < mantissa) then true else decide (numerator < bound * denominator)
  | .infinite negative => negative
  | .nan => false

/-- The number rounded to two decimal places; a half goes to the even neighbour. -/
def toHundredths : Binary64 → Binary64
  | .finite negative mantissa exponent =>
    let (numerator, denominator) := ratio mantissa exponent
    ofRatio negative (roundDiv (numerator * 100) denominator) 100
  | number => number

end Binary64

end CasingLint.Number
