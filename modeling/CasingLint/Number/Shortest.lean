import CasingLint.Number.Binary64

/-!
# Decimal text of binary numbers

A number is written with the fewest significant digits that read back as the same
number, and among those with the ones nearest to it.  The digits are found on
decimal grids of growing fineness: on each grid only the two neighbours of the
number are tried, by reading them back.

Numbers from one ten-thousandth up to ten to the sixteenth are written
positionally and always with a point, the others with an exponent of at least two
digits.
-/

namespace CasingLint.Number

/-- A quotient times a power of ten, as a new quotient. -/
def scaleDecimal (numerator denominator : Nat) (power : Int) : Nat × Nat :=
  if power < 0 then (numerator, denominator * powerOfTen power.natAbs)
  else (numerator * powerOfTen power.natAbs, denominator)

/-- The binary number nearest to `± digits · 10 ^ power`. -/
def Binary64.ofDecimal (negative : Bool) (digits : Nat) (power : Int) : Binary64 :=
  let (numerator, denominator) := scaleDecimal digits 1 power
  .ofRatio negative numerator denominator

/-- The number of decimal digits before the point of a quotient; zero or less below one tenth. -/
def pointPosition (numerator denominator : Nat) : Int :=
  let guess : Int :=
    ((Nat.toDigits 10 numerator).length : Int) - ((Nat.toDigits 10 denominator).length : Int)
  let (scaled, unit) := scaleDecimal numerator denominator (-guess)
  if unit ≤ scaled then guess + 1 else guess

/-- The better of the two neighbours on the grid of `count` digits that read back as the number. -/
def digitsOfLength? (mantissa : Nat) (exponent : Int) (point : Int) (count : Nat) : Option Nat :=
  let (numerator, denominator) := Binary64.ratio mantissa exponent
  let power := (count : Int) - point
  let (scaled, unit) := scaleDecimal numerator denominator power
  let below := scaled / unit
  let reads (digits : Nat) : Bool :=
    Binary64.ofDecimal false digits (-power) == .finite false mantissa exponent
  let nearer := roundDiv scaled unit
  let farther := if nearer = below then below + 1 else below
  if reads nearer then some nearer else if reads farther then some farther else none

/-- The shortest decimal of a positive number: its digits and the position of the point. -/
def shortestDigits (mantissa : Nat) (exponent : Int) : List Char × Int :=
  let (numerator, denominator) := Binary64.ratio mantissa exponent
  let point := pointPosition numerator denominator
  let counts := (List.range 17).map (· + 1)
  match counts.findSome? fun count =>
      (digitsOfLength? mantissa exponent point count).map (count, ·) with
  | none => ([], point)
  | some (count, digits) =>
    let written := Nat.toDigits 10 digits
    let shifted := if written.length = count + 1 then point + 1 else point
    ((written.reverse.dropWhile (· == '0')).reverse, shifted)

/-- Digits with the point at `point`, positional or with an exponent. -/
def layoutDigits (digits : List Char) (point : Int) : List Char :=
  if -4 < point ∧ point ≤ 16 then
    if point ≤ 0 then
      ['0', '.'] ++ List.replicate point.natAbs '0' ++ digits
    else
      let size := point.natAbs
      let whole := digits.take size ++ List.replicate (size - digits.length) '0'
      let part := digits.drop size
      whole ++ ['.'] ++ (if part.isEmpty then ['0'] else part)
  else
    let power := point - 1
    let magnitude := Nat.toDigits 10 power.natAbs
    let padded := List.replicate (2 - magnitude.length) '0' ++ magnitude
    let fraction := match digits.drop 1 with
      | [] => []
      | part => '.' :: part
    digits.take 1 ++ fraction ++ ['e', if power < 0 then '-' else '+'] ++ padded

/-- The text of a binary number. -/
def Binary64.text : Binary64 → String
  | .nan => "nan"
  | .infinite negative => if negative then "-inf" else "inf"
  | .finite negative mantissa exponent =>
    let sign := if negative then ['-'] else []
    if mantissa = 0 then String.ofList (sign ++ ['0', '.', '0'])
    else
      let (digits, point) := shortestDigits mantissa exponent
      String.ofList (sign ++ layoutDigits digits point)

/-- The value of a text of decimal digits. -/
def readDigits? (text : List Char) : Option Nat :=
  if text.isEmpty || !text.all Char.isDigit then none
  else some (text.foldl (fun total digit => 10 * total + (digit.toNat - '0'.toNat)) 0)

/-- The value of a text of decimal digits with an optional sign. -/
def readSigned? : List Char → Option Int
  | '-' :: digits => (readDigits? digits).map fun total => -(total : Int)
  | '+' :: digits => (readDigits? digits).map fun total => (total : Int)
  | digits => (readDigits? digits).map fun total => (total : Int)

/-- Reads the size of a number written positionally or with an exponent. -/
def readSize? (negative : Bool) (text : List Char) : Option Binary64 := do
  let isMark (character : Char) : Bool := character == 'e' || character == 'E'
  let significand := text.takeWhile (!isMark ·)
  let power ← match text.dropWhile (!isMark ·) with
    | [] => some 0
    | _ :: written => readSigned? written
  let whole := significand.takeWhile (· != '.')
  let part := (significand.dropWhile (· != '.')).drop 1
  let digits ← readDigits? (whole ++ part)
  some (.ofDecimal negative digits (power - part.length))

/-- Reads the text of a number: the inverse of `Binary64.text` on every text that it writes. -/
def Binary64.ofText? (text : String) : Option Binary64 :=
  let (negative, size) := match text.toList with
    | '-' :: rest => (true, rest)
    | rest => (false, rest)
  if size = ['n', 'a', 'n'] then some .nan
  else if size = ['i', 'n', 'f'] then some (.infinite negative)
  else readSize? negative size

end CasingLint.Number
