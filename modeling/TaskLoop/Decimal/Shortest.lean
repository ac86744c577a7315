import TaskLoop.Decimal.Binary

/-!
The shortest decimal that reads back as a given number, and the ways this library writes it; and
numbers with a fixed count of decimal places, for which the exact value is rounded, a half to the
even neighbour.
-/

set_option autoImplicit false

namespace TaskLoop.Decimal

/-- A decimal `digits · 10^exponent`. -/
structure Scaled where
  digits : Nat
  exponent : Int
  deriving DecidableEq, Repr

/-- The fraction `numerator / denominator · 10^shift`. -/
def scaleDecimal (numerator denominator : Nat) (shift : Int) : Nat × Nat :=
  if 0 ≤ shift then (numerator * powerOfTen shift.toNat, denominator)
  else (numerator, denominator * powerOfTen (-shift).toNat)

/-- How many decimal digits the number has. -/
def digitCount (n : Nat) : Nat := (Nat.toDigits 10 n).length

/-- The decimal exponent of a positive fraction's leading digit, with a bound on how many leading
zeros are tried. -/
def leadingExponent (numerator denominator : Nat) : Nat → Int
  | 0 => 0
  | tries + 1 =>
    if denominator ≤ numerator then (digitCount (numerator / denominator) : Int) - 1
    else leadingExponent (numerator * 10) denominator tries - 1

/-- The number `mantissa · 2^exponent` with the gaps to its neighbours halved: the value and both
ends of the interval that rounds to it, as numerators over one denominator. -/
structure Interval where
  low : Nat
  value : Nat
  high : Nat
  denominator : Nat
  closed : Bool

/-- The interval of the fractions that round to `mantissa · 2^exponent`. Its ends belong to it
when the mantissa is even; below a power of two the gap is half as wide. -/
def Interval.of (mantissa : Nat) (exponent : Int) : Interval :=
  let narrow := mantissa == powerOfTwo 52 && exponent != -1074
  let scaled := scaleBinary 1 4 exponent
  { low := (4 * mantissa - if narrow then 1 else 2) * scaled.1
    value := 4 * mantissa * scaled.1
    high := (4 * mantissa + 2) * scaled.1
    denominator := scaled.2
    closed := mantissa % 2 == 0 }

/-- Whether a decimal lies in the interval. -/
def Interval.holds (interval : Interval) (decimal : Scaled) : Bool :=
  let point := scaleDecimal decimal.digits 1 decimal.exponent
  let place := point.1 * interval.denominator
  let low := interval.low * point.2
  let high := interval.high * point.2
  if interval.closed then low ≤ place && place ≤ high else low < place && place < high

/-- The decimals with `count` digits next to the value, below and above, nearer first; of two as
near the one with the even last digit. -/
def Interval.neighbours (interval : Interval) (leading : Int) (count : Nat) : List Scaled :=
  let exponent := leading - count + 1
  let point := scaleDecimal interval.value interval.denominator (-exponent)
  let below := point.1 / point.2
  let twice := 2 * (point.1 % point.2)
  let lower : Scaled := ⟨below, exponent⟩
  let upper : Scaled := ⟨below + 1, exponent⟩
  if twice < point.2 || (twice == point.2 && below % 2 == 0) then [lower, upper]
  else [upper, lower]

/-- The first grid of decimals, coarsest first, that has a point in the interval. -/
def Interval.shortestFrom (interval : Interval) (leading : Int) : Nat → Nat → Scaled
  | _, 0 => ⟨0, 0⟩
  | count, tries + 1 =>
    match (interval.neighbours leading count).find? interval.holds with
    | some decimal => decimal
    | none => interval.shortestFrom leading (count + 1) tries

/-- The decimal without zeros at its end. -/
def Scaled.trimZeros : Nat → Scaled → Scaled
  | 0, decimal => decimal
  | tries + 1, decimal =>
    if decimal.digits % 10 == 0 && decimal.digits != 0 then
      trimZeros tries ⟨decimal.digits / 10, decimal.exponent + 1⟩
    else decimal

/-- The decimal with the fewest digits that reads back as `mantissa · 2^exponent`. -/
def shortest (mantissa : Nat) (exponent : Int) : Scaled :=
  if mantissa == 0 then ⟨0, 0⟩
  else
    let interval := Interval.of mantissa exponent
    let leading := leadingExponent interval.value interval.denominator 400
    (interval.shortestFrom leading 1 17).trimZeros 400

/-- The decimal digits of a natural number. -/
def digitsOf (n : Nat) : List Char := Nat.toDigits 10 n

/-- The decimal digits of an integer. -/
def integerText (n : Int) : List Char :=
  if n < 0 then '-' :: digitsOf n.natAbs else digitsOf n.natAbs

/-- A decimal in positional notation, always with a point and a digit after it. -/
def Scaled.positional (decimal : Scaled) : List Char :=
  let digits := digitsOf decimal.digits
  if 0 ≤ decimal.exponent then
    digits ++ List.replicate decimal.exponent.toNat '0' ++ ['.', '0']
  else
    let places := (-decimal.exponent).toNat
    let padded := List.replicate (places + 1 - digits.length) '0' ++ digits
    padded.take (padded.length - places) ++ '.' :: padded.drop (padded.length - places)

/-- A decimal in scientific notation, the exponent with its sign. -/
def Scaled.scientific (decimal : Scaled) : List Char :=
  let digits := digitsOf decimal.digits
  let leading : Int := decimal.exponent + digits.length - 1
  let fraction := if digits.length ≤ 1 then [] else '.' :: digits.drop 1
  digits.take 1 ++ fraction ++ ['e', if leading < 0 then '-' else '+'] ++ digitsOf leading.natAbs

/-- Numbers from a hundred-thousandth up to 10^16 are written positionally, all others in
scientific notation, both with the fewest digits that read back; what is not finite has no
text. -/
def text? (x : Float) : Option (List Char) :=
  match Binary.ofFloat x with
  | .finite negative mantissa exponent =>
    let decimal := shortest mantissa exponent
    let leading : Int := decimal.exponent + digitCount decimal.digits - 1
    let body :=
      if mantissa == 0 then ['0', '.', '0']
      else if -5 ≤ leading && leading < 16 then decimal.positional
      else decimal.scientific
    some (if negative then '-' :: body else body)
  | _ => none

/-- The number in positional notation whatever its size, without a point when it is whole. -/
def plainText (x : Float) : List Char :=
  match Binary.ofFloat x with
  | .finite negative mantissa exponent =>
    let body := (shortest mantissa exponent).positional
    let body := if body.drop (body.length - 2) == ['.', '0'] then body.dropLast.dropLast else body
    if negative then '-' :: body else body
  | .infinite negative => if negative then ['-', 'i', 'n', 'f'] else ['i', 'n', 'f']
  | .undefined => ['N', 'a', 'N']

/-! ### Fixed places -/

/-- A natural number of units of the last place, with a point before that many places. -/
def withPlaces (places units : Nat) : List Char :=
  let digits := digitsOf units
  let padded := List.replicate (places + 1 - digits.length) '0' ++ digits
  let whole := padded.take (padded.length - places)
  if places == 0 then whole else whole ++ '.' :: padded.drop (padded.length - places)

/-- The number rounded to a count of places. -/
def fixed (places : Nat) (x : Float) : List Char :=
  match Binary.ofFloat x with
  | .finite negative mantissa exponent =>
    let scaled := scaleBinary (mantissa * powerOfTen places) 1 exponent
    let body := withPlaces places (roundDiv scaled.1 scaled.2)
    if negative then '-' :: body else body
  | .infinite negative => if negative then ['-', 'i', 'n', 'f'] else ['i', 'n', 'f']
  | .undefined => ['N', 'a', 'N']

end TaskLoop.Decimal
