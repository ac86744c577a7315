import TaskLoop.Decimal.Power

/-!
Double-precision numbers as exact fractions: a finite one is `mantissa · 2^exponent` with a sign,
and every fraction has a nearest one, ties going to the even mantissa.
-/

set_option autoImplicit false

namespace TaskLoop.Decimal

/-- What the bits of a double-precision number say. -/
inductive Binary where
  | finite (negative : Bool) (mantissa : Nat) (exponent : Int)
  | infinite (negative : Bool)
  | undefined
  deriving DecidableEq, Repr

/-- Splits the bits of a number into sign, mantissa and exponent. -/
def Binary.ofBits (bits : UInt64) : Binary :=
  let pattern := bits.toNat
  let negative := pattern / powerOfTwo 63 == 1
  let field : Nat := pattern / powerOfTwo 52 % powerOfTwo 11
  let fraction := pattern % powerOfTwo 52
  if field == 2047 then if fraction == 0 then .infinite negative else .undefined
  else if field == 0 then .finite negative fraction (-1074)
  else .finite negative (powerOfTwo 52 + fraction) ((field : Int) - 1075)

/-- What a number is. -/
def Binary.ofFloat (x : Float) : Binary := .ofBits x.toBits

/-- The quotient rounded to the nearest natural number, a half to the even neighbour. -/
def roundDiv (numerator denominator : Nat) : Nat :=
  let quotient := numerator / denominator
  let twice := 2 * (numerator % denominator)
  if twice < denominator || (twice == denominator && quotient % 2 == 0) then quotient
  else quotient + 1

/-- `numerator / denominator · 2^shift` as one fraction. -/
def scaleBinary (numerator denominator : Nat) (shift : Int) : Nat × Nat :=
  if 0 ≤ shift then (numerator * powerOfTwo shift.toNat, denominator)
  else (numerator, denominator * powerOfTwo (-shift).toNat)

/-- The bits of the number nearest to a fraction, without its sign. A fraction past the largest
number becomes the pattern of infinity. -/
def nearestPattern (numerator denominator : Nat) : Nat :=
  if numerator == 0 then 0
  else
    -- The exponent that leaves the quotient below 2^53, or the least one there is.
    let guess : Int := (Nat.log2 numerator : Int) - Nat.log2 denominator - 52
    let tooLarge (exponent : Int) : Bool :=
      let scaled := scaleBinary numerator denominator (-exponent)
      powerOfTwo 53 * scaled.2 ≤ scaled.1
    let tooSmall (exponent : Int) : Bool :=
      let scaled := scaleBinary numerator denominator (-exponent)
      scaled.1 < powerOfTwo 52 * scaled.2
    let exact := if tooLarge guess then guess + 1 else if tooSmall guess then guess - 1 else guess
    let exponent := max exact (-1074)
    let scaled := scaleBinary numerator denominator (-exponent)
    let mantissa := roundDiv scaled.1 scaled.2
    -- A mantissa that rounds up to 2^53 carries into the exponent field by itself.
    let pattern := mantissa + (exponent + 1074).toNat * powerOfTwo 52
    min pattern (2047 * powerOfTwo 52)

/-- The number nearest to a fraction, ties to the even mantissa. -/
def nearest (negative : Bool) (numerator denominator : Nat) : Float :=
  Float.ofBits (UInt64.ofNat (nearestPattern numerator denominator
    + if negative then powerOfTwo 63 else 0))

/-- Whether a number is neither infinite nor undefined. -/
def isFinite (x : Float) : Bool :=
  match Binary.ofFloat x with
  | .finite .. => true
  | _ => false

end TaskLoop.Decimal
