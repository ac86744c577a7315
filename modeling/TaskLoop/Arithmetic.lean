import TaskLoop.Json.Decode

/-!
The arithmetic that averages, rates and scores are computed in. Everything that computes one is
written for any such arithmetic; programs run it on double-precision numbers, and exact laws are
about the same definitions on fractions.
-/

set_option autoImplicit false

namespace TaskLoop

/-- Numbers with the four operations, comparisons, and whole and decimal constants. -/
class Arithmetic (α : Type) extends Add α, Sub α, Mul α, Div α where
  /-- The number of a count. -/
  ofNat : Nat → α
  /-- The number nearest to a quotient of counts, for decimal constants. -/
  quotient : Nat → Nat → α
  /-- The strict order. -/
  less : α → α → Bool
  /-- The order with equality. -/
  atMost : α → α → Bool
  /-- Whether this is a number, and not beyond all numbers. -/
  isFinite : α → Bool
  /-- The least integer not below, kept within 64 bits. -/
  ceiling : α → Int
  /-- The number as it stands in a file. -/
  toJson : α → Json
  /-- Reads a number of a file. -/
  ofJson? : Json → Option α

namespace Arithmetic

variable {α : Type} [Arithmetic α]

/-- Nought. -/
def zero : α := ofNat 0

/-- One. -/
def one : α := ofNat 1

/-- The sum of a list from left to right. -/
def sum (values : List α) : α := values.foldl (· + ·) zero

/-- The smaller of two numbers, the first when they are equal. -/
def least (left right : α) : α := if less right left then right else left

/-- The larger of two numbers, the first when they are equal. -/
def most (left right : α) : α := if less left right then right else left

end Arithmetic

/-- The least integer not below a double-precision number, kept within 64 bits; nought for what
is no number. -/
def Decimal.ceiling (x : Float) : Int :=
  let bound : Int := powerOfTwo 63
  let clamp (value : Int) : Int := max (-bound) (min value (bound - 1))
  match Decimal.Binary.ofFloat x with
  | .undefined => 0
  | .infinite negative => if negative then -bound else bound - 1
  | .finite negative mantissa exponent =>
    let scaled := Decimal.scaleBinary mantissa 1 exponent
    let below : Int := scaled.1 / scaled.2
    if negative then clamp (-below)
    else clamp (if scaled.1 % scaled.2 == 0 then below else below + 1)

instance : Arithmetic Float where
  ofNat n := Decimal.nearest false n 1
  quotient numerator denominator := Decimal.nearest false numerator denominator
  less left right := left < right
  atMost left right := left ≤ right
  isFinite := Decimal.isFinite
  ceiling := Decimal.ceiling
  toJson := Json.ofFloat
  ofJson? := Json.float?

end TaskLoop
