import TaskLoop.Decimal.Binary

/-!
Reading a decimal as the nearest number, and a run of digits as a natural number.
-/

set_option autoImplicit false

namespace TaskLoop.Decimal

/-- The value of a digit character; callers pass digits only. -/
def digitValue (c : Char) : Nat := c.toNat - 48

/-- The natural number a list of digits stands for. -/
def ofDigits (digits : List Char) : Nat :=
  digits.foldl (fun value c => value * 10 + digitValue c) 0

/-- The number nearest to `digits · 10^exponent`. Exponents far beyond the range of numbers are
settled without computing the power. -/
def ofScaled (negative : Bool) (digits : Nat) (digitCount : Nat) (exponent : Int) : Float :=
  if digits == 0 || exponent + digitCount < -400 then nearest negative 0 1
  else if 400 < exponent + digitCount then
    Float.ofBits (if negative then 0xFFF0000000000000 else 0x7FF0000000000000)
  else if 0 ≤ exponent then nearest negative (digits * powerOfTen exponent.toNat) 1
  else nearest negative digits (powerOfTen (-exponent).toNat)

/-- The number nearest to a decimal given by its whole digits, its fraction digits and its
exponent. -/
def ofParts (negative : Bool) (whole fraction : List Char) (exponent : Int) : Float :=
  let digits := whole ++ fraction
  ofScaled negative (ofDigits digits) (digits.dropWhile (· == '0')).length
    (exponent - fraction.length)

/-- A natural number below a bound, written with digits only. -/
def natBelow? (bound : Nat) (text : List Char) : Option Nat :=
  if text.isEmpty || !text.all Char.isDigit then none
  else
    let value := ofDigits text
    if value < bound then some value else none

end TaskLoop.Decimal
