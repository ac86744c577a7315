/-!
Numbers in hexadecimal digits, and the characters that numbers stand for.
-/

set_option autoImplicit false

namespace TaskLoop.Text

/-- The value of a hexadecimal digit. -/
def hexDigit? (c : Char) : Option Nat :=
  if c.isDigit then some (c.toNat - 48)
  else if 'a' ≤ c && c ≤ 'f' then some (c.toNat - 87)
  else if 'A' ≤ c && c ≤ 'F' then some (c.toNat - 55)
  else none

/-- The number of a run of hexadecimal digits. -/
def hexNumber? (digits : List Char) : Option Nat :=
  if digits.isEmpty then none
  else digits.foldlM (fun value c => (hexDigit? c).map (value * 16 + ·)) 0

/-- The bytes of pairs of hexadecimal digits, as far as they are such pairs. -/
def hexBytes : List Char → List UInt8
  | high :: low :: rest =>
    match hexDigit? high, hexDigit? low with
    | some high, some low => UInt8.ofNat (16 * high + low) :: hexBytes rest
    | _, _ => []
  | _ => []

/-- The character of a number, if there is one. -/
def charOf? (point : Nat) : Option Char :=
  if point < 0xD800 || (0xE000 ≤ point && point < 0x110000) then some (Char.ofNat point) else none

end TaskLoop.Text
