import TaskLoop.Decimal.Power

/-!
The text of identifiers: a number of 128 bits in hexadecimal digits, in groups, with the marks of
a randomly chosen one.
-/

set_option autoImplicit false

namespace TaskLoop.Identifier

/-- The last `count` hexadecimal digits of a number. -/
def digits : Nat → Nat → List Char
  | 0, _ => []
  | count + 1, n => digits count (n / 16) ++ [Nat.digitChar (n % 16)]

/-- The identifier of a number. The fourth version stands before the third group, and one of four
variants before the fourth. -/
def ofNumber (n : Nat) : String :=
  let group (count shift : Nat) : String :=
    String.ofList (digits count (n / powerOfTwo (4 * shift)))
  let variant := String.ofList [Nat.digitChar (8 + n / powerOfTwo 60 % 4)]
  "-".intercalate [group 8 22, group 4 18, "4" ++ group 3 15, variant ++ group 3 12, group 12 0]

end TaskLoop.Identifier
