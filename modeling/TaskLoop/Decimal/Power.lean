/-!
Powers of two, which bound numbers of a fixed width, and powers of ten, which move the point of a
decimal.
-/

set_option autoImplicit false

namespace TaskLoop

/-- A power of two. -/
abbrev powerOfTwo (exponent : Nat) : Nat := Nat.pow 2 exponent

/-- A power of ten. -/
abbrev powerOfTen (exponent : Nat) : Nat := Nat.pow 10 exponent

end TaskLoop
