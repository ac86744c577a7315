/-!
Finding a JSON object inside other text by its braces alone.
-/

set_option autoImplicit false

namespace TaskLoop.Json

/-- The shortest start of a text that closes as many braces as are open, beginning with `depth`
open ones. -/
def takeBalanced? : Nat → List Char → Option (List Char)
  | _, [] => none
  | depth, c :: rest =>
    if c == '\x7b' then (takeBalanced? (depth + 1) rest).map (c :: ·)
    else if c == '\x7d' then
      if depth ≤ 1 then some [c] else (takeBalanced? (depth - 1) rest).map (c :: ·)
    else (takeBalanced? depth rest).map (c :: ·)

/-- The first block of balanced braces in a text. -/
def extractObject? (text : List Char) : Option (List Char) :=
  takeBalanced? 0 (text.dropWhile (· != '\x7b'))

end TaskLoop.Json
