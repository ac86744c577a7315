import TaskLoop.Text.Case
import TaskLoop.Text.CharClass
import TaskLoop.Text.CharClass.Category

/-!
Sets of characters as a search pattern writes them.
-/

set_option autoImplicit false

namespace TaskLoop.Text.Regex

/-- Classes of characters that have a name. -/
inductive Named where
  | digit
  | blank
  | word
  | asciiDigit
  | asciiBlank
  | asciiWord
  | ranges (table : List (Nat × Nat))
  | alphabetic

/-- Whether a character belongs to a named class. -/
def Named.holds (named : Named) (c : Char) : Bool :=
  match named with
  | digit => isDecimalDigit c
  | blank => isBlank c
  | word => isWordChar c
  | asciiDigit => c.isDigit
  | asciiBlank => c == ' ' || (9 ≤ c.toNat && c.toNat ≤ 13)
  | asciiWord => c.isAlphanum || c == '_'
  | ranges table => inRanges table c.toNat
  | alphabetic => if c.toNat < 128 then c.isAlpha else inRanges CharClass.alphabetic c.toNat

/-- A set of characters. -/
inductive CharSet where
  | none
  | range (low high : Char)
  | named (class_ : Named)
  | complement (set : CharSet)
  | union (left right : CharSet)
  | both (left right : CharSet)
  | minus (left right : CharSet)
  | either (left right : CharSet)
  | anyCase (set : CharSet)

/-- The characters that differ from a character in letter case only, itself among them. -/
def caseVariants (c : Char) : List Char :=
  let single (mapped : List Char) : Char :=
    match mapped with
    | [d] => d
    | _ => c
  let up := single (upperChar c)
  let down := single (lowerChar c)
  let sources (runs : List (Nat × Nat × Nat × Int)) (target : Char) : List Char :=
    runs.filterMap fun (first, last, step, shift) =>
      let point := ((target.toNat : Int) - shift).toNat
      if first ≤ point && point ≤ last && (point - first) % step == 0 then some (Char.ofNat point)
      else .none
  let ascii := [up.toLower, down.toUpper, single (lowerChar up), single (upperChar down)]
  c :: up :: down :: ascii ++ sources Case.upperRuns up ++ sources Case.lowerRuns down
    ++ sources Case.upperRuns (single (upperChar down))
    ++ sources Case.lowerRuns (single (lowerChar up))

/-- Whether a character belongs to a set. -/
def CharSet.holds : CharSet → Char → Bool
  | none, _ => false
  | range low high, c => low ≤ c && c ≤ high
  | named class_, c => class_.holds c
  | complement set, c => !set.holds c
  | union left right, c => left.holds c || right.holds c
  | both left right, c => left.holds c && right.holds c
  | minus left right, c => left.holds c && !right.holds c
  | either left right, c => left.holds c != right.holds c
  | anyCase set, c => (caseVariants c).any set.holds

/-- About how many bytes a set takes in the automaton of a pattern. -/
def CharSet.weight : CharSet → Nat
  | none => 32
  | range _ high => 32 * high.utf8Size
  | named class_ =>
    match class_ with
    | .digit => 6000
    | .blank => 1000
    | .word | .alphabetic => 55000
    | .asciiDigit | .asciiBlank | .asciiWord => 64
    | .ranges table => 100 * table.length
  | complement set => set.weight + 500
  | union left right | both left right | minus left right | either left right =>
    left.weight + right.weight
  | anyCase set => set.weight + 32

/-- The set of one character. -/
def CharSet.only (c : Char) : CharSet := .range c c

end TaskLoop.Text.Regex
