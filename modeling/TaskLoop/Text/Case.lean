import TaskLoop.Text.CharClass
import TaskLoop.Text.Case.Table

/-!
Full case mappings: each character has its own mapping, except that a capital sigma at the end
of a word becomes a final sigma in lower case.
-/

set_option autoImplicit false

namespace TaskLoop.Text

namespace Case

/-- The mapped code point, if some run of the table holds the given one. -/
def inRuns? (runs : List (Nat × Nat × Nat × Int)) (point : Nat) : Option Nat :=
  runs.findSome? fun (first, last, step, shift) =>
    if first ≤ point && point ≤ last && (point - first) % step == 0 then
      some ((point : Int) + shift).toNat
    else none

/-- The mapping of one character by a table of long mappings and a table of runs; a character in
neither stays as it is. -/
def mapChar (long : List (Nat × List Nat)) (runs : List (Nat × Nat × Nat × Int)) (c : Char) :
    List Char :=
  match long.lookup c.toNat with
  | some points => points.map Char.ofNat
  | none => [((inRuns? runs c.toNat).map Char.ofNat).getD c]

end Case

/-- The lower-case mapping of one character. -/
def lowerChar (c : Char) : List Char :=
  if c.toNat < 128 then [c.toLower] else Case.mapChar Case.lowerLong Case.lowerRuns c

/-- The upper-case mapping of one character. -/
def upperChar (c : Char) : List Char :=
  if c.toNat < 128 then [c.toUpper] else Case.mapChar Case.upperLong Case.upperRuns c

/-- Whether the first character that case does not ignore is cased. -/
def casedNext (rest : List Char) : Bool :=
  match rest.dropWhile isCaseIgnorable with
  | [] => false
  | c :: _ => isCased c

/-- Lower case of a text whose earlier characters, last first, are given: a capital sigma after
a cased character and before none is a final sigma. -/
def lowerAfter (before : List Char) : List Char → List Char
  | [] => []
  | c :: rest =>
    (if c == 'Σ' then [if casedNext before && !casedNext rest then 'ς' else 'σ']
      else lowerChar c) ++ lowerAfter (c :: before) rest

/-- The text in lower case. -/
def lower (text : List Char) : List Char := lowerAfter [] text

/-- The text in upper case. -/
def upper (text : List Char) : List Char := text.flatMap upperChar

/-- ASCII letters in lower case, every other character as it is. -/
def lowerAscii (text : List Char) : List Char := text.map Char.toLower

end TaskLoop.Text
