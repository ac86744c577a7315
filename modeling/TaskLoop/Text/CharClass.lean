import TaskLoop.Text.CharClass.Table

/-!
Classes of characters by Unicode properties: blanks, alphanumeric characters, word characters,
decimal digits, and the two classes the final-sigma rule asks about.
-/

set_option autoImplicit false

namespace TaskLoop.Text

/-- Whether a code point lies in one of the ranges of a table. -/
def inRanges (table : List (Nat × Nat)) (point : Nat) : Bool :=
  table.any fun range => range.1 ≤ point && point ≤ range.2

/-- Characters with the Unicode property White_Space. -/
def isBlank (c : Char) : Bool :=
  let point := c.toNat
  (9 ≤ point && point ≤ 13) || point == 0x20 || point == 0x85 || point == 0xA0
    || point == 0x1680 || (0x2000 ≤ point && point ≤ 0x200A) || point == 0x2028
    || point == 0x2029 || point == 0x202F || point == 0x205F || point == 0x3000

/-- Every blank of ASCII is a blank. -/
theorem isBlank_of_isWhitespace (c : Char) (white : c.isWhitespace = true) : isBlank c = true := by
  simp only [Char.isWhitespace, Bool.or_eq_true, decide_eq_true_eq] at white
  rcases white with ((rfl | rfl) | rfl) | rfl <;> decide

/-- Characters that are Alphabetic, or numbers of any kind (Nd, Nl, No). -/
def isAlphanumeric (c : Char) : Bool :=
  if c.toNat < 128 then c.isAlphanum
  else inRanges CharClass.alphabetic c.toNat || inRanges CharClass.decimalDigit c.toNat
    || inRanges CharClass.otherNumber c.toNat

/-- Characters of the Unicode category Nd. -/
def isDecimalDigit (c : Char) : Bool :=
  if c.toNat < 128 then c.isDigit else inRanges CharClass.decimalDigit c.toNat

/-- Characters of a word in a search pattern: Alphabetic, marks, decimal digits, connectors. -/
def isWordChar (c : Char) : Bool :=
  if c.toNat < 128 then c.isAlphanum || c == '_'
  else inRanges CharClass.alphabetic c.toNat || inRanges CharClass.mark c.toNat
    || inRanges CharClass.decimalDigit c.toNat || inRanges CharClass.connector c.toNat

/-- Characters with the Unicode property Cased. -/
def isCased (c : Char) : Bool :=
  if c.toNat < 128 then c.isAlpha else inRanges CharClass.cased c.toNat

/-- Characters with the Unicode property Case_Ignorable. -/
def isCaseIgnorable (c : Char) : Bool :=
  inRanges CharClass.caseIgnorable c.toNat

end TaskLoop.Text
