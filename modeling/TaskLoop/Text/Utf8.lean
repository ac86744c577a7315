/-!
UTF-8: the bytes of a text, and the text of bytes read strictly or with the replacement
character in place of every maximal part that begins no character.
-/

set_option autoImplicit false

namespace TaskLoop.Text.Utf8

/-- The bytes of a text. -/
def encode (text : List Char) : List UInt8 := text.flatMap String.utf8EncodeChar

/-- Reads the bytes a lead byte still owes. The first must lie between `low` and `high`, the
others between 0x80 and 0xBF; a byte outside its range is left unread. -/
def readOwed : Nat → Nat → Nat → Nat → List UInt8 → Option Nat × List UInt8
  | 0, _, _, point, bytes => (some point, bytes)
  | _ + 1, _, _, _, [] => (none, [])
  | owed + 1, low, high, point, byte :: rest =>
    if low ≤ byte.toNat && byte.toNat ≤ high then
      readOwed owed 0x80 0xBF (point * 64 + (byte.toNat - 0x80)) rest
    else (none, byte :: rest)

theorem readOwed_length_le (owed low high point : Nat) (bytes : List UInt8) :
    (readOwed owed low high point bytes).2.length ≤ bytes.length := by
  induction bytes generalizing owed low high point with
  | nil => cases owed <;> simp [readOwed]
  | cons byte rest ih =>
    cases owed with
    | zero => simp [readOwed]
    | succ owed =>
      simp only [readOwed]
      split
      · exact Nat.le_succ_of_le (ih _ _ _ _)
      · exact Nat.le_refl _

/-- The bytes owed after a lead byte, the range of the first of them, and the bits the lead
byte itself carries. -/
def lead? (byte : Nat) : Option (Nat × Nat × Nat × Nat) :=
  if byte < 0x80 then some (0, 0x80, 0xBF, byte)
  else if byte < 0xC2 then none
  else if byte < 0xE0 then some (1, 0x80, 0xBF, byte - 0xC0)
  else if byte == 0xE0 then some (2, 0xA0, 0xBF, 0)
  else if byte == 0xED then some (2, 0x80, 0x9F, 0xD)
  else if byte < 0xF0 then some (2, 0x80, 0xBF, byte - 0xE0)
  else if byte == 0xF0 then some (3, 0x90, 0xBF, 0)
  else if byte < 0xF4 then some (3, 0x80, 0xBF, byte - 0xF0)
  else if byte == 0xF4 then some (3, 0x80, 0x8F, 4)
  else none

/-- Reads one character, or a maximal part that begins none, and leaves the rest. -/
def readChar (byte : UInt8) (rest : List UInt8) : Option Char × List UInt8 :=
  match lead? byte.toNat with
  | none => (none, rest)
  | some (owed, low, high, point) =>
    let read := readOwed owed low high point rest
    (read.1.map Char.ofNat, read.2)

theorem readChar_length_le (byte : UInt8) (rest : List UInt8) :
    (readChar byte rest).2.length ≤ rest.length := by
  unfold readChar
  split
  · exact Nat.le_refl _
  · exact readOwed_length_le _ _ _ _ _

/-- The characters of a byte string, `none` for each maximal part that begins none. -/
def decodeParts : List UInt8 → List (Option Char)
  | [] => []
  | byte :: rest => (readChar byte rest).1 :: decodeParts (readChar byte rest).2
termination_by bytes => bytes.length
decreasing_by exact Nat.lt_succ_of_le (readChar_length_le byte rest)

/-- The text of a byte string that is UTF-8 throughout. -/
def decode? (bytes : List UInt8) : Option (List Char) := (decodeParts bytes).mapM id

/-- The text of a byte string, with U+FFFD for what is not UTF-8. -/
def decodeLossy (bytes : List UInt8) : List Char :=
  (decodeParts bytes).map fun part => part.getD '\uFFFD'

end TaskLoop.Text.Utf8
