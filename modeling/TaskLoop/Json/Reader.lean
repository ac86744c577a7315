import TaskLoop.Json.Value
import TaskLoop.Text.Hex

/-!
Reading JSON strictly: no trailing commas, no text after the value, no raw control characters in
strings.
-/

set_option autoImplicit false

namespace TaskLoop.Json

/-- The blanks that may stand between tokens. -/
def isJsonBlank (c : Char) : Bool := c == ' ' || c == '\n' || c == '\t' || c == '\r'

/-- The text after its leading blanks. -/
def skipBlanks (text : List Char) : List Char := text.dropWhile isJsonBlank

/-- The value of four hexadecimal digits. -/
def hexWord? (a b c d : Char) : Option Nat := Text.hexNumber? [a, b, c, d]

/-- The character a one-letter escape stands for. -/
def escaped? : Char → Option Char
  | '"' => some '"'
  | '\\' => some '\\'
  | '/' => some '/'
  | 'b' => some '\x08'
  | 'f' => some '\x0c'
  | 'n' => some '\n'
  | 'r' => some '\r'
  | 't' => some '\t'
  | _ => none

/-- Reads the content of a string up to its closing quote, as code points; an escape with a
number counts as that number. -/
def readPoints : List Char → Option (List Nat × List Char)
  | [] => none
  | '"' :: rest => some ([], rest)
  | '\\' :: 'u' :: a :: b :: c :: d :: rest =>
    match hexWord? a b c d with
    | some point => (readPoints rest).map fun (points, rest) => (point :: points, rest)
    | none => none
  | '\\' :: c :: rest =>
    match escaped? c with
    | some meant => (readPoints rest).map fun (points, rest) => (meant.toNat :: points, rest)
    | none => none
  | c :: rest =>
    if c.toNat < 0x20 || c == '\\' then none
    else (readPoints rest).map fun (points, rest) => (c.toNat :: points, rest)

/-- Whether the number is the first half of a surrogate pair. -/
def isLeadingHalf (point : Nat) : Bool := 0xD800 ≤ point && point < 0xDC00

/-- Whether the number is the second half of a surrogate pair. -/
def isTrailingHalf (point : Nat) : Bool := 0xDC00 ≤ point && point < 0xE000

/-- The text of a list of code points, two halves of a surrogate pair making one character. Half
a pair alone makes none. -/
def pairUp? : List Nat → Option (List Char)
  | [] => some []
  | [point] =>
    if isLeadingHalf point || isTrailingHalf point then none else some [Char.ofNat point]
  | point :: next :: rest =>
    if isTrailingHalf point then none
    else if isLeadingHalf point then
      if isTrailingHalf next then
        (pairUp? rest).map
          (Char.ofNat (0x10000 + (point - 0xD800) * 0x400 + (next - 0xDC00)) :: ·)
      else none
    else (pairUp? (next :: rest)).map (Char.ofNat point :: ·)

/-- Reads the content of a string up to its closing quote. The content is missing when some
escape is half of a surrogate pair. -/
def readString (text : List Char) : Option (Option (List Char) × List Char) :=
  (readPoints text).map fun (points, rest) => (pairUp? points, rest)

/-- The digits at the start of a text, at least one. -/
def readDigits (text : List Char) : Option (List Char × List Char) :=
  let digits := text.takeWhile Char.isDigit
  if digits.isEmpty then none else some (digits, text.drop digits.length)

/-- The fraction of a number, if it has one. -/
def readFraction : List Char → Option (List Char × List Char)
  | '.' :: rest => (readDigits rest).map fun (digits, rest) => ('.' :: digits, rest)
  | rest => some ([], rest)

/-- The exponent of a number, if it has one. -/
def readExponent : List Char → Option (List Char × List Char)
  | e :: rest =>
    if e == 'e' || e == 'E' then
      match rest with
      | '+' :: rest => (readDigits rest).map fun (digits, rest) => (e :: '+' :: digits, rest)
      | '-' :: rest => (readDigits rest).map fun (digits, rest) => (e :: '-' :: digits, rest)
      | rest => (readDigits rest).map fun (digits, rest) => (e :: digits, rest)
    else some ([], e :: rest)
  | [] => some ([], [])

/-- Reads a number without its sign. A leading zero stands alone. -/
def readUnsigned (text : List Char) : Option (List Char × List Char) := do
  let (whole, rest) ← readDigits text
  if whole.head? == some '0' && whole.length != 1 then none
  else
    let (fraction, rest) ← readFraction rest
    let (exponent, rest) ← readExponent rest
    return (whole ++ fraction ++ exponent, rest)

/-- Reads a number. -/
def readNumber : List Char → Option (List Char × List Char)
  | '-' :: rest => (readUnsigned rest).map fun (spelling, rest) => ('-' :: spelling, rest)
  | text => readUnsigned text

mutual

/-- Reads one value; the first argument bounds the steps. -/
def readValue : Nat → List Char → Option (Json × List Char)
  | 0, _ => none
  | steps + 1, text =>
    match skipBlanks text with
    | 'n' :: 'u' :: 'l' :: 'l' :: rest => some (.null, rest)
    | 't' :: 'r' :: 'u' :: 'e' :: rest => some (.bool true, rest)
    | 'f' :: 'a' :: 'l' :: 's' :: 'e' :: rest => some (.bool false, rest)
    | '"' :: rest =>
      (readString rest).map fun (content, rest) =>
        (match content with
          | some text => .string (String.ofList text)
          | none => .unpaired, rest)
    | '[' :: rest =>
      match skipBlanks rest with
      | ']' :: rest => some (.array [], rest)
      | rest => (readItems steps rest).map fun (items, rest) => (.array items, rest)
    | '{' :: rest =>
      match skipBlanks rest with
      | '}' :: rest => some (.object [], rest)
      | rest => (readMembers steps rest).map fun (members, rest) => (.object members, rest)
    | rest => (readNumber rest).map fun (spelling, rest) => (.number spelling, rest)

/-- Reads the items of an array, at least one, and its closing bracket. -/
def readItems : Nat → List Char → Option (List Json × List Char)
  | 0, _ => none
  | steps + 1, text =>
    match readValue steps text with
    | none => none
    | some (item, rest) =>
      match skipBlanks rest with
      | ',' :: rest => (readItems steps rest).map fun (items, rest) => (item :: items, rest)
      | ']' :: rest => some ([item], rest)
      | _ => none

/-- Reads the members of an object, at least one, and its closing brace. -/
def readMembers : Nat → List Char → Option (List (String × Json) × List Char)
  | 0, _ => none
  | steps + 1, text =>
    match skipBlanks text with
    | '"' :: rest =>
      match readString rest with
      | some (some name, rest) =>
        match skipBlanks rest with
        | ':' :: rest =>
          match readValue steps rest with
          | none => none
          | some (value, rest) =>
            match skipBlanks rest with
            | ',' :: rest =>
              (readMembers steps rest).map fun (members, rest) =>
                ((String.ofList name, value) :: members, rest)
            | '}' :: rest => some ([(String.ofList name, value)], rest)
            | _ => none
        | _ => none
      | _ => none
    | _ => none

end

/-- Reads a text that is one JSON value and nothing else. -/
def ofText? (text : List Char) : Option Json :=
  match readValue (2 * text.length + 2) text with
  | some (value, rest) => if (skipBlanks rest).isEmpty then some value else none
  | none => none

end TaskLoop.Json
