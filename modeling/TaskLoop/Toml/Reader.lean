import TaskLoop.Text.Hex
import TaskLoop.Text.Words
import TaskLoop.Toml.Value

/-!
Reading a settings document line by line: headings, keys and values.
-/

set_option autoImplicit false

namespace TaskLoop.Toml

/-- Control characters that may not stand in a document as they are. -/
def isForbidden (c : Char) : Bool := (c.toNat < 0x20 && c != '\t') || c.toNat == 0x7f

/-- The text after blanks. -/
def skipBlanks (text : List Char) : List Char := text.dropWhile fun c => c == ' ' || c == '\t'

/-- The text after the end of a line. -/
def endLine? : List Char → Option (List Char)
  | '\n' :: rest => some rest
  | '\r' :: '\n' :: rest => some rest
  | _ => none

/-- The text after blanks, comments and ends of lines; the count bounds the lines. -/
def skipGaps : Nat → List Char → List Char
  | 0, text => text
  | lines + 1, text =>
    match skipBlanks text with
    | '#' :: rest => skipGaps lines (rest.dropWhile (!isForbidden ·))
    | text =>
      match endLine? text with
      | some rest => skipGaps lines rest
      | none => text

/-! ### Strings -/

/-- Reads a numeric escape of a fixed width. -/
def readNumeric (width : Nat) (text : List Char) : Option (Char × List Char) :=
  if text.length < width then none
  else do return (← Text.charOf? (← Text.hexNumber? (text.take width)), text.drop width)

/-- Reads what follows the backslash of an escape. -/
def readEscape : List Char → Option (Char × List Char)
  | 'b' :: rest => some ('\x08', rest)
  | 't' :: rest => some ('\t', rest)
  | 'n' :: rest => some ('\n', rest)
  | 'f' :: rest => some ('\x0c', rest)
  | 'r' :: rest => some ('\r', rest)
  | 'e' :: rest => some ('\x1b', rest)
  | '"' :: rest => some ('"', rest)
  | '\\' :: rest => some ('\\', rest)
  | 'x' :: rest => readNumeric 2 rest
  | 'u' :: rest => readNumeric 4 rest
  | 'U' :: rest => readNumeric 8 rest
  | _ => none

/-- Reads the rest of a string on one line with escapes. -/
def readBasic : Nat → List Char → Option (List Char × List Char)
  | 0, _ => none
  | fuel + 1, text =>
    match text with
    | '"' :: rest => some ([], rest)
    | '\\' :: rest => do
      let (c, rest) ← readEscape rest
      let (content, rest) ← readBasic fuel rest
      return (c :: content, rest)
    | c :: rest =>
      if isForbidden c then none
      else (readBasic fuel rest).map fun (content, rest) => (c :: content, rest)
    | [] => none

/-- Reads the rest of a string on one line without escapes. -/
def readLiteral : List Char → Option (List Char × List Char)
  | '\'' :: rest => some ([], rest)
  | c :: rest =>
    if isForbidden c then none
    else (readLiteral rest).map fun (content, rest) => (c :: content, rest)
  | [] => none

/-- Ends a string of several lines at a run of quotes, of which up to two belong to its
content. -/
def closeQuotes (quote : Char) (text : List Char) : Option (List Char × List Char) :=
  let run := (text.takeWhile (· == quote)).length
  if run < 3 then none
  else
    let inner := min (run - 3) 2
    some (List.replicate inner quote, text.drop (inner + 3))

/-- The text after a line end that a backslash takes out, and all blanks behind it. -/
def joinLines? (text : List Char) : Option (List Char) :=
  (endLine? (skipBlanks text)).map fun rest =>
    rest.dropWhile fun c => c == ' ' || c == '\t' || c == '\n' || c == '\r'

/-- Reads the rest of a string of several lines, with escapes if they are asked for. -/
def readLong (quote : Char) (escapes : Bool) : Nat → List Char → Option (List Char × List Char)
  | 0, _ => none
  | fuel + 1, text =>
    match closeQuotes quote text with
    | some result => some result
    | none =>
      match text with
      | [] => none
      | c :: rest =>
        if c == '\\' && escapes then
          match joinLines? rest with
          | some rest => readLong quote escapes fuel rest
          | none => do
            let (c, rest) ← readEscape rest
            let (content, rest) ← readLong quote escapes fuel rest
            return (c :: content, rest)
        else if c == '\n' || (c == '\r' && rest.head? == some '\n') || !isForbidden c then
          (readLong quote escapes fuel rest).map fun (content, rest) => (c :: content, rest)
        else none

/-- The text without one line end at its start. -/
def dropLineEnd (text : List Char) : List Char := (endLine? text).getD text

/-- Reads a string of any form. -/
def readString (text : List Char) : Option (String × List Char) :=
  let content : Option (List Char × List Char) :=
    match text with
    | '"' :: '"' :: '"' :: rest => readLong '"' true (text.length + 1) (dropLineEnd rest)
    | '\'' :: '\'' :: '\'' :: rest => readLong '\'' false (text.length + 1) (dropLineEnd rest)
    | '"' :: rest => readBasic (text.length + 1) rest
    | '\'' :: rest => readLiteral rest
    | _ => none
  content.map fun (content, rest) => (String.ofList content, rest)

/-! ### Keys -/

/-- Characters of a key without quotes. -/
def isBare (c : Char) : Bool := c.isAlphanum || c == '_' || c == '-'

/-- Reads one part of a key. -/
def readName (text : List Char) : Option (String × List Char) :=
  match text with
  | '"' :: rest => (readBasic (text.length + 1) rest).map fun (name, rest) =>
      (String.ofList name, rest)
  | '\'' :: rest => (readLiteral rest).map fun (name, rest) => (String.ofList name, rest)
  | _ =>
    let name := text.takeWhile isBare
    if name.isEmpty then none else some (String.ofList name, text.drop name.length)

/-- Reads a key, its parts with dots between them; the count bounds the parts. -/
def readKey : Nat → List Char → Option (List String × List Char)
  | 0, _ => none
  | fuel + 1, text => do
    let (name, rest) ← readName (skipBlanks text)
    match skipBlanks rest with
    | '.' :: rest => (readKey fuel rest).map fun (names, rest) => (name :: names, rest)
    | rest => return ([name], rest)

/-! ### Numbers and dates -/

/-- The characters of a run of digits with single underscores between them. -/
def digitRun? (isDigit : Char → Bool) (text : List Char) : Option (List Char) :=
  let runs := Text.splitBy (· == '_') text
  if runs.all fun run => !run.isEmpty && run.all isDigit then some runs.flatten else none

/-- The number of digits in a base. -/
def baseNumber (base : Nat) (digits : List Char) : Nat :=
  digits.foldl (fun value c => value * base + (Text.hexDigit? c).getD 0) 0

/-- The sign at the start of a number, and what follows it. -/
def takeSign : List Char → Bool × List Char
  | '-' :: rest => (true, rest)
  | '+' :: rest => (false, rest)
  | rest => (false, rest)

/-- Decimal digits without a leading zero. -/
def decimal? (text : List Char) : Option (List Char) := do
  let digits ← digitRun? Char.isDigit text
  if digits.head? == some '0' && digits.length != 1 then none else some digits

/-- An integer in decimal, hexadecimal, octal or binary digits, below 2^128 in size. -/
def integer? (text : List Char) : Option Toml := do
  let base (base : Nat) (digits : List Char) : Option Int := do
    let isDigit (c : Char) : Bool := (Text.hexDigit? c).any (· < base)
    return baseNumber base (← digitRun? isDigit digits)
  let value : Int ← match text with
    | '0' :: 'x' :: digits => base 16 digits
    | '0' :: 'o' :: digits => base 8 digits
    | '0' :: 'b' :: digits => base 2 digits
    | _ =>
      let (negative, digits) := takeSign text
      (decimal? digits).map fun digits =>
        if negative then -(Decimal.ofDigits digits : Int) else Decimal.ofDigits digits
  let bound : Int := powerOfTwo 127
  if -bound ≤ value && value < 2 * bound then some (.integer value) else none

/-- The exponent of a real number, with or without a sign. -/
def exponent? (text : List Char) : Option Int := do
  let (negative, digits) := takeSign text
  let size : Int := Decimal.ofDigits (← digitRun? Char.isDigit digits)
  return if negative then -size else size

/-- A real number, given with a fraction, an exponent or both, or as one of the special names. A
number past the largest one has no meaning. -/
def real? (text : List Char) : Option Toml := do
  let (negative, unsigned) := takeSign text
  if unsigned == ['i', 'n', 'f'] then
    return .real (Float.ofBits (if negative then 0xFFF0000000000000 else 0x7FF0000000000000))
  if unsigned == ['n', 'a', 'n'] then return .real (Float.ofBits 0x7FF8000000000000)
  let isMark (c : Char) : Bool := c == 'e' || c == 'E'
  let mantissa := unsigned.takeWhile (!isMark ·)
  let exponent ← match unsigned.drop mantissa.length with
    | [] => some 0
    | _ :: digits => exponent? digits
  let whole := mantissa.takeWhile (· != '.')
  let fraction ← match mantissa.drop whole.length with
    | [] => some []
    | _ :: digits => digitRun? Char.isDigit digits
  let value := Decimal.ofParts negative (← decimal? whole) fraction exponent
  if Decimal.isFinite value then some (.real value) else none

/-- Reads a number of two digits up to a limit. -/
def readPair (least most : Nat) : List Char → Option (Nat × List Char)
  | a :: b :: rest => do
    if !a.isDigit || !b.isDigit then none
    else
      let value := Decimal.ofDigits [a, b]
      if least ≤ value && value ≤ most then some (value, rest) else none
  | _ => none

/-- Reads a character that must stand here. -/
def readMark (c : Char) : List Char → Option (List Char)
  | d :: rest => if c == d then some rest else none
  | [] => none

/-- The days of a month. -/
def daysIn (year month : Nat) : Nat :=
  if month == 2 then
    if year % 4 == 0 && (year % 100 != 0 || year % 400 == 0) then 29 else 28
  else if [4, 6, 9, 11].contains month then 30 else 31

/-- Reads a date. -/
def readDate (text : List Char) : Option (List Char) := do
  let year := text.take 4
  if year.length != 4 || !year.all Char.isDigit then none
  else
    let rest ← readMark '-' (text.drop 4)
    let (month, rest) ← readPair 1 12 rest
    let rest ← readMark '-' rest
    let (_, rest) ← readPair 1 (daysIn (Decimal.ofDigits year) month) rest
    return rest

/-- Reads a time of day; seconds and their fraction may be left out. -/
def readTime (text : List Char) : Option (List Char) := do
  let (_, rest) ← readPair 0 23 text
  let rest ← readMark ':' rest
  let (_, rest) ← readPair 0 59 rest
  match rest with
  | ':' :: rest =>
    let (_, rest) ← readPair 0 60 rest
    match rest with
    | '.' :: rest =>
      let digits := rest.takeWhile Char.isDigit
      if digits.isEmpty then none else some (rest.drop digits.length)
    | rest => some rest
  | rest => some rest

/-- Reads the distance from universal time, if it is given. -/
def readZone : List Char → Option (List Char)
  | c :: rest =>
    if c == 'Z' || c == 'z' then some rest
    else if c == '+' || c == '-' then do
      let (_, rest) ← readPair 0 23 rest
      let rest ← readMark ':' rest
      let (_, rest) ← readPair 0 59 rest
      return rest
    else some (c :: rest)
  | [] => some []

/-- Reads a date, a time, or both with or without a zone. -/
def readDateTime (text : List Char) : Option (List Char) :=
  match readDate text with
  | none => readTime text
  | some rest =>
    match rest with
    | c :: after =>
      if c == 'T' || c == 't' || (c == ' ' && after.head?.any Char.isDigit) then do
        readZone (← readTime after)
      else some rest
    | [] => some []

/-- Characters of numbers and names of values. -/
def isScalar (c : Char) : Bool := c.isAlphanum || c == '_' || c == '+' || c == '-' || c == '.'

/-- Reads a value that is neither a string nor made of others. -/
def readScalar (text : List Char) : Option (Toml × List Char) :=
  match readDateTime text with
  | some rest => if rest.head?.any isScalar then none else some (.dateTime, rest)
  | none =>
    let token := text.takeWhile isScalar
    let value : Option Toml :=
      if token == ['t', 'r', 'u', 'e'] then some (.bool true)
      else if token == ['f', 'a', 'l', 's', 'e'] then some (.bool false)
      else (integer? token).orElse fun _ => real? token
    value.map fun value => (value, text.drop token.length)

/-! ### Values and lines -/

mutual

/-- Reads a value. -/
def readValue : Nat → List Char → Option (Toml × List Char)
  | 0, _ => none
  | fuel + 1, text =>
    match text with
    | '[' :: rest => (readItems fuel rest).map fun (items, rest) => (.array items, rest)
    | '{' :: rest => do
      let (members, rest) ← readMembers fuel [] rest
      return (.table .inline members, rest)
    | c :: _ =>
      if c == '"' || c == '\'' then
        (readString text).map fun (value, rest) => (.string value, rest)
      else readScalar text
    | [] => none

/-- Reads the rest of an array. -/
def readItems : Nat → List Char → Option (List Toml × List Char)
  | 0, _ => none
  | fuel + 1, text =>
    match skipGaps text.length text with
    | ']' :: rest => some ([], rest)
    | text => do
      let (value, rest) ← readValue fuel text
      match skipGaps rest.length rest with
      | ',' :: rest => (readItems fuel rest).map fun (items, rest) => (value :: items, rest)
      | ']' :: rest => some ([value], rest)
      | _ => none

/-- Reads the rest of a table written in one piece, behind the members read before. -/
def readMembers : Nat → Members → List Char → Option (Members × List Char)
  | 0, _, _ => none
  | fuel + 1, members, text =>
    match skipGaps text.length text with
    | '\x7d' :: rest => some (members, rest)
    | text => do
      let (path, rest) ← readKey (text.length + 1) text
      let rest ← readMark '=' rest
      let (value, rest) ← readValue fuel (skipBlanks rest)
      let members ← assign value path members
      match skipGaps rest.length rest with
      | ',' :: rest => readMembers fuel members rest
      | '\x7d' :: rest => some (members, rest)
      | _ => none

end

/-- Reads a heading behind its opening brackets. -/
def readHeading (close : List Char) (text : List Char) : Option (List String × List Char) := do
  let (path, rest) ← readKey (text.length + 1) text
  if close.isPrefixOf rest then some (path, rest.drop close.length) else none

/-- Reads what a line says. -/
def readLine (text : List Char) : Option (Line × List Char) :=
  match text with
  | '[' :: '[' :: rest =>
    (readHeading [']', ']'] rest).map fun (path, rest) => (.itemHeading path, rest)
  | '[' :: rest => (readHeading [']'] rest).map fun (path, rest) => (.heading path, rest)
  | _ => do
    let (path, rest) ← readKey (text.length + 1) text
    let rest ← readMark '=' rest
    let (value, rest) ← readValue (text.length + 1) (skipBlanks rest)
    return (.entry path value, rest)

/-- The text after what may stand behind the content of a line, and its end. -/
def finishLine? (text : List Char) : Option (List Char) :=
  let rest := match skipBlanks text with
    | '#' :: rest => rest.dropWhile (!isForbidden ·)
    | rest => rest
  if rest.isEmpty then some [] else endLine? rest

/-- Reads all lines; the count bounds them. -/
def readLines : Nat → List Char → Option (List Line)
  | 0, _ => none
  | fuel + 1, text =>
    match skipGaps (text.length + 1) text with
    | [] => some []
    | text => do
      let (line, rest) ← readLine text
      let rest ← finishLine? rest
      return line :: (← readLines fuel rest)

/-- The members of a document. A byte order mark before it is skipped. -/
def ofText? (text : List Char) : Option Members :=
  let text := if text.head? == some '\ufeff' then text.drop 1 else text
  (readLines (text.length + 1) text).bind ofLines

end TaskLoop.Toml
