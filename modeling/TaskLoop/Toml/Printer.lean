import TaskLoop.Decimal.Shortest

/-!
How values are written in a settings document: a string in the plainest of the four forms that
can hold it, numbers so that they read back.
-/

set_option autoImplicit false

namespace TaskLoop.Toml

/-- Control characters that only an escape can stand for. -/
def needsEscape (c : Char) : Bool :=
  (c.toNat < 0x20 && c != '\t' && c != '\n') || c.toNat == 0x7f

/-- The length of the longest run of a character. -/
def longestRun (quote : Char) : Nat → List Char → Nat
  | run, [] => run
  | run, c :: rest =>
    if c == quote then longestRun quote (run + 1) rest
    else max run (longestRun quote 0 rest)

/-- The escape of a character of a string with escapes. -/
def escape (c : Char) : List Char :=
  if c == '\x08' then ['\\', 'b']
  else if c == '\t' then ['\\', 't']
  else if c == '\n' then ['\\', 'n']
  else if c == '\x0c' then ['\\', 'f']
  else if c == '\r' then ['\\', 'r']
  else if c == '\\' then ['\\', '\\']
  else if needsEscape c then
    let digits := (Nat.toDigits 16 c.toNat).map Char.toUpper
    ['\\', 'u'] ++ List.replicate (4 - digits.length) '0' ++ digits
  else [c]

/-- The content of a string with escapes. Of a run of quotes those beyond the allowed number are
escaped; line feeds stand as they are in a string of several lines. -/
def escapeAll (long : Bool) : Nat → List Char → List Char
  | _, [] => []
  | run, c :: rest =>
    if c == '"' then
      if run < (if long then 2 else 0) then '"' :: escapeAll long (run + 1) rest
      else '\\' :: '"' :: escapeAll long 0 rest
    else if c == '\n' && long then '\n' :: escapeAll long 0 rest
    else escape c ++ escapeAll long 0 rest

/-- A string in a document. -/
def stringText (text : List Char) : List Char :=
  let controls := text.any needsEscape
  let backslash := text.contains '\\'
  let doubles := longestRun '"' 0 text
  let singles := longestRun '\'' 0 text
  let newline := text.contains '\n'
  let opening := if newline then ['\n'] else []
  let long := ['"', '"', '"'] ++ opening ++ escapeAll true 0 text ++ ['"', '"', '"']
  let basic := '"' :: escapeAll false 0 text ++ ['"']
  if !controls && !backslash && doubles == 0 && !newline then basic
  else if !controls && singles == 0 && !newline then '\'' :: text ++ ['\'']
  else if !controls && !backslash && doubles ≤ 2 then long
  else if !controls && singles ≤ 2 then
    ['\'', '\'', '\''] ++ opening ++ text ++ ['\'', '\'', '\'']
  else if newline then long
  else basic

/-- A double-precision number in a document: positional whatever its size, always with a
fraction. -/
def realText (x : Float) : List Char :=
  match Decimal.Binary.ofFloat x with
  | .finite .. =>
    let text := Decimal.plainText x
    if text.contains '.' then text else text ++ ['.', '0']
  | .infinite negative => if negative then ['-', 'i', 'n', 'f'] else ['i', 'n', 'f']
  | .undefined => ['n', 'a', 'n']

/-- A value that stands on one key of a section. -/
inductive Scalar where
  | string (value : String)
  | natural (value : Nat)
  | real (value : Float)
  | bool (value : Bool)

/-- A value in a document. -/
def Scalar.text : Scalar → List Char
  | string value => stringText value.toList
  | natural value => Decimal.digitsOf value
  | real value => realText value
  | bool value => (if value then "true" else "false").toList

/-- A line with a key and its value. -/
def entryText (entry : String × Scalar) : List Char :=
  entry.1.toList ++ [' ', '=', ' '] ++ entry.2.text ++ ['\n']

/-- A section: its heading and its entries. -/
def sectionText (part : String × List (String × Scalar)) : List Char :=
  '[' :: part.1.toList ++ [']', '\n'] ++ part.2.flatMap entryText

/-- A document: its sections with an empty line between two of them. -/
def documentText : List (String × List (String × Scalar)) → List Char
  | [] => []
  | [part] => sectionText part
  | part :: rest => sectionText part ++ '\n' :: documentText rest

end TaskLoop.Toml
