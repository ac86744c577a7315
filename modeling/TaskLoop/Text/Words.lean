import TaskLoop.Text.CharClass

/-!
Cutting a text: blanks at its ends, words between blanks, lines, parts between separators, and
the search for one text inside another; and lines of tables, whose cells stand in columns.
-/

set_option autoImplicit false

namespace TaskLoop.Text

/-- The text without the characters of a class at its start and end. -/
def trimBy (drop : Char → Bool) (text : List Char) : List Char :=
  ((text.dropWhile drop).reverse.dropWhile drop).reverse

/-- The text without blanks at its start and end. -/
def trim (text : List Char) : List Char := trimBy isBlank text

/-- The text without blanks at its start. -/
def trimLeft (text : List Char) : List Char := text.dropWhile isBlank

/-- The text without blanks at its end. -/
def trimRight (text : List Char) : List Char := (text.reverse.dropWhile isBlank).reverse

/-- The parts between separator characters: one part more than there are separators. -/
def splitBy (isSeparator : Char → Bool) : List Char → List (List Char)
  | [] => [[]]
  | c :: rest =>
    if isSeparator c then [] :: splitBy isSeparator rest
    else match splitBy isSeparator rest with
      | [] => [[c]]
      | part :: parts => (c :: part) :: parts

/-- The non-empty parts between blanks. -/
def words (text : List Char) : List (List Char) :=
  (splitBy isBlank text).filter fun part => !part.isEmpty

/-- A carriage return at the end of a line is no part of it. -/
def dropReturn (line : List Char) : List Char :=
  if line.getLast? == some '\r' then line.dropLast else line

/-- The lines of a text: each ends at a line feed, and the last one may lack it. -/
def lines (text : List Char) : List (List Char) :=
  let parts := splitBy (· == '\n') text
  let ended := parts.dropLast.map dropReturn
  match parts.getLast? with
  | some [] | none => ended
  | some last => ended ++ [last]

/-- The first line of a text, empty if there is none. -/
def firstLine (text : String) : String := String.ofList ((lines text.toList).head?.getD [])

/-- The parts joined with a separator between neighbours. -/
def joinWith (separator : List Char) : List (List Char) → List Char
  | [] => []
  | [part] => part
  | part :: rest => part ++ separator ++ joinWith separator rest

/-- Whether `part` stands somewhere in the text. -/
def contains (part : List Char) : List Char → Bool
  | [] => part.isEmpty
  | c :: rest => part.isPrefixOf (c :: rest) || contains part rest

/-- The text before and after the first occurrence of a character. -/
def splitFirst? (separator : Char) : List Char → Option (List Char × List Char)
  | [] => none
  | c :: rest =>
    if c == separator then some ([], rest)
    else (splitFirst? separator rest).map fun (before, after) => (c :: before, after)

/-- The text with every occurrence of a non-empty part replaced, from left to right. -/
def replaceAll (part replacement : List Char) (text : List Char) : List Char :=
  if part.isEmpty then text else go text 0
where
  /-- The second argument counts the characters still to skip of an occurrence just replaced. -/
  go : List Char → Nat → List Char
    | [], _ => []
    | _ :: rest, skip + 1 => go rest skip
    | c :: rest, 0 =>
      if part.isPrefixOf (c :: rest) then replacement ++ go rest (part.length - 1)
      else c :: go rest 0

/-- The text if it has at most `limit` characters, else its start with three dots. -/
def truncate (limit : Nat) (text : List Char) : List Char :=
  if text.length ≤ limit then text else text.take (limit - 3) ++ ['.', '.', '.']

/-- The text followed by blanks up to a width in characters. -/
def padRight (width : Nat) (text : List Char) : List Char :=
  text ++ List.replicate (width - text.length) ' '

/-- The text preceded by blanks up to a width in characters. -/
def padLeft (width : Nat) (text : List Char) : List Char :=
  List.replicate (width - text.length) ' ' ++ text

/-- Cells in columns of given widths with a blank between neighbours. A cell wider than its column
is not cut. -/
def columns (cells : List (Nat × String)) : String :=
  " ".intercalate (cells.map fun (width, text) => String.ofList (padRight width text.toList))

/-- A text cut to a number of characters. -/
def cut (limit : Nat) (text : String) : String := String.ofList (truncate limit text.toList)

end TaskLoop.Text
