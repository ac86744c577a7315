import TaskLoop.Shell.Command
import TaskLoop.Shell.Machine

/-!
From the pieces of words to the words a command is called with: expanded text is split at blanks
unless it is quoted, and patterns stand for the names of files.
-/

set_option autoImplicit false

namespace TaskLoop.Shell

/-- A piece of a word after its expansion. -/
structure Fragment where
  chars : List Char
  quoted : Bool
  splits : Bool

/-- A word in the making: its characters, and whether each is quoted. -/
abbrev Field := List (Char × Bool)

/-- Whether text is split at a character. -/
def isSeparator (c : Char) : Bool := c == ' ' || c == '\t' || c == '\n'

/-- The fields so far and the one that is open, with a fragment added. -/
def addFragment (state : List Field × Option Field) (fragment : Fragment) :
    List Field × Option Field :=
  if fragment.splits then
    fragment.chars.foldl (fun (done, current) c =>
      if isSeparator c then (done ++ current.toList, none)
      else (done, some (current.getD [] ++ [(c, false)]))) state
  else if fragment.chars.isEmpty && !fragment.quoted then state
  else (state.1, some (state.2.getD [] ++ fragment.chars.map fun c => (c, fragment.quoted)))

/-- The fields of a word. -/
def fieldsOf (fragments : List Fragment) : List Field :=
  let (done, current) := fragments.foldl addFragment ([], none)
  done ++ current.toList

/-- Whether a character stands for others. -/
def isWild (c : Char × Bool) : Bool := !c.2 && (c.1 == '*' || c.1 == '?')

/-- Whether a pattern describes a name. -/
def describes : Nat → Field → List Char → Bool
  | 0, _, _ => false
  | _, [], name => name.isEmpty
  | fuel + 1, c :: rest, name =>
    if isWild c then
      if c.1 == '*' then
        describes fuel rest name || (!name.isEmpty && describes fuel (c :: rest) (name.drop 1))
      else !name.isEmpty && describes fuel rest (name.drop 1)
    else name.head? == some c.1 && describes fuel rest (name.drop 1)

/-- The text of a field. -/
def Field.text (field : Field) : String := String.ofList (field.map (·.1))

/-- The words of a field: the names of files if it is a pattern that describes any. -/
def Field.words (disk : Disk) (field : Field) : List String :=
  let last := (field.reverse.takeWhile fun c => c.1 != '/').reverse
  let front := Field.text (field.take (field.length - last.length))
  if !last.any isWild then [field.text]
  else
    let names := match disk.list ⟨if front.isEmpty then "." else front⟩ with
      | .ok names => names
      | .error _ => []
    let found := names.filter fun name =>
      (!name.startsWith "." || last.head?.any fun c => c.1 == '.')
        && describes (last.length + name.length + 1) last name.toList
    if found.isEmpty then [field.text] else found.map (front ++ ·)

/-- The operators of a sum in the order they bind, the loosest first. -/
def sumOperators : List (List (Char × (Int → Int → Int))) :=
  [[('+', (· + ·)), ('-', (· - ·))],
    [('*', (· * ·)), ('/', Int.tdiv), ('%', Int.tmod)]]

/-- A number, or a variable that holds one. -/
def readAtom (value : String → Option String) (text : List Char) : Int × List Char :=
  let text := text.dropWhile isSeparator
  let (negative, text) := match text with
    | '-' :: rest => (true, rest)
    | text => (false, text)
  let word := text.takeWhile fun c => c.isAlphanum || c == '_'
  let number := match integer? (String.ofList word) with
    | some n => n
    | none => ((value (String.ofList word)).bind integer?).getD 0
  (if negative then -number else number, (text.drop word.length).dropWhile isSeparator)

/-- The value of operands joined by operators of some strengths, and what follows them. -/
def evalSum (value : String → Option String) :
    Nat → List (List (Char × (Int → Int → Int))) → Option Int → List Char → Int × List Char
  | 0, _, first, text => (first.getD 0, text)
  | _ + 1, [], _, text => readAtom value text
  | fuel + 1, level :: tighter, none, text =>
    let (first, rest) := evalSum value fuel tighter none text
    evalSum value fuel (level :: tighter) (some first) rest
  | fuel + 1, level :: tighter, some first, text =>
    match text with
    | c :: rest =>
      match level.lookup c with
      | some operate =>
        let (second, rest) := evalSum value fuel tighter none rest
        evalSum value fuel (level :: tighter) (some (operate first second)) rest
      | none => (first, text)
    | [] => (first, [])

/-- The value of a sum. -/
def sumOf (value : String → Option String) (text : List Char) : Int :=
  (evalSum value (8 * text.length + 16) sumOperators none text).1

end TaskLoop.Shell
