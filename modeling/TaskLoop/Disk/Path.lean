import TaskLoop.Text.Words

/-!
Paths as they are written: names with slashes between them, absolute if they begin with one.
-/

set_option autoImplicit false

namespace TaskLoop

/-- A path as it is written. -/
structure Path where
  text : String
  deriving DecidableEq, Repr, Inhabited

namespace Path

/-- Whether the path begins at the root. -/
def isAbsolute (path : Path) : Bool := path.text.toList.head? == some '/'

/-- The names of a path. Empty names and single dots name nothing. -/
def names (path : Path) : List String :=
  ((Text.splitBy (· == '/') path.text.toList).filter fun name =>
    !name.isEmpty && name != ['.']).map String.ofList

/-- A path below another. An absolute path stands alone. -/
def join (base : Path) (below : String) : Path :=
  if (Path.mk below).isAbsolute || base.text.isEmpty then ⟨below⟩
  else if base.text.toList.getLast? == some '/' then ⟨base.text ++ below⟩
  else ⟨base.text ++ "/" ++ below⟩

/-- A reversed path without the slashes and single dots at its end, the root apart. -/
def dropEnd : List Char → List Char
  | ['/'] => ['/']
  | '/' :: rest => dropEnd rest
  | '.' :: '/' :: rest => dropEnd ('/' :: rest)
  | reversed => reversed

/-- The characters of the path without slashes and single dots at its end. -/
def trimmed (path : Path) : List Char := (dropEnd path.text.toList.reverse).reverse

/-- The path without its last name; the root and the empty path have none. -/
def parent? (path : Path) : Option Path :=
  let text := path.trimmed
  if text.isEmpty || text == ['/'] then none
  else
    let reversed := text.reverse.dropWhile (· != '/')
    some ⟨String.ofList (dropEnd reversed).reverse⟩

/-- The last name of the path, unless it is a step up. -/
def fileName? (path : Path) : Option String :=
  let name := (path.trimmed.reverse.takeWhile (· != '/')).reverse
  if name.isEmpty || name == ['.'] || name == ['.', '.'] then none else some (String.ofList name)

/-- What follows the last dot of the last name, unless that dot begins it. -/
def extension? (path : Path) : Option String :=
  (path.fileName?).bind fun name =>
    let reversed := name.toList.reverse
    let ending := reversed.takeWhile (· != '.')
    let before := reversed.drop (ending.length + 1)
    if ending.length == reversed.length || before.isEmpty then none
    else some (String.ofList ending.reverse)

end Path

end TaskLoop
