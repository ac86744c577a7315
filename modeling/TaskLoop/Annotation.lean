import TaskLoop.Json.Decode
import TaskLoop.Text.Regex.Reader
import TaskLoop.Text.Words

/-!
Annotations of the source: marks with a phase, a status and free text that say what work there is
to do, and the questions asked of them.
-/

set_option autoImplicit false

namespace TaskLoop

/-- A mark in a source file. -/
structure Annotation where
  id : String
  file : String
  line : Nat
  phase : Option String
  status : Option String
  pattern : Option String
  strategy : Option String
  text : String
  deriving DecidableEq, Repr, Inhabited

namespace Annotation

/-- Reads an annotation. -/
def ofJson? (json : Json) : Option Annotation := do
  let fields ← json.fields? ["id", "file", "line", "phase", "status", "pattern", "strategy",
    "text"]
  return {
    id := ← fields.required "id" Json.string?
    file := ← fields.required "file" Json.string?
    line := ← fields.orElse "line" Json.nat32? 0
    phase := ← fields.optional "phase" Json.string?
    status := ← fields.optional "status" Json.string?
    pattern := ← fields.optional "pattern" Json.string?
    strategy := ← fields.optional "strategy" Json.string?
    text := ← fields.orElse "text" Json.string? "" }

/-- The members of an annotation in a file. -/
def toJson (mark : Annotation) : Json :=
  .object ([("id", .string mark.id), ("file", .string mark.file), ("line", .ofNat mark.line)]
    ++ Json.optionalMember "phase" .string mark.phase
    ++ Json.optionalMember "status" .string mark.status
    ++ Json.optionalMember "pattern" .string mark.pattern
    ++ Json.optionalMember "strategy" .string mark.strategy
    ++ [("text", .string mark.text)])

/-- Reads the annotations of a file. -/
def listOfJson? : Json → Option (List Annotation) := Json.list? ofJson?

/-- Everything an annotation says, a line for each part. -/
def haystack (mark : Annotation) : List Char :=
  let parts := [some mark.file, mark.phase, mark.status, mark.pattern,
    mark.strategy, some mark.text]
  Text.joinWith ['\n'] (parts.reduceOption.map String.toList)

/-- Whether two tags differ at most in the case of ASCII letters. -/
def sameTag (left right : String) : Bool :=
  Text.lowerAscii left.toList == Text.lowerAscii right.toList

/-- What annotations can be asked for. -/
inductive Query where
  | phase (tag : String)
  | status (tag : String)
  | pattern (expression : Text.Regex.Expression)

/-- The query for a search pattern, if the pattern can be read. -/
def Query.ofPattern? (pattern : String) : Option Query :=
  (Text.Regex.ofText? pattern.toList).map .pattern

/-- Whether an annotation answers a query. -/
def answers (mark : Annotation) : Query → Bool
  | .phase tag => mark.phase.any (sameTag · tag)
  | .status tag => mark.status.any (sameTag · tag)
  | .pattern expression => expression.matches mark.haystack

/-- The annotations that answer a query, in their order. -/
def find (annotations : List Annotation) (query : Query) : List Annotation :=
  annotations.filter (·.answers query)

/-- The statuses of work still to be done, the most urgent first. -/
def openStatuses : List String := ["PARTIAL", "NOT_STARTED"]

/-- The first annotation of work still to be done. -/
def nextOpen? (annotations : List Annotation) : Option Annotation :=
  openStatuses.findSome? fun status =>
    annotations.find? fun mark => mark.answers (.status status)

end Annotation

end TaskLoop
