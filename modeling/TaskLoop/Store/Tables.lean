import TaskLoop.Annotation
import TaskLoop.ErrorIndex
import TaskLoop.Pattern.Table
import TaskLoop.Store.File

/-!
The files of a project's annotations, of an error index and of a pattern table.
-/

set_option autoImplicit false

namespace TaskLoop.Annotation

/-- Reads the annotations of a file; without a file there are none. -/
def load (path : Path) : Act Failure (List Annotation) :=
  Act.look fun disk =>
    if disk.pathExists path then
      match disk.readText path with
      | .error e =>
        .error ((Failure.root e.message).within s!"Failed to read annotations: {path.text}")
      | .ok text =>
        match (Json.ofText? text).bind listOfJson? with
        | some annotations => .ok annotations
        | none => .error ((Failure.root Store.malformedText).within
            s!"Failed to parse annotations: {path.text}")
    else .ok []

end TaskLoop.Annotation

namespace TaskLoop.ErrorIndex

variable {α : Type} [Arithmetic α]

/-- Reads an index with a threshold; a missing file is an index without records. `describe` says
how the threshold is reported when it is no share. -/
def load (path : Path) (threshold : α) (describe : α → String) : Act StoreError (ErrorIndex α) := do
  if !thresholdIsValid threshold then
    throw (.other (.root (describe threshold)))
  if (← Host.files).pathExists path then
    return ⟨← Store.readJson path recordsOfJson?, threshold⟩
  else return empty threshold

/-- Writes the records of an index. -/
def save (index : ErrorIndex α) (path : Path) : Act StoreError Unit :=
  (Store.writeJson path (recordsToJson index.records)).mapError .other

end TaskLoop.ErrorIndex

namespace TaskLoop.Pattern.Table

variable {α : Type} [Arithmetic α]

/-- Reads a table: its keys are settled, and a record that cannot be one of outcomes is refused. -/
def read (path : Path) : Act StoreError (Table α) := do
  let raw : Table α ← Store.readJson path Table.ofJson?
  match raw.settle with
  | .ok table => return table
  | .error flaw => throw (.malformed path.text flaw)

/-- Reads a table; a missing file is an empty one. -/
def load (path : Path) : Act StoreError (Table α) := do
  if (← Host.files).pathExists path then read path else return .empty

/-- Writes a table. -/
def save (table : Table α) (path : Path) : Act StoreError Unit :=
  (Store.writeJson path table.toJson).mapError .other

/-- Takes the table of a file in, or puts it in place of this one. -/
def importFile (table : Table α) (path : Path) (merge : Bool) :
    Act StoreError (ImportSummary × Table α) := do
  let incoming ← read path
  return table.importFrom incoming merge

end TaskLoop.Pattern.Table
