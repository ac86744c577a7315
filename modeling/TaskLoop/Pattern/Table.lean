import TaskLoop.Pattern.Record
import TaskLoop.Session

/-!
The table of learnt patterns: a record for each phase, and one for each phase and complexity of
task.
-/

set_option autoImplicit false

namespace TaskLoop.Pattern

/-- The mark between the phase and the complexity of a key. -/
def separator : Char := '@'

/-- The key of a phase, or of a phase at one complexity. -/
def key (phase : String) (complexity : Option Complexity) : String :=
  let phase := Text.upper (Text.trim phase.toList)
  match complexity with
  | some complexity => String.ofList (phase ++ separator :: complexity.name.toList)
  | none => String.ofList phase

/-- The phase of a key, and its complexity if it names one. -/
def splitKey (key : String) : String × Option String :=
  match Text.splitFirst? separator key.toList with
  | some (phase, bucket) => (String.ofList phase, some (String.ofList bucket))
  | none => (key, none)

/-- A key of a file in the form that keys are looked up in: without blanks at its ends, the phase
in upper case and the complexity in lower case. -/
def settleKey (key : String) : String :=
  let trimmed := Text.trim key.toList
  match Text.splitFirst? separator trimmed with
  | some (phase, bucket) =>
    String.ofList (Text.upper phase ++ separator :: Text.lower bucket)
  | none => String.ofList (Text.upper trimmed)

/-- The name of the file a project's table is exported to: characters that may not stand in a
name become hyphens. -/
def exportName (project : String) : String :=
  let safe := project.toList.map fun c =>
    if Text.isAlphanumeric c || c == '-' || c == '_' then c else '-'
  String.ofList ((if safe.isEmpty then "patterns".toList else safe) ++ ".json".toList)

/-- Records by key. -/
abbrev Table (α : Type) := OrderedMap String (PatternRecord α)

/-- What an import did to a table. -/
structure ImportSummary where
  added : Nat
  merged : Nat
  replaced : Bool
  deriving DecidableEq, Repr

/-- The members of a summary. -/
def ImportSummary.toJson (summary : ImportSummary) : Json :=
  .object [("added", .ofNat summary.added), ("merged", .ofNat summary.merged),
    ("replaced", .bool summary.replaced)]

namespace Table

variable {α : Type} [Arithmetic α]

/-- Takes an outcome into the record of one key. -/
def observeKey (table : Table α) (key : String) (outcome : Outcome) (now : Timestamp) : Table α :=
  table.insert key (((table.find? key).getD .empty).observe outcome now)

/-- Takes an outcome into the record of its phase, and into that of the phase at the task's
complexity if it is known. The two times are those of the two updates. -/
def recordOutcome (table : Table α) (phase : String) (complexity : Option Complexity)
    (outcome : Outcome) (now after : Timestamp) : Table α :=
  let table := table.observeKey (key phase none) outcome now
  match complexity with
  | some _ => table.observeKey (key phase complexity) outcome after
  | none => table

/-- Takes one record of another table in. -/
def mergeRecord (table : Table α) (key : String) (incoming : PatternRecord α) : Table α :=
  match table.find? key with
  | some known => table.insert key (known.merged incoming)
  | none => table.insert key incoming

/-- Takes every record of another table in. -/
def mergeFrom (table incoming : Table α) : Table α :=
  incoming.entries.foldl (fun table entry => mergeRecord table entry.1 entry.2) table

/-- How many keys of another table this one has too. -/
def sharedKeys (table incoming : Table α) : Nat := (incoming.keys.filter table.contains).length

/-- Takes the tables of an import in, or puts them in place of what was there. -/
def importFrom (table incoming : Table α) (merge : Bool) : ImportSummary × Table α :=
  if merge then
    let result := table.mergeFrom incoming
    (⟨result.size - table.size, table.sharedKeys incoming, false⟩, result)
  else (⟨incoming.size, 0, true⟩, incoming)

/-- Settles the keys of a table as it stands in a file, folding the records of keys that become
one. The first flaw found is the answer instead. -/
def settle (raw : Table α) : Except String (Table α) :=
  raw.entries.foldlM
    (fun table entry =>
      match entry.2.flaw? entry.1 with
      | some flaw => .error flaw
      | none => .ok (mergeRecord table (settleKey entry.1) entry.2))
    .empty

/-- The table as it stands in a file. -/
def toJson (table : Table α) : Json := .ofMap id PatternRecord.toJson table

/-- Reads a table as it stands in a file. -/
def ofJson? (json : Json) : Option (Table α) := Json.map? some PatternRecord.ofJson? json

end Table

end TaskLoop.Pattern
