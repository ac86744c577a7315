import TaskLoop.Analytics.Advice
import TaskLoop.CommandLine.Console
import TaskLoop.Engine.Open

/-!
Looking at the error database, and marking its records resolved.
-/

set_option autoImplicit false

namespace TaskLoop.CommandLine

open Analytics.Advice (places)

/-- The columns of a list of errors, and what stands below them. -/
def errorHead : List String :=
  let widths := [18, 10, 6, 9, 50]
  [Text.columns (widths.zip ["Hash", "Category", "Count", "Resolved", "Message"]),
    Text.columns (widths.zip ["------------------", "----------", "------", "---------", "-----"])]

/-- The line of a record. The category is as wide as its name. -/
def errorLine (record : ErrorRecord) : String :=
  let text := String.ofList (record.text.toList.map fun c => if c == '\n' then ' ' else c)
  Text.columns [(18, record.hash), (0, record.category.name), (6, toString record.occurrences),
    (9, if record.resolved then "yes" else "no"), (50, Text.cut 50 text)]

/-- Lists errors, the most frequent first. -/
def listErrors (project : Project) (unresolvedOnly : Bool) : Command Unit := do
  let index ← onHost StoreError.message project.loadErrors
  let records := index.records.values.filter fun record => !unresolvedOnly || !record.resolved
  if records.isEmpty then print "No errors recorded."
  else
    let sorted := records.mergeSort fun a b => b.occurrences ≤ a.occurrences
    printLines (["" ] ++ errorHead ++ sorted.map errorLine ++ [""])

/-- What is said of an error that is similar to a text. -/
def similarLines (found : ScoredError Float) : List String :=
  let record := found.record
  let mark := if record.resolved then "  resolved" else ""
  [places 2 found.score ++ s!"  {record.hash}  [{record.category.name}] x{record.occurrences}"
    ++ mark, "      " ++ Text.cut 100 record.text]
    ++ (match record.note with
      | some note => ["      fix: " ++ note]
      | none => [])

/-- Lists the errors that are similar to a text. -/
def similarErrors (project : Project) (text : String) (top : Option Nat) : Command Unit := do
  let index ← onHost StoreError.message project.loadErrors
  let settings := project.settings.similarity
  let found := index.findSimilar text (top.getD settings.top)
  if found.isEmpty then print ("No similar errors (threshold " ++ places 2 settings.threshold
    ++ ").")
  else printLines ([""] ++ found.flatMap similarLines ++ [""])

/-- Marks a record of the project's database resolved. -/
def resolveIn (project : Project) (hash note : String) : Act StoreError ErrorRecord := do
  let index ← project.loadErrors
  match index.markResolved hash note with
  | .error e => throw e
  | .ok (record, index) =>
    index.save project.errorsFile
    return record

/-- Marks a record resolved while no engine is at work. -/
def resolveError (project : Project) (hash note : String) : Command Unit := do
  let record ← onHost EngineError.message
    (project.locking ((resolveIn project hash note).mapError .store))
  print s!"Marked {record.hash} resolved"

/-- What the totals of the error database say. -/
def totalLines (totals : ErrorStatistics) : List String :=
  let rate : Float := totals.resolutionRate
  let categories := totals.byCategory.entries.map fun (category, count) =>
    "  " ++ Text.columns [(10, category.name), (0, toString count)]
  ["", s!"Errors:      {totals.total}",
    s!"Resolved:    {totals.resolved} (" ++ places 0 (rate * 100) ++ "%)",
    s!"Unresolved:  {totals.unresolved}", s!"Occurrences: {totals.occurrences}"]
    ++ (if categories.isEmpty then [] else "" :: categories) ++ [""]

/-- Shows the totals of the error database. -/
def errorTotals (project : Project) : Command Unit := do
  printLines (totalLines (← onHost StoreError.message project.loadErrors).statistics)

end TaskLoop.CommandLine
