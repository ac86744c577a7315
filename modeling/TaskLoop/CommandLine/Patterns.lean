import TaskLoop.Analytics.Advice
import TaskLoop.CommandLine.Console
import TaskLoop.Engine.Open
import TaskLoop.Pattern.Recommendation

/-!
Showing, exporting and importing the pattern table, and asking it for advice.
-/

set_option autoImplicit false

namespace TaskLoop.CommandLine

open Analytics.Advice (places)

/-- The columns of the pattern table. -/
def patternHead : List (Nat × String) :=
  [(24, "Pattern"), (8, "Usage"), (8, "Success"), (10, "Rate"), (12, "Avg Retries"),
    (10, "Avg Secs")]

/-- The line of a record. -/
def patternLine (key : String) (record : PatternRecord Float) : String :=
  let rate := Text.padRight 9 (places 1 (record.successRate * 100)).toList
  Text.columns [(24, Text.cut 24 key), (8, toString record.usage), (8, toString record.successes),
    (0, String.ofList rate ++ "%"), (12, places 2 record.avgRetries),
    (10, places 1 record.avgDuration)]

/-- What a pattern table says. -/
def patternLines (table : Pattern.Table Float) : List String :=
  if table.entries.isEmpty then ["No patterns recorded yet."]
  else ["", s!"Pattern Statistics ({table.size} keys):"] ++ tableHead patternHead
    ++ table.entries.map (fun (key, record) => patternLine key record) ++ [""]

/-- Shows the pattern table. -/
def showPatterns (project : Project) : Command Unit := do
  printLines (patternLines (← onHost StoreError.message project.loadPatterns))

/-- What a recommendation says. -/
def recommendationLines (advice : Pattern.Recommendation Float) : List String :=
  let subject := match advice.complexity with
    | some complexity => s!"{advice.phase} ({complexity.name} complexity)"
    | none => advice.phase
  ["", s!"Recommendation for {subject}:",
    "  Success probability: " ++ places 0 (advice.successProbability * 100) ++ "%",
    s!"  Suggested retries:   {advice.suggestedRetries}",
    "  Estimated duration:  " ++ places 1 advice.estimatedSeconds ++ "s",
    "  Confidence:          " ++ places 0 (advice.confidence * 100)
      ++ s!"% ({advice.samples} samples, {advice.basis.title})", ""]

/-- Shows what past outcomes suggest for a phase, whose name may be in any letter case. -/
def recommend (project : Project) (phase : String) (complexity : Option String) :
    Command Unit := do
  let table ← onHost StoreError.message project.loadPatterns
  let complexity ← match complexity with
    | none => pure none
    | some word =>
      match Complexity.read word with
      | .ok complexity => pure (some complexity)
      | .error failure => refuse failure.message
  let phase := String.ofList (Text.upper phase.toList)
  match Pattern.Table.recommend? .released table phase complexity with
  | some advice => printLines (recommendationLines advice)
  | none => throw .overflowed

/-- Where a project's table is exported to unless a file is named. -/
def exportPath (environment : Environment) (project : String) : Option Path :=
  ((environment "HOME").filter fun home => !home.isEmpty).map fun home =>
    (((Path.mk home).join Project.stateDirName).join "patterns").join (Pattern.exportName project)

/-- Exports the pattern table. -/
def exportPatterns (project : Project) (environment : Environment) (target : Option String) :
    Command Unit := do
  let table ← onHost StoreError.message project.loadPatterns
  match (target.map Path.mk) <|> exportPath environment project.name with
  | none => refuse "Could not determine home directory"
  | some path =>
    onHost StoreError.message (Pattern.Table.save table path)
    print s!"Exported {table.size} pattern(s) to {path.text}"

/-- Takes the records of a file into the project's table, or in its place. -/
def importInto (project : Project) (source : Path) (merge : Bool) :
    Act StoreError Pattern.ImportSummary := do
  let table ← project.loadPatterns
  let (summary, table) ← Pattern.Table.importFile table source merge
  Pattern.Table.save table project.patternsFile
  return summary

/-- Imports a pattern table while no engine is at work. -/
def importPatterns (project : Project) (source : String) (replace : Bool) : Command Unit := do
  let summary ← onHost EngineError.message
    (project.locking ((importInto project ⟨source⟩ (!replace)).mapError .store))
  if summary.replaced then print s!"Replaced pattern table with {summary.added} record(s)"
  else print s!"Imported patterns: {summary.added} added, {summary.merged} merged"

end TaskLoop.CommandLine
