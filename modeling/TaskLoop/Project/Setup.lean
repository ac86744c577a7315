import TaskLoop.Project
import TaskLoop.Store.Tables

/-!
Setting up a project: its state directory with a settings file and an empty file of annotations,
and a first table of patterns if there is one to take over. What exists is left as it is.
-/

set_option autoImplicit false

namespace TaskLoop

/-- What setting up a project did. -/
structure Setup where
  stateDir : Path
  created : Bool
  seeded : Option Pattern.ImportSummary

namespace Setup

/-- The last name on the way to the place a directory stands at. -/
def placeName? (disk : Disk) (directory : Path) : Option String :=
  match disk.locate directory with
  | .ok place => place.getLast?
  | .error _ => none

/-- Makes a directory and those above it. -/
def makeDirectories (path : Path) : Act Failure Unit :=
  (Disk.makeDirectories path).within s!"Failed to create directory: {path.text}"

/-- Makes the file of annotations. -/
def makeAnnotations (path : Path) : Act Failure Unit :=
  (Disk.writeFile path (Text.Utf8.encode ['[', ']', '\n'])).within
    s!"Failed to create annotations file: {path.text}"

/-- Takes the patterns of a file into the table of a project. -/
def seedPatterns (table source : Path) : Act StoreError Pattern.ImportSummary := do
  let known : Pattern.Table Float ← Pattern.Table.load table
  let (summary, merged) ← Pattern.Table.importFile known source true
  Pattern.Table.save merged table
  return summary

/-- Sets up the project in a directory, with the patterns of a file if one is given. -/
def run (directory : Path) (source : Option Path) : Act Failure Setup := do
  let stateDir := Project.stateDirOf directory
  let created := !(← Host.files).pathExists stateDir
  makeDirectories (stateDir.join "checkpoints")
  makeDirectories (stateDir.join "logs")
  let settingsFile := Project.settingsFileOf directory
  if !(← Host.files).pathExists settingsFile then
    let name := placeName? (← Host.files) directory
    Project.saveSettings { name := name } settingsFile
  let annotations := stateDir.join "annotations.json"
  if !(← Host.files).pathExists annotations then makeAnnotations annotations
  let seeded ← match source with
    | some source => do
      let summary ← (seedPatterns (stateDir.join "patterns.json") source).mapError fun e =>
        Failure.root e.message
      pure (some summary)
    | none => pure none
  return ⟨stateDir, created, seeded⟩

end Setup

end TaskLoop
