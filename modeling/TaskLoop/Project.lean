import TaskLoop.Disk.Write
import TaskLoop.Settings.File
import TaskLoop.Settings.Layers
import TaskLoop.Store.File

/-!
A project: its directory, its name, its settings, and where each of its files lies.
-/

set_option autoImplicit false

namespace TaskLoop

/-- A project with its settings resolved. -/
structure Project where
  directory : Path
  name : String
  settings : Settings
  verbose : Bool := false

namespace Project

/-- The name of the directory that holds a project's state. -/
def stateDirName : String := ".reloop"

/-- The name of the file that an engine holds while it lives. -/
def lockName : String := "engine.lock"

/-- The directory of a project's state. -/
def stateDirOf (directory : Path) : Path := directory.join stateDirName

/-- The settings file of a project. -/
def settingsFileOf (directory : Path) : Path := (stateDirOf directory).join "reloop.toml"

/-- The directory of the project's state. -/
def stateDir (project : Project) : Path := stateDirOf project.directory

/-- The settings file. -/
def settingsFile (project : Project) : Path := settingsFileOf project.directory

/-- The status file. -/
def statusFile (project : Project) : Path := project.stateDir.join "status.json"

/-- The history file. -/
def historyFile (project : Project) : Path := project.stateDir.join "history.jsonl"

/-- The directory of checkpoints. -/
def checkpointsDir (project : Project) : Path := project.stateDir.join "checkpoints"

/-- The file of the pattern table. -/
def patternsFile (project : Project) : Path := project.stateDir.join "patterns.json"

/-- The file of the error index. -/
def errorsFile (project : Project) : Path := project.stateDir.join "errors.json"

/-- The file of the annotations. -/
def annotationsFile (project : Project) : Path := project.stateDir.join "annotations.json"

/-- The directory of logs. -/
def logDir (project : Project) : Path := project.stateDir.join "logs"

/-- The file that an engine holds while it lives. -/
def lockFile (project : Project) : Path := project.stateDir.join lockName

/-- The file reports go to. -/
def reportFile (project : Project) : Path := project.stateDir.join "report.txt"

/-- The directory builds run in. -/
def buildDir (project : Project) : Path :=
  match project.settings.build.workingDir with
  | some dir => project.directory.join dir
  | none => project.directory

/-- A project with given settings. Its name is that of its directory unless they name one. -/
def ofSettings (directory : Path) (settings : Settings) : Project where
  directory := directory
  name := settings.name.getD (directory.fileName?.getD "project")
  settings := settings

/-- The settings as they would stand in the project's file. -/
def resolved (project : Project) : Settings :=
  { project.settings with name := some project.name }

/-- The project with the choices made on the command line. -/
def withOverrides (project : Project) (overrides : Overrides) (verbose : Bool) : Project :=
  { project with settings := project.settings.withOverrides overrides, verbose := verbose }

/-- Reads the settings of a file; without a file they are the defaults. -/
def readSettings (path : Path) : Act SettingsError Settings :=
  Act.look fun disk =>
    if disk.pathExists path then
      match disk.readText path with
      | .error e =>
        let failure := (Failure.root e.message).within s!"Failed to read config file: {path.text}"
        .error (.unreadable path.text failure.line)
      | .ok text =>
        match Settings.ofText? text with
        | some settings => .ok settings
        | none =>
          let failure := (Failure.root Store.malformedText).within "Failed to parse reloop.toml"
          .error (.unreadable path.text failure.line)
    else .ok {}

/-- The project in a directory: the settings of its file, and over them the environment's. -/
def load (directory : Path) (environment : Environment) : Act SettingsError Project := do
  let settings ← readSettings (settingsFileOf directory)
  match settings.withEnvironment environment with
  | .ok settings => return ofSettings directory settings
  | .error e => throw e

/-- Writes a settings file in place. -/
def saveSettings (settings : Settings) (path : Path) : Act Failure Unit :=
  (Disk.writeFile path (Text.Utf8.encode settings.text)).within
    s!"Failed to write config file: {path.text}"

/-- Whether a directory holds a project. -/
def isInitialized (disk : Disk) (directory : Path) : Bool :=
  disk.pathExists (settingsFileOf directory)

/-- Makes the directories that a run writes to. -/
def makeDirectories (project : Project) : Act Failure Unit := do
  (Disk.makeDirectories project.checkpointsDir).within "Failed to create checkpoints directory"
  (Disk.makeDirectories project.logDir).within "Failed to create log directory"

end Project

end TaskLoop
