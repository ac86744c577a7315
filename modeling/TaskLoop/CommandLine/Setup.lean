import TaskLoop.CommandLine.Console
import TaskLoop.Project.Setup

/-!
Setting up a project and looking at its settings.
-/

set_option autoImplicit false

namespace TaskLoop.CommandLine

/-- What is said of a project just set up. -/
def setupLines (stateDir : Path) : List String :=
  [s!"Initialized reloop project at {stateDir.text}", "", "Created directory structure:",
    "  .reloop/", "  ├── reloop.toml        # Engine configuration",
    "  ├── annotations.json   # Source annotations (metadata store)",
    "  ├── checkpoints/       # Session checkpoints", "  └── logs/              # Run logs",
    "", "Next steps:", "  1. Set [build] command in .reloop/reloop.toml",
    "  2. Run \x60reloop run\x60 to start iterating"]

/-- Sets up a project. -/
def setUp (directory : Path) (source : Option String) : Command Unit := do
  let setup ← onHost Failure.message (Setup.run directory (source.map Path.mk))
  if setup.created then printLines (setupLines setup.stateDir)
  else printLines [s!"reloop project already initialized at {setup.stateDir.text}",
    "Directory structure verified."]
  match setup.seeded with
  | some seeded =>
    printLines ["", s!"Seeded patterns: {seeded.added} added, {seeded.merged} merged"]
  | none => return ()

/-- Shows the settings in force. A project need not be set up for that. -/
def showSettings (directory : Path) (environment : Environment) : Command Unit := do
  let project ← onHost SettingsError.message (Project.load directory environment)
  let file := project.settingsFile
  printLines ["", "reloop Configuration", "====================", ""]
  if (← get).host.disk.pathExists file then print s!"Config file: {file.text}"
  else printLines [s!"No reloop.toml found at {file.text}",
    "Using defaults. Run 'reloop init' to create one."]
  printLines ["", "Effective values (with env overrides):", ""]
  printLines ((Text.lines project.resolved.text).map fun line => "  " ++ String.ofList line)
  print ""

/-- Checks the settings in force. -/
def validateSettings (directory : Path) (environment : Environment) : Command Unit := do
  let project ← onHost SettingsError.message (Project.load directory environment)
  printLines ["", "Validating configuration...", ""]
  match project.settings.validate with
  | .error e => refuse e.message
  | .ok [] => print "Configuration is valid."
  | .ok warnings =>
    print "Configuration warnings:"
    printLines (warnings.map fun warning => "  - " ++ warning.message)
  print ""

end TaskLoop.CommandLine
