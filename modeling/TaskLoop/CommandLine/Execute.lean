import TaskLoop.CommandLine.Checkpoints
import TaskLoop.CommandLine.Errors
import TaskLoop.CommandLine.Patterns
import TaskLoop.CommandLine.Progress
import TaskLoop.CommandLine.Run
import TaskLoop.CommandLine.Setup

/-!
From arguments to what the program prints and the code it ends with.
-/

set_option autoImplicit false

namespace TaskLoop.CommandLine

/-- What is printed and how the program ends. -/
structure Outcome where
  code : Nat
  output : String
  error : Option String

/-- Runs need a place for their logs. -/
def prepareLogs (directory : Path) : Command Unit := do
  if Project.isInitialized (← get).host.disk directory then
    let logs := (Project.stateDirOf directory).join "logs"
    onHost Failure.message
      ((Disk.makeDirectories logs).within s!"Failed to create log directory: {logs.text}")

/-- Does what is asked for. -/
def perform (environment : Environment) (directory : Path) (invocation : Invocation) :
    Command Unit := do
  let project : Command Project := openProject directory environment
  match invocation.request with
  | .init source => setUp directory source
  | .run options =>
    prepareLogs directory
    runSession ((← project).withOverrides options.overrides invocation.verbose) options
  | .status => showStatus (← project)
  | .history session limit => showHistory (← project) session limit
  | .listCheckpoints session => listCheckpoints (← project) session
  | .showCheckpoint reference => showCheckpoint (← project) reference
  | .compareCheckpoints older newer => compareCheckpoints (← project) older newer
  | .showPatterns => showPatterns (← project)
  | .recommend phase complexity => recommend (← project) phase complexity
  | .exportPatterns target => exportPatterns (← project) environment target
  | .importPatterns source replace => importPatterns (← project) source replace
  | .listErrors unresolvedOnly => listErrors (← project) unresolvedOnly
  | .similarErrors text top => similarErrors (← project) text top
  | .resolveError hash note => resolveError (← project) hash note
  | .errorTotals => errorTotals (← project)
  | .report target => report (← project) target
  | .showSettings => showSettings directory environment
  | .validateSettings => validateSettings directory environment

/-- The output of a console. -/
def Console.output (console : Console) : String := String.join (console.lines.map (· ++ "\n"))

/-- Runs the program. A message on what went wrong is one line. Locks are given back at the
end. -/
def execute (arguments : List String) (environment : Environment) (host : Host) :
    Outcome × Host :=
  match Invocation.ofArguments arguments with
  | .error .usage => (⟨2, "", none⟩, host)
  | .error .help => (⟨0, "", none⟩, host)
  | .error .version => (⟨0, "reloop 0.1.0\n", none⟩, host)
  | .ok invocation =>
    let directory : Path := match invocation.directory with
      | some directory => ⟨directory⟩
      | none => ⟨"/" ++ "/".intercalate host.disk.workingDir⟩
    let ended (console : Console) : Host := { console.host with locked := host.locked }
    match perform environment directory invocation { host := host } with
    | .ok () console => (⟨0, console.output, none⟩, ended console)
    | .error (.failed message) console =>
      (⟨1, console.output, some ("Error: " ++ Text.firstLine message)⟩, ended console)
    | .error .splitCharacter console => (⟨101, console.output, none⟩, ended console)
    | .error .overflowed console => (⟨101, console.output, none⟩, ended console)

end TaskLoop.CommandLine
