import TaskLoop.Analytics.Report
import TaskLoop.CommandLine.Arguments
import TaskLoop.CommandLine.Console
import TaskLoop.Engine.Live
import TaskLoop.Store.Tables

/-!
Running a session, and reporting on all that were run.
-/

set_option autoImplicit false

namespace TaskLoop.CommandLine

/-- The choices of a run over the settings. -/
def RunOptions.overrides (options : RunOptions) : Overrides where
  maxIterations := options.maxIterations
  maxRetries := options.maxRetries
  adaptive := if options.adaptive then some true else none
  checkpointInterval := options.checkpointInterval
  useTemplate := options.useTemplate

/-- The engine of a project, which nobody asks to stop. -/
def openEngine (project : Project) : Command (LiveEngine Unit) := do
  let marks ← onHost Failure.message ( Annotation.load project.annotationsFile)
  onHost EngineError.message (LiveEngine.start {
    project := project
    generator := project.generator
    builder := project.builder
    annotations := marks
    cancelled := fun _ => false })

/-- The session to run: a new one, or that of a checkpoint. -/
def chooseSession (live : LiveEngine Unit) (options : RunOptions) : Command Session := do
  let engine := live.engine
  match options.resume with
  | none => onHost EngineError.message (engine.project.startSession engine.annotations options.task)
  | some reference =>
    let (session, _) ← onHost EngineError.message (engine.project.resumeSession reference)
    let id ← shortId session.id
    print s!"Resuming session {id} after {session.completedIterations} iteration(s)"
    return session

/-- What is said before a run. -/
def openingLines (project : Project) (session : Session) : List String :=
  let settings := project.settings.engine
  ["", s!"Task: {session.task}",
    s!"Max iterations: {settings.maxIterations}  Max retries: {settings.maxRetries}"
      ++ s!"  Adaptive: {settings.adaptive}", ""]

/-- What is said of an iteration. -/
def resultLine (result : IterationResult) : String :=
  let detail := match result.lastFailure with
    | some failure =>
      s!"  [{failure.category.name}] " ++ Text.cut 60 (Text.firstLine failure.message)
    | none => ""
  let verdict := if result.iteration.success then "ok" else "failed"
  Text.columns [(0, "Iteration"), (4, toString result.iteration.index), (8, verdict),
    (0, s!"retries: {result.iteration.attempts}" ++ detail)]

/-- Runs a session to its end. -/
def runSession (project : Project) (options : RunOptions) : Command Unit := do
  let live ← openEngine project
  let session ← chooseSession live options
  printLines (openingLines project session)
  let summary ← onHost EngineError.message fun host =>
    match live.work live.engine.run session () host with
    | (.ok summary, _, state) => .ok summary state.host
    | (.error e, _, state) => .error e state.host
  printLines (summary.results.map resultLine)
  print ""
  let id ← shortId summary.session
  printLines [s!"Session {id} finished: {summary.reason.message} "
    ++ s!"({summary.successes}/{summary.results.length} successful)",
    s!"Checkpoint: {summary.finalCheckpoint.path.text}"]

/-- Writes the report and prints it. -/
def report (project : Project) (target : Option String) : Command Unit := do
  let entries ← onHost Failure.message (History.read project.historyFile)
  let table ← onHost StoreError.message project.loadPatterns
  let index ← onHost StoreError.message project.loadErrors
  let history := entries.map (·.iteration)
  let path := (target.map Path.mk).getD project.reportFile
  let text ← onHost Failure.message
    (Analytics.writeReport (Analytics.summarize history table index) history path)
  printLines [text, s!"Report saved to {path.text}"]

end TaskLoop.CommandLine
