import TaskLoop.Analytics.Advice
import TaskLoop.CommandLine.Console
import TaskLoop.Store.History
import TaskLoop.Store.Status

/-!
What a run is doing, and which iterations are finished.
-/

set_option autoImplicit false

namespace TaskLoop.CommandLine

/-- What a snapshot says. -/
def statusLines (status : StatusSnapshot) : List String :=
  ["", s!"Task: {status.task}",
    s!"Iteration {status.iteration}/{status.totalIterations}  phase: {status.phase.name}"
      ++ s!"  attempt: {status.attempts}",
    "Last update: " ++ String.ofList status.updatedAt.plainText ++ " UTC", ""]
    ++ status.progress.entries.map (fun (phase, state) =>
      "  " ++ Text.columns [(14, phase.name), (0, state.name)])
    ++ [""]

/-- Shows what a run is doing. -/
def showStatus (project : Project) : Command Unit := do
  match ← onHost Failure.message (StatusSnapshot.read project.statusFile) with
  | none => print "Idle: no run has written a status file yet."
  | some status => printLines (statusLines status)

/-- The widths of the columns of finished iterations. -/
def historyHead : List (Nat × String) :=
  [(10, "Session"), (6, "#"), (8, "Result"), (8, "Retries"), (10, "Time (s)"), (20, "Started")]

/-- The line of a finished iteration under the short form of its session. -/
def historyLine (session : String) (iteration : Iteration) : String :=
  Text.columns [(10, session), (6, toString iteration.index),
    (8, if iteration.success then "ok" else "failed"), (8, toString iteration.attempts),
    (10, Analytics.Advice.places 1 (Analytics.inSeconds iteration.totalDuration)),
    (20, String.ofList iteration.startedAt.plainText)]

/-- The entries of sessions whose identifiers begin with a text, the last so many of them. -/
def selectEntries (session : Option String) (limit : Option Nat) (entries : List History.Entry) :
    List History.Entry × List History.Entry :=
  let found := match session with
    | some start => entries.filter fun entry => start.toList.isPrefixOf entry.session.toList
    | none => entries
  (found, match limit with
    | some limit => found.drop (found.length - limit)
    | none => found)

/-- Shows finished iterations. -/
def showHistory (project : Project) (session : Option String) (limit : Option Nat) :
    Command Unit := do
  let entries ← onHost Failure.message (History.read project.historyFile)
  let (found, shown) := selectEntries session limit entries
  if found.isEmpty then print "No iterations recorded yet."
  else
    print ""
    printLines (tableHead historyHead)
    for entry in shown do
      print (historyLine (← shortId entry.session) entry.iteration)
    print ""

end TaskLoop.CommandLine
