import TaskLoop.Checkpoint.Difference
import TaskLoop.Checkpoint.Store
import TaskLoop.CommandLine.Console

/-!
Listing, showing and comparing checkpoints.
-/

set_option autoImplicit false

namespace TaskLoop.CommandLine

/-- The columns of a list of checkpoints. -/
def checkpointHead : List (Nat × String) :=
  [(10, "Id"), (10, "Session"), (20, "Label"), (24, "Created")]

/-- Lists the checkpoints of one session or of all. -/
def listCheckpoints (project : Project) (session : Option String) : Command Unit := do
  let root := project.checkpointsDir
  let handles ← onHost CheckpointError.message (match session with
    | some session => Checkpoint.list root session
    | none => Checkpoint.listAll root)
  if handles.isEmpty then print "No checkpoints found."
  else
    print ""
    printLines (tableHead checkpointHead)
    for handle in handles do
      let id ← shortId handle.id
      let session ← shortId handle.session
      print (Text.columns [(10, id), (10, session), (20, Text.cut 20 handle.label),
        (24, String.ofList handle.createdAt.plainText)])
    print ""

/-- What a checkpoint says. -/
def checkpointLines (path : Path) (checkpoint : Checkpoint) : List String :=
  let session := checkpoint.payload.session
  let iteration := match checkpoint.payload.iteration with
    | some iteration =>
      let verdict := if iteration.success then "succeeded" else "failed"
      [s!"  Iteration {iteration.index}: {verdict} after {iteration.attempts} attempt(s)"]
    | none => []
  ["", s!"Checkpoint {checkpoint.id} ({checkpoint.label})", s!"  Path:       {path.text}",
    "  Created:    " ++ String.ofList checkpoint.createdAt.plainText ++ " UTC",
    s!"  Session:    {session.id} [{session.status.name}]", s!"  Task:       {session.task}",
    s!"  Iterations: {session.completedIterations}",
    s!"  Influences: {session.influences.length}", "  Context:"]
    ++ session.context.toMap.entries.map (fun (key, value) =>
      s!"    {key} = " ++ String.ofList value.compact)
    ++ iteration ++ [""]

/-- Shows the checkpoint a reference means. -/
def showCheckpoint (project : Project) (reference : String) : Command Unit := do
  let (path, checkpoint) ← onHost CheckpointError.message (do
    let handle ← Checkpoint.resolve project.checkpointsDir reference
    return (handle.path, ← Checkpoint.load handle.path))
  printLines (checkpointLines path checkpoint)

/-- Compares the checkpoints that two references mean. -/
def compareCheckpoints (project : Project) (older newer : String) : Command Unit := do
  let difference ← onHost CheckpointError.message (do
    let a ← Checkpoint.resolve project.checkpointsDir older
    let b ← Checkpoint.resolve project.checkpointsDir newer
    return Checkpoint.difference (← Checkpoint.load a.path) (← Checkpoint.load b.path))
  printLines ["", s!"{difference.fromLabel} -> {difference.toLabel}"]
  if difference.summary.isEmpty then print "  No differences."
  printLines (difference.summary.map ("  " ++ ·))
  print ""

end TaskLoop.CommandLine
