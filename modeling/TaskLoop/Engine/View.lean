import TaskLoop.Engine.Run

/-!
Short accounts of sessions, iterations and runs for whoever watches an engine: what happened,
without times and identifiers.
-/

set_option autoImplicit false

namespace TaskLoop

/-- The account of a session. -/
def Session.view (session : Session) : Json :=
  let influence (i : Influence) : Json := .array [.ofNat i.iteration, .string i.decision.name,
    .array (i.annotations.map Json.string), .ofFloat i.confidence]
  .object [("task", .string session.task), ("context", session.context.toJson),
    ("status", .string session.status.name),
    ("iterations_completed", .ofNat session.completedIterations),
    ("influences", .array (session.influences.map influence))]

/-- The account of an iteration: the phases in their order, and those that took time. -/
def Iteration.view (iteration : Iteration) : Json :=
  .object [("index", .ofNat iteration.index), ("task", .string iteration.task),
    ("retry_count", .ofNat iteration.attempts), ("success", .bool iteration.success),
    ("phase_status", .array (iteration.status.entries.map fun (phase, status) =>
      .array [.string phase.name, .string status.name])),
    ("failures", .array (iteration.failures.map FailedAttempt.toJson)),
    ("timed_phases", .array (iteration.durations.keys.map fun phase => .string phase.name))]

/-- The account of what came of an iteration. -/
def IterationResult.view (result : IterationResult) : Json :=
  let last (text : FailedAttempt → String) : Json :=
    .ofOption (fun failure => .string (text failure)) result.lastFailure
  .object [("iteration", result.iteration.view), ("success", .bool result.iteration.success),
    ("retry_count", .ofNat result.iteration.attempts), ("last_error", last (·.message)),
    ("category", last (·.category.name))]

/-- The members of the account of a run. -/
def RunSummary.members (summary : RunSummary) : List (String × Json) :=
  [("reason", .string summary.reason.message), ("successes", .ofNat summary.successes),
    ("results", .array (summary.results.map IterationResult.view)),
    ("final_checkpoint", .string summary.finalCheckpoint.label)]

end TaskLoop
