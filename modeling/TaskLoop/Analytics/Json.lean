import TaskLoop.Analytics.Advice

/-!
A summary as JSON, for programs that read it. What has an order stands in arrays.
-/

set_option autoImplicit false

namespace TaskLoop.Analytics

variable {α : Type} [Arithmetic α]

/-- The spread of a phase's durations. -/
def PhaseTiming.toJson (timing : PhaseTiming α) (phase : Phase) : Json :=
  .object [("phase", .string phase.name), ("samples", .ofNat timing.samples),
    ("mean", Arithmetic.toJson timing.mean), ("variance", Arithmetic.toJson timing.variance),
    ("min", Arithmetic.toJson timing.least), ("max", Arithmetic.toJson timing.most),
    ("total", Arithmetic.toJson timing.total)]

/-- A pattern and which way it is going. -/
def PatternTrend.toJson (trend : PatternTrend α) : Json :=
  .object [("key", .string trend.key), ("usage_count", .ofNat trend.usage),
    ("success_rate", Arithmetic.toJson trend.successRate),
    ("avg_retries", Arithmetic.toJson trend.avgRetries),
    ("avg_duration", Arithmetic.toJson trend.avgDuration), ("trend", .string trend.trend.name)]

/-- A category and its count. -/
def categoryCount (entry : Category × Nat) : Json :=
  .array [.string entry.1.name, .ofNat entry.2]

/-- The members of a summary. -/
def Summary.members (summary : Summary α) : List (String × Json) :=
  [("total", .ofNat summary.total), ("successful", .ofNat summary.successful),
    ("failed", .ofNat summary.failed), ("success_rate", Arithmetic.toJson summary.successRate),
    ("recent_success_rate", Arithmetic.toJson summary.recentRate),
    ("average_retries", Arithmetic.toJson summary.averageRetries),
    ("average_duration_secs", Arithmetic.toJson summary.averageSeconds),
    ("total_duration_secs", Arithmetic.toJson summary.totalSeconds),
    ("phase_timings", .array (summary.timings.entries.map fun (phase, timing) =>
      timing.toJson phase)),
    ("error_categories", .array (summary.categories.map categoryCount)),
    ("failure_points", .array (summary.failurePoints.map fun (point, count) =>
      .array [.string point.phase.name, .ofNat point.attempt, .ofNat count])),
    ("pattern_trends", .array (summary.trends.map PatternTrend.toJson)),
    ("moving_average_success", .array (summary.movingSuccess.map Arithmetic.toJson)),
    ("error_statistics", summary.errors.toJson)]

/-- Pieces of advice with how urgent they are. -/
def adviceToJson (items : List (Advice Float)) : Json :=
  .array (items.map fun item => .array [.string item.severity.name, .string item.message])

end TaskLoop.Analytics
