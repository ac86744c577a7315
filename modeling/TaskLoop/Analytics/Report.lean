import TaskLoop.Analytics.Advice
import TaskLoop.Disk.Write
import TaskLoop.Text.Words

/-!
The report on a history, as plain text.
-/

set_option autoImplicit false

namespace TaskLoop.Analytics

/-- The width of the rules in a report. -/
def ruleWidth : Nat := 70

/-- A line of one character. -/
def rule (c : Char) : String := String.ofList (List.replicate ruleWidth c)

/-- A title with a rule below it. -/
def heading (title : String) : List String := ["## " ++ title, rule '-']

open Text (columns cut)
open Advice (places)

/-- The section on rates and averages. -/
def performanceLines (summary : Summary Float) : List String :=
  if summary.total == 0 then ["No iteration data available."]
  else
    let moving := summary.movingSuccess.map (places 2)
    [s!"Total Iterations:    {summary.total}",
      s!"Successful:          {summary.successful} (" ++ places 1 (summary.successRate * 100)
        ++ "%)",
      s!"Failed:              {summary.failed}",
      "Recent Success Rate: " ++ places 1 (summary.recentRate * 100) ++ "%",
      "Average Retries:     " ++ places 2 summary.averageRetries,
      "Average Time:        " ++ places 1 summary.averageSeconds ++ "s",
      "Total Time:          " ++ places 0 summary.totalSeconds ++ "s ("
        ++ places 1 (summary.totalSeconds / 60) ++ "m)"]
      ++ (if moving.isEmpty then [] else ["Moving Avg Success:  " ++ " ".intercalate moving])

/-- The table of phase durations. -/
def timingLines (summary : Summary Float) : List String :=
  if summary.timings.entries.isEmpty then []
  else
    columns [(14, "Phase"), (8, "Samples"), (10, "Mean (s)"), (10, "Variance"), (10, "Min (s)"),
        (10, "Max (s)")]
      :: summary.timings.entries.map (fun (phase, timing) =>
        columns [(14, phase.name), (8, toString timing.samples), (10, places 2 timing.mean),
          (10, places 3 timing.variance), (10, places 2 timing.least),
          (10, places 2 timing.most)])
      ++ [""]

/-- The table of patterns and their directions. -/
def trendLines (summary : Summary Float) : List String :=
  if summary.trends.isEmpty then []
  else
    columns [(24, "Pattern"), (8, "Usage"), (10, "Rate"), (12, "Avg Retries"), (10, "Avg Secs"),
        (18, "Trend")]
      :: summary.trends.map fun trend =>
        columns [(24, cut 24 trend.key), (8, toString trend.usage),
          (0, String.ofList (Text.padRight 9 (places 1 (trend.successRate * 100)).toList) ++ "%"),
          (12, places 2 trend.avgRetries), (10, places 1 trend.avgDuration), (0, trend.trend.name)]

/-- The section on errors. -/
def errorReportLines (summary : Summary Float) : List String :=
  let errors := summary.errors
  [s!"Known errors: {errors.total} ({errors.resolved} resolved, {errors.unresolved} unresolved, "
      ++ s!"{errors.occurrences} occurrences)"]
    ++ (if summary.categories.isEmpty then []
      else "" :: "Most frequent categories:" :: summary.categories.map fun (category, count) =>
        s!"  - {category.name}: {count}")
    ++ (if summary.failurePoints.isEmpty then []
      else "" :: "Failures by phase and attempt:"
        :: summary.failurePoints.map fun (point, count) =>
          s!"  - {point.phase.patternId} attempt {point.attempt}: {count}")

/-- The table of iterations. -/
def iterationLines (history : List Iteration) : List String :=
  if history.isEmpty then []
  else
    columns [(6, "#"), (8, "Result"), (8, "Retries"), (10, "Time (s)"), (12, "Category"),
        (30, "Last Error")]
      :: history.map fun iteration =>
        let last := iteration.lastFailure?
        columns [(6, toString iteration.index), (8, if iteration.success then "ok" else "failed"),
          (8, toString iteration.attempts), (10, places 1 (inSeconds iteration.totalDuration)),
          (12, (last.map (·.category.name)).getD "-"),
          (30, (last.map fun failure => cut 30 (Text.firstLine failure.message)).getD "-")]

/-- The report on a summary and the history it sums up. -/
def report (summary : Summary Float) (history : List Iteration) (now : Timestamp) : String :=
  let lines := [rule '=', "  reloop Iteration Report", rule '=', ""]
    ++ heading "Performance Summary" ++ performanceLines summary ++ [""]
    ++ heading "Phase Analysis" ++ timingLines summary ++ trendLines summary ++ [""]
    ++ heading "Error Analysis" ++ errorReportLines summary ++ [""]
    ++ heading "Recommendations"
    ++ (advice summary).map (fun item => s!"[{item.severity.name}] {item.message}") ++ [""]
    ++ heading "Iterations" ++ iterationLines history ++ [""]
    ++ [rule '=', "Report generated at: " ++ String.ofList now.plainText ++ " UTC"]
  String.join (lines.map (· ++ "\n"))

/-- Writes the report to a file, and returns it. -/
def writeReport (summary : Summary Float) (history : List Iteration) (path : Path) :
    Act Failure String := do
  let text := report summary history (← Host.now)
  (Disk.writeAtomic path (Text.Utf8.encode text.toList)).mapError
    (·.within s!"Failed to write report to {path.text}")
  return text

end TaskLoop.Analytics
