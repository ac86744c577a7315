import TaskLoop.Analytics.Summary
import TaskLoop.Decimal.Shortest

/-!
What a summary suggests doing.
-/

set_option autoImplicit false

namespace TaskLoop.Analytics

/-- How urgent a piece of advice is. -/
inductive Severity where
  | critical
  | warning
  | info
  deriving DecidableEq, Repr

namespace Severity

/-- The name of a severity in reports. -/
def name : Severity → String
  | critical => "critical"
  | warning => "warning"
  | info => "info"

/-- The place of a severity, the most urgent first. -/
def index : Severity → Nat
  | critical => 0
  | warning => 1
  | info => 2

end Severity

/-- A piece of advice, by its reason. -/
inductive Advice (α : Type) where
  | noHistory
  | lowSuccess (rate : α)
  | highSuccess (rate : α)
  | manyRetries (average : α)
  | slowIterations (seconds : α)
  | recentDecline
  | recentRise
  | laterFailures (phase : Phase) (retry count : Nat)
  | firstFailures (phase : Phase) (count : Nat)
  | weakPattern (key : String) (rate : α) (runs : Nat)
  | unresolvedErrors (count : Nat) (category : Category) (most : Nat)
  | allGood

namespace Advice

/-- How urgent a piece of advice is. -/
def severity {α : Type} : Advice α → Severity
  | lowSuccess _ => .critical
  | manyRetries _ | slowIterations _ | recentDecline | laterFailures .. | firstFailures ..
  | weakPattern .. => .warning
  | noHistory | highSuccess _ | recentRise | unresolvedErrors .. | allGood => .info

/-- A number with a count of decimal places. -/
def places (count : Nat) (x : Float) : String := String.ofList (Decimal.fixed count x)

/-- A share in whole percent. -/
def percent (share : Float) : String := places 0 (share * 100)

/-- The words of a piece of advice. -/
def message : Advice Float → String
  | noHistory => "No iteration history yet. Run \x60reloop run\x60 to collect data."
  | lowSuccess rate =>
    "Low success rate (" ++ percent rate
      ++ "%). Consider deeper exploration or a different model."
  | highSuccess rate =>
    "Excellent success rate (" ++ percent rate ++ "%). The current approach is working."
  | manyRetries average =>
    "High average retries (" ++ places 1 average
      ++ "). Tasks may be too large or exploration too shallow."
  | slowIterations seconds =>
    "Long average iteration time (" ++ places 0 seconds
      ++ "s). Look at the slowest phases below."
  | recentDecline =>
    "Recent success rate is declining. "
      ++ "Review recent changes or resume an earlier checkpoint."
  | recentRise => "Recent success rate is improving."
  | laterFailures phase retry count =>
    s!"Phase {phase.patternId} fails most often after retry {retry} ({count} times); "
      ++ "consider raising its retry ceiling."
  | firstFailures phase count =>
    s!"Phase {phase.patternId} fails most often on the first attempt ({count} times); "
      ++ "consider more context before generation."
  | weakPattern key rate runs =>
    "Phase " ++ key ++ " has a low success rate (" ++ percent rate ++ s!"% over {runs} runs)."
  | unresolvedErrors count category most =>
    s!"{count} unresolved errors recorded; {category.name} errors are the most frequent ({most})."
  | allGood => "All metrics look good. Continue with the current approach."

end Advice

section

variable {α : Type} [Arithmetic α]

/-- Advice on how often iterations succeed. -/
def successAdvice (summary : Summary α) : List (Advice α) :=
  if Arithmetic.less summary.successRate (Arithmetic.quotient 1 2) then
    [.lowSuccess summary.successRate]
  else if Arithmetic.atMost (Arithmetic.quotient 8 10) summary.successRate then
    [.highSuccess summary.successRate]
  else []

/-- Advice on how recent iterations compare with all of them. -/
def recentAdvice (summary : Summary α) : List (Advice α) :=
  let margin : α := Arithmetic.quotient 15 100
  if Arithmetic.less summary.recentRate (summary.successRate - margin) then [.recentDecline]
  else if Arithmetic.less (summary.successRate + margin) summary.recentRate then [.recentRise]
  else []

/-- Advice on where failures happen most. -/
def failureAdvice (summary : Summary α) : List (Advice α) :=
  match summary.failurePoints with
  | (point, count) :: _ =>
    if count < 2 then []
    else if 1 < point.attempt then [.laterFailures point.phase (point.attempt - 1) count]
    else [.firstFailures point.phase count]
  | [] => []

/-- Advice on phases that seldom go well. -/
def patternAdvice (summary : Summary α) : List (Advice α) :=
  summary.trends.filterMap fun trend =>
    if (Pattern.splitKey trend.key).2.isNone && 3 ≤ trend.usage
        && Arithmetic.less trend.successRate (Arithmetic.quotient 3 10) then
      some (.weakPattern trend.key trend.successRate trend.usage)
    else none

/-- Advice on errors not overcome yet. -/
def errorAdvice (summary : Summary α) : List (Advice α) :=
  match summary.categories with
  | (category, count) :: _ =>
    if 0 < summary.errors.unresolved then
      [.unresolvedErrors summary.errors.unresolved category count]
    else []
  | [] => []

/-- All advice a summary gives, the most urgent first. -/
def advice (summary : Summary α) : List (Advice α) :=
  if summary.total == 0 then [.noHistory]
  else
    let retries :=
      if Arithmetic.less (Arithmetic.quotient 5 2) summary.averageRetries then
        [Advice.manyRetries summary.averageRetries]
      else []
    let slow :=
      if Arithmetic.less (Arithmetic.ofNat 120) summary.averageSeconds then
        [Advice.slowIterations summary.averageSeconds]
      else []
    let all := successAdvice summary ++ retries ++ slow ++ recentAdvice summary
      ++ failureAdvice summary ++ patternAdvice summary ++ errorAdvice summary
    let all := if all.isEmpty then [.allGood] else all
    all.mergeSort fun left right => left.severity.index ≤ right.severity.index

end

end TaskLoop.Analytics
