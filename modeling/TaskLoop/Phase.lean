import TaskLoop.Failure
import TaskLoop.Text.Case
import TaskLoop.OrderedMap

/-!
The six phases of an iteration, in the order they run, and how far each has come.
-/

set_option autoImplicit false

namespace TaskLoop

/-- A step of an iteration. -/
inductive Phase where
  | exploration
  | reasoning
  | generation
  | review
  | compilation
  | learning
  deriving DecidableEq, Repr, Inhabited

namespace Phase

/-- Every phase, in the order they run. -/
def all : List Phase := [exploration, reasoning, generation, review, compilation, learning]

/-- The place of a phase in the order. -/
def index : Phase → Nat
  | exploration => 0
  | reasoning => 1
  | generation => 2
  | review => 3
  | compilation => 4
  | learning => 5

instance : Ord Phase := ⟨fun left right => compare left.index right.index⟩

theorem compare_eq_index (left right : Phase) :
    compare left right = compare left.index right.index := rfl

instance : Std.TransOrd Phase where
  eq_swap := by
    intro left right
    simp only [compare_eq_index]
    exact Std.OrientedCmp.eq_swap
  isLE_trans := by
    intro first second third
    simp only [compare_eq_index]
    exact Std.TransCmp.isLE_trans

theorem index_injective {left right : Phase} (same : left.index = right.index) :
    left = right := by
  cases left <;> cases right <;> first | rfl | exact absurd same (by decide)

instance : Std.LawfulEqOrd Phase where
  eq_of_compare := by
    intro left right same
    rw [compare_eq_index] at same
    exact index_injective (Std.LawfulEqCmp.eq_of_compare same)
  compare_self := by
    intro phase
    exact @Std.ReflCmp.compare_self Nat compare _ phase.index

/-- The name of a phase in files and reports. -/
def name : Phase → String
  | exploration => "exploration"
  | reasoning => "reasoning"
  | generation => "generation"
  | review => "review"
  | compilation => "compilation"
  | learning => "learning"

/-- The name under which the outcomes of a phase are learnt. -/
def patternId : Phase → String
  | exploration => "EXPLORATION"
  | reasoning => "REASONING"
  | generation => "GENERATION"
  | review => "REVIEW"
  | compilation => "COMPILATION"
  | learning => "LEARNING"

/-- Whether a failure in this phase leads to another attempt. -/
def isRetried : Phase → Bool
  | generation | review | compilation => true
  | _ => false

/-- The phase that runs after this one. -/
def next? : Phase → Option Phase
  | exploration => some reasoning
  | reasoning => some generation
  | generation => some review
  | review => some compilation
  | compilation => some learning
  | learning => none

/-- The phase of a name. -/
def ofName? (name : String) : Option Phase := all.find? fun phase => phase.name == name

/-- The phase of a name in any letter case. -/
def ofText? (text : String) : Option Phase :=
  ofName? (String.ofList (Text.lower text.toList))

/-- The phase of a name, or why there is none. -/
def read (text : String) : Except Failure Phase :=
  match ofText? text with
  | some phase => .ok phase
  | none =>
    let names := ", ".intercalate (all.map name)
    .error (.root ("Invalid phase '" ++ text ++ "'. Valid values: " ++ names))

theorem ofName?_name (phase : Phase) : ofName? phase.name = some phase := by
  cases phase <;> decide

end Phase

/-- How far a phase has come in the current iteration. -/
inductive PhaseStatus where
  | pending
  | running
  | completed
  | failed
  deriving DecidableEq, Repr, Inhabited

namespace PhaseStatus

/-- The name of a status in files. -/
def name : PhaseStatus → String
  | pending => "pending"
  | running => "running"
  | completed => "completed"
  | failed => "failed"

/-- The status of a name. -/
def ofName? (name : String) : Option PhaseStatus :=
  [pending, running, completed, failed].find? fun status => status.name == name

/-- Whether the phase has come to its end. -/
def isTerminal : PhaseStatus → Bool
  | completed | failed => true
  | _ => false

end PhaseStatus

/-- The status of each phase. -/
abbrev PhaseProgress := OrderedMap Phase PhaseStatus

/-- The progress of an iteration that has not begun: every phase pending. -/
def PhaseProgress.fresh : PhaseProgress :=
  OrderedMap.ofList (Phase.all.map fun phase => (phase, .pending))

end TaskLoop
