import TaskLoop.Annotation
import TaskLoop.Session

/-!
The choice of a task when none is given: the first open annotation says what to do.
-/

set_option autoImplicit false

namespace TaskLoop.Annotation

/-- The task of an annotation: its strategy, or its text and place. -/
def task (mark : Annotation) : String :=
  match mark.strategy.filter fun strategy => !(Text.trim strategy.toList).isEmpty with
  | some strategy => strategy
  | none =>
    let text := String.ofList (Text.trim mark.text.toList)
    s!"{text} ({mark.file}:{mark.line})"

/-- The task to work on and its context: that of the first open annotation, or the project as a
whole. -/
def discoverTask (annotations : List Annotation) (project : String) : String × TaskContext :=
  match nextOpen? annotations with
  | some mark =>
    (mark.task,
      { phaseTag := mark.phase, statusTag := mark.status, project := some project,
        strategy := mark.strategy })
  | none =>
    let tag := String.ofList (Text.upper project.toList)
    (s!"Implement {project} functionality",
      { phaseTag := some (tag ++ "_DEVELOPMENT"), statusTag := some "IMPLEMENTING",
        project := some project })

end TaskLoop.Annotation
