import TaskLoop.Generator.Basic
import TaskLoop.OrderedMap

/-!
A generator that fills in templates. Its answers depend on nothing but what it is asked.
-/

set_option autoImplicit false

namespace TaskLoop.Generator.Template

/-- The start of every artifact this generator makes, which its review looks for. -/
def header : String := "// AI_PHASE:"

/-- What the annotations say about a query. -/
def explore (query : String) (annotations : List Annotation) : Exploration :=
  let files := OrderedMap.ofList (annotations.map fun mark => (mark.file, ()))
  let intro := s!"Exploration for: {query}\nAnnotations consulted: {annotations.length}\n"
    ++ s!"Files referenced: {files.size}\n"
  let line (mark : Annotation) : String :=
    let note := mark.strategy.getD mark.text
    s!"- {mark.file}:{mark.line} {note}\n"
  { query := query
    insights := String.join (intro :: (annotations.take 5).map line)
    annotations := annotations.map (·.id) }

/-- The plan every task gets, under the strategy its context names if it does. -/
def reason (task : String) (context : TaskContext) (exploration : Exploration) : Strategy where
  summary := context.strategy.getD ("Implement: " ++ task)
  steps := ["Review task requirements", "Identify key components", "Plan implementation steps",
    "Consider edge cases"]
  confidence := if exploration.isEmpty then 0.4 else 0.7

/-- The lines on earlier attempts, numbered as the attempts were. -/
def history (failures : List String) : List String :=
  if failures.isEmpty then []
  else
    let skipped := failures.length - failureWindow
    let lines := ((lastItems failureWindow failures).zipIdx (skipped + 1)).map
      fun (failure, number) => s!"// Attempt {number}: " ++ Text.firstLine failure ++ "\n"
    "// Previous attempts:\n" :: lines ++ ["\n"]

/-- An artifact with the request in its head and an empty function for its body. -/
def generate (request : GenerationRequest) : Artifact :=
  let phase := request.context.phaseTag.getD "DEVELOPMENT"
  let status := request.context.statusTag.getD "IMPLEMENTING"
  let strategy :=
    if request.strategy.summary.isEmpty then "Implement the requested functionality"
    else request.strategy.summary
  let head := s!"{header} {phase}\n// AI_STATUS: {status}\n// AI_STRATEGY: {strategy}\n"
    ++ s!"// AI_ATTEMPT: {request.attempt}\n\n/*\n * Task: {request.task}\n */\n\n"
  let body := "void generated_implementation(void)\n\x7b\n    /* template placeholder */\n\x7d\n"
  ⟨String.join (head :: history request.failures ++ [body]), request.attempt⟩

/-- Accepts artifacts that start as this generator's own do. -/
def review (artifact : Artifact) : Findings :=
  if (Text.trim artifact.content.toList).isEmpty then .fail "no code generated"
  else if header.toList.isPrefixOf artifact.content.toList then .pass
  else .fail "missing AI_PHASE annotation header"

/-- The generator, with any state since it uses none. -/
def generator {σ : Type} : Generator σ where
  name := "stub"
  explore query annotations state := (.ok (explore query annotations), state)
  reason task context exploration state := (.ok (reason task context exploration), state)
  generate request state := (.ok (generate request), state)
  review artifact _ state := (.ok (review artifact), state)

end TaskLoop.Generator.Template
