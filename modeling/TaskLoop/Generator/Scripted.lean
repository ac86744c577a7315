import TaskLoop.Builder
import TaskLoop.Generator.Template

/-!
A generator and a builder that follow a script: for each kind of question a queue of replies. What
the script leaves open is answered from templates, and such builds pass. The script notes what it
was asked, and any reply may ask for the run to be stopped.
-/

set_option autoImplicit false

namespace TaskLoop

/-- A reply of a script: an answer or a failure, or neither; and whether the run is to stop. -/
structure ScriptedReply (α : Type) where
  result : Option (Except Failure α) := none
  stop : Bool := false

/-- Reads a reply. -/
def ScriptedReply.ofJson? {α : Type} (decode : Json → Option α) (json : Json) :
    Option (ScriptedReply α) := do
  let fields ← json.fields? ["ok", "err", "cancel"]
  let stop ← fields.orElse "cancel" Json.bool? false
  let answer ← fields.optional "ok" decode
  let result := match ← fields.optional "err" (Json.list? Json.string?) with
    | some (outermost :: causes) => some (.error ⟨outermost, causes⟩)
    | _ => answer.map .ok
  return ⟨result, stop⟩

/-- A question that was asked. -/
inductive Call where
  | explore (query : String) (annotations : List String)
  | reason (strategy : Option String) (unexplored : Bool)
  | generate (attempt : Nat) (prompt : String)
  | review (attempt : Nat)
  | build (attempt : Nat) (firstLine : String)
  deriving DecidableEq, Repr

/-- The name of a question and what was asked. -/
def Call.members : Call → String × Json
  | explore query annotations => ("explore", .object [("query", .string query),
      ("annotations", .array (annotations.map Json.string))])
  | reason strategy unexplored => ("reason", .object [
      ("strategy", .ofOption Json.string strategy), ("empty", .bool unexplored)])
  | generate attempt prompt => ("generate", .object [("attempt", .ofNat attempt),
      ("prompt", .string prompt)])
  | review attempt => ("review", .object [("attempt", .ofNat attempt)])
  | build attempt firstLine => ("build", .object [("attempt", .ofNat attempt),
      ("first_line", .string firstLine)])

/-- Replies still to be given, whether the run is to stop, and the questions asked so far. -/
structure Script where
  explore : List (ScriptedReply Exploration) := []
  reason : List (ScriptedReply Strategy) := []
  generate : List (ScriptedReply String) := []
  review : List (ScriptedReply Findings) := []
  build : List (ScriptedReply BuildOutcome) := []
  stopped : Bool := false
  calls : List Call := []

namespace Script

/-- Reads a script. -/
def ofJson? (json : Json) : Option Script := do
  let fields ← json.fields? ["explore", "reason", "generate", "review", "build"]
  let queue {α : Type} (name : String) (decode : Json → Option α) :
      Option (List (ScriptedReply α)) :=
    fields.orElse name (Json.list? (ScriptedReply.ofJson? decode)) []
  return {
    explore := ← queue "explore" Exploration.ofJson?
    reason := ← queue "reason" Strategy.ofJson?
    generate := ← queue "generate" Json.string?
    review := ← queue "review" Findings.ofJson?
    build := ← queue "build" BuildOutcome.ofJson? }

/-- The reply at the head of a queue. -/
def next {α : Type} (queue : List (ScriptedReply α)) : ScriptedReply α := queue.head?.getD {}

/-- The script after a question and the reply to it. -/
def noting {α : Type} (script : Script) (call : Call) (reply : ScriptedReply α) : Script :=
  { script with
    stopped := script.stopped || reply.stop
    calls := script.calls ++ [call] }

/-- The generator that follows the script. -/
def generator : Generator Script where
  name := "script"
  explore query annotations script :=
    let reply := next script.explore
    (reply.result.getD (.ok (Generator.Template.explore query annotations)),
      { script.noting (.explore query (annotations.map (·.id))) reply with
        explore := script.explore.drop 1 })
  reason task context exploration script :=
    let reply := next script.reason
    (reply.result.getD (.ok (Generator.Template.reason task context exploration)),
      { script.noting (.reason context.strategy exploration.isEmpty) reply with
        reason := script.reason.drop 1 })
  generate request script :=
    let reply := next script.generate
    let instead := Generator.Template.generate request
    let result := (reply.result.getD (.ok instead.content)).map fun content =>
      Artifact.mk content request.attempt
    (result, { script.noting (.generate request.attempt request.prompt) reply with
      generate := script.generate.drop 1 })
  review artifact _ script :=
    let reply := next script.review
    (reply.result.getD (.ok (Generator.Template.review artifact)),
      { script.noting (.review artifact.attempt) reply with review := script.review.drop 1 })

/-- The builder that follows the script. -/
def builder : Builder Script where
  build artifact script host :=
    let reply := next script.build
    let call := Call.build artifact.attempt (Text.firstLine artifact.content)
    ((reply.result.getD (.ok .passed),
      { script.noting call reply with build := script.build.drop 1 }), host)

end Script

end TaskLoop
