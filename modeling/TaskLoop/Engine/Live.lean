import TaskLoop.Builder
import TaskLoop.Engine.Open
import TaskLoop.Engine.Run
import TaskLoop.Generator.Model
import TaskLoop.Generator.Template

/-!
An engine at work: between opening and closing it holds the project's lock, and what it learns on
one session it knows on the next. Its generator and its builder are those that the project's settings
ask for.
-/

set_option autoImplicit false

namespace TaskLoop.Project

/-- The generator: templates, or a model at whose endpoint nobody listens. -/
def generator {σ : Type} (project : Project) : Generator σ :=
  let settings := project.settings.generator
  if settings.useTemplate then Generator.Template.generator
  else Generator.Model.generator
    (fun _ state => (.error (Generator.Model.unreachable settings.endpoint), state)) settings.model

/-- The builder: the command of the settings, or one that accepts everything. -/
def builder {σ : Type} (project : Project) : Builder σ :=
  match project.settings.buildCommand? with
  | some text => BuildCommand.builder {
      text := text
      directory := project.buildDir
      artifact := project.settings.build.artifactPath
      limit := 1000 * project.settings.build.timeoutSeconds }
  | none => .accepting

end TaskLoop.Project

namespace TaskLoop

/-- An engine at work: the place of its lock, and what it has learnt. -/
structure LiveEngine (σ : Type) where
  engine : Engine σ
  place : Place
  table : Pattern.Table Float
  index : ErrorIndex Float

namespace LiveEngine

variable {σ : Type}

/-- Opens an engine. -/
def start (engine : Engine σ) : Act EngineError (LiveEngine σ) := do
  let (place, table, index) ← engine.project.openStores
  return ⟨engine, place, table, index⟩

/-- Closes the engine. -/
def close {ε : Type} (live : LiveEngine σ) : Act ε Unit := Host.unlock live.place

/-- A piece of work on a session: what came of it, the engine after it, and the state it ended
in. -/
def work {β : Type} (live : LiveEngine σ) (step : Step σ Float β) (session : Session) (agents : σ)
    (host : Host) : Except EngineError β × LiveEngine σ × EngineState σ Float :=
  let after (state : EngineState σ Float) : LiveEngine σ :=
    { live with table := state.table, index := state.index }
  match step (.new host agents live.table live.index session) with
  | .ok value state => (.ok value, after state, state)
  | .error e state => (.error e, after state, state)

end LiveEngine

end TaskLoop
