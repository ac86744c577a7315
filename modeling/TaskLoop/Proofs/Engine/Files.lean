import TaskLoop.Proofs.Engine.Endings
import TaskLoop.Proofs.Engine.Learning
import TaskLoop.Proofs.Project

/-!
What an iteration leaves in the directory of the project's state. As long as the builder keeps out
of there, its phases write the status file alone.
-/

set_option autoImplicit false

namespace TaskLoop

open TaskLoop.Path (Plain)
open Project (Beside)

namespace StatusSnapshot

theorem update_guarded {project : Project} {root : Place} {about : Place → Prop}
    {holds : Host → Prop} {snapshot shown : StatusSnapshot} {before after : Host}
    (guards : project.Guards root about holds) (status : Beside root about "status.json")
    (held : holds before) (updated : snapshot.update project.statusFile before = .ok shown after) :
    holds after := by
  obtain ⟨now, timed, looked, updated⟩ := Act.bind_eq_ok.mp updated
  cases looked
  obtain ⟨_, written, writing, updated⟩ := Act.bind_eq_ok.mp updated
  cases updated
  exact guards.replace (Plain.of_long (by decide) (by decide)) status (guards.clock held)
    (Act.mapError_eq_ok.mp writing)

/-- The status file is replaced by what shows the snapshot with the time of writing. -/
theorem update_ends {path : Path} {snapshot : StatusSnapshot} {before : Host}
    {done : StatusSnapshot → Host → Prop} {failed : Host → Prop}
    (writes : ∀ shown : StatusSnapshot,
      (Disk.writeAtomic path (Text.Utf8.encode shown.toJson.fileText)).Ends
        { before with readings := before.readings + 1 } (fun _ => done shown) fun _ => failed) :
    (snapshot.update path).Ends before done fun _ => failed := by
  refine Act.Ends.bind ?_
  show Act.Ends _ { before with readings := before.readings + 1 } _ _
  refine Act.Ends.bind (Act.Ends.mapError ((writes _).mono (fun _ _ kept => ?_) fun _ _ => id))
  exact kept

end StatusSnapshot

namespace Engine

open Step (Keeps Leads)

variable {σ α : Type} {engine : Engine σ} {root : Place} {about : Place → Prop}
  {holds : Host → Prop}

/-- The directory of the project's state and what stands there under a name. -/
def Keeping (engine : Engine σ) (root : Place) (name : String) (content : Option Node)
    (state : EngineState σ α) : Prop :=
  engine.project.Keeping root name content state.host.disk

/-- A condition on the host. -/
def OnHost (holds : Host → Prop) (state : EngineState σ α) : Prop := holds state.host

/-- What a builder leaves of a condition on the host. -/
def Builds (engine : Engine σ) (holds : Host → Prop) : Prop :=
  ∀ artifact agents host, holds host → holds (engine.builder.build artifact agents host).2

section Guarded

variable (guards : engine.project.Guards root about holds)

include guards

theorem leads_of_lasting {β : Type} {step : Step σ α β}
    (keeps : Keeps (fun state => state.host.lasting) step) :
    Leads (OnHost holds) (OnHost holds) step :=
  fun _ _ _ done held => guards.lasting (keeps.of_ok done) held

variable (status : Beside root about "status.json")

include status

theorem writeStatus_guarded :
    Leads (OnHost holds) (OnHost holds) (engine.writeStatus : Step σ α Unit) := by
  refine Leads.bind (leads_of_lasting guards (Keeps.modify fun _ => rfl)) fun _ => ?_
  refine Leads.bind Leads.get fun state => ?_
  have shown : Leads (OnHost holds) (OnHost holds) (Step.onHost (.persistence "write status")
      (state.snapshot.update engine.project.statusFile) : Step σ α StatusSnapshot) :=
    Leads.onHost fun _ _ _ updated held => StatusSnapshot.update_guarded guards status held updated
  exact Leads.bind shown fun _ => leads_of_lasting guards (Keeps.modify fun _ => rfl)

/-- The phases write the status file alone. -/
theorem phased_guarded (builds : engine.Builds holds) :
    engine.Phased anyConfidence (OnHost holds : EngineState σ α → Prop)
      fun _ => OnHost holds where
  enter phase := by
    refine Leads.bind (leads_of_lasting guards (Keeps.modify fun _ => rfl)) fun _ => ?_
    refine Leads.bind (leads_of_lasting guards (Keeps.modify fun _ => rfl)) fun _ => ?_
    exact Leads.bind (writeStatus_guarded guards status) fun _ => leads_of_lasting guards fun _ => rfl
  leave phase status' started _ := by
    refine Leads.bind (leads_of_lasting guards fun _ => rfl) fun now => ?_
    exact Leads.bind (leads_of_lasting guards (Keeps.modify fun _ => rfl)) fun _ =>
      writeStatus_guarded guards status
  ask phase β call := leads_of_lasting guards fun _ => rfl
  build phase artifact := by
    intro before reply after built held
    cases built
    exact builds artifact before.agents before.host held
  influence phase decision annotations confidence _ :=
    leads_of_lasting guards fun _ => rfl
  adopt phase strategy := leads_of_lasting guards fun _ => rfl
  begin attempt := leads_of_lasting guards fun _ => rfl
  note attempt failure := leads_of_lasting guards fun _ => rfl

omit status in
theorem beginIteration_guarded :
    Leads (OnHost holds) (OnHost holds) (engine.beginIteration : Step σ α Unit) := by
  exact leads_of_lasting guards fun _ => rfl

variable [Arithmetic α]

/-- Up to the end of the attempts. -/
theorem tried_guarded {cap : Nat} {before start finish : EngineState σ α}
    {plan : Exploration × Strategy} {success : Bool} (builds : engine.Builds holds)
    (prepared : engine.prepare before = .ok plan start)
    (attempted : engine.attempts cap plan.1 plan.2 cap 1 [] [] start = .ok success finish)
    (held : holds before.host) : holds finish.host := by
  have phased : engine.Phased anyConfidence (OnHost holds : EngineState σ α → Prop)
      fun _ => OnHost holds := phased_guarded guards status builds
  have started := phased.prepare trusts_any (beginIteration_guarded guards) _ _ _ prepared held
  exact phased.attempts trusts_any _ _ _ _ _ _ _ trivial _ _ _ attempted started

omit [Arithmetic α] in
/-- The end of an iteration writes the history and the status file. -/
theorem finishIteration_guarded (history : Beside root about "history.jsonl") :
    Leads (OnHost holds) (OnHost holds) (engine.finishIteration : Step σ α Unit) := by
  refine Leads.bind Leads.get fun state => ?_
  have appended : Leads (OnHost holds) (OnHost holds) (Step.onHost (.persistence "append history")
      (History.append engine.project.historyFile ⟨state.session.id, state.iteration⟩) :
        Step σ α Unit) :=
    Leads.onHost fun _ _ _ appended held =>
      guards.append (Plain.of_long (by decide) (by decide)) history held appended
  refine Leads.bind appended fun _ => ?_
  refine Leads.bind (leads_of_lasting guards (Keeps.modify fun _ => rfl)) fun _ => ?_
  refine Leads.bind (leads_of_lasting guards (Keeps.modify fun _ => rfl)) fun _ => ?_
  exact writeStatus_guarded guards status

/-! ### Learning -/

variable {before entered recorded resolved tabled saved stored after : EngineState σ α}

/-- Until the stores are written only the status file is. -/
theorem Learns.guarded_tabled {strategy : Strategy} (learns : engine.Learns strategy before entered
    recorded resolved tabled saved stored after) (builds : engine.Builds holds)
    (held : holds before.host) : holds tabled.host := by
  obtain ⟨started, entering, -⟩ := learns.around
  obtain ⟨hashes, recording⟩ := learns.recording
  have begun := (phased_guarded guards status builds).enter .learning _ _ _ entering held
  have counted : holds recorded.host :=
    leads_of_lasting guards (recordFailures_keeps (fun _ => rfl) (fun _ _ => rfl) _) _ _ _
      recording begun
  have marked : holds resolved.host := by
    rcases learns.resolving with rfl | ⟨note, hashes, resolving⟩
    · exact counted
    · exact leads_of_lasting guards (resolveAll_keeps (fun _ _ => rfl) _ _) _ _ _ resolving counted
  exact leads_of_lasting guards (recordOutcomes_keeps (fun _ => rfl) (fun _ _ => rfl) _ _ _) _ _ _
    learns.tabling marked

/-- Learning leaves all but the stores and the status file alone. -/
theorem learn_guarded {strategy : Strategy} (builds : engine.Builds holds)
    (errors : Beside root about "errors.json") (patterns : Beside root about "patterns.json") :
    Leads (OnHost holds) (OnHost holds) (engine.learn strategy : Step σ α Unit) := by
  intro before _ after learnt held
  obtain ⟨_, _, _, tabled, saved, stored, learns⟩ := learn_eq_ok learnt
  obtain ⟨started, -, leaving⟩ := learns.around
  have ready : holds tabled.host := learns.guarded_tabled guards status builds held
  have beside : holds saved.host :=
    Leads.onHost (fun _ _ _ saved held => guards.replace (Plain.of_long (by decide) (by decide))
      errors held (Act.mapError_eq_ok.mp saved)) _ _ _ learns.saving ready
  have both : holds stored.host :=
    Leads.onHost (fun _ _ _ saved held => guards.replace (Plain.of_long (by decide) (by decide))
      patterns held (Act.mapError_eq_ok.mp saved)) _ _ _ learns.storing beside
  exact (phased_guarded guards status builds).leave .learning .completed started
    PhaseStatus.noConfusion _ _ _ leaving both

end Guarded

/-! ### Work that comes to its end or breaks off -/

section Either

open Step (Came Ends)

/-- A store is replaced by one that is as is asked for, or is as it was. -/
theorem saved_filed {name : String} {asked : Option Node → Prop} {value : Json}
    {state : EngineState σ α} (filed : OnHost (engine.project.Filed root name asked) state)
    (plain : Plain name) (asks : asked (some (.file (Text.Utf8.encode value.fileText)))) :
    Came (fun _ => OnHost (engine.project.Filed root name asked))
      (OnHost (engine.project.Filed root name asked))
      ((Step.onHost .store
        ((Store.writeJson (engine.project.stateDir.join name) value).mapError .other) :
          Step σ α Unit) state) := by
  have saved : Ends (OnHost (engine.project.Filed root name asked))
      (fun _ => OnHost (engine.project.Filed root name asked))
      (OnHost (engine.project.Filed root name asked)) (Step.onHost .store
        ((Store.writeJson (engine.project.stateDir.join name) value).mapError .other) :
          Step σ α Unit) := by
    refine Ends.onHost fun state filed => ?_
    generalize named : engine.project.stateDir.join name = path
    exact Act.Ends.mapError (Project.Filed.replace_ends filed named plain asks)
  exact saved.come state filed

variable (guards : engine.project.Guards root about holds)
  (directory : ∀ host, holds host → host.disk.node? root = some .directory)

include guards directory

/-- A store is written, or not, that the condition is not about. -/
theorem store_ends {name : String} (value : Json) (plain : Plain name)
    (beside : Beside root about name) :
    Ends (OnHost holds) (fun _ => OnHost holds) (OnHost holds) (Step.onHost .store
      ((Store.writeJson (engine.project.stateDir.join name) value).mapError .other) :
        Step σ α Unit) := by
  refine Ends.onHost fun state held => ?_
  generalize named : engine.project.stateDir.join name = path
  exact Act.Ends.mapError
    (guards.replace_ends named plain beside (directory _ held) held)

theorem history_ends (entry : History.Entry) (beside : Beside root about "history.jsonl") :
    Ends (OnHost holds) (fun _ => OnHost holds) (OnHost holds) (Step.onHost
      (.persistence "append history") (History.append engine.project.historyFile entry) :
        Step σ α Unit) := by
  refine Ends.onHost fun state held => ?_
  generalize named : engine.project.historyFile = path
  exact guards.append_ends named (Plain.of_long (by decide) (by decide)) beside
    (directory _ held) held

theorem writeStatus_ends (status : Beside root about "status.json") :
    Ends (OnHost holds) (fun _ => OnHost holds) (OnHost holds)
      (engine.writeStatus : Step σ α Unit) := by
  refine Ends.change (OnHost holds) (fun _ => id) (Ends.look fun state held => ?_)
  have wrote : Ends (OnHost holds) (fun _ => OnHost holds) (OnHost holds)
      (Step.onHost (.persistence "write status")
        (state.snapshot.update engine.project.statusFile) : Step σ α StatusSnapshot) := by
    refine Ends.onHost fun state held => ?_
    generalize named : engine.project.statusFile = path
    refine StatusSnapshot.update_ends fun shown => ?_
    have timed := guards.clock held
    exact guards.replace_ends named (Plain.of_long (by decide) (by decide)) status
      (directory _ timed) timed
  refine (Ends.bind wrote fun snapshot => Ends.modify fun state held => ?_).come state held
  exact held

variable [Arithmetic α]

/-- A condition on the host holds on that is about no file an iteration writes but the history. -/
theorem steady_guarded (builds : engine.Builds holds) (status : Beside root about "status.json")
    (errors : Beside root about "errors.json") (patterns : Beside root about "patterns.json") :
    engine.Steady (OnHost holds : EngineState σ α → Prop) where
  clock := ⟨fun state held => .ok (guards.clock held)⟩
  agents _ _ := id
  build artifact state := builds artifact state.agents state.host
  influence _ _ _ _ _ _ := id
  adopt _ _ := id
  iteration _ _ := id
  snapshot _ _ := id
  status := writeStatus_ends guards directory status
  record _ _ _ := id
  resolve _ _ := id
  observe _ _ _ _ _ _ := id
  saveErrors state := (store_ends guards directory
    (ErrorIndex.recordsToJson state.index.records) (Plain.of_long (by decide) (by decide))
    errors).come state
  savePatterns state := (store_ends guards directory state.table.toJson
    (Plain.of_long (by decide) (by decide)) patterns).come state

end Either

end Engine

end TaskLoop
