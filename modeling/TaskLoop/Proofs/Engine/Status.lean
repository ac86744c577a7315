import TaskLoop.Proofs.Engine.Endings
import TaskLoop.Proofs.Engine.Files
import TaskLoop.Proofs.Engine.Replay

/-!
What the status file shows while an iteration runs. The snapshots written to it follow a path of
the machine of the phases, so that each of them is legal, and the file is that of the last of them.
-/

set_option autoImplicit false

namespace TaskLoop

open TaskLoop.Path (Plain)

namespace PhaseState

/-- What is shown next when another phase is entered. -/
def entering (phase : Phase) (state : PhaseState) : PhaseState :=
  { state with phase := phase, progress := state.progress.insert phase .running }

end PhaseState

namespace StatusSnapshot

/-- What a status file holds that shows a snapshot. -/
def node (snapshot : StatusSnapshot) : Node :=
  .file (Text.Utf8.encode snapshot.toJson.fileText)

/-- What a status file holds after snapshots were written to it. -/
def nodeAfter (initial : Option Node) (shown : List StatusSnapshot) : Option Node :=
  (shown.getLast?.map node).or initial

variable {project : Project} {root : Place} {initial : Option Node} {before : Host}

theorem nodeAfter_append (shown : List StatusSnapshot) (snapshot : StatusSnapshot) :
    nodeAfter initial (shown ++ [snapshot]) = some snapshot.node := by
  simp only [nodeAfter, List.getLast?_append, List.getLast?_singleton, Option.some_or,
    Option.map_some]

/-- What is written shows the phases that it was to show. -/
theorem update_shows {snapshot shown : StatusSnapshot} {path : Path} {after : Host}
    (updated : snapshot.update path before = .ok shown after) : shown.phases = snapshot.phases := by
  obtain ⟨now, timed, looked, updated⟩ := Act.bind_eq_ok.mp updated
  obtain ⟨_, written, -, updated⟩ := Act.bind_eq_ok.mp updated
  cases updated
  rfl

end StatusSnapshot

namespace EngineState

variable {σ α : Type}

/-- What was shown, and what is shown of the phases when the status file is written next. -/
def display (state : EngineState σ α) : List StatusSnapshot × PhaseState :=
  (state.written, ⟨state.snapshot.phase, state.iteration.status, state.iteration.attempts⟩)

end EngineState

namespace Engine

open PhaseState (entering)
open Step (Came Ends Keeps)

variable {σ α β : Type}

/-- The work shows one more snapshot, of the phases as they are, or breaks off and shows none. -/
theorem writeStatus_display (engine : Engine σ) (display : List StatusSnapshot × PhaseState) :
    Ends (fun state : EngineState σ α => state.display = display)
      (fun _ after => ∃ shown : StatusSnapshot, shown.phases = display.2 ∧
        after.display = (display.1 ++ [shown], display.2))
      (fun after => after.display = display) engine.writeStatus := by
  refine Ends.change (fun state => state.display = display ∧ state.snapshot.phases = display.2)
    (fun state held => ⟨held, congrArg Prod.snd held⟩) ?_
  refine Ends.look fun state held => ?_
  have shows : Ends (fun state : EngineState σ α => state.display = display)
      (fun shown state => state.display = display ∧ shown.phases = display.2)
      (fun state => state.display = display) (Step.onHost (.persistence "write status")
        (state.snapshot.update engine.project.statusFile)) := by
    refine Ends.onHost fun start same => ?_
    cases updated : state.snapshot.update engine.project.statusFile start.host with
    | ok shown host =>
      rw [Act.Ends, updated]
      exact ⟨same, (StatusSnapshot.update_shows updated).trans held.2⟩
    | error e host =>
      rw [Act.Ends, updated]
      exact same
  refine (Ends.bind shows fun shown => Ends.modify fun state same => ?_).come state held.1
  obtain ⟨kept, phases⟩ := same
  refine ⟨shown, phases, ?_⟩
  have phase : shown.phase = display.2.phase := congrArg PhaseState.phase phases
  rw [← kept] at phase ⊢
  simp only [EngineState.display] at phase ⊢
  rw [phase]

/-! ### The machine of the phases -/

/-- Since an iteration was begun a path of the machine was shown, or nothing yet. -/
def ShowsPath (cap : Nat) (earlier : List StatusSnapshot) (state : EngineState σ α) : Prop :=
  ∃ shown, state.display.1 = earlier ++ shown ∧
    (shown = [] ∨ ∃ last, PhaseState.Path cap (shown.map (·.phases)) last)

/-- With a state of the phases, what was shown since an iteration was begun is a path. -/
def Leading (cap : Nat) (earlier : List StatusSnapshot) (next : PhaseState)
    (state : EngineState σ α) : Prop :=
  ∃ shown, state.display.1 = earlier ++ shown ∧ PhaseState.Path cap (shown.map (·.phases) ++ [next]) next

/-- What was shown since an iteration was begun is a path that ends with the phases as they are,
the current one with a status. -/
structure Shows (cap : Nat) (earlier : List StatusSnapshot) (phase : Phase) (status : PhaseStatus)
    (display : List StatusSnapshot × PhaseState) : Prop where
  path : ∃ shown, display.1 = earlier ++ shown ∧ PhaseState.Path cap (shown.map (·.phases)) display.2
  current : display.2.phase = phase
  found : display.2.progress.find? phase = some status

section Shown

variable {engine : Engine σ} {cap : Nat} {earlier : List StatusSnapshot} {phase : Phase}
  {status : PhaseStatus}

theorem Leading.showsPath {next : PhaseState} {state : EngineState σ α}
    (leading : Leading cap earlier next state) : ShowsPath cap earlier state := by
  obtain ⟨shown, written, path⟩ := leading
  exact ⟨shown, written, by simpa only [List.map_eq_nil_iff] using path.before⟩

theorem Shows.showsPath {state : EngineState σ α} (shows : Shows cap earlier phase status state.display) :
    ShowsPath cap earlier state := by
  obtain ⟨shown, written, path⟩ := shows.path
  exact ⟨shown, written, .inr ⟨_, path⟩⟩

/-- A move of the machine. -/
theorem Shows.moves {state : EngineState σ α} {next : PhaseState}
    (shows : Shows cap earlier phase status state.display)
    (moves : PhaseState.Moves cap state.display.2 next) : Leading cap earlier next state := by
  obtain ⟨shown, written, path⟩ := shows.path
  exact ⟨shown, written, path.move moves⟩

/-- The status file is written with the phases as they are. -/
theorem writeStatus_shows : Ends
    (fun state : EngineState σ α => Leading cap earlier state.display.2 state ∧
      state.display.2.phase = phase ∧ state.display.2.progress.find? phase = some status)
    (fun _ state => Shows cap earlier phase status state.display) (ShowsPath cap earlier)
    engine.writeStatus := by
  refine ⟨fun before held => ?_⟩
  obtain ⟨⟨shown, written, path⟩, current, found⟩ := held
  have came := (writeStatus_display engine before.display).come before rfl
  cases wrote : (engine.writeStatus : Step σ α Unit) before with
  | ok _ after =>
    rw [wrote] at came
    cases came with
    | ok held =>
      obtain ⟨snapshot, phases, display⟩ := held
      refine .ok ⟨⟨shown ++ [snapshot], ?_, ?_⟩, ?_, ?_⟩
      · rw [display, written, List.append_assoc]
      · rw [List.map_append, List.map_singleton, phases, display]
        exact path
      · rw [display]
        exact current
      · rw [display]
        exact found
  | error e after =>
    rw [wrote] at came
    cases came with
    | error same =>
      refine .error ⟨shown, same ▸ written, ?_⟩
      simpa only [List.map_eq_nil_iff] using path.before

/-- Work that shows nothing. -/
theorem display_kept {step : Step σ α β} (keeps : Keeps EngineState.display step)
    (holds : List StatusSnapshot × PhaseState → Prop)
    (bad : ∀ state : EngineState σ α, holds state.display → ShowsPath cap earlier state) :
    Ends (fun state : EngineState σ α => holds state.display) (fun _ state => holds state.display)
      (ShowsPath cap earlier) step :=
  Ends.of_keeps keeps holds bad

theorem host_display {ε : Type} (asError : ε → EngineError) (act : Act ε β) :
    Keeps EngineState.display (Step.onHost asError act : Step σ α β) :=
  Keeps.onHost _ _ fun _ _ => rfl

/-- The snapshots that an iteration shows follow a path of the machine. -/
theorem machine_shows (engine : Engine σ) (cap : Nat) (earlier : List StatusSnapshot) :
    engine.Machine (α := α) cap
      (fun phase state => Leading (max cap 1) earlier (entering phase state.display.2) state)
      (fun phase status state => Shows (max cap 1) earlier phase status state.display)
      (ShowsPath (max cap 1) earlier) where
  enter phase := by
    refine Ends.change (fun state =>
      Leading (max cap 1) earlier { state.display.2 with phase := phase } state ∧
        state.display.2.progress.find? phase = some .running)
      (fun state held => ⟨held, OrderedMap.find?_insert_self _ _ _⟩) ?_
    refine Ends.bind (Ends.modify fun state held => ?_) fun _ =>
      Ends.bind writeStatus_shows fun _ => display_kept (host_display _ _) _ fun _ => Shows.showsPath
    exact ⟨held.1, rfl, held.2⟩
  leave phase status started ended learns := by
    refine Ends.bind (display_kept (host_display _ _) _ fun _ => Shows.showsPath) fun now => ?_
    refine Ends.bind (Ends.modify fun state held => ?_) fun _ => writeStatus_shows
    obtain rfl := held.current
    exact ⟨held.moves (.leave held.found ended learns), rfl, OrderedMap.find?_insert_self _ _ _⟩
  ask phase β call := display_kept (Keeps.ask _ fun _ _ => rfl) _ fun _ => Shows.showsPath
  build phase artifact :=
    display_kept (Keeps.askBuilder _ fun _ _ _ => rfl) _ fun _ => Shows.showsPath
  influence phase decision annotations confidence :=
    Ends.bind (display_kept (host_display _ _) _ fun _ => Shows.showsPath) fun _ => Ends.modify fun _ => id
  adopt _ _ _ := id
  follow follows state held := by
    have current := held.current
    subst current
    exact held.moves (.enter held.found follows)
  begin retries number allowed state held numbered := by
    have current := held.current
    subst current numbered
    exact held.moves (.retry held.found retries allowed)
  note _ _ _ _ _ := id

theorem learner_shows [Arithmetic α] (engine : Engine σ) (cap : Nat)
    (earlier : List StatusSnapshot) : engine.Learner (α := α) cap
      (fun phase state => Leading (max cap 1) earlier (entering phase state.display.2) state)
      (fun phase status state => Shows (max cap 1) earlier phase status state.display)
      (ShowsPath (max cap 1) earlier) where
  toMachine := machine_shows engine cap earlier
  settle _ _ _ _ := id
  clock := display_kept (host_display _ _) _ fun _ => Shows.showsPath
  record _ _ _ := id
  resolve _ _ := id
  unresolved _ := Shows.showsPath
  observe _ _ _ _ _ _ := id
  saveErrors state := (display_kept (host_display _ _) _ fun _ => Shows.showsPath).come state
  savePatterns state := (display_kept (host_display _ _) _ fun _ => Shows.showsPath).come state

/-- An iteration that was begun is about to show that exploration is under way. -/
theorem beginIteration_shows : Ends (fun state : EngineState σ α => state.display.1 = earlier)
    (fun _ state => Leading cap earlier (entering .exploration state.display.2) state)
    (ShowsPath cap earlier) engine.beginIteration := by
  have timed : Ends (fun state : EngineState σ α => state.display.1 = earlier)
      (fun _ state => state.display.1 = earlier) (ShowsPath cap earlier) Step.now := by
    refine display_kept (host_display _ _) (fun display => display.1 = earlier) fun state same => ?_
    exact ⟨[], by rw [same, List.append_nil], .inl rfl⟩
  refine Ends.bind timed fun started => Ends.bind timed fun shown => ?_
  refine Ends.modify fun state same => ⟨[], ?_, .start⟩
  rw [List.append_nil]
  exact same

/-- An iteration that was learnt from shows that once more when it is counted. -/
theorem finishIteration_shows : Ends
    (fun state : EngineState σ α => Shows cap earlier .learning .completed state.display)
    (fun _ state => Shows cap earlier .learning .completed state.display)
    (ShowsPath cap earlier) engine.finishIteration := by
  refine Ends.bind Ends.get fun state => ?_
  refine Ends.bind (display_kept (host_display _ _) _ fun _ => Shows.showsPath) fun _ => ?_
  refine Ends.change (fun state => Shows cap earlier .learning .completed state.display)
    (fun _ => id) ?_
  refine Ends.bind (Ends.modify fun state held => ?_) fun _ => writeStatus_shows
  obtain ⟨shown, written, path⟩ := held.path
  have same : { state.display.2 with phase := .learning } = state.display.2 := by
    rw [← held.current]
  refine ⟨⟨shown, written, ?_⟩, rfl, held.found⟩
  show PhaseState.Path cap (_ ++ [{ state.display.2 with phase := .learning }])
    { state.display.2 with phase := .learning }
  rw [same]
  exact path.move (.rest held.current held.found)

/-- What an iteration has shown when it is over, and when it breaks off. -/
theorem iterate_shows [Arithmetic α] {cap : Nat}
    (checked : engine.project.settings.retryPolicy.checkCap cap = .ok ()) :
    Ends (fun state : EngineState σ α => state.display.1 = earlier)
      (fun _ state => Shows cap earlier .learning .completed state.display)
      (ShowsPath cap earlier) (engine.iterate cap) := by
  have positive : 1 ≤ cap := RetryPolicy.pos_of_checkCap checked
  have learner := learner_shows (α := α) engine cap earlier
  rw [Nat.max_eq_left positive] at learner
  rw [iterate_eq_perform checked]
  refine Ends.bind (learner.perform positive beginIteration_shows) fun _ => ?_
  refine Ends.bind finishIteration_shows fun _ => Ends.bind Ends.get fun _ => ?_
  exact Ends.pure fun _ => id

end Shown

/-! ### The file -/

/-- The status file is that of the last snapshot written behind earlier ones. -/
def Displayed (engine : Engine σ) (root : Place) (initial : Option Node)
    (earlier : List StatusSnapshot) (state : EngineState σ α) : Prop :=
  ∃ shown, state.written = earlier ++ shown ∧
    engine.Keeping root "status.json" (StatusSnapshot.nodeAfter initial shown) state

section Displayed

variable {engine : Engine σ} {root : Place} {initial : Option Node}
  {earlier : List StatusSnapshot}

theorem writeStatus_displayed : Ends (engine.Displayed (α := α) root initial earlier)
    (fun _ => engine.Displayed root initial earlier) (engine.Displayed root initial earlier)
    engine.writeStatus := by
  refine Ends.change (engine.Displayed root initial earlier) (fun _ => id)
    (Ends.look fun state held => ?_)
  obtain ⟨shown, written, keeping⟩ := held
  have wrote : Ends (· = state) (fun snapshot state => state.written = earlier ++ shown ∧
        engine.Keeping root "status.json" (some snapshot.node) state)
      (engine.Displayed root initial earlier) (Step.onHost (.persistence "write status")
        (state.snapshot.update engine.project.statusFile)) := by
    refine Ends.onHost fun state' same => ?_
    rw [same]
    generalize named : engine.project.statusFile = path
    refine StatusSnapshot.update_ends fun snapshot => ?_
    have timed : engine.project.Keeping root "status.json" _
      { state.host with readings := state.host.readings + 1 }.disk := keeping
    exact (timed.replace_ends named (Plain.of_long (by decide) (by decide))).mono
      (fun _ _ kept => ⟨written, kept⟩) fun _ _ kept => ⟨shown, written, kept⟩
  refine (Ends.bind wrote fun snapshot => Ends.modify fun after held => ?_).come state rfl
  obtain ⟨written, kept⟩ := held
  refine ⟨shown ++ [snapshot], ?_, ?_⟩
  · rw [written, List.append_assoc]
  · rw [StatusSnapshot.nodeAfter_append]
    exact kept

/-- Work on the host that leaves the status file alone. -/
theorem host_displayed {ε : Type} {asError : ε → EngineError} {act : Act ε β}
    (leaves : ∀ content, Ends (engine.Keeping (α := α) root "status.json" content)
      (fun _ => engine.Keeping root "status.json" content)
      (engine.Keeping root "status.json" content) (Step.onHost asError act)) :
    Ends (engine.Displayed (α := α) root initial earlier)
      (fun _ => engine.Displayed root initial earlier) (engine.Displayed root initial earlier)
      (Step.onHost asError act) := by
  refine ⟨fun before held => ?_⟩
  obtain ⟨shown, written, keeping⟩ := held
  have silent : Ends (fun state : EngineState σ α => state.written = earlier ++ shown)
      (fun _ state => state.written = earlier ++ shown)
      (fun state => state.written = earlier ++ shown) (Step.onHost asError act) :=
    Ends.of_keeps (Keeps.onHost _ _ fun _ _ => rfl) (fun shown' => shown' = earlier ++ shown)
      fun _ => id
  exact ((silent.and (leaves _)).mono (fun _ => id) (fun _ _ kept => ⟨shown, kept.1, kept.2⟩)
    fun _ kept => ⟨shown, kept.1, kept.2⟩).come before ⟨written, keeping⟩

/-- An iteration that is counted goes into the history beside the status file. -/
theorem finishIteration_displayed : Ends (engine.Displayed (α := α) root initial earlier)
    (fun _ => engine.Displayed root initial earlier) (engine.Displayed root initial earlier)
    engine.finishIteration := by
  refine Ends.bind Ends.get fun counted => ?_
  have appended : Ends (engine.Displayed (α := α) root initial earlier)
      (fun _ => engine.Displayed root initial earlier) (engine.Displayed root initial earlier)
      (Step.onHost (.persistence "append history") (History.append engine.project.historyFile
        ⟨counted.session.id, counted.iteration⟩)) := by
    refine host_displayed fun content => ?_
    exact history_ends (Project.Keeping.guards engine.project root "status.json" content)
      (fun _ keeping => keeping.directory) _
      (Project.Apart.of_visible (by decide) (by decide)).beside
  refine Ends.bind appended fun _ => ?_
  refine Ends.change (engine.Displayed root initial earlier) (fun _ => id) ?_
  exact Ends.bind (Ends.modify fun _ => id) fun _ => writeStatus_displayed

theorem steady_displayed [Arithmetic α] (spares : engine.builder.Spares engine.project) :
    engine.Steady (α := α) (engine.Displayed root initial earlier) where
  clock := ⟨fun _ held => .ok held⟩
  agents _ _ := id
  build artifact state held := by
    obtain ⟨shown, written, keeping⟩ := held
    exact ⟨shown, written, spares artifact state.agents state.host _ _ _ keeping⟩
  influence _ _ _ _ _ _ := id
  adopt _ _ := id
  iteration _ _ := id
  snapshot _ _ := id
  status := writeStatus_displayed
  record _ _ _ := id
  resolve _ _ := id
  observe _ _ _ _ _ _ := id
  saveErrors state := (host_displayed fun content => store_ends
    (Project.Keeping.guards engine.project root "status.json" content)
    (fun _ keeping => keeping.directory) (ErrorIndex.recordsToJson state.index.records)
    (Plain.of_long (by decide) (by decide))
    (Project.Apart.of_visible (by decide) (by decide)).beside).come state
  savePatterns state := (host_displayed fun content => store_ends
    (Project.Keeping.guards engine.project root "status.json" content)
    (fun _ keeping => keeping.directory) state.table.toJson
    (Plain.of_long (by decide) (by decide))
    (Project.Apart.of_visible (by decide) (by decide)).beside).come state

/-- When an iteration is over, or breaks off, the status file is that of the last snapshot. -/
theorem iterate_displayed [Arithmetic α] {cap : Nat}
    (checked : engine.project.settings.retryPolicy.checkCap cap = .ok ())
    (spares : engine.builder.Spares engine.project) :
    Ends (engine.Displayed (α := α) root initial earlier)
      (fun _ => engine.Displayed root initial earlier) (engine.Displayed root initial earlier)
      (engine.iterate cap) := by
  have steady : engine.Steady (α := α) (engine.Displayed root initial earlier) :=
    steady_displayed spares
  rw [iterate_eq_perform checked]
  refine Ends.bind ((steady.learner cap).perform (RetryPolicy.pos_of_checkCap checked)
    steady.beginIteration) fun _ => ?_
  refine Ends.bind finishIteration_displayed fun _ => Ends.bind Ends.get fun _ => ?_
  exact Ends.pure fun _ => id

end Displayed

/-! ### What the status file shows -/

/-- The current phases that snapshots show, each with what became of it. -/
def marksOf (shown : List StatusSnapshot) : List (Phase × PhaseStatus) :=
  shown.map fun snapshot => snapshot.phases.mark

theorem marksOf_eq (shown : List StatusSnapshot) :
    marksOf shown = (shown.map (·.phases)).map PhaseState.mark := by
  rw [List.map_map]
  rfl

/-- What a path shows is legal, and is up to each moment what is shown on a path. -/
theorem legal_of_path {cap : Nat} {shown : List StatusSnapshot} {last : PhaseState}
    (path : PhaseState.Path cap (shown.map (·.phases)) last) :
    (∀ snapshot ∈ shown, snapshot.phases.Legal cap) ∧
      ∀ count, count < shown.length → ∃ phase status,
        PhaseState.Reached phase status (marksOf (shown.take (count + 1))) := by
  refine ⟨fun snapshot member => ?_, fun count within => ?_⟩
  · exact path.legal.2 _ (List.mem_map_of_mem member)
  · obtain ⟨last, part⟩ := path.take (by rwa [List.length_map])
    obtain ⟨status, -, reached⟩ := part.reached
    rw [← List.map_take, ← marksOf_eq] at reached
    exact ⟨_, _, reached⟩

section

variable [Arithmetic α] (engine : Engine σ) (cap : Nat) (before : EngineState σ α)

theorem iterate_showsPath :
    ShowsPath cap before.written ((engine.iterate cap).final before) := by
  cases checked : engine.project.settings.retryPolicy.checkCap cap with
  | error e =>
    rw [Step.final_of_error (iterate_of_refused engine cap before checked)]
    exact ⟨[], (List.append_nil _).symm, .inl rfl⟩
  | ok _ =>
    have shows : Ends (fun state : EngineState σ α => state.display.1 = before.written)
        (fun _ => ShowsPath cap before.written) (ShowsPath cap before.written)
        (engine.iterate cap) :=
      (iterate_shows checked).mono (fun _ => id) (fun _ _ => Shows.showsPath) fun _ => id
    exact shows.final rfl

theorem iterate_keeps_status_file {root : Place} {initial : Option Node}
    (spares : engine.builder.Spares engine.project)
    (keeping : engine.Keeping root "status.json" initial before) :
    engine.Displayed root initial before.written ((engine.iterate cap).final before) := by
  have displayed : engine.Displayed root initial before.written before :=
    ⟨[], (List.append_nil _).symm, keeping⟩
  cases checked : engine.project.settings.retryPolicy.checkCap cap with
  | error e => rwa [Step.final_of_error (iterate_of_refused engine cap before checked)]
  | ok _ => exact (iterate_displayed checked spares).final displayed

/-- Every snapshot that an iteration writes, whether it is over or breaks off, is legal under its
cap: it tells of all six phases, at most the current one is under way, and as many attempts as the
cap allows were begun; the phases before one of the first five have come to their end and those
behind it are pending, and when learning is on only phases of an attempt behind one that failed are
pending. What the snapshots show up to each moment is what is shown on a path of the machine. When
the iteration is over they have shown exploration, reasoning, attempts of which all but the last
failed and learning, each phase entered and left. In a project whose files the builder leaves alone
the status file is that of the last of them. -/
theorem iterate_writes_legal_status :
    ∃ shown, ((engine.iterate cap).final before).written = before.written ++ shown ∧
      (∀ snapshot ∈ shown, snapshot.phases.Legal cap) ∧
      (∀ count, count < shown.length → ∃ phase status,
        PhaseState.Reached phase status (marksOf (shown.take (count + 1)))) ∧
      (∀ result after, engine.iterate cap before = .ok result after →
        ∃ (explored reasoned : PhaseStatus) (failed : List Phase) (last : Option Phase)
            (count : Nat),
          explored.isTerminal = true ∧ reasoned.isTerminal = true ∧
          (∀ phase ∈ failed, phase.isRetried = true) ∧ (∀ phase ∈ last, phase.isRetried = true) ∧
          marksOf shown = PhaseState.firstMarks explored reasoned failed ++
            (PhaseState.attemptMarks last ++
              (.learning, .running) :: List.replicate (count + 1) (.learning, .completed)) ∧
          PhaseState.entered (marksOf shown) = [.exploration, .reasoning] ++
            failed.flatMap (fun phase => PhaseState.attemptBlock (some phase)) ++
              PhaseState.attemptBlock last ++ [.learning]) ∧
      ∀ root initial, engine.builder.Spares engine.project →
        engine.Keeping root "status.json" initial before →
        engine.Keeping root "status.json" (StatusSnapshot.nodeAfter initial shown)
          ((engine.iterate cap).final before) := by
  obtain ⟨shown, written, way⟩ := iterate_showsPath engine cap before
  have legal : (∀ snapshot ∈ shown, snapshot.phases.Legal cap) ∧
      ∀ count, count < shown.length → ∃ phase status,
        PhaseState.Reached phase status (marksOf (shown.take (count + 1))) := by
    rcases way with rfl | ⟨last, path⟩
    · exact ⟨List.forall_mem_nil _, fun count within => absurd within (Nat.not_lt_zero _)⟩
    · exact legal_of_path path
  refine ⟨shown, written, legal.1, legal.2, ?_, ?_⟩
  · intro result after finished
    rw [Step.final_of_ok finished] at written
    cases checked : engine.project.settings.retryPolicy.checkCap cap with
    | error e =>
      rw [iterate_of_refused engine cap before checked] at finished
      cases finished
    | ok _ =>
      have shows : Shows cap before.written .learning .completed after.display :=
        (iterate_shows checked).of_ok rfl finished
      obtain ⟨shown', written', path⟩ := shows.path
      obtain rfl := List.append_cancel_left (written.symm.trans written')
      obtain ⟨status, found, reached⟩ := path.reached
      rw [shows.current] at found reached
      rw [shows.found] at found
      cases found
      rw [← marksOf_eq] at reached
      obtain ⟨explored, reasoned, failed, last, count, ended, ended', retried, isRetried, marks⟩ :=
        reached.of_learnt
      refine ⟨explored, reasoned, failed, last, count, ended, ended', retried, isRetried, marks, ?_⟩
      rw [marks]
      exact PhaseState.entered_learnt ended ended' retried isRetried (count + 1)
  · intro root initial spares keeping
    obtain ⟨shown', written', kept⟩ :=
      iterate_keeps_status_file engine cap before spares keeping
    obtain rfl := List.append_cancel_left (written.symm.trans written')
    exact kept

end

end Engine

namespace Sample

theorem stateHost_status :
    engine.Keeping [".reloop"] "status.json" none fractionalStart where
  located := by decide +kernel
  directory := by decide +kernel
  content := by decide +kernel

/-- The second attempt of an iteration passes after the first failed to generate anything. -/
theorem iterate_enters : ∃ result after, engine.iterate 2 fractionalStart = .ok result after ∧
    PhaseState.entered (Engine.marksOf after.written) = [.exploration, .reasoning, .generation,
      .generation, .review, .compilation, .learning] := by
  have enters : (match engine.iterate 2 fractionalStart with
    | .ok _ after => decide (PhaseState.entered (Engine.marksOf after.written) = [.exploration,
        .reasoning, .generation, .generation, .review, .compilation, .learning])
    | .error _ _ => false) = true := by decide +kernel
  split at enters
  · rename_i result after finished
    exact ⟨result, after, finished, of_decide_eq_true enters⟩
  · cases enters

theorem stumbling_writes_legal_status : ∃ result after,
    engine.iterate 2 fractionalStart = .ok result after ∧
      PhaseState.entered (Engine.marksOf after.written) = [.exploration, .reasoning, .generation,
        .generation, .review, .compilation, .learning] ∧
      (∀ snapshot ∈ after.written, snapshot.phases.Legal 2) ∧
      engine.Keeping [".reloop"] "status.json"
        (StatusSnapshot.nodeAfter none after.written) after := by
  obtain ⟨result, after, finished, enters⟩ := iterate_enters
  obtain ⟨shown, written, legal, -, -, file⟩ :=
    Engine.iterate_writes_legal_status engine 2 fractionalStart
  have spares : engine.builder.Spares engine.project := fun _ _ _ _ _ _ keeping => keeping
  have kept := file _ _ spares stateHost_status
  rw [Step.final_of_ok finished] at written kept
  have all : after.written = shown := written
  exact ⟨result, after, finished, enters, all ▸ legal, all ▸ kept⟩

end Sample

end TaskLoop
