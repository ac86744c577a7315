import TaskLoop.Engine.Iterate

/-!
The phases of an iteration as a machine. A state of it is what a status snapshot shows; its moves
are the ones that may lie between two snapshots. What is shown is legal on every path of the
machine, and the phases are entered in the order of exploration, reasoning, attempts of which all
but the last fail, and learning.
-/

set_option autoImplicit false

namespace TaskLoop

/-- Whether a phase is entered when another was left with a status, without another attempt. -/
inductive Phase.Follows : Phase → PhaseStatus → Phase → Prop
  | planned {status : PhaseStatus} (ended : status.isTerminal = true) :
      Follows .exploration status .reasoning
  | generated : Follows .generation .completed .review
  | reviewed : Follows .review .completed .compilation
  | passed : Follows .compilation .completed .learning
  | failed {phase : Phase} (retried : phase.isRetried = true) : Follows phase .failed .learning

/-- Whether an attempt begins when a phase was left with a status. -/
inductive Phase.Retries : Phase → PhaseStatus → Prop
  | planned {status : PhaseStatus} (ended : status.isTerminal = true) : Retries .reasoning status
  | failed {phase : Phase} (retried : phase.isRetried = true) : Retries phase .failed

namespace Phase

variable {phase next : Phase} {status : PhaseStatus}

theorem Follows.ended (follows : phase.Follows status next) : status.isTerminal = true := by
  cases follows with
  | planned ended => exact ended
  | _ => rfl

/-- Learning is entered behind the last phase of an attempt, or behind one of its phases that
failed. -/
theorem Follows.of_learning (follows : phase.Follows status .learning) :
    phase ≠ .learning ∧ (phase = .compilation ∨ phase.isRetried = true ∧ status = .failed) := by
  cases follows with
  | passed => exact ⟨Phase.noConfusion, .inl rfl⟩
  | failed retried =>
    refine ⟨?_, .inr ⟨retried, rfl⟩⟩
    rintro rfl
    cases retried

/-- Any other phase is entered behind the one before it. -/
theorem Follows.index (follows : phase.Follows status next) (other : next ≠ .learning) :
    next.index = phase.index + 1 := by
  cases follows with
  | passed => exact absurd rfl other
  | failed => exact absurd rfl other
  | _ => rfl

theorem Retries.ended (retries : phase.Retries status) : status.isTerminal = true := by
  cases retries with
  | planned ended => exact ended
  | failed => rfl

theorem Retries.past (retries : phase.Retries status) :
    phase ≠ .learning ∧ Phase.reasoning.index ≤ phase.index := by
  cases retries with
  | planned => exact ⟨Phase.noConfusion, Nat.le_refl _⟩
  | failed retried =>
    revert retried
    cases phase <;> decide

theorem index_lt_learning (other : phase ≠ .learning) : phase.index < learning.index := by
  cases phase <;> first | decide | exact absurd rfl other

end Phase

namespace PhaseProgress

/-- The progress with the phases of an attempt pending. -/
def again (progress : PhaseProgress) : PhaseProgress :=
  Engine.attemptPhases.foldl (fun status phase => status.insert phase .pending) progress

theorem find?_again (progress : PhaseProgress) (phase : Phase) :
    progress.again.find? phase =
      if phase.isRetried then some .pending else progress.find? phase := by
  simp only [again, Engine.attemptPhases, List.foldl_cons, List.foldl_nil, OrderedMap.find?_insert]
  cases phase <;> rfl

end PhaseProgress

/-- What a snapshot shows of the phases: the current one, what became of each, and how many
attempts were begun. -/
structure PhaseState where
  phase : Phase
  progress : PhaseProgress
  attempts : Nat

/-- What a snapshot shows of the phases. -/
def StatusSnapshot.phases (snapshot : StatusSnapshot) : PhaseState :=
  ⟨snapshot.phase, snapshot.progress, snapshot.attempts⟩

namespace PhaseState

/-- Exploration is under way, and nothing else was. -/
def start : PhaseState := ⟨.exploration, PhaseProgress.fresh.insert .exploration .running, 0⟩

/-- The moves under a cap on attempts: the current phase is left, another is entered, another
attempt is begun, or all is over and stays so. -/
inductive Moves (cap : Nat) : PhaseState → PhaseState → Prop
  | leave {state : PhaseState} {status : PhaseStatus}
      (under : state.progress.find? state.phase = some .running)
      (ended : status.isTerminal = true) (learns : state.phase = .learning → status = .completed) :
      Moves cap state { state with progress := state.progress.insert state.phase status }
  | enter {state : PhaseState} {status : PhaseStatus} {next : Phase}
      (left : state.progress.find? state.phase = some status)
      (follows : state.phase.Follows status next) :
      Moves cap state { state with
        phase := next
        progress := state.progress.insert next .running }
  | retry {state : PhaseState} {status : PhaseStatus}
      (left : state.progress.find? state.phase = some status) (retries : state.phase.Retries status)
      (allowed : state.attempts + 1 ≤ cap) :
      Moves cap state
        ⟨.generation, state.progress.again.insert .generation .running, state.attempts + 1⟩
  | rest {state : PhaseState} (learns : state.phase = .learning)
      (finished : state.progress.find? .learning = some .completed) : Moves cap state state

/-- A path of the machine from its start to a last state. -/
inductive Path (cap : Nat) : List PhaseState → PhaseState → Prop
  | start : Path cap [start] start
  | move {states : List PhaseState} {last next : PhaseState} (path : Path cap states last)
      (moves : Moves cap last next) : Path cap (states ++ [next]) next

/-! ### Legal states -/

/-- What a snapshot may show under a cap on attempts. -/
structure Legal (cap : Nat) (state : PhaseState) : Prop where
  known : ∀ phase, ∃ status, state.progress.find? phase = some status
  running : ∀ phase, state.progress.find? phase = some .running → phase = state.phase
  attempts : state.attempts ≤ cap
  earlier : state.phase ≠ .learning → ∀ phase, phase.index < state.phase.index →
    ∃ status, state.progress.find? phase = some status ∧ status.isTerminal = true
  later : state.phase ≠ .learning → ∀ phase, state.phase.index < phase.index →
    state.progress.find? phase = some .pending
  skipped : state.phase = .learning → ∀ phase, state.progress.find? phase = some .pending →
    phase.isRetried = true ∧ ∃ failed : Phase, failed.isRetried = true ∧
      failed.index < phase.index ∧ state.progress.find? failed = some .failed

theorem legal_start (cap : Nat) : start.Legal cap where
  known phase := by cases phase <;> exact ⟨_, rfl⟩
  running phase under := by cases phase <;> first | rfl | cases under
  attempts := Nat.zero_le cap
  earlier _ phase before := absurd before (Nat.not_lt_zero _)
  later _ phase after := by cases phase <;> first | rfl | exact absurd after (Nat.lt_irrefl 0)
  skipped learns := by cases learns

section

variable {cap : Nat} {state : PhaseState}

/-- A status of a phase is looked up by whether it is the one that was set. -/
theorem find?_set (progress : PhaseProgress) (phase asked : Phase) (status : PhaseStatus) :
    (progress.insert phase status).find? asked =
      if asked = phase then some status else progress.find? asked := by
  by_cases same : asked = phase
  · rw [if_pos same, same, OrderedMap.find?_insert_self]
  · rw [if_neg same, OrderedMap.find?_insert_of_ne _ _ same]

/-- The current phase is left. -/
theorem Legal.leave (legal : state.Legal cap) {status : PhaseStatus}
    (ended : status.isTerminal = true) (learns : state.phase = .learning → status = .completed) :
    Legal cap { state with progress := state.progress.insert state.phase status } where
  known phase := by
    rw [find?_set]
    split
    · exact ⟨status, rfl⟩
    · exact legal.known phase
  running phase under := by
    rw [find?_set] at under
    split at under
    · assumption
    · exact legal.running phase under
  attempts := legal.attempts
  earlier other phase before := by
    rw [find?_set]
    split
    · exact ⟨status, rfl, ended⟩
    · exact legal.earlier other phase before
  later other phase after := by
    have apart : phase ≠ state.phase := fun same => Nat.lt_irrefl _ (same ▸ after)
    rw [find?_set, if_neg apart]
    exact legal.later other phase after
  skipped learning phase pending := by
    have last : state.phase = .learning := learning
    have kept (asked : Phase) (apart : asked ≠ .learning) :
        (state.progress.insert state.phase status).find? asked = state.progress.find? asked := by
      rw [find?_set, if_neg (last ▸ apart)]
    by_cases same : phase = .learning
    · rw [find?_set, if_pos (same.trans last.symm), learns last] at pending
      cases pending
    · rw [kept phase same] at pending
      obtain ⟨retried, failed, isRetried, before, found⟩ := legal.skipped last phase pending
      have other : failed ≠ .learning := by
        rintro rfl
        cases isRetried
      exact ⟨retried, failed, isRetried, before, (kept failed other).trans found⟩

/-- The phase behind the current one is entered. -/
theorem Legal.next (legal : state.Legal cap) {status : PhaseStatus} {next : Phase}
    (left : state.progress.find? state.phase = some status) (ended : status.isTerminal = true)
    (behind : next.index = state.phase.index + 1) (other : next ≠ .learning) :
    Legal cap { state with phase := next, progress := state.progress.insert next .running } where
  known phase := by
    rw [find?_set]
    split
    · exact ⟨.running, rfl⟩
    · exact legal.known phase
  running phase under := by
    rw [find?_set] at under
    split at under
    · assumption
    · rw [legal.running phase under, left] at under
      cases under
      cases ended
  attempts := legal.attempts
  earlier _ phase before := by
    have index : phase.index < next.index := before
    have apart : phase ≠ next := fun same => Nat.lt_irrefl _ (same ▸ index)
    rw [find?_set, if_neg apart]
    rcases Nat.lt_or_eq_of_le (Nat.lt_succ_iff.mp (behind ▸ index)) with less | same
    · refine legal.earlier (fun learning => ?_) phase less
      have past := Phase.index_lt_learning other
      rw [behind, learning] at past
      exact absurd past (Nat.not_succ_lt_self)
    · rw [Phase.index_injective same]
      exact ⟨status, left, ended⟩
  later _ phase after := by
    have index : next.index < phase.index := after
    have apart : phase ≠ next := fun same => Nat.lt_irrefl _ (same ▸ index)
    rw [find?_set, if_neg apart]
    refine legal.later (fun learning => ?_) phase (by omega)
    have past := Phase.index_lt_learning other
    rw [behind, learning] at past
    exact absurd past (Nat.not_succ_lt_self)
  skipped learning := absurd learning other

/-- Learning is entered, with phases pending only behind one that failed. -/
theorem Legal.learn (legal : state.Legal cap) {status : PhaseStatus}
    (left : state.progress.find? state.phase = some status)
    (follows : state.phase.Follows status .learning) :
    Legal cap { state with
      phase := .learning
      progress := state.progress.insert .learning .running } where
  known phase := by
    rw [find?_set]
    split
    · exact ⟨.running, rfl⟩
    · exact legal.known phase
  running phase under := by
    rw [find?_set] at under
    split at under
    · assumption
    · rw [legal.running phase under, left] at under
      cases under
      exact absurd follows.ended Bool.false_ne_true
  attempts := legal.attempts
  earlier other := absurd rfl other
  later other := absurd rfl other
  skipped _ phase pending := by
    have apart : phase ≠ .learning := by
      rintro rfl
      rw [OrderedMap.find?_insert_self] at pending
      cases pending
    have waiting : state.progress.find? phase = some .pending := by
      rwa [find?_set, if_neg apart] at pending
    obtain ⟨other, how⟩ := follows.of_learning
    -- What was before the current phase has come to its end, and so has that phase,
    have behind : state.phase.index < phase.index := by
      rcases Nat.lt_trichotomy phase.index state.phase.index with less | same | more
      · obtain ⟨reached, found, ended⟩ := legal.earlier other phase less
        rw [waiting] at found
        cases found
        cases ended
      · rw [Phase.index_injective same, left] at waiting
        cases waiting
        exact absurd follows.ended Bool.false_ne_true
      · exact more
    have within := Phase.index_lt_learning apart
    -- so that one is pending only if the current phase is not the last of an attempt.
    rcases how with last | ⟨retried, rfl⟩
    · rw [last] at behind
      exact absurd behind (Nat.not_lt.mpr (Nat.le_of_lt_succ within))
    · refine ⟨?_, state.phase, retried, behind, by rw [find?_set, if_neg other, left]⟩
      revert within behind retried
      generalize state.phase = current
      cases current <;> cases phase <;> decide

/-- Another attempt is begun. -/
theorem Legal.retry (legal : state.Legal cap) {status : PhaseStatus}
    (left : state.progress.find? state.phase = some status) (retries : state.phase.Retries status)
    (allowed : state.attempts + 1 ≤ cap) :
    Legal cap ⟨.generation, state.progress.again.insert .generation .running,
      state.attempts + 1⟩ := by
  obtain ⟨other, reasoned⟩ := retries.past
  exact {
    known := by
      intro phase
      rw [find?_set, PhaseProgress.find?_again]
      split
      · exact ⟨_, rfl⟩
      · split
        · exact ⟨_, rfl⟩
        · exact legal.known phase
    running := by
      intro phase under
      rw [find?_set, PhaseProgress.find?_again] at under
      split at under
      · assumption
      · split at under
        · cases under
        · rw [legal.running phase under, left] at under
          cases under
          exact absurd retries.ended Bool.false_ne_true
    attempts := allowed
    earlier := by
      intro _ phase before
      have first : phase.index ≤ Phase.reasoning.index := Nat.le_of_lt_succ before
      have kept : phase.isRetried = false ∧ phase ≠ .generation := by
        revert first
        cases phase <;> decide
      rw [find?_set, if_neg kept.2, PhaseProgress.find?_again, kept.1, if_neg Bool.false_ne_true]
      rcases Nat.lt_or_eq_of_le (Nat.le_trans first reasoned) with less | same
      · exact legal.earlier other phase less
      · rw [Phase.index_injective same]
        exact ⟨status, left, retries.ended⟩
    later := by
      intro _ phase after
      have index : Phase.generation.index < phase.index := after
      have apart : phase ≠ .generation := fun same => Nat.lt_irrefl _ (same ▸ index)
      rw [find?_set, if_neg apart, PhaseProgress.find?_again]
      split
      · rfl
      · rename_i kept
        have last : phase = .learning := by
          revert index kept
          cases phase <;> decide
        rw [last]
        exact legal.later other .learning (Phase.index_lt_learning other)
    skipped := Phase.noConfusion }

/-- A move leads from a legal state to a legal one. -/
theorem Moves.legal {next : PhaseState} (moves : Moves cap state next) (legal : state.Legal cap) :
    next.Legal cap := by
  cases moves with
  | leave under ended learns => exact legal.leave ended learns
  | rest learns finished => exact legal
  | retry left retries allowed => exact legal.retry left retries allowed
  | @enter status next left follows =>
    by_cases learning : next = .learning
    · subst learning
      exact legal.learn left follows
    · exact legal.next left follows.ended (follows.index learning) learning

/-- All states of a path are legal. -/
theorem Path.legal {states : List PhaseState} {last : PhaseState} (path : Path cap states last) :
    last.Legal cap ∧ ∀ state ∈ states, state.Legal cap := by
  induction path with
  | start => exact ⟨legal_start cap, List.forall_mem_singleton.mpr (legal_start cap)⟩
  | move path moves ih =>
    have legal := moves.legal ih.1
    refine ⟨legal, fun state member => ?_⟩
    rcases List.mem_append.mp member with earlier | same
    · exact ih.2 state earlier
    · exact List.mem_singleton.mp same ▸ legal

end

/-- The states of a path up to one of them are a path. -/
theorem Path.take {cap : Nat} {states : List PhaseState} {last : PhaseState}
    (path : Path cap states last) {count : Nat} (within : count < states.length) :
    ∃ last, Path cap (states.take (count + 1)) last := by
  induction path with
  | start =>
    rw [Nat.lt_one_iff.mp within]
    exact ⟨_, .start⟩
  | @move states last next path moves ih =>
    rcases Nat.lt_or_ge count states.length with earlier | whole
    · rw [List.take_append_of_le_length earlier]
      exact ih earlier
    · have all : (states ++ [next]).length ≤ count + 1 := by
        rw [List.length_append, List.length_singleton]
        exact Nat.succ_le_succ whole
      rw [List.take_of_length_le all]
      exact ⟨_, path.move moves⟩

/-- What comes before the last state of a path is a path, unless nothing does. -/
theorem Path.before {cap : Nat} {states : List PhaseState} {last state : PhaseState}
    (path : Path cap (states ++ [state]) last) : states = [] ∨ ∃ last, Path cap states last := by
  rcases Nat.eq_zero_or_pos states.length with none | some
  · exact .inl (List.length_eq_zero_iff.mp none)
  · have within : states.length - 1 < (states ++ [state]).length := by
      rw [List.length_append, List.length_singleton]
      omega
    have part := path.take within
    rw [Nat.sub_add_cancel some, List.take_left] at part
    exact .inr part

/-! ### The order of phases -/

/-- The current phase and what became of it. -/
def mark (state : PhaseState) : Phase × PhaseStatus :=
  (state.phase, (state.progress.find? state.phase).getD .pending)

/-- A phase is entered and left with a status. -/
def through (phase : Phase) (status : PhaseStatus) : List (Phase × PhaseStatus) :=
  [(phase, .running), (phase, status)]

/-- The phases of an attempt before one of them, each entered and completed. -/
def upTo (phase : Phase) : List (Phase × PhaseStatus) :=
  (Engine.attemptPhases.takeWhile (· != phase)).flatMap fun earlier => through earlier .completed

/-- What an attempt shows, by the phase it failed in if it did. -/
def attemptMarks : Option Phase → List (Phase × PhaseStatus)
  | none => upTo .compilation ++ through .compilation .completed
  | some failed => upTo failed ++ through failed .failed

/-- What comes before the last attempt: exploration and reasoning, and attempts that failed. -/
def firstMarks (explored reasoned : PhaseStatus) (failed : List Phase) :
    List (Phase × PhaseStatus) :=
  through .exploration explored ++ through .reasoning reasoned ++
    failed.flatMap fun phase => attemptMarks (some phase)

/-- What is shown when a phase has come to a status. -/
inductive Reached : Phase → PhaseStatus → List (Phase × PhaseStatus) → Prop
  | exploring : Reached .exploration .running [(.exploration, .running)]
  | explored {explored : PhaseStatus} (ended : explored.isTerminal = true) :
      Reached .exploration explored (through .exploration explored)
  | reasoning {explored : PhaseStatus} (ended : explored.isTerminal = true) :
      Reached .reasoning .running (through .exploration explored ++ [(.reasoning, .running)])
  | reasoned {explored reasoned : PhaseStatus} (ended : explored.isTerminal = true)
      (ended' : reasoned.isTerminal = true) :
      Reached .reasoning reasoned (firstMarks explored reasoned [])
  | trying {explored reasoned : PhaseStatus} {failed : List Phase} {phase : Phase}
      (ended : explored.isTerminal = true) (ended' : reasoned.isTerminal = true)
      (retried : ∀ phase ∈ failed, phase.isRetried = true) (isRetried : phase.isRetried = true) :
      Reached phase .running (firstMarks explored reasoned failed ++ (upTo phase ++
        [(phase, .running)]))
  | tried {explored reasoned status : PhaseStatus} {failed : List Phase} {phase : Phase}
      (ended : explored.isTerminal = true) (ended' : reasoned.isTerminal = true)
      (retried : ∀ phase ∈ failed, phase.isRetried = true) (isRetried : phase.isRetried = true)
      (left : status.isTerminal = true) :
      Reached phase status (firstMarks explored reasoned failed ++ (upTo phase ++
        through phase status))
  | learning {explored reasoned : PhaseStatus} {failed : List Phase} {last : Option Phase}
      (ended : explored.isTerminal = true) (ended' : reasoned.isTerminal = true)
      (retried : ∀ phase ∈ failed, phase.isRetried = true)
      (isRetried : ∀ phase ∈ last, phase.isRetried = true) :
      Reached .learning .running (firstMarks explored reasoned failed ++ (attemptMarks last ++
        [(.learning, .running)]))
  | learnt {explored reasoned : PhaseStatus} {failed : List Phase} {last : Option Phase}
      (ended : explored.isTerminal = true) (ended' : reasoned.isTerminal = true)
      (retried : ∀ phase ∈ failed, phase.isRetried = true)
      (isRetried : ∀ phase ∈ last, phase.isRetried = true) (count : Nat) :
      Reached .learning .completed (firstMarks explored reasoned failed ++ (attemptMarks last ++
        (.learning, .running) :: List.replicate (count + 1) (.learning, .completed)))

namespace Reached

variable {phase next : Phase} {status : PhaseStatus} {marks : List (Phase × PhaseStatus)}

theorem leave (reached : Reached phase .running marks) (ended : status.isTerminal = true)
    (learns : phase = .learning → status = .completed) :
    Reached phase status (marks ++ [(phase, status)]) := by
  cases reached with
  | exploring => exact .explored ended
  | explored under => cases under
  | reasoning before => exact .reasoned before ended
  | reasoned _ under => cases under
  | trying before before' retried isRetried =>
    simp only [List.append_assoc]
    exact tried before before' retried isRetried ended
  | tried _ _ _ _ under => cases under
  | learning before before' retried isRetried =>
    rw [learns rfl]
    simp only [List.append_assoc]
    exact learnt before before' retried isRetried 0

theorem enter (reached : Reached phase status marks) (follows : phase.Follows status next) :
    Reached next .running (marks ++ [(next, .running)]) := by
  cases follows with
  | planned ended =>
    cases reached with
    | exploring => cases ended
    | explored ended => exact .reasoning ended
    | trying _ _ _ isRetried => cases isRetried
    | tried _ _ _ isRetried => cases isRetried
  | generated =>
    cases reached with
    | tried before before' retried _ _ =>
      simp only [List.append_assoc]
      exact @trying _ _ _ .review before before' retried rfl
  | reviewed =>
    cases reached with
    | tried before before' retried _ _ =>
      simp only [List.append_assoc]
      exact @trying _ _ _ .compilation before before' retried rfl
  | passed =>
    cases reached with
    | tried before before' retried _ _ =>
      simp only [List.append_assoc]
      exact @learning _ _ _ none before before' retried fun _ absent => by cases absent
  | failed retried' =>
    cases reached with
    | explored => cases retried'
    | reasoned => cases retried'
    | tried before before' retried _ _ =>
      rw [List.append_assoc]
      exact @learning _ _ _ (some phase) before before' retried fun _ same => by
        cases same
        exact retried'

theorem retry (reached : Reached phase status marks) (retries : phase.Retries status) :
    Reached .generation .running (marks ++ [(.generation, .running)]) := by
  cases retries with
  | planned ended =>
    cases reached with
    | reasoning => cases ended
    | reasoned before before' =>
      exact @trying _ _ [] _ before before' (List.forall_mem_nil _) rfl
    | trying _ _ _ isRetried => cases isRetried
    | tried _ _ _ isRetried => cases isRetried
  | failed retried' =>
    cases reached with
    | explored => cases retried'
    | reasoned => cases retried'
    | @tried explored reasoned _ failed _ before before' retried _ _ =>
      have more : ∀ other ∈ failed ++ [phase], other.isRetried = true := by
        intro other member
        rcases List.mem_append.mp member with earlier | same
        · exact retried other earlier
        · exact List.mem_singleton.mp same ▸ retried'
      have longer : firstMarks explored reasoned (failed ++ [phase]) =
          firstMarks explored reasoned failed ++ (upTo phase ++ through phase .failed) := by
        simp only [firstMarks, List.flatMap_append, List.flatMap_singleton, attemptMarks,
          List.append_assoc]
      rw [← longer]
      exact trying before before' more rfl

theorem rest (reached : Reached .learning .completed marks) :
    Reached .learning .completed (marks ++ [(.learning, .completed)]) := by
  cases reached with
  | tried _ _ _ isRetried => cases isRetried
  | learnt before before' retried isRetried count =>
    have longer := learnt before before' retried isRetried (count + 1)
    rw [List.replicate_succ' (n := count + 1)] at longer
    simpa only [List.append_assoc, List.cons_append] using longer

/-- When all is over everything was shown. -/
theorem of_learnt (reached : Reached .learning .completed marks) :
    ∃ (explored reasoned : PhaseStatus) (failed : List Phase) (last : Option Phase) (count : Nat),
      explored.isTerminal = true ∧ reasoned.isTerminal = true ∧
      (∀ phase ∈ failed, phase.isRetried = true) ∧ (∀ phase ∈ last, phase.isRetried = true) ∧
      marks = firstMarks explored reasoned failed ++ (attemptMarks last ++
        (.learning, .running) :: List.replicate (count + 1) (.learning, .completed)) := by
  cases reached with
  | tried _ _ _ isRetried => cases isRetried
  | learnt ended ended' retried isRetried count =>
    exact ⟨_, _, _, _, count, ended, ended', retried, isRetried, rfl⟩

end Reached

/-- What a path shows is what is shown when its last phase has come to its status. -/
theorem Path.reached {cap : Nat} {states : List PhaseState} {last : PhaseState}
    (path : Path cap states last) :
    ∃ status, last.progress.find? last.phase = some status ∧
      Reached last.phase status (states.map mark) := by
  induction path with
  | start => exact ⟨.running, rfl, .exploring⟩
  | @move states last next path moves ih =>
    obtain ⟨status, found, reached⟩ := ih
    rw [List.map_append, List.map_singleton]
    cases moves with
    | leave under ended learns =>
      rw [under] at found
      cases found
      refine ⟨_, OrderedMap.find?_insert_self _ _ _, ?_⟩
      simpa only [mark, OrderedMap.find?_insert_self, Option.getD_some] using reached.leave ended learns
    | enter left follows =>
      rw [left] at found
      cases found
      refine ⟨_, OrderedMap.find?_insert_self _ _ _, ?_⟩
      simpa only [mark, OrderedMap.find?_insert_self, Option.getD_some] using reached.enter follows
    | retry left retries allowed =>
      rw [left] at found
      cases found
      refine ⟨_, OrderedMap.find?_insert_self _ _ _, ?_⟩
      simpa only [mark, OrderedMap.find?_insert_self, Option.getD_some] using reached.retry retries
    | rest learns finished =>
      rw [learns] at found reached
      rw [finished] at found
      cases found
      refine ⟨.completed, by rw [learns, finished], ?_⟩
      rw [learns]
      simpa only [mark, learns, finished, Option.getD_some] using reached.rest

/-- The phases that are entered. -/
def entered (marks : List (Phase × PhaseStatus)) : List Phase :=
  marks.filterMap fun mark => if mark.2 = .running then some mark.1 else none

/-- The phases of an attempt, up to the one it failed in if it did. -/
def attemptBlock : Option Phase → List Phase
  | none => Engine.attemptPhases
  | some failed => Engine.attemptPhases.takeWhile (· != failed) ++ [failed]

theorem entered_append (marks others : List (Phase × PhaseStatus)) :
    entered (marks ++ others) = entered marks ++ entered others := List.filterMap_append

theorem entered_through (phase : Phase) {status : PhaseStatus} (ended : status.isTerminal = true) :
    entered (through phase status) = [phase] := by
  cases status with
  | pending => cases ended
  | running => cases ended
  | completed => rfl
  | failed => rfl

theorem entered_attemptMarks {outcome : Option Phase}
    (retried : ∀ phase ∈ outcome, phase.isRetried = true) :
    entered (attemptMarks outcome) = attemptBlock outcome := by
  cases outcome with
  | none => rfl
  | some failed =>
    have isRetried := retried failed rfl
    revert isRetried
    cases failed <;> decide

/-- The phases that are entered when all is over. -/
theorem entered_learnt {explored reasoned : PhaseStatus} {failed : List Phase}
    {last : Option Phase} (ended : explored.isTerminal = true)
    (ended' : reasoned.isTerminal = true) (retried : ∀ phase ∈ failed, phase.isRetried = true)
    (isRetried : ∀ phase ∈ last, phase.isRetried = true) (count : Nat) :
    entered (firstMarks explored reasoned failed ++ (attemptMarks last ++
        (.learning, .running) :: List.replicate count (.learning, .completed))) =
      [.exploration, .reasoning] ++ failed.flatMap (fun phase => attemptBlock (some phase)) ++
        attemptBlock last ++ [.learning] := by
  have attempts : entered (failed.flatMap fun phase => attemptMarks (some phase)) =
      failed.flatMap fun phase => attemptBlock (some phase) := by
    rw [entered, List.filterMap_flatMap, List.flatMap_def, List.flatMap_def]
    refine congrArg List.flatten (List.map_congr_left fun phase member => ?_)
    refine entered_attemptMarks fun other same => ?_
    cases same
    exact retried phase member
  have closing : entered ((.learning, .running) :: List.replicate count (.learning, .completed)) =
      [.learning] := by
    have rest : entered (List.replicate count (.learning, .completed)) = [] :=
      List.filterMap_replicate_of_none rfl
    rw [← List.singleton_append, entered_append, rest]
    rfl
  simp only [firstMarks, entered_append, entered_through _ ended, entered_through _ ended',
    attempts, entered_attemptMarks isRetried, closing, List.append_assoc, List.cons_append,
    List.nil_append]

end PhaseState

end TaskLoop
