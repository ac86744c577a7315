import TaskLoop.Proofs.Engine.Agreement
import TaskLoop.Proofs.Engine.Attempts
import TaskLoop.Proofs.Engine.Learning
import TaskLoop.Proofs.ErrorIndex.Marks

/-!
What learning makes of the records of failures. It marks those of an iteration that succeeded as
overcome and puts the iteration's note on them, unless they were overcome before; it marks none of
an iteration that failed; and it leaves the records of other failures as they are. Only files can
keep it from coming to its end.
-/

set_option autoImplicit false

namespace TaskLoop

namespace Step

variable {σ α β γ : Type} {kind : EngineError → Prop}

/-- The errors that work breaks off with are of a kind. -/
def FailsBy (kind : EngineError → Prop) (step : Step σ α β) : Prop :=
  ∀ before e after, step before = .error e after → kind e

namespace FailsBy

theorem pure (value : β) : FailsBy kind (Pure.pure value : Step σ α β) :=
  fun _ _ _ failed => by cases failed

theorem get : FailsBy kind (MonadState.get : Step σ α (EngineState σ α)) :=
  fun _ _ _ failed => by cases failed

theorem modify (change : EngineState σ α → EngineState σ α) :
    FailsBy kind (modify change : Step σ α Unit) :=
  fun _ _ _ failed => by cases failed

theorem now : FailsBy kind (Step.now : Step σ α Timestamp) :=
  fun _ _ _ failed => by cases failed

theorem onHost {ε : Type} {asError : ε → EngineError} {act : Act ε β}
    (kinds : ∀ host e after, act host = .error e after → kind (asError e)) :
    FailsBy kind (Step.onHost asError act : Step σ α β) := by
  intro before e after failed
  simp only [Step.onHost] at failed
  cases ran : act before.host with
  | ok value host =>
    rw [ran] at failed
    cases failed
  | error cause host =>
    rw [ran] at failed
    cases failed
    exact kinds _ _ _ ran

theorem bind {step : Step σ α β} {next : β → Step σ α γ} (first : FailsBy kind step)
    (rest : ∀ value, FailsBy kind (next value)) : FailsBy kind (step >>= next) := by
  intro before e after failed
  cases ran : step before with
  | ok value between =>
    rw [bind_of_ok next ran] at failed
    exact rest value between e after failed
  | error cause between =>
    rw [bind_of_error next ran] at failed
    cases failed
    exact first before e after ran

end FailsBy

end Step

namespace Engine

open Step (FailsBy)

variable {σ α : Type} {engine : Engine σ} {strategy : Strategy} {before after : EngineState σ α}

/-! ### What learning does to the index -/

/-- The hashes of the failures of an iteration, one for each. -/
def failureHashes (failures : List FailedAttempt) : List String :=
  failures.map fun failure => Similarity.errorHash failure.message

theorem recordFailures_records {failures : List FailedAttempt} {hashes : List String}
    (recorded : recordFailures failures before = .ok hashes after) (keyed : before.index.Keyed) :
    hashes = failureHashes failures ∧ before.index.Recorded after.index hashes := by
  induction failures generalizing before hashes with
  | nil =>
    cases recorded
    exact ⟨rfl, .refl keyed⟩
  | cons failure rest ih =>
    obtain ⟨now, host, others, counted, rfl⟩ := recordFailures_cons_eq_ok recorded
    obtain ⟨rfl, records⟩ := ih counted (keyed.recordError failure.message now)
    rw [keyed.hash_recordError]
    exact ⟨rfl, records.cons⟩

/-- A failure that is unknown or overcome is passed over. -/
theorem resolveAll_cons_of_done {note hash : String} {rest : List String}
    (done : ∀ known, before.index.records.find? hash = some known → known.resolved = true) :
    resolveAll note (hash :: rest) before = resolveAll note rest before := by
  have looked : (get : Step σ α (EngineState σ α)) before = .ok before before := rfl
  have due : ((before.index.records.find? hash).any fun record => !record.resolved) = false := by
    cases found : before.index.records.find? hash with
    | none => rfl
    | some known => rw [Option.any_some, done known found, Bool.not_true]
  rw [resolveAll, Step.bind_of_ok _ looked]
  simp only [due, Bool.false_eq_true, ↓reduceIte]

/-- A failure that is known and not overcome is marked, which cannot go wrong. -/
theorem resolveAll_cons_of_unresolved {note hash : String} {rest : List String}
    {known : ErrorRecord} (found : before.index.records.find? hash = some known)
    (unresolved : known.resolved = false) :
    ∃ record index, before.index.markResolved hash note = .ok (record, index) ∧
      resolveAll note (hash :: rest) before =
        resolveAll note rest { before with index := index } := by
  have looked : (get : Step σ α (EngineState σ α)) before = .ok before before := rfl
  have marked := ErrorIndex.markResolved_of_unresolved note found unresolved
  have due : ((before.index.records.find? hash).any fun record => !record.resolved) = true := by
    rw [found, Option.any_some, unresolved, Bool.not_false]
  refine ⟨_, _, marked, ?_⟩
  rw [resolveAll, Step.bind_of_ok _ looked]
  simp only [due, ↓reduceIte, marked]
  rfl

/-- To mark failures as overcome cannot fail. -/
theorem resolveAll_settles (note : String) (hashes : List String) (before : EngineState σ α) :
    ∃ index, resolveAll note hashes before = .ok () { before with index := index } ∧
      before.index.Settles index note hashes := by
  induction hashes generalizing before with
  | nil => exact ⟨before.index, rfl, fun _ => rfl⟩
  | cons hash rest ih =>
    by_cases done : ∀ known, before.index.records.find? hash = some known → known.resolved = true
    · obtain ⟨index, ran, settles⟩ := ih before
      exact ⟨index, (resolveAll_cons_of_done done).trans ran, settles.cons_of_done done⟩
    · obtain ⟨known, found, unresolved⟩ : ∃ known,
          before.index.records.find? hash = some known ∧ known.resolved = false := by
        simpa only [not_forall, exists_prop, Bool.not_eq_true] using done
      obtain ⟨_, between, marked, next⟩ := resolveAll_cons_of_unresolved found unresolved
      obtain ⟨index, ran, settles⟩ := ih { before with index := between }
      exact ⟨index, next.trans ran, settles.cons_of_marked marked⟩

/-! ### Only files make learning fail -/

theorem writeStatus_fails : FailsBy EngineError.OfDisk (engine.writeStatus : Step σ α Unit) := by
  refine FailsBy.bind (FailsBy.modify _) fun _ => FailsBy.bind FailsBy.get fun _ => ?_
  exact FailsBy.bind (FailsBy.onHost fun _ _ _ _ => trivial) fun _ => FailsBy.modify _

theorem enter_fails (phase : Phase) :
    FailsBy EngineError.OfDisk (engine.enter phase : Step σ α Timestamp) := by
  refine FailsBy.bind (FailsBy.modify _) fun _ => FailsBy.bind (FailsBy.modify _) fun _ => ?_
  exact FailsBy.bind writeStatus_fails fun _ => FailsBy.now

theorem leave_fails (phase : Phase) (status : PhaseStatus) (started : Timestamp) :
    FailsBy EngineError.OfDisk (engine.leave phase status started : Step σ α Unit) := by
  refine FailsBy.bind FailsBy.now fun _ => FailsBy.bind (FailsBy.modify _) fun _ => ?_
  exact writeStatus_fails

theorem recordFailures_fails (kind : EngineError → Prop) (failures : List FailedAttempt) :
    FailsBy kind (recordFailures failures : Step σ α (List String)) := by
  induction failures with
  | nil => exact FailsBy.pure []
  | cons failure rest ih =>
    refine FailsBy.bind FailsBy.now fun _ => FailsBy.bind FailsBy.get fun _ => ?_
    refine FailsBy.bind (FailsBy.modify _) fun _ => FailsBy.bind ih fun _ => FailsBy.pure _

theorem resolveAll_fails (kind : EngineError → Prop) (note : String) (hashes : List String) :
    FailsBy kind (resolveAll note hashes : Step σ α Unit) := by
  intro before e after failed
  obtain ⟨index, ran, -⟩ := resolveAll_settles note hashes before
  rw [ran] at failed
  cases failed

variable [Arithmetic α]

theorem recordOutcomes_fails (kind : EngineError → Prop) (iteration : Iteration)
    (complexity : Complexity) (phases : List Phase) :
    FailsBy kind (recordOutcomes iteration complexity phases : Step σ α Unit) := by
  induction phases with
  | nil => exact FailsBy.pure ()
  | cons phase rest ih =>
    simp only [recordOutcomes]
    split
    · exact ih
    · refine FailsBy.bind FailsBy.now fun _ => FailsBy.bind FailsBy.now fun _ => ?_
      exact FailsBy.bind (FailsBy.modify _) fun _ => ih

/-- An error of a store that is written comes of its file. -/
theorem save_fails {σ α : Type} {act : Act Failure Unit} :
    FailsBy EngineError.OfDisk
      (Step.onHost .store (act.mapError StoreError.other) : Step σ α Unit) := by
  refine FailsBy.onHost fun host e after failed => ?_
  rw [Act.mapError] at failed
  split at failed
  · cases failed
  · cases failed
    exact trivial

theorem learn_fails (strategy : Strategy) :
    FailsBy EngineError.OfDisk (engine.learn strategy : Step σ α Unit) := by
  rw [learn_eq]
  refine FailsBy.bind (enter_fails _) fun started => FailsBy.bind FailsBy.get fun state => ?_
  refine FailsBy.bind (recordFailures_fails _ _) fun hashes => FailsBy.bind ?_ fun _ => ?_
  · split
    · exact resolveAll_fails _ _ _
    · exact FailsBy.pure ()
  · refine FailsBy.bind FailsBy.get fun _ => ?_
    refine FailsBy.bind (recordOutcomes_fails _ _ _ _) fun _ => FailsBy.bind FailsBy.get fun _ => ?_
    refine FailsBy.bind save_fails fun _ => FailsBy.bind save_fails fun _ => ?_
    exact leave_fails _ _ _

/-! ### Learning -/

/-- What learning makes of the index: the failures are recorded, and after a success settled. -/
theorem learn_index (learnt : engine.learn strategy before = .ok () after)
    (keyed : before.index.Keyed) :
    ∃ counted : ErrorIndex α,
      before.index.Recorded counted (failureHashes before.iteration.failures) ∧
      if before.iteration.success then
        counted.Settles after.index (resolutionNote before.iteration strategy)
          (failureHashes before.iteration.failures)
      else after.index = counted := by
  obtain ⟨entered, recorded, resolved, tabled, saved, stored, learns⟩ := learn_eq_ok learnt
  obtain ⟨started, entering, -⟩ := learns.around
  obtain ⟨hashes, recording, resolving⟩ := learns.failing
  have begun : entered.index = before.index :=
    (Prod.mk.inj ((enter_keeps engine unmoved_stores _).of_ok entering)).2
  have bare : entered.iteration.bare = before.iteration.bare :=
    (enter_keeps engine unmoved_bare _).of_ok entering
  have failures : entered.iteration.failures = before.iteration.failures :=
    (congrArg Iteration.failures bare :)
  have success : entered.iteration.success = before.iteration.success :=
    (congrArg Iteration.success bare :)
  have note : resolutionNote entered.iteration strategy =
      resolutionNote before.iteration strategy :=
    (congrArg (fun iteration => resolutionNote iteration strategy) bare :)
  have last : after.index = resolved.index :=
    learns.same_stores.2.trans (recordOutcomes_index learns.tabling)
  obtain ⟨rfl, records⟩ := recordFailures_records recording (begun ▸ keyed)
  rw [begun, failures] at records
  rw [success, note, failures] at resolving
  refine ⟨recorded.index, records, ?_⟩
  split
  · rename_i succeeded
    rw [if_pos succeeded] at resolving
    obtain ⟨index, ran, settles⟩ := resolveAll_settles _ _ recorded
    rw [resolving] at ran
    cases ran
    rw [last]
    intro hash
    have same : hash ∈ (OrderedMap.ofList ((failureHashes before.iteration.failures).map
        fun hash => (hash, ()))).keys ↔ hash ∈ failureHashes before.iteration.failures := by
      rw [OrderedMap.mem_keys_ofList]
      simp
    simpa only [same] using settles hash
  · rename_i failed
    rw [if_neg failed] at resolving
    rw [last, resolving]

/-- Learning resolves the failures that were overcome. When an iteration succeeded the record of
each of its failures is resolved afterwards, with the note of the iteration unless it was resolved
before, and then with the note it had; when it failed each has the standing it had before, which
for a new one is not to be resolved. The records of other failures are as they were. Nothing but a
file keeps learning from its end, least of all a record that could not be marked. -/
theorem learn_resolves (engine : Engine σ) (strategy : Strategy) (before : EngineState σ α)
    (keyed : before.index.Keyed) :
    (∀ e after, engine.learn strategy before = .error e after → e.OfDisk ∧
      ∀ hash, e ≠ .store (.unknownHash hash) ∧ e ≠ .store (.alreadyResolved hash)) ∧
    ∀ after, engine.learn strategy before = .ok () after →
      after.index.Keyed ∧
      (∀ failure ∈ before.iteration.failures, ∃ record,
        after.index.records.find? (Similarity.errorHash failure.message) = some record ∧
        if before.iteration.success then
          record.resolved = true ∧ record.note =
            if before.index.isResolved (Similarity.errorHash failure.message) then
              before.index.noteOf (Similarity.errorHash failure.message)
            else some (resolutionNote before.iteration strategy)
        else
          record.resolved = before.index.isResolved (Similarity.errorHash failure.message) ∧
            record.note = before.index.noteOf (Similarity.errorHash failure.message)) ∧
      ∀ hash, (∀ failure ∈ before.iteration.failures,
          Similarity.errorHash failure.message ≠ hash) →
        after.index.records.find? hash = before.index.records.find? hash := by
  refine ⟨fun e after failed => ?_, fun after learnt => ?_⟩
  · have ofDisk : e.OfDisk := learn_fails strategy before e after failed
    refine ⟨ofDisk, fun hash => ⟨?_, ?_⟩⟩ <;>
    · rintro rfl
      exact ofDisk
  · obtain ⟨counted, recorded, settled⟩ := learn_index learnt keyed
    have unlisted (hash : String) (apart : ∀ failure ∈ before.iteration.failures,
        Similarity.errorHash failure.message ≠ hash) :
        hash ∉ failureHashes before.iteration.failures := fun member => by
      obtain ⟨failure, among, same⟩ := List.mem_map.1 member
      exact apart failure among same
    have listed (failure : FailedAttempt) (member : failure ∈ before.iteration.failures) :
        Similarity.errorHash failure.message ∈ failureHashes before.iteration.failures :=
      List.mem_map_of_mem member
    split at settled
    · rename_i succeeded
      simp only [if_pos succeeded]
      refine ⟨settled.keyed recorded.keyed, fun failure member =>
        recorded.settled_hit settled (listed failure member), fun hash apart => ?_⟩
      rw [settled, if_neg (unlisted hash apart), recorded.others hash (unlisted hash apart)]
    · rename_i failed
      simp only [if_neg failed]
      rw [settled]
      exact ⟨recorded.keyed, fun failure member => recorded.hit (listed failure member),
        fun hash apart => recorded.others hash (unlisted hash apart)⟩

end Engine

/-! ### Failures at hand -/

namespace Sample

/-- An index that knows one failure, which was overcome. -/
def acquainted : ErrorIndex Float :=
  let met := ((ErrorIndex.empty ErrorIndex.defaultThreshold).recordError "parse error" ⟨0, 0⟩).2
  match met.markResolved (Similarity.errorHash "parse error") "by hand" with
  | .ok (_, index) => index
  | .error _ => met

theorem keyed_acquainted : acquainted.Keyed := by
  have nothing : (ErrorIndex.empty ErrorIndex.defaultThreshold : ErrorIndex Float).Keyed :=
    fun hash record found => by cases found
  have met := nothing.recordError "parse error" ⟨0, 0⟩
  unfold acquainted
  dsimp only
  split
  · rename_i marked
    exact met.markResolved marked
  · exact met

/-- After four attempts of which the last passed: one failure in two spellings and another. -/
def overcoming (index : ErrorIndex Float) : EngineState Nat Float :=
  { start with
    index := index
    iteration := { start.iteration with
      index := 7
      attempts := 4
      success := true
      failures := [⟨.generation, 1, .syntactic, "parse error"⟩,
        ⟨.generation, 2, .syntactic, " Parse error\n"⟩,
        ⟨.review, 3, .unknown, "too long"⟩] } }

theorem keyed_overcoming {index : ErrorIndex Float} (keyed : index.Keyed) :
    (overcoming index).index.Keyed := keyed

/-- Each failure is resolved, and the one that was overcome before keeps its note. -/
theorem overcoming_learn_resolves : (overcoming acquainted).index.Keyed ∧
    ∃ after, engine.learn {} (overcoming acquainted) = .ok () after ∧
      (∃ record, after.index.records.find? (Similarity.errorHash "parse error") = some record ∧
        record.resolved = true ∧ record.note = some "by hand") ∧
      ∃ record, after.index.records.find? (Similarity.errorHash "too long") = some record ∧
        record.resolved = true ∧ record.note = some "Resolved in iteration 7 on attempt 4" := by
  have ends : (engine.learn {}).succeeds (overcoming acquainted) = true := by decide +kernel
  obtain ⟨_, after, learnt⟩ := Step.succeeds_eq_true.1 ends
  obtain ⟨-, resolves⟩ := Engine.learn_resolves engine {} (overcoming acquainted)
    (keyed_overcoming keyed_acquainted)
  obtain ⟨-, hit, -⟩ := resolves after learnt
  obtain ⟨known, noted, new⟩ :
      (overcoming acquainted).index.isResolved (Similarity.errorHash "parse error") = true ∧
      (overcoming acquainted).index.noteOf (Similarity.errorHash "parse error") =
        some "by hand" ∧
      (overcoming acquainted).index.isResolved (Similarity.errorHash "too long") = false := by
    decide +kernel
  obtain ⟨first, found, resolved, note⟩ :=
    hit ⟨.generation, 1, .syntactic, "parse error"⟩ (by decide)
  rw [if_pos known, noted] at note
  obtain ⟨last, foundLast, resolvedLast, noteLast⟩ :=
    hit ⟨.review, 3, .unknown, "too long"⟩ (by decide)
  rw [new] at noteLast
  exact ⟨keyed_overcoming keyed_acquainted, after, learnt, ⟨first, found, resolved, note⟩,
    last, foundLast, resolvedLast, noteLast⟩

end Sample

end TaskLoop
