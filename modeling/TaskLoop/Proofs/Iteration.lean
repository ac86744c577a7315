import TaskLoop.Iteration
import TaskLoop.Proofs.Json.Records

/-!
Iterations that were written to a file read back.
-/

set_option autoImplicit false

namespace TaskLoop

theorem PhaseStatus.ofName?_name (status : PhaseStatus) : ofName? status.name = some status := by
  cases status <;> decide

theorem Category.ofName?_name (category : Category) : ofName? category.name = some category := by
  cases category <;> decide

namespace FailedAttempt

/-- A failed attempt whose number has 32 bits. -/
def Fits (failure : FailedAttempt) : Prop := failure.attempt < powerOfTwo 32

theorem ofJson?_toJson {failure : FailedAttempt} (fits : failure.Fits) :
    ofJson? failure.toJson = some failure := by
  have once : ["phase", "attempt", "category", "message"].Nodup := by decide
  rw [ofJson?, toJson, Json.fields?_object]
  · simp only [Option.bind_eq_bind, Option.bind_some, Json.required_known, List.mem_cons, true_or,
      or_true, List.lookup_cons, String.reduceBEq, beq_self_eq_true, Json.choice?,
      Phase.ofName?_name, Json.nat32?_ofNat fits, Category.ofName?_name, Json.string?]
    rfl
  · exact once

theorem fits_of_ofJson? {failure : FailedAttempt} {json : Json}
    (read : ofJson? json = some failure) : failure.Fits := by
  simp only [ofJson?, Option.bind_eq_bind, Option.bind_eq_some_iff] at read
  obtain ⟨fields, -, _, -, attempt, number, _, -, _, -, same⟩ := read
  cases same
  obtain ⟨_, number⟩ := Json.of_required number
  exact Json.lt_of_natBelow? number

theorem printable_toJson (failure : FailedAttempt) : Json.Printable failure.toJson :=
  ⟨trivial, Json.printable_ofNat _, trivial, trivial, trivial⟩

theorem isSome_settle?_toJson {failure : FailedAttempt} (fits : failure.Fits) (room : Nat) :
    (Json.settle? (room + 1) failure.toJson).isSome = true := by
  have number : (Json.settle? room (.ofNat failure.attempt)).isSome = true :=
    Json.isSome_settle?_ofNat (Nat.lt_of_lt_of_le fits (by decide))
  apply Json.isSome_settle?_object
  intro member isMember
  simp only [List.mem_cons, List.not_mem_nil, or_false] at isMember
  rcases isMember with rfl | rfl | rfl | rfl
  · rfl
  · exact number
  · rfl
  · rfl

end FailedAttempt

namespace Iteration

/-- An iteration whose numbers have the widths they are kept in, and whose start a clock shows. -/
structure Fits (iteration : Iteration) : Prop where
  index : iteration.index < powerOfTwo 32
  attempts : iteration.attempts < powerOfTwo 32
  durations : ∀ duration ∈ iteration.durations.values, duration < powerOfTwo 64
  startedAt : iteration.startedAt.Shown
  failures : ∀ failure ∈ iteration.failures, failure.Fits

variable {iteration : Iteration}

/-- The fields of a record with the members of an iteration, whatever other members it has. -/
theorem ofFields?_known (fits : iteration.Fits) {members : List (String × Json)}
    (same : ∀ name ∈ fieldNames, members.lookup name = iteration.members.lookup name) :
    ofFields? ⟨Json.known fieldNames members, false⟩ = some iteration := by
  have status : Json.map? Phase.ofName? (Json.choice? PhaseStatus.ofName?)
      (.ofMap Phase.name (fun status => .string status.name) iteration.status) =
        some iteration.status :=
    Json.map?_ofMap Phase.ofName?_name fun status _ => PhaseStatus.ofName?_name status
  have durations : Json.map? Phase.ofName? Json.nat64?
      (.ofMap Phase.name Json.ofNat iteration.durations) = some iteration.durations :=
    Json.map?_ofMap Phase.ofName?_name fun duration member =>
      Json.nat64?_ofNat (fits.durations duration member)
  have failures : Json.list? FailedAttempt.ofJson?
      (.array (iteration.failures.map FailedAttempt.toJson)) = some iteration.failures :=
    Json.list?_array fun failure member => FailedAttempt.ofJson?_toJson (fits.failures failure member)
  have required {α : Type} {name : String} (isKnown : name ∈ fieldNames)
      (decode : Json → Option α) :
      (Json.Fields.mk (Json.known fieldNames members) false).required name decode =
        (iteration.members.lookup name).bind decode := by
    rw [Json.required_known isKnown, same name isKnown]
  have orElse {α : Type} {name : String} (isKnown : name ∈ fieldNames)
      (decode : Json → Option α) (missing : α) :
      (Json.Fields.mk (Json.known fieldNames members) false).orElse name decode missing =
        (iteration.members.lookup name).elim (some missing) decode := by
    rw [Json.orElse_known isKnown, same name isKnown]
  simp only [fieldNames] at required orElse
  simp only [ofFields?, fieldNames, Option.bind_eq_bind, required, orElse, List.mem_cons, true_or,
    or_true, Iteration.members, List.lookup_cons, String.reduceBEq, beq_self_eq_true,
    Option.bind_some, Option.elim_some, Json.nat32?_ofNat fits.index, Json.string?, status,
    durations, Json.nat32?_ofNat fits.attempts, Json.bool?,
    Json.timestamp?_ofTimestamp fits.startedAt, failures]
  rfl

theorem ofJson?_toJson (fits : iteration.Fits) : ofJson? iteration.toJson = some iteration := by
  have once : (iteration.members.map Prod.fst).Nodup := by
    show fieldNames.Nodup
    decide
  rw [ofJson?, toJson, Json.fields?_object once]
  exact ofFields?_known fits fun _ _ => rfl

/-- An iteration that is read has numbers of the widths they are kept in. -/
theorem fits_of_ofJson? {json : Json} (read : ofJson? json = some iteration) :
    iteration.Fits := by
  obtain ⟨fields, -, read⟩ := Option.bind_eq_some_iff.mp read
  simp only [ofFields?, Option.bind_eq_bind, Option.bind_eq_some_iff] at read
  obtain ⟨index, indexRead, _, -, _, -, durations, durationsRead, attempts, attemptsRead, _, -,
    startedAt, startRead, failures, failuresRead, same⟩ := read
  cases same
  obtain ⟨_, indexRead⟩ := Json.of_required indexRead
  obtain ⟨_, attemptsRead⟩ := Json.of_required attemptsRead
  obtain ⟨_, startRead⟩ := Json.of_required startRead
  have durations_fit : ∀ duration ∈ durations.values, duration < powerOfTwo 64 := by
    rcases Json.of_orElse durationsRead with rfl | ⟨json, read⟩
    · exact List.forall_mem_nil _
    · intro duration member
      obtain ⟨_, read⟩ := Json.of_map? read duration member
      exact Json.lt_of_natBelow? read
  have failures_fit : ∀ failure ∈ failures, failure.Fits := by
    rcases Json.of_orElse failuresRead with rfl | ⟨json, read⟩
    · exact List.forall_mem_nil _
    · intro failure member
      obtain ⟨_, read⟩ := Json.of_list? read failure member
      exact FailedAttempt.fits_of_ofJson? read
  exact ⟨Json.lt_of_natBelow? indexRead, Json.lt_of_natBelow? attemptsRead, durations_fit,
    Json.shown_of_timestamp? startRead, failures_fit⟩

theorem printable_members (iteration : Iteration) :
    ∀ member ∈ iteration.members, Json.Printable member.2 := by
  have status : Json.Printable
      (.ofMap Phase.name (fun status => .string status.name) iteration.status) :=
    Json.printable_ofMap fun status _ => trivial
  have durations : Json.Printable (.ofMap Phase.name Json.ofNat iteration.durations) :=
    Json.printable_ofMap fun duration _ => Json.printable_ofNat duration
  have failures : Json.Printable (.array (iteration.failures.map FailedAttempt.toJson)) := by
    apply Json.printable_array
    intro item isItem
    obtain ⟨failure, -, rfl⟩ := List.mem_map.mp isItem
    exact failure.printable_toJson
  intro member isMember
  simp only [members, List.mem_cons, List.not_mem_nil, or_false] at isMember
  rcases isMember with rfl | rfl | rfl | rfl | rfl | rfl | rfl | rfl
  · exact Json.printable_ofNat iteration.index
  · trivial
  · exact status
  · exact durations
  · exact Json.printable_ofNat iteration.attempts
  · trivial
  · trivial
  · exact failures

theorem printable_toJson (iteration : Iteration) : Json.Printable iteration.toJson :=
  Json.printable_object iteration.printable_members

theorem isSome_settle?_members (fits : iteration.Fits) :
    ∀ member ∈ iteration.members, (Json.settle? 126 member.2).isSome = true := by
  have wide {n : Nat} (narrow : n < powerOfTwo 32) : n < powerOfTwo 64 :=
    Nat.lt_of_lt_of_le narrow (by decide)
  have status : (Json.settle? 126 (.ofMap Phase.name
      (fun status => .string status.name) iteration.status)).isSome = true :=
    Json.isSome_settle?_ofMap fun status _ => rfl
  have durations :
      (Json.settle? 126 (.ofMap Phase.name Json.ofNat iteration.durations)).isSome = true :=
    Json.isSome_settle?_ofMap fun duration member =>
      Json.isSome_settle?_ofNat (fits.durations duration member)
  have failures :
      (Json.settle? 126 (.array (iteration.failures.map FailedAttempt.toJson))).isSome = true := by
    apply Json.isSome_settle?_array
    intro item isItem
    obtain ⟨failure, member, rfl⟩ := List.mem_map.mp isItem
    exact FailedAttempt.isSome_settle?_toJson (fits.failures failure member) 124
  intro member isMember
  simp only [members, List.mem_cons, List.not_mem_nil, or_false] at isMember
  rcases isMember with rfl | rfl | rfl | rfl | rfl | rfl | rfl | rfl
  · exact Json.isSome_settle?_ofNat (wide fits.index)
  · rfl
  · exact status
  · exact durations
  · exact Json.isSome_settle?_ofNat (wide fits.attempts)
  · rfl
  · rfl
  · exact failures

end Iteration

end TaskLoop
