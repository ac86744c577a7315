import TaskLoop.Proofs.Json.Canonical
import TaskLoop.Session

/-!
Sessions that were written to a file read back, and one that is read can be written again without
loss.
-/

set_option autoImplicit false

namespace TaskLoop

theorem SessionStatus.ofName?_name (status : SessionStatus) :
    ofName? status.name = some status := by
  cases status <;> decide

theorem Complexity.ofName?_name (complexity : Complexity) :
    ofName? complexity.name = some complexity := by
  cases complexity <;> decide

theorem Decision.ofName?_name (decision : Decision) : ofName? decision.name = some decision := by
  cases decision <;> decide

namespace TaskContext

/-- The members of a context in a file. -/
def members (context : TaskContext) : List (String × Json) :=
  Json.optionalMember "phase_tag" .string context.phaseTag
    ++ Json.optionalMember "status_tag" .string context.statusTag
    ++ Json.optionalMember "project" .string context.project
    ++ Json.optionalMember "strategy" .string context.strategy
    ++ [("complexity", .string context.complexity.name),
      ("extensions", .ofMap id id context.extensions)]

theorem names_members (context : TaskContext) :
    (context.members.map Prod.fst).Sublist
      (["phase_tag"] ++ ["status_tag"] ++ ["project"] ++ ["strategy"]
        ++ ["complexity", "extensions"]) := by
  have optional (name : String) (value : Option String) :=
    Json.names_optionalMember name Json.string value
  simp only [members, List.map_append]
  exact ((((optional _ _).append (optional _ _)).append (optional _ _)).append
    (optional _ _)).append (List.Sublist.refl _)

theorem lookup_extensions (context : TaskContext) :
    context.members.lookup "extensions" = some (.ofMap id id context.extensions) := by
  simp [members, List.lookup_append, Json.lookup_optionalMember, List.lookup_cons]

/-- A context whose additions are values as they are kept. -/
def Typed (context : TaskContext) : Prop :=
  ∀ value ∈ context.extensions.values, value.Canonical

/-- The additions nest no deeper than a file has room for. -/
def Shallow (context : TaskContext) : Prop :=
  ∀ value ∈ context.extensions.values, value.nesting ≤ 122

instance : DecidablePred Shallow := fun context =>
  inferInstanceAs (Decidable (∀ value ∈ context.extensions.values, value.nesting ≤ 122))

variable {context : TaskContext}

/-- Whatever is asked of additions holds of a context that has none. -/
theorem of_plain (plain : context.extensions = .empty) (holds : Json → Prop) :
    ∀ value ∈ context.extensions.values, holds value := by
  rw [plain]
  exact fun _ => nofun

theorem ofJson?_toJson (typed : context.Typed) (shallow : context.Shallow) :
    ofJson? 124 context.toJson = some context := by
  have once : (context.members.map Prod.fst).Nodup := context.names_members.nodup (by decide)
  have toJson_eq : context.toJson = .object context.members := rfl
  have optional {names : List String} {name : String} (value : Option String)
      (isKnown : name ∈ names) (written : context.members.lookup name = value.map Json.string) :
      (Json.Fields.mk (Json.known names context.members) false).optional name Json.string? =
        some value := Json.optional_known isKnown written fun _ _ => rfl
  have phaseTag : context.members.lookup "phase_tag" = context.phaseTag.map .string := by
    simp [members, List.lookup_append, Json.lookup_optionalMember, List.lookup_cons]
  have statusTag : context.members.lookup "status_tag" = context.statusTag.map .string := by
    simp [members, List.lookup_append, Json.lookup_optionalMember, List.lookup_cons]
  have project : context.members.lookup "project" = context.project.map .string := by
    simp [members, List.lookup_append, Json.lookup_optionalMember, List.lookup_cons]
  have strategy : context.members.lookup "strategy" = context.strategy.map .string := by
    simp [members, List.lookup_append, Json.lookup_optionalMember, List.lookup_cons]
  have complexity : context.members.lookup "complexity" =
      some (.string context.complexity.name) := by
    simp [members, List.lookup_append, Json.lookup_optionalMember]
  have additions : Json.map? some (Json.settle? (124 - 2)) (.ofMap id id context.extensions) =
      some context.extensions :=
    Json.map?_ofMap (fun _ => rfl) fun value member =>
      Json.settle?_of_canonical (typed value member) (shallow value member)
  rw [ofJson?, toJson_eq, Json.fields?_object once]
  simp only [Option.bind_eq_bind, Option.bind_some]
  rw [optional _ (by decide) phaseTag, optional _ (by decide) statusTag,
    optional _ (by decide) project, optional _ (by decide) strategy,
    Json.orElse_known (by decide), complexity, Json.orElse_known (by decide),
    context.lookup_extensions]
  simp only [Option.bind_some, Option.elim_some, Json.choice?, Complexity.ofName?_name, additions]
  cases context
  rfl

/-- A context that is read has additions as they are kept, and no deeper than there is room. -/
theorem typed_of_ofJson? {json : Json} (read : ofJson? 124 json = some context) :
    context.Typed ∧ context.Shallow := by
  simp only [ofJson?, Option.bind_eq_bind, Option.bind_eq_some_iff] at read
  obtain ⟨fields, -, _, -, _, -, _, -, _, -, _, -, extensions, read, same⟩ := read
  cases same
  have all : ∀ value ∈ extensions.values, value.Canonical ∧ value.nesting ≤ 122 := by
    rcases Json.of_orElse read with rfl | ⟨json, read⟩
    · exact List.forall_mem_nil _
    · intro value member
      obtain ⟨json, settled⟩ := Json.of_map? read value member
      exact Json.canonical_of_settle? settled
  exact ⟨fun value member => (all value member).1, fun value member => (all value member).2⟩

/-- The additions of a context that can be read back nest no deeper than there is room. -/
theorem shallow_of_read {result : TaskContext}
    (read : ofJson? 124 context.toJson = some result) : context.Shallow := by
  have once : (context.members.map Prod.fst).Nodup := context.names_members.nodup (by decide)
  have toJson_eq : context.toJson = .object context.members := rfl
  rw [ofJson?, toJson_eq, Json.fields?_object once] at read
  simp only [Option.bind_eq_bind, Option.bind_some, Option.bind_eq_some_iff] at read
  obtain ⟨_, -, _, -, _, -, _, -, _, -, extensions, read, -⟩ := read
  have additions := Json.of_orElse_known (by decide) context.lookup_extensions read
  intro value member
  obtain ⟨_, settled⟩ := Json.each_of_map? additions value member
  exact Json.nesting_le_of_settle? settled

theorem printable_toJson (typed : context.Typed) : Json.Printable context.toJson := by
  apply Json.printable_object
  have texts (name : String) (value : Option String) :
      ∀ member ∈ Json.optionalMember name Json.string value, Json.Printable member.2 := by
    cases value with
    | none => exact nofun
    | some value => exact List.forall_mem_singleton.mpr trivial
  intro member isMember
  simp only [List.mem_append] at isMember
  rcases isMember with (((isMember | isMember) | isMember) | isMember) | isMember
  · exact texts _ _ member isMember
  · exact texts _ _ member isMember
  · exact texts _ _ member isMember
  · exact texts _ _ member isMember
  · simp only [List.mem_cons, List.not_mem_nil, or_false] at isMember
    rcases isMember with rfl | rfl
    · trivial
    · exact Json.printable_ofMap fun value member => Json.printable_of_canonical (typed value member)

/-- What a file says of a context shows how deep its additions nest. -/
theorem Shallow.of_toJson_eq {other : TaskContext} (shallow : context.Shallow)
    (same : other.toJson = context.toJson) : other.Shallow := by
  have members : other.members = context.members := Json.object.inj same
  have additions := other.lookup_extensions
  rw [members, context.lookup_extensions, Option.some.injEq, Json.ofMap, Json.ofMap,
    Json.object.injEq] at additions
  have values : other.extensions.values = context.extensions.values := by
    have seconds := congrArg (List.map Prod.snd) additions
    simp only [List.map_map, Function.comp_def, id_eq] at seconds
    exact seconds.symm
  intro value member
  rw [values] at member
  exact shallow value member

end TaskContext

namespace Influence

/-- An influence whose number has 32 bits, recorded when a clock shows. -/
structure Typed (influence : Influence) : Prop where
  iteration : influence.iteration < powerOfTwo 32
  recordedAt : influence.recordedAt.Shown

/-- Its confidence is a number. -/
def Finite (influence : Influence) : Prop := Decimal.isFinite influence.confidence = true

instance : DecidablePred Finite := fun influence =>
  inferInstanceAs (Decidable (Decimal.isFinite influence.confidence = true))

variable {influence : Influence}

theorem ofJson?_toJson (typed : influence.Typed) (finite : influence.Finite) :
    ofJson? influence.toJson = some influence := by
  have once : ["iteration", "decision", "annotation_ids", "confidence", "recorded_at"].Nodup := by
    decide
  have annotations : Json.list? Json.string? (.array (influence.annotations.map Json.string)) =
      some influence.annotations := Json.list?_array fun _ _ => rfl
  rw [ofJson?, toJson]
  refine (Timestamp.bind_read (Json.fields?_object ?_) _).trans ?_
  · exact once
  · rw [Timestamp.bind_read (Json.required_read (by decide) rfl (Json.nat32?_ofNat typed.iteration)),
      Timestamp.bind_read (Json.required_read (by decide) rfl
        (Json.choice?_string (Decision.ofName?_name _))),
      Timestamp.bind_read (Json.required_read (by decide) rfl annotations),
      Timestamp.bind_read (Json.required_read (by decide) rfl (Json.float?_ofFloat finite)),
      Timestamp.bind_read (Json.required_read (by decide) rfl
        (Json.timestamp?_ofTimestamp typed.recordedAt))]
    rfl

theorem typed_of_ofJson? {json : Json} (read : ofJson? json = some influence) :
    influence.Typed ∧ influence.Finite := by
  simp only [ofJson?, Option.bind_eq_bind, Option.bind_eq_some_iff] at read
  obtain ⟨fields, -, iteration, number, _, -, _, -, confidence, share, recordedAt, time, same⟩ :=
    read
  cases same
  obtain ⟨_, number⟩ := Json.of_required number
  obtain ⟨_, share⟩ := Json.of_required share
  obtain ⟨_, time⟩ := Json.of_required time
  exact ⟨⟨Json.lt_of_natBelow? number, Json.shown_of_timestamp? time⟩,
    Json.isFinite_of_float? share⟩

/-- The confidence of an influence that can be read back is a number. -/
theorem finite_of_read {result : Influence} (read : ofJson? influence.toJson = some result) :
    influence.Finite := by
  have once : ["iteration", "decision", "annotation_ids", "confidence", "recorded_at"].Nodup := by
    decide
  rw [ofJson?, toJson, Json.fields?_object] at read
  · simp only [Option.bind_eq_bind, Option.bind_some, Option.bind_eq_some_iff] at read
    obtain ⟨_, -, _, -, _, -, confidence, share, -⟩ := read
    have known := Json.of_required_known (by decide) rfl share
    cases isNumber : Decimal.isFinite influence.confidence with
    | true => exact isNumber
    | false =>
      rw [Json.float?_ofFloat_none isNumber] at known
      cases known
  · exact once

theorem printable_toJson (influence : Influence) : Json.Printable influence.toJson := by
  have annotations : Json.Printable (.array (influence.annotations.map Json.string)) := by
    apply Json.printable_array
    intro item isItem
    obtain ⟨_, -, rfl⟩ := List.mem_map.mp isItem
    trivial
  exact ⟨Json.printable_ofNat _, trivial, annotations, Json.printable_ofFloat _, trivial, trivial⟩

/-- What a file says of an influence shows whether its confidence is a number. -/
theorem Finite.of_toJson_eq {other : Influence} (finite : influence.Finite)
    (same : other.toJson = influence.toJson) : other.Finite := by
  have confidence : Json.ofFloat other.confidence = Json.ofFloat influence.confidence := by
    simp only [toJson, Json.object.injEq, List.cons.injEq, Prod.mk.injEq, true_and, and_true] at same
    exact same.2.2.2.1
  have read : Json.float? (.ofFloat other.confidence) = some influence.confidence := by
    rw [confidence, Json.float?_ofFloat finite]
  cases isNumber : Decimal.isFinite other.confidence with
  | true => exact isNumber
  | false =>
    rw [Json.float?_ofFloat_none isNumber] at read
    cases read

end Influence

namespace Session

/-- A session whose additions are values as they are kept, whose numbers have 32 bits and whose
times a clock shows. -/
structure Typed (session : Session) : Prop where
  context : session.context.Typed
  createdAt : session.createdAt.Shown
  completedIterations : session.completedIterations < powerOfTwo 32
  influences : ∀ influence ∈ session.influences, influence.Typed

/-- A session of which a file keeps all: its confidences are numbers, and its additions nest no
deeper than there is room. -/
structure Kept (session : Session) : Prop where
  finite : ∀ influence ∈ session.influences, influence.Finite
  shallow : session.context.Shallow

instance : DecidablePred Kept := fun session =>
  decidable_of_iff ((∀ influence ∈ session.influences, influence.Finite) ∧ session.context.Shallow)
    ⟨fun both => ⟨both.1, both.2⟩, fun kept => ⟨kept.finite, kept.shallow⟩⟩

variable {session : Session}

theorem ofJson?_toJson (typed : session.Typed) (kept : session.Kept) :
    ofJson? 125 session.toJson = some session := by
  have once : ["id", "task_description", "context", "created_at", "status",
      "iterations_completed", "influences"].Nodup := by decide
  have influences : Json.list? Influence.ofJson?
      (.array (session.influences.map Influence.toJson)) = some session.influences :=
    Json.list?_array fun influence member =>
      Influence.ofJson?_toJson (typed.influences influence member) (kept.finite influence member)
  rw [ofJson?, toJson]
  refine (Timestamp.bind_read (Json.fields?_object ?_) _).trans ?_
  · exact once
  · rw [Timestamp.bind_read (Json.required_read (by decide) rfl (Json.string?_string _)),
      Timestamp.bind_read (Json.required_read (by decide) rfl (Json.string?_string _)),
      Timestamp.bind_read (Json.orElse_read (by decide) rfl
        (TaskContext.ofJson?_toJson typed.context kept.shallow)),
      Timestamp.bind_read (Json.required_read (by decide) rfl
        (Json.timestamp?_ofTimestamp typed.createdAt)),
      Timestamp.bind_read (Json.orElse_read (by decide) rfl
        (Json.choice?_string (SessionStatus.ofName?_name _))),
      Timestamp.bind_read (Json.orElse_read (by decide) rfl
        (Json.nat32?_ofNat typed.completedIterations)),
      Timestamp.bind_read (Json.orElse_read (by decide) rfl influences)]
    rfl

/-- A session that is read is one of which a file keeps all. -/
theorem typed_of_ofJson? {json : Json} (read : ofJson? 125 json = some session) :
    session.Typed ∧ session.Kept := by
  simp only [ofJson?, Option.bind_eq_bind, Option.bind_eq_some_iff] at read
  obtain ⟨fields, -, _, -, _, -, context, known, createdAt, time, _, -, completed, number,
    influences, records, same⟩ := read
  cases same
  have context_typed : context.Typed ∧ context.Shallow := by
    rcases Json.of_orElse known with rfl | ⟨json, read⟩
    · exact ⟨List.forall_mem_nil _, List.forall_mem_nil _⟩
    · exact TaskContext.typed_of_ofJson? read
  have completed_lt : completed < powerOfTwo 32 := by
    rcases Json.of_orElse number with rfl | ⟨json, read⟩
    · decide
    · exact Json.lt_of_natBelow? read
  have influences_typed : ∀ influence ∈ influences, influence.Typed ∧ influence.Finite := by
    rcases Json.of_orElse records with rfl | ⟨json, read⟩
    · exact List.forall_mem_nil _
    · intro influence member
      obtain ⟨json, read⟩ := Json.of_list? read influence member
      exact Influence.typed_of_ofJson? read
  obtain ⟨_, time⟩ := Json.of_required time
  exact ⟨⟨context_typed.1, Json.shown_of_timestamp? time, completed_lt,
      fun influence member => (influences_typed influence member).1⟩,
    ⟨fun influence member => (influences_typed influence member).2, context_typed.2⟩⟩

/-- What a file says of a session shows whether it keeps all of it. -/
theorem Kept.of_toJson_eq {other : Session} (kept : session.Kept)
    (same : other.toJson = session.toJson) : other.Kept := by
  simp only [toJson, Json.object.injEq, List.cons.injEq, Prod.mk.injEq, true_and, and_true,
    Json.array.injEq] at same
  obtain ⟨-, -, context, -, -, -, influences⟩ := same
  refine ⟨fun influence member => ?_, kept.shallow.of_toJson_eq context⟩
  have written : influence.toJson ∈ session.influences.map Influence.toJson := by
    rw [← influences]
    exact List.mem_map_of_mem member
  obtain ⟨original, isOriginal, same⟩ := List.mem_map.mp written
  exact (kept.finite original isOriginal).of_toJson_eq same.symm

/-- A session that can be read back is one of which a file keeps all. -/
theorem kept_of_read {result : Session} (read : ofJson? 125 session.toJson = some result) :
    session.Kept := by
  have once : ["id", "task_description", "context", "created_at", "status",
      "iterations_completed", "influences"].Nodup := by decide
  rw [ofJson?, toJson, Json.fields?_object] at read
  · simp only [Option.bind_eq_bind, Option.bind_some, Option.bind_eq_some_iff] at read
    obtain ⟨_, -, _, -, context, known, _, -, _, -, _, -, influences, records, -⟩ := read
    have all := Json.each_of_list? (Json.of_orElse_known (by decide) rfl records)
    refine ⟨fun influence member => ?_, ?_⟩
    · obtain ⟨_, read⟩ := all influence member
      exact Influence.finite_of_read read
    · exact TaskContext.shallow_of_read (Json.of_orElse_known (by decide) rfl known)
  · exact once

theorem printable_toJson (typed : session.context.Typed) : Json.Printable session.toJson := by
  have influences : Json.Printable (.array (session.influences.map Influence.toJson)) := by
    apply Json.printable_array
    intro item isItem
    obtain ⟨influence, -, rfl⟩ := List.mem_map.mp isItem
    exact influence.printable_toJson
  exact ⟨trivial, trivial, TaskContext.printable_toJson typed, trivial, trivial,
    Json.printable_ofNat _, influences, trivial⟩

end Session

end TaskLoop
