import TaskLoop.Proofs.Checkpoint.Store
import TaskLoop.Proofs.Engine.Timeless
import TaskLoop.Proofs.Pattern.Key

/-!
What is read of a store or of a checkpoint that was written, if anything is, is what was written,
times apart.
-/

set_option autoImplicit false

namespace TaskLoop

/-! ### The error index -/

namespace ErrorRecord

/-- The members of a record in a file. -/
def members (record : ErrorRecord) : List (String × Json) :=
  [("hash", .string record.hash), ("text", .string record.text),
    ("category", .string record.category.name),
    ("occurrence_count", .ofNat record.occurrences), ("resolved", .bool record.resolved)]
    ++ Json.optionalMember "resolution_note" .string record.note
    ++ [("first_seen", .ofTimestamp record.firstSeen), ("last_seen", .ofTimestamp record.lastSeen)]

theorem once_members (record : ErrorRecord) : (record.members.map Prod.fst).Nodup := by
  have all : (record.members.map Prod.fst).Sublist
      (["hash", "text", "category", "occurrence_count", "resolved"] ++ ["resolution_note"] ++
        ["first_seen", "last_seen"]) := by
    simp only [members, List.map_append]
    exact ((List.Sublist.refl _).append (Json.names_optionalMember _ _ _)).append
      (List.Sublist.refl _)
  exact all.nodup (by decide)

theorem timeless_ofJson? {record found : ErrorRecord} (read : ofJson? record.toJson = some found) :
    found.timeless = record.timeless := by
  have toJson_eq : record.toJson = .object record.members := rfl
  have note : record.members.lookup "resolution_note" = record.note.map .string := by
    simp [members, List.lookup_append, Json.lookup_optionalMember, List.lookup_cons]
  rw [ofJson?, toJson_eq, Json.fields?_object record.once_members] at read
  simp only [Option.bind_eq_bind, Option.bind_some, Option.bind_eq_some_iff] at read
  obtain ⟨hash, hashRead, text, textRead, category, categoryRead, occurrences, occurrencesRead,
    resolved, resolvedRead, noted, notedRead, _, -, _, -, same⟩ := read
  cases same
  have hashSame := Json.of_required_known (by decide) rfl hashRead
  have textSame := Json.of_required_known (by decide) rfl textRead
  have categorySame := Json.of_required_known (by decide) rfl categoryRead
  have occurrencesSame := Json.eq_of_natBelow?
    (Json.of_required_known (by decide) rfl occurrencesRead)
  have resolvedSame := Json.of_orElse_known (by decide) rfl resolvedRead
  rw [Json.optional_known (by decide) note fun _ _ => rfl] at notedRead
  rw [Json.choice?_string (Category.ofName?_name _)] at categorySame
  cases hashSame
  cases textSame
  cases categorySame
  cases resolvedSame
  cases notedRead
  rw [timeless, timeless, occurrencesSame]

theorem printable_toJson (record : ErrorRecord) : Json.Printable record.toJson := by
  have toJson_eq : record.toJson = .object record.members := rfl
  have note : ∀ member ∈ Json.optionalMember "resolution_note" Json.string record.note,
      Json.Printable member.2 := by
    cases record.note with
    | none => exact nofun
    | some note => exact List.forall_mem_singleton.mpr trivial
  rw [toJson_eq]
  refine Json.printable_object fun member isMember => ?_
  simp only [members, List.mem_append, List.mem_cons, List.not_mem_nil, or_false] at isMember
  rcases isMember with ((rfl | rfl | rfl | rfl | rfl) | isNote) | rfl | rfl
  · trivial
  · trivial
  · trivial
  · exact Json.printable_ofNat _
  · trivial
  · exact note member isNote
  · trivial
  · trivial

end ErrorRecord

namespace ErrorIndex

variable {records found : OrderedMap String ErrorRecord}

theorem timeless_recordsOfJson? (read : recordsOfJson? (recordsToJson records) = some found) :
    found.mapValues (fun _ record => record.timeless) =
      records.mapValues fun _ record => record.timeless := by
  have once : (([("errors", .ofMap id ErrorRecord.toJson records)] : List (String × Json)).map
    Prod.fst).Nodup := List.nodup_singleton _
  rw [recordsOfJson?, recordsToJson, Json.fields?_object once] at read
  simp only [Option.bind_eq_bind, Option.bind_some] at read
  exact Json.mapValues_eq_of_map? (fun _ => rfl) (fun _ _ _ => ErrorRecord.timeless_ofJson?)
    (Json.of_orElse_known List.mem_cons_self rfl read)

theorem printable_recordsToJson (records : OrderedMap String ErrorRecord) :
    Json.Printable (recordsToJson records) :=
  Json.printable_object (List.forall_mem_singleton.mpr
    (Json.printable_ofMap fun record _ => record.printable_toJson))

end ErrorIndex

/-! ### The pattern table -/

namespace PatternRecord

/-- The members of a record in a file. -/
def members (record : PatternRecord Float) : List (String × Json) :=
  [("usage_count", .ofNat record.usage), ("success_count", .ofNat record.successes),
    ("avg_retries", .ofFloat record.avgRetries), ("avg_duration", .ofFloat record.avgDuration),
    ("avg_success_retries", .ofFloat record.avgSuccessRetries)]
    ++ Json.optionalMember "last_updated" .ofTimestamp record.lastUpdated

theorem once_members (record : PatternRecord Float) : (record.members.map Prod.fst).Nodup := by
  have all : (record.members.map Prod.fst).Sublist
      (["usage_count", "success_count", "avg_retries", "avg_duration", "avg_success_retries"] ++
        ["last_updated"]) := by
    simp only [members, List.map_append]
    exact (List.Sublist.refl _).append (Json.names_optionalMember _ _ _)
  exact all.nodup (by decide)

theorem timeless_ofJson? {record found : PatternRecord Float}
    (read : ofJson? record.toJson = some found) : found.timeless = record.timeless := by
  have toJson_eq : record.toJson = .object record.members := rfl
  rw [ofJson?, toJson_eq, Json.fields?_object record.once_members] at read
  simp only [Option.bind_eq_bind, Option.bind_some, Option.bind_eq_some_iff] at read
  obtain ⟨usage, usageRead, successes, successesRead, avgRetries, avgRetriesRead, _, -,
    avgSuccessRetries, avgSuccessRetriesRead, _, -, same⟩ := read
  cases same
  have usageSame := Json.eq_of_natBelow? (Json.of_orElse_known (by decide) rfl usageRead)
  have successesSame := Json.eq_of_natBelow? (Json.of_orElse_known (by decide) rfl successesRead)
  have avgRetriesSame := Json.eq_of_float? (Json.of_orElse_known (by decide) rfl avgRetriesRead)
  have avgSuccessRetriesSame :=
    Json.eq_of_float? (Json.of_orElse_known (by decide) rfl avgSuccessRetriesRead)
  rw [timeless, timeless, usageSame, successesSame, avgRetriesSame, avgSuccessRetriesSame]

theorem printable_toJson (record : PatternRecord Float) : Json.Printable record.toJson := by
  have toJson_eq : record.toJson = .object record.members := rfl
  have updated : ∀ member ∈ Json.optionalMember "last_updated" Json.ofTimestamp record.lastUpdated,
      Json.Printable member.2 := by
    cases record.lastUpdated with
    | none => exact nofun
    | some time => exact List.forall_mem_singleton.mpr trivial
  rw [toJson_eq]
  refine Json.printable_object fun member isMember => ?_
  simp only [members, List.mem_append, List.mem_cons, List.not_mem_nil, or_false] at isMember
  rcases isMember with (rfl | rfl | rfl | rfl | rfl) | isUpdated
  · exact Json.printable_ofNat _
  · exact Json.printable_ofNat _
  · exact Json.printable_ofFloat _
  · exact Json.printable_ofFloat _
  · exact Json.printable_ofFloat _
  · exact updated member isUpdated

end PatternRecord

namespace Pattern.Table

variable {table raw found : Table Float}

/-- Of a table with settled keys the same table is read. -/
theorem timeless_ofJson? (settled : Settled table) (read : Table.ofJson? (Table.toJson table) = some raw)
    (taken : Table.settle raw = .ok found) : timeless found = timeless table := by
  have same : timeless raw = timeless table :=
    Json.mapValues_eq_of_map? (fun _ => rfl) (fun _ _ _ => PatternRecord.timeless_ofJson?) read
  have keys : OrderedMap.keys raw = OrderedMap.keys table := by
    have keys := congrArg OrderedMap.keys same
    simpa only [timeless, OrderedMap.keys, OrderedMap.mapValues, List.map_map,
      Function.comp_def] using keys
  have rawSettled : Settled raw := by
    intro key member
    rw [keys] at member
    exact settled key member
  rw [settle_of_settled rawSettled taken, same]

theorem printable_toJson (table : Table Float) : Json.Printable (Table.toJson table) :=
  Json.printable_ofMap fun record _ => record.printable_toJson

end Pattern.Table

/-! ### Sessions -/

theorem Influence.timeless_ofJson? {influence found : Influence}
    (read : ofJson? influence.toJson = some found) : found.timeless = influence.timeless := by
  have once : ["iteration", "decision", "annotation_ids", "confidence", "recorded_at"].Nodup := by
    decide
  rw [ofJson?, toJson, Json.fields?_object] at read
  · simp only [Option.bind_eq_bind, Option.bind_some, Option.bind_eq_some_iff] at read
    obtain ⟨iteration, iterationRead, decision, decisionRead, annotations, annotationsRead,
      confidence, confidenceRead, _, -, same⟩ := read
    cases same
    have iterationSame := Json.eq_of_natBelow?
      (Json.of_required_known (by decide) rfl iterationRead)
    have decisionSame := Json.of_required_known (by decide) rfl decisionRead
    have annotationsSame := Json.of_required_known (by decide) rfl annotationsRead
    have confidenceSame := Json.eq_of_float?
      (Json.of_required_known (by decide) rfl confidenceRead)
    rw [Json.choice?_string (Decision.ofName?_name _)] at decisionSame
    have texts : Json.list? Json.string? (.array (influence.annotations.map Json.string)) =
      some influence.annotations := Json.list?_array fun _ _ => rfl
    rw [texts] at annotationsSame
    cases decisionSame
    cases annotationsSame
    rw [timeless, timeless, iterationSame, confidenceSame]
  · exact once

namespace Session

variable {session found : Session}

/-- Of a session all is read but times as it is; of its context, what is read of that. -/
theorem members_ofJson? (read : ofJson? 125 session.toJson = some found) :
    found.id = session.id ∧ found.task = session.task ∧
      TaskContext.ofJson? 124 session.context.toJson = some found.context ∧
      found.status = session.status ∧ found.completedIterations = session.completedIterations ∧
      found.influences.map Influence.timeless = session.influences.map Influence.timeless := by
  have once : ["id", "task_description", "context", "created_at", "status",
      "iterations_completed", "influences"].Nodup := by decide
  rw [ofJson?, toJson, Json.fields?_object] at read
  · simp only [Option.bind_eq_bind, Option.bind_some, Option.bind_eq_some_iff] at read
    obtain ⟨id, idRead, task, taskRead, context', contextRead, _, -, status, statusRead,
      completed, completedRead, influences, influencesRead, same⟩ := read
    cases same
    have idSame := Json.of_required_known (by decide) rfl idRead
    have taskSame := Json.of_required_known (by decide) rfl taskRead
    have contextSame := Json.of_orElse_known (by decide) rfl contextRead
    have statusSame := Json.of_orElse_known (by decide) rfl statusRead
    have completedSame := Json.eq_of_natBelow?
      (Json.of_orElse_known (by decide) rfl completedRead)
    have influencesSame : influences.map Influence.timeless =
        session.influences.map Influence.timeless :=
      Json.map_eq_of_list? (fun _ _ _ => Influence.timeless_ofJson?)
        (Json.of_orElse_known (by decide) rfl influencesRead)
    rw [Json.choice?_string (SessionStatus.ofName?_name _)] at statusSame
    cases idSame
    cases taskSame
    cases statusSame
    exact ⟨rfl, rfl, contextSame, rfl, completedSame, influencesSame⟩
  · exact once

/-- Of a session without additions to its context the same session is read, times apart. -/
theorem timeless_ofJson? (plain : session.context.extensions = .empty)
    (read : ofJson? 125 session.toJson = some found) :
    found.id = session.id ∧ found.timeless = session.timeless := by
  have context : TaskContext.ofJson? 124 session.context.toJson = some session.context :=
    TaskContext.ofJson?_toJson (TaskContext.of_plain plain _) (TaskContext.of_plain plain _)
  obtain ⟨id, task, contextSame, status, completed, influences⟩ := members_ofJson? read
  rw [context, Option.some.injEq] at contextSame
  refine ⟨id, ?_⟩
  rw [timeless, timeless, task, ← contextSame, status, completed, influences]

end Session

namespace Checkpoint

variable {checkpoint found : Checkpoint}

/-- Of a checkpoint the session in it is read. -/
theorem session_of_ofJson? (read : ofJson? checkpoint.toJson = some found) :
    Session.ofJson? 125 checkpoint.payload.session.toJson = some found.payload.session := by
  have once : names.Nodup := by decide
  have onceInside : ["session", "iteration"].Nodup := by decide
  rw [ofJson?, toJson, Json.fields?_object] at read
  · simp only [Option.bind_eq_bind, Option.bind_some, Option.bind_eq_some_iff] at read
    obtain ⟨_, -, _, -, _, -, _, -, _, -, _, -, payload, payloadRead, same⟩ := read
    cases same
    have inside := Json.of_required_known (by decide) rfl payloadRead
    rw [CheckpointPayload.ofJson?, CheckpointPayload.toJson, Json.fields?_object] at inside
    · simp only [Option.bind_eq_bind, Option.bind_some, Option.bind_eq_some_iff] at inside
      obtain ⟨session, sessionRead, _, -, same⟩ := inside
      cases same
      exact Json.of_required_known (by decide) rfl sessionRead
    · exact onceInside
  · exact once

/-- Of a checkpoint the session in it is read, times apart. -/
theorem session_ofJson? (plain : checkpoint.payload.session.context.extensions = .empty)
    (read : ofJson? checkpoint.toJson = some found) :
    found.payload.session.id = checkpoint.payload.session.id ∧
      found.payload.session.timeless = checkpoint.payload.session.timeless :=
  Session.timeless_ofJson? plain (session_of_ofJson? read)

end Checkpoint

end TaskLoop
