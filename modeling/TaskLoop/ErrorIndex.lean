import TaskLoop.Category
import TaskLoop.Failure
import TaskLoop.Json.Decode
import TaskLoop.Similarity
import TaskLoop.Timestamp

/-!
The failures seen so far, one record for each settled text: how often it occurred, whether it was
overcome and how, and the search for records like a new failure.
-/

set_option autoImplicit false

namespace TaskLoop

/-- A failure that has occurred, with the text of its first occurrence. -/
structure ErrorRecord where
  hash : String
  text : String
  category : Category
  occurrences : Nat
  resolved : Bool
  note : Option String
  firstSeen : Timestamp
  lastSeen : Timestamp
  deriving DecidableEq, Repr

/-- Records by hash, and the least score at which a record counts as similar. -/
structure ErrorIndex (α : Type) where
  records : OrderedMap String ErrorRecord
  threshold : α

/-- A record and how alike it is to a text. -/
structure ScoredError (α : Type) where
  record : ErrorRecord
  score : α

/-- Counts over all records. -/
structure ErrorStatistics where
  total : Nat
  resolved : Nat
  unresolved : Nat
  occurrences : Nat
  byCategory : OrderedMap Category Nat

namespace ErrorIndex

/-- The score at which a record counts as similar unless settings say otherwise. -/
def defaultThreshold {α : Type} [Arithmetic α] : α := Arithmetic.quotient 3 10

/-- How many similar records are returned unless a caller says otherwise. -/
def defaultTop : Nat := 5

section Threshold

variable {α : Type} [Arithmetic α]

/-- Whether the threshold is a share, between nought and one. -/
def thresholdIsValid (threshold : α) : Bool :=
  Arithmetic.atMost Arithmetic.zero threshold && Arithmetic.atMost threshold Arithmetic.one

/-- The index without records. -/
def empty (threshold : α) : ErrorIndex α := ⟨.empty, threshold⟩

end Threshold

variable {α : Type}

/-- The record of a new failure. -/
def newRecord (text : String) (now : Timestamp) : ErrorRecord where
  hash := Similarity.errorHash text
  text := String.ofList (Text.trim text.toList)
  category := Category.classify text
  occurrences := 1
  resolved := false
  note := none
  firstSeen := now
  lastSeen := now

/-- Notes an occurrence of a failure and returns its record. -/
def recordError (index : ErrorIndex α) (text : String) (now : Timestamp) :
    ErrorRecord × ErrorIndex α :=
  let hash := Similarity.errorHash text
  let record := match index.records.find? hash with
    | some known => { known with occurrences := known.occurrences + 1, lastSeen := now }
    | none => newRecord text now
  (record, { index with records := index.records.insert hash record })

/-- Marks a failure as overcome, with a note on how. -/
def markResolved (index : ErrorIndex α) (hash note : String) :
    Except StoreError (ErrorRecord × ErrorIndex α) :=
  match index.records.find? hash with
  | none => .error (.unknownHash hash)
  | some known =>
    if known.resolved then .error (.alreadyResolved hash)
    else
      let record := { known with resolved := true, note := some note }
      .ok (record, { index with records := index.records.insert hash record })

section Search

variable [Arithmetic α]

/-- Whether one scored record ranks before or with another: by score, then by occurrences, both
descending, then by hash. -/
def rankedBefore (left right : ScoredError α) : Bool :=
  if Arithmetic.less right.score left.score then true
  else if Arithmetic.less left.score right.score then false
  else if left.record.occurrences != right.record.occurrences then
    right.record.occurrences < left.record.occurrences
  else compare left.record.hash right.record.hash != .gt

/-- The records that score at least a threshold against a text, best first. -/
def rank (index : ErrorIndex α) (text : String) (threshold : α) : List (ScoredError α) :=
  let query := Similarity.tokenize text
  let scored := index.records.values.map fun record =>
    (⟨record, Similarity.overlap query (Similarity.tokenize record.text)⟩ : ScoredError α)
  (scored.filter fun entry => Arithmetic.atMost threshold entry.score).mergeSort rankedBefore

/-- The best records that score at least a threshold. -/
def findSimilarAt (index : ErrorIndex α) (text : String) (top : Nat) (threshold : α) :
    List (ScoredError α) :=
  (index.rank text threshold).take top

/-- The best records that score at least the index's threshold. -/
def findSimilar (index : ErrorIndex α) (text : String) (top : Nat) : List (ScoredError α) :=
  index.findSimilarAt text top index.threshold

/-- The notes of the overcome failures among the records most like a text. -/
def suggest (index : ErrorIndex α) (text : String) (top : Nat) : List String :=
  (index.findSimilar text top).filterMap fun entry =>
    if entry.record.resolved then entry.record.note else none

end Search

/-- Adds to the count of a category. -/
def addCount (counts : OrderedMap Category Nat) (category : Category) (count : Nat) :
    OrderedMap Category Nat :=
  counts.insert category ((counts.find? category).getD 0 + count)

/-- Counts over all records. -/
def statistics (index : ErrorIndex α) : ErrorStatistics :=
  let records := index.records.values
  let resolved := (records.filter (·.resolved)).length
  { total := records.length
    resolved := resolved
    unresolved := records.length - resolved
    occurrences := records.foldl (fun count record => count + record.occurrences) 0
    byCategory := records.foldl
      (fun counts record => addCount counts record.category record.occurrences) .empty }

/-- Counts by category, the largest first and equal ones in the order of the categories. -/
def sortCounts (counts : OrderedMap Category Nat) : List (Category × Nat) :=
  counts.entries.mergeSort fun left right =>
    right.2 < left.2 || (left.2 == right.2 && left.1.index ≤ right.1.index)

/-- Occurrences by category, the most frequent first. -/
def categoryCounts (index : ErrorIndex α) : List (Category × Nat) :=
  sortCounts index.statistics.byCategory

end ErrorIndex

/-- The share of the records that are resolved. -/
def ErrorStatistics.resolutionRate {α : Type} [Arithmetic α] (statistics : ErrorStatistics) : α :=
  if statistics.total == 0 then Arithmetic.zero
  else Arithmetic.ofNat statistics.resolved / Arithmetic.ofNat statistics.total

/-! ### Files -/

namespace Json

/-- A point in time. -/
def timestamp? : Json → Option Timestamp
  | .string value => Timestamp.ofText? value.toList
  | _ => none

/-- The text of a point in time. -/
def ofTimestamp (time : Timestamp) : Json := .ofText time.text

end Json

/-- The counts over all records as JSON. -/
def ErrorStatistics.toJson (statistics : ErrorStatistics) : Json :=
  .object [("total_errors", .ofNat statistics.total), ("resolved", .ofNat statistics.resolved),
    ("unresolved", .ofNat statistics.unresolved),
    ("total_occurrences", .ofNat statistics.occurrences),
    ("by_category", .ofMap Category.name Json.ofNat statistics.byCategory)]

namespace ErrorRecord

/-- The members of a record in a file. -/
def toJson (record : ErrorRecord) : Json :=
  .object ([("hash", .string record.hash), ("text", .string record.text),
    ("category", .string record.category.name),
    ("occurrence_count", .ofNat record.occurrences), ("resolved", .bool record.resolved)]
    ++ Json.optionalMember "resolution_note" .string record.note
    ++ [("first_seen", .ofTimestamp record.firstSeen), ("last_seen", .ofTimestamp record.lastSeen)])

/-- Reads a record. -/
def ofJson? (json : Json) : Option ErrorRecord := do
  let fields ← json.fields? ["hash", "text", "category", "occurrence_count", "resolved",
    "resolution_note", "first_seen", "last_seen"]
  return {
    hash := ← fields.required "hash" Json.string?
    text := ← fields.required "text" Json.string?
    category := ← fields.required "category" (Json.choice? Category.ofName?)
    occurrences := ← fields.required "occurrence_count" Json.nat64?
    resolved := ← fields.orElse "resolved" Json.bool? false
    note := ← fields.optional "resolution_note" Json.string?
    firstSeen := ← fields.required "first_seen" Json.timestamp?
    lastSeen := ← fields.required "last_seen" Json.timestamp? }

end ErrorRecord

namespace ErrorIndex

/-- The records as they stand in a file. -/
def recordsToJson (records : OrderedMap String ErrorRecord) : Json :=
  .object [("errors", .ofMap id ErrorRecord.toJson records)]

/-- Reads the records of a file. -/
def recordsOfJson? (json : Json) : Option (OrderedMap String ErrorRecord) := do
  let fields ← json.fields? ["errors"]
  fields.orElse "errors" (Json.map? some ErrorRecord.ofJson?) .empty

end ErrorIndex

end TaskLoop
