import TaskLoop.Checkpoint.Basic

/-!
What changed in the context of a session between two checkpoints, entry by entry.
-/

set_option autoImplicit false

namespace TaskLoop.Checkpoint

/-- What changed from one checkpoint to another. -/
structure Difference where
  fromLabel : String
  toLabel : String
  added : OrderedMap String Json
  removed : OrderedMap String Json
  changed : OrderedMap String (Json × Json)
  summary : List String

namespace Difference

/-- Whether no entry changed. -/
def isEmpty (difference : Difference) : Bool :=
  difference.added.entries.isEmpty && difference.removed.entries.isEmpty
    && difference.changed.entries.isEmpty

/-- How many entries changed. -/
def count (difference : Difference) : Nat :=
  difference.added.size + difference.removed.size + difference.changed.size

/-- The members of a difference in an answer. -/
def toJson (difference : Difference) : Json :=
  let entries {α : Type} (encode : α → Json) (map : OrderedMap String α) : Json :=
    .ofMap (fun key => key) encode map
  .object [("from_label", .string difference.fromLabel), ("to_label", .string difference.toLabel),
    ("added", entries (fun value => value) difference.added),
    ("removed", entries (fun value => value) difference.removed),
    ("changed", entries (fun (old, new) => .object [("old", old), ("new", new)])
      difference.changed),
    ("summary", .array (difference.summary.map Json.string))]

end Difference

/-- A value in a line of a summary: texts in quotes as they are, all else as JSON. -/
def describe : Json → String
  | .string text => "\"" ++ text ++ "\""
  | value => String.ofList value.compact

/-- The line on an entry of the older context, unless it stays. -/
def oldLine? (new : OrderedMap String Json) (key : String) (old : Json) : Option String :=
  match new.find? key with
  | none => some s!"- {key}: {describe old}"
  | some value =>
    if old.same value then none else some s!"~ {key}: {describe old} -> {describe value}"

/-- The lines on all entries of two contexts. -/
def contextLines (old new : OrderedMap String Json) : List String :=
  old.entries.filterMap (fun (key, value) => oldLine? new key value)
    ++ (new.entries.filter fun (key, _) => !old.contains key).map fun (key, value) =>
      s!"+ {key}: {describe value}"

/-- The lines on what else changed in two sessions. -/
def sessionLines (old new : Session) : List String :=
  (if old.completedIterations == new.completedIterations then []
    else [s!"iterations completed: {old.completedIterations} -> {new.completedIterations}"])
    ++ (if old.status == new.status then []
      else [s!"session status: {old.status.name} -> {new.status.name}"])

/-- The entries of both maps whose values differ, with both values. -/
def changedEntries (old new : OrderedMap String Json) : OrderedMap String (Json × Json) :=
  (old.filter fun key value =>
    match new.find? key with
    | some other => !value.same other
    | none => false).mapValues fun key value => (value, (new.find? key).getD .null)

/-- What changed from an older checkpoint to a newer one. -/
def difference (older newer : Checkpoint) : Difference :=
  let old := older.payload.session.context.toMap
  let new := newer.payload.session.context.toMap
  { fromLabel := older.label
    toLabel := newer.label
    added := new.filter fun key _ => !old.contains key
    removed := old.filter fun key _ => !new.contains key
    changed := changedEntries old new
    summary := contextLines old new ++ sessionLines older.payload.session newer.payload.session }

end TaskLoop.Checkpoint
