import TaskLoop.Disk.Path
import TaskLoop.Iteration
import TaskLoop.Json.Printer
import TaskLoop.Sha256
import TaskLoop.Text.Utf8

/-!
A snapshot of a session with a digest of what it holds, so that a damaged one is told from an
intact one.
-/

set_option autoImplicit false

namespace TaskLoop

/-- What is needed to go on with a session: the session, and the iteration it was in if any. -/
structure CheckpointPayload where
  session : Session
  iteration : Option Iteration

namespace CheckpointPayload

/-- The members of a payload in a file. -/
def toJson (payload : CheckpointPayload) : Json :=
  .object [("session", payload.session.toJson),
    ("iteration", .ofOption Iteration.toJson payload.iteration)]

/-- Reads a payload that may nest `room` levels deep. -/
def ofJson? (room : Nat) (json : Json) : Option CheckpointPayload := do
  let fields ← json.fields? ["session", "iteration"]
  return ⟨← fields.required "session" (Session.ofJson? (room - 1)),
    ← fields.optional "iteration" Iteration.ofJson?⟩

/-- The digest of the payload's text without blanks. -/
def checksum (payload : CheckpointPayload) : String :=
  String.ofList (Sha256.digest (Text.Utf8.encode payload.toJson.compact))

end CheckpointPayload

/-- A snapshot of a session. -/
structure Checkpoint where
  version : Nat
  id : String
  session : String
  label : String
  createdAt : Timestamp
  checksum : String
  payload : CheckpointPayload

/-- Where a checkpoint lies and what it is called. -/
structure CheckpointHandle where
  id : String
  session : String
  label : String
  createdAt : Timestamp
  path : Path
  deriving DecidableEq

namespace Checkpoint

/-- The version of the file format. -/
def formatVersion : Nat := 1

/-- A label in a form that may stand in a file name. -/
def settleLabel (label : String) : String :=
  let settled := (Text.trim label.toList).map fun c =>
    if Text.isAlphanumeric c || c == '-' || c == '_' then c else '-'
  if settled.isEmpty then "checkpoint" else String.ofList settled

/-- A new snapshot. -/
def new (id : String) (payload : CheckpointPayload) (label : String) (now : Timestamp) :
    Checkpoint where
  version := formatVersion
  id := id
  session := payload.session.id
  label := settleLabel label
  createdAt := now
  checksum := payload.checksum
  payload := payload

/-- What a checkpoint at a path is called. -/
def handle (checkpoint : Checkpoint) (path : Path) : CheckpointHandle :=
  ⟨checkpoint.id, checkpoint.session, checkpoint.label, checkpoint.createdAt, path⟩

/-- The members of a checkpoint in a file. -/
def toJson (checkpoint : Checkpoint) : Json :=
  .object [("format_version", .ofNat checkpoint.version), ("id", .string checkpoint.id),
    ("session_id", .string checkpoint.session), ("label", .string checkpoint.label),
    ("created_at", .ofTimestamp checkpoint.createdAt), ("checksum", .string checkpoint.checksum),
    ("payload", checkpoint.payload.toJson)]

/-- Reads a checkpoint without a look at its digest. -/
def ofJson? (json : Json) : Option Checkpoint := do
  let fields ← json.fields? ["format_version", "id", "session_id", "label", "created_at",
    "checksum", "payload"]
  return {
    version := ← fields.required "format_version" Json.nat32?
    id := ← fields.required "id" Json.string?
    session := ← fields.required "session_id" Json.string?
    label := ← fields.required "label" Json.string?
    createdAt := ← fields.required "created_at" Json.timestamp?
    checksum := ← fields.required "checksum" Json.string?
    payload := ← fields.required "payload" (CheckpointPayload.ofJson? 126) }

/-- Why a checkpoint that could be read must not be restored. -/
def flaw? (checkpoint : Checkpoint) : Option String :=
  let actual := checkpoint.payload.checksum
  if checkpoint.version != formatVersion then
    some s!"unsupported format version {checkpoint.version}"
  else if actual != checkpoint.checksum then
    some s!"checksum mismatch: expected {checkpoint.checksum}, got {actual}"
  else if checkpoint.payload.session.id != checkpoint.session then
    some "session id does not match payload"
  else none

/-- The name of a checkpoint's file: its time, its label and the start of its identifier. -/
def fileName (checkpoint : Checkpoint) : String :=
  String.ofList checkpoint.createdAt.compactText ++ "_" ++ checkpoint.label ++ "_"
    ++ String.ofList (checkpoint.id.toList.take 8) ++ ".json"

end Checkpoint

end TaskLoop
