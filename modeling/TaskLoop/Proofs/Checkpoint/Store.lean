import TaskLoop.Engine.Open
import TaskLoop.Identifier
import TaskLoop.Proofs.Checkpoint.Basic
import TaskLoop.Proofs.Store.File

/-!
A checkpoint that was saved is loaded as it was, and a file with its digest is loaded as the same
session and iteration or not at all. A save touches nothing but what is in the directory of its
session.
-/

set_option autoImplicit false

namespace TaskLoop

/-- Two payloads with one text are one, when a file keeps all of the first. -/
theorem CheckpointPayload.eq_of_compact {left right : CheckpointPayload} (leftTyped : left.Typed)
    (kept : left.session.Kept) (rightTyped : right.Typed)
    (same : left.toJson.compact = right.toJson.compact) : right = left := by
  have values : right.toJson = left.toJson := by
    have read := Json.ofText?_compact (printable_toJson leftTyped.session.context)
    rw [same, Json.ofText?_compact (printable_toJson rightTyped.session.context)] at read
    exact Option.some.inj read
  have sessions : right.session.toJson = left.session.toJson := by
    simp only [toJson, Json.object.injEq, List.cons.injEq, Prod.mk.injEq, true_and] at values
    exact values.1
  have read := ofJson?_toJson rightTyped (kept.of_toJson_eq sessions)
  rw [values, ofJson?_toJson leftTyped kept] at read
  exact (Option.some.inj read).symm

namespace Checkpoint

variable {disk : Disk} {path root : Path} {checkpoint : Checkpoint} {before after : Host}
variable {session : Session} {iteration : Option Iteration} {label : String}
variable {handle : CheckpointHandle}

/-! ### What a load accepts -/

/-- A checkpoint has no flaw when its version is known and its digest and its session are those
of what it holds. -/
theorem flaw?_eq_none : checkpoint.flaw? = none ↔ checkpoint.version = formatVersion ∧
    checkpoint.payload.checksum = checkpoint.checksum ∧
      checkpoint.payload.session.id = checkpoint.session := by
  by_cases known : checkpoint.version = formatVersion
  · by_cases intact : checkpoint.payload.checksum = checkpoint.checksum
    · by_cases own : checkpoint.payload.session.id = checkpoint.session
      · simp [flaw?, known, intact, own]
      · simp [flaw?, known, intact, own]
    · simp [flaw?, known, intact]
  · simp [flaw?, known]

theorem loadFrom_eq_ok : loadFrom disk path = .ok checkpoint ↔ ∃ text,
    disk.readText path = .ok text ∧ (Json.ofText? text).bind ofJson? = some checkpoint ∧
      checkpoint.flaw? = none := by
  unfold loadFrom
  constructor
  · intro loaded
    split at loaded
    · cases loaded
    · cases loaded
    · rename_i text content
      split at loaded
      · cases loaded
      · rename_i found decoded
        split at loaded
        · cases loaded
        · rename_i intact
          cases loaded
          exact ⟨text, content, decoded, intact⟩
  · rintro ⟨text, content, decoded, intact⟩
    simp only [content, decoded, intact]

theorem load_eq_ok : load path before = .ok checkpoint after ↔
    loadFrom before.disk path = .ok checkpoint ∧ after = before := Act.look_eq_ok

/-- A checkpoint that is loaded is one of which a file keeps all. -/
theorem typed_of_loadFrom (loaded : loadFrom disk path = .ok checkpoint) :
    checkpoint.payload.Typed ∧ checkpoint.payload.session.Kept := by
  obtain ⟨text, -, decoded, -⟩ := loadFrom_eq_ok.mp loaded
  obtain ⟨json, -, read⟩ := Option.bind_eq_some_iff.mp decoded
  exact typed_of_ofJson? read

/-! ### What a save leaves -/

/-- The checkpoint that is made next on a host. -/
def next (host : Host) (payload : CheckpointPayload) (label : String) : Checkpoint :=
  new (host.fresh host.issued) payload label (host.clock host.readings)

theorem path_handle (checkpoint : Checkpoint) (path : Path) :
    (checkpoint.handle path).path = path := rfl

theorem tidy_file (root : Path) (session : String) (checkpoint : Checkpoint) :
    ((directory root session).join checkpoint.fileName).Tidy := by
  have last : checkpoint.fileName.toList.getLast? = some 'n' := by
    rw [fileName, String.toList_append, List.getLast?_append]
    rfl
  exact Path.tidy_of_last (Path.getLast?_join last _) (by decide) (by decide)

/-- The host when the file is written. -/
def drawn (before : Host) : Host :=
  { before with issued := before.issued + 1, readings := before.readings + 1 }

/-- A save that comes to its end has written the file of the next checkpoint. -/
theorem writes_of_save (saved : save root session iteration label before = .ok handle after) :
    handle = (next before ⟨session, iteration⟩ label).handle
        ((directory root session.id).join (next before ⟨session, iteration⟩ label).fileName) ∧
      Store.writeJson
        ((directory root session.id).join (next before ⟨session, iteration⟩ label).fileName)
        (next before ⟨session, iteration⟩ label).toJson (drawn before) = .ok () after := by
  obtain ⟨_, _, drawn, saved⟩ := Act.bind_eq_ok.mp saved
  cases drawn
  obtain ⟨_, _, looked, saved⟩ := Act.bind_eq_ok.mp saved
  cases looked
  obtain ⟨_, written, writing, saved⟩ := Act.bind_eq_ok.mp saved
  obtain ⟨rfl, rfl⟩ := Act.pure_eq_ok.mp saved
  exact ⟨rfl, Act.mapError_eq_ok.mp writing⟩

/-- A save that comes to its end has made the next checkpoint, and its file holds that one. -/
theorem save_eq_ok (saved : save root session iteration label before = .ok handle after) :
    handle = (next before ⟨session, iteration⟩ label).handle
        ((directory root session.id).join (next before ⟨session, iteration⟩ label).fileName) ∧
      after.disk.readText handle.path =
        .ok (next before ⟨session, iteration⟩ label).toJson.fileText := by
  obtain ⟨rfl, wrote⟩ := writes_of_save saved
  refine ⟨rfl, ?_⟩
  rw [path_handle]
  exact Store.readText_writeJson (tidy_file _ _ _) wrote

/-- The file of a handle is an intact checkpoint of a payload. -/
def Stands (payload : CheckpointPayload) (handle : CheckpointHandle) (host : Host) : Prop :=
  ∃ checkpoint : Checkpoint, checkpoint.payload = payload ∧ checkpoint.flaw? = none ∧
    checkpoint.handle handle.path = handle ∧
    host.disk.readText handle.path = .ok checkpoint.toJson.fileText

theorem save_stands (saved : save root session iteration label before = .ok handle after) :
    Stands ⟨session, iteration⟩ handle after ∧ handle.label = settleLabel label := by
  obtain ⟨rfl, content⟩ := save_eq_ok saved
  have intact : (next before ⟨session, iteration⟩ label).flaw? = none := flaw?_new _ _ _ _
  refine ⟨⟨next before ⟨session, iteration⟩ label, rfl, intact, ?_, content⟩, rfl⟩
  rw [path_handle]

/-- A file that is written of the next checkpoint holds it whole. -/
theorem decode_next {payload : CheckpointPayload} (typed : payload.Typed)
    (kept : payload.session.Kept) (shown : (before.clock before.readings).Shown) :
    (Json.ofText? (next before payload label).toJson.fileText).bind ofJson? =
      some (next before payload label) := by
  have checkpoint_typed : (next before payload label).Typed := typed_new typed _ _ shown
  rw [Json.ofText?_fileText (printable_toJson checkpoint_typed.payload.session.context), Option.bind_some,
    ofJson?_toJson checkpoint_typed kept]

/-- A session that was just started has the next identifier and no additions to its context, and
no file has changed. -/
theorem startSession_eq_ok {ε : Type} {project : Project} {annotations : List Annotation}
    {task : Option String}
    (started : (project.startSession annotations task : Act ε Session) before = .ok session after) :
    (∃ text context time, context.extensions = .empty ∧
      session = .new (before.fresh before.issued) text context time) ∧
      after.disk = before.disk ∧ after.fresh = before.fresh := by
  have additions : ( Annotation.discoverTask annotations project.name).2.extensions = .empty := by
    unfold Annotation.discoverTask
    split <;> rfl
  obtain ⟨_, _, drawn, started⟩ := Act.bind_eq_ok.mp started
  obtain ⟨_, _, looked, started⟩ := Act.bind_eq_ok.mp started
  cases drawn
  cases looked
  obtain ⟨rfl, rfl⟩ := Act.pure_eq_ok.mp started
  refine ⟨⟨_, _, _, ?_, rfl⟩, rfl, rfl⟩
  cases task with
  | none => exact additions
  | some task => rfl

theorem kept_of_startSession {ε : Type} {project : Project} {annotations : List Annotation}
    {task : Option String}
    (started : (project.startSession annotations task : Act ε Session) before = .ok session after) :
    session.Kept := by
  obtain ⟨⟨text, context, time, plain, rfl⟩, -⟩ := startSession_eq_ok started
  exact ⟨fun _ => nofun, TaskContext.of_plain plain _⟩

/-- What is saved of a session that is kept whole is loaded again: the session and the iteration,
under the name and the time that the save gave out, and with a digest that agrees. Sessions that
were started or loaded are kept whole. -/
theorem load_saved :
    (∀ (root : Path) (session : Session) (iteration : Option Iteration) (label : String)
      (before after : Host) (handle : CheckpointHandle),
      session.Typed → (∀ current ∈ iteration, current.Fits) →
      (before.clock before.readings).Shown → session.Kept →
      save root session iteration label before = .ok handle after →
      handle.id = before.fresh before.issued ∧ handle.session = session.id ∧
        handle.label = settleLabel label ∧ handle.createdAt = before.clock before.readings ∧
        ∃ loaded, load handle.path after = .ok loaded after ∧
          loaded.payload = ⟨session, iteration⟩ ∧ loaded.handle handle.path = handle ∧
          loaded.payload.checksum = loaded.checksum) ∧
    (∀ (project : Project) (annotations : List Annotation) (task : Option String)
      (before after : Host) (session : Session),
      (project.startSession annotations task : Act EngineError Session) before =
        .ok session after → session.Kept) ∧
    ∀ (disk : Disk) (path : Path) (loaded : Checkpoint),
      loadFrom disk path = .ok loaded → loaded.payload.session.Kept := by
  refine ⟨?_, fun _ _ _ _ _ _ => kept_of_startSession, fun _ _ _ loaded =>
    (typed_of_loadFrom loaded).2⟩
  intro root session iteration label before after handle typed fits shown kept saved
  obtain ⟨rfl, content⟩ := save_eq_ok saved
  have intact : (next before ⟨session, iteration⟩ label).flaw? = none := flaw?_new _ _ _ _
  have loaded := loadFrom_eq_ok.mpr
    ⟨_, content, decode_next ⟨typed, fits⟩ kept shown, intact⟩
  refine ⟨rfl, rfl, rfl, rfl, next before ⟨session, iteration⟩ label, ?_, rfl, ?_,
    (flaw?_eq_none.mp intact).2.1⟩
  · exact load_eq_ok.mpr ⟨loaded, rfl⟩
  · rw [path_handle]

/-- A file with the digest of a saved checkpoint is loaded as the session and the iteration that
were saved, or not at all. -/
theorem load_same_checksum (typed : session.Typed) (fits : ∀ current ∈ iteration, current.Fits)
    (saved : save root session iteration label before = .ok handle after) :
    after.disk.readText handle.path =
        .ok (next before ⟨session, iteration⟩ label).toJson.fileText ∧
      ∀ (disk : Disk) (path : Path) (text : List Char) (envelope loaded : Checkpoint),
        disk.readText path = .ok text → (Json.ofText? text).bind ofJson? = some envelope →
        envelope.checksum = (next before ⟨session, iteration⟩ label).checksum →
        loadFrom disk path = .ok loaded →
        (Sha256.digest (Text.Utf8.encode loaded.payload.toJson.compact) =
            Sha256.digest (Text.Utf8.encode
              (CheckpointPayload.mk session iteration).toJson.compact) →
          Text.Utf8.encode loaded.payload.toJson.compact =
            Text.Utf8.encode (CheckpointPayload.mk session iteration).toJson.compact) →
        loaded.payload = ⟨session, iteration⟩ ∧ loaded.session = session.id := by
  refine ⟨(save_eq_ok saved).2, ?_⟩
  intro disk path text envelope loaded found parsed agrees succeeded apart
  obtain ⟨_, content, decoded, intact⟩ := loadFrom_eq_ok.mp succeeded
  cases found.symm.trans content
  cases parsed.symm.trans decoded
  obtain ⟨-, own, sameSession⟩ := flaw?_eq_none.mp intact
  obtain ⟨loaded_typed, kept⟩ := typed_of_loadFrom succeeded
  have digests := String.ofList_injective (own.trans agrees)
  have texts : envelope.payload.toJson.compact =
      (CheckpointPayload.mk session iteration).toJson.compact := by
    have decoded := congrArg Text.Utf8.decode? (apart digests)
    rw [Text.Utf8.decode?_encode, Text.Utf8.decode?_encode] at decoded
    exact Option.some.inj decoded
  have same := CheckpointPayload.eq_of_compact loaded_typed kept ⟨typed, fits⟩ texts
  exact ⟨same.symm, by rw [← sameSession, ← same]⟩

/-! ### Where checkpoints lie -/

section Places

open TaskLoop.Path (Plain Tidy)

variable {base : Path} {root : Place}

/-- The directory of a session's checkpoints, or a place in it. -/
def Within (root : Place) (session : String) (place : Place) : Prop :=
  ∃ rest, place = root ++ session :: rest

theorem save_places (tidy : Tidy base) (located : before.disk.locate base = .ok root)
    (isDirectory : before.disk.node? root = some .directory) (plain : Plain session.id)
    (fresh : Plain (before.fresh before.issued))
    (saved : save base session iteration label before = .ok handle after) :
    Host.Spares (Within root session.id) before after ∧
      ∃ name, Tidy handle.path ∧ after.disk.locate handle.path = .ok (root ++ [session.id, name]) := by
  have path : handle.path =
      (base.join session.id).join (next before ⟨session, iteration⟩ label).fileName := by
    rw [(save_eq_ok saved).1, path_handle, directory]
  have looks : Host.Spares (Within root session.id) before (drawn before) :=
    ⟨rfl, rfl, .refl _, fun _ _ => rfl⟩
  have stillLocated := looks.grows.locate tidy located
  have stillDirectory := looks.grows.directory root isDirectory
  obtain ⟨-, wrote⟩ := writes_of_save saved
  have file : Path.Plain (next before ⟨session, iteration⟩ label).fileName :=
    plain_fileName (slash_not_mem_settleLabel label) fresh.noSlash
  have inside := Path.tidy_join plain base
  obtain ⟨housed, made⟩ := Disk.makeDirectories_of_writeAtomic inside file wrote
  have leads := Disk.locate_of_makeDirectories tidy plain stillLocated stillDirectory made
  obtain ⟨spares, found, -⟩ := Disk.writeAtomic_eq_ok inside file leads wrote
  refine ⟨looks.trans (spares.mono ?_), (next before ⟨session, iteration⟩ label).fileName, ?_⟩
  · rintro place (rfl | rfl | ⟨processId, rfl⟩)
    · exact ⟨[], rfl⟩
    · exact ⟨[_], List.append_assoc _ _ _⟩
    · exact ⟨[_], List.append_assoc _ _ _⟩
  · rw [List.append_assoc] at found
    rw [path]
    exact ⟨Path.tidy_join file _, found⟩

end Places

end Checkpoint

/-! ### A session at hand -/

namespace Sample

open Checkpoint

/-- A value that nests. -/
def limits : Json := .object [("depth", .array [.ofNat 3, .null])]

/-- A session with an addition that nests and a confidence. -/
def nested : Session where
  id := "s"
  task := "é"
  context := { extensions := OrderedMap.empty.insert "limits" limits }
  createdAt := ⟨0, 0⟩
  status := .stopped
  completedIterations := 1
  influences := [⟨1, .reasoning, ["a"], Decimal.nearest false 1 1, ⟨0, 0⟩⟩]

/-- A host without files. -/
def bareHost : Host := .new ⟨.empty, []⟩ (fun _ => ⟨0, 0⟩) Identifier.ofNumber

theorem shown_epoch : (⟨0, 0⟩ : Timestamp).Shown := ⟨by decide, by decide⟩

theorem nested_typed : nested.Typed where
  context := by
    intro value member
    obtain rfl : value = limits := List.mem_singleton.mp member
    have three : Json.Kept (.natural 3) := by
      rw [Json.Kept]
      decide
    exact ⟨List.pairwise_singleton _ _, ⟨⟨.natural 3, three, rfl⟩, trivial, trivial⟩, trivial⟩
  createdAt := shown_epoch
  completedIterations := by decide
  influences := by
    intro influence member
    obtain rfl := List.mem_singleton.mp member
    exact ⟨by decide, shown_epoch⟩

theorem nested_kept : nested.Kept where
  finite := by
    intro influence member
    obtain rfl := List.mem_singleton.mp member
    exact Decimal.isFinite_nearest false (by decide)
  shallow := by
    intro value member
    obtain rfl : value = limits := List.mem_singleton.mp member
    decide

/-- The iteration that the session was in. -/
def begun : Iteration := .new 2 "é" ⟨0, 0⟩

theorem begun_fits : ∀ current ∈ some begun, current.Fits := by
  intro current found
  cases found
  exact ⟨by decide, by decide, by decide, shown_epoch, fun _ => nofun⟩

theorem nested_saved : ∃ handle after,
    save ⟨"checkpoints"⟩ nested (some begun) "before review" bareHost = .ok handle after := by
  have saves : (match save ⟨"checkpoints"⟩ nested (some begun) "before review" bareHost with
      | .ok _ _ => true
      | .error _ _ => false) = true := by decide +kernel
  split at saves
  · rename_i handle after saved
    exact ⟨handle, after, saved⟩
  · cases saves

theorem load_saved_nested : ∃ handle after loaded,
    save ⟨"checkpoints"⟩ nested (some begun) "before review" bareHost = .ok handle after ∧
      handle.label = "before-review" ∧ load handle.path after = .ok loaded after ∧
      loaded.payload = ⟨nested, some begun⟩ ∧ loaded.payload.checksum = loaded.checksum := by
  obtain ⟨handle, after, saved⟩ := nested_saved
  obtain ⟨-, -, labelled, -, loaded, succeeded, same, -, intact⟩ := load_saved.1 _ _ _ _ _ _ _
    nested_typed begun_fits shown_epoch nested_kept saved
  have label : settleLabel "before review" = "before-review" := by decide +kernel
  exact ⟨handle, after, loaded, saved, labelled.trans label, succeeded, same, intact⟩

/-- The members of a checkpoint in reverse, with one more. -/
def moved (checkpoint : Checkpoint) : Json :=
  .object (("note", .null) :: checkpoint.members.reverse)

theorem ofJson?_moved {checkpoint : Checkpoint} (typed : checkpoint.Typed)
    (kept : checkpoint.payload.session.Kept) : ofJson? (moved checkpoint) = some checkpoint := by
  have listed : (("note", Json.null) :: checkpoint.members.reverse).map Prod.fst =
      "note" :: names.reverse := rfl
  refine ofJson?_object ?_ ?_ typed kept
  · rw [listed]
    decide
  · intro name isName
    simp only [names, List.mem_cons, List.not_mem_nil, or_false] at isName
    rcases isName with rfl | rfl | rfl | rfl | rfl | rfl | rfl
    all_goals rfl

theorem printable_moved {checkpoint : Checkpoint} (typed : checkpoint.Typed) :
    (moved checkpoint).Printable := by
  have members : Json.PrintableMembers checkpoint.members :=
    printable_toJson typed.payload.session.context
  refine Json.printable_object (List.forall_mem_cons.mpr ⟨trivial, fun member isMember => ?_⟩)
  exact Json.printableMembers_iff.mp members member (List.mem_reverse.mp isMember)

/-- A disk with nothing but a text in a file. -/
def textDisk (text : List Char) : Disk :=
  ⟨OrderedMap.empty.insert ["c.json"] (.file (Text.Utf8.encode text)), []⟩

theorem readText_textDisk (text : List Char) : (textDisk text).readText ⟨"c.json"⟩ = .ok text := by
  have bytes : (textDisk text).read ⟨"c.json"⟩ = .ok (Text.Utf8.encode text) := rfl
  simp only [Disk.readText, bytes, bind, Except.bind, Text.Utf8.decode?_encode]

theorem loadFrom_moved {checkpoint : Checkpoint} (typed : checkpoint.Typed)
    (kept : checkpoint.payload.session.Kept) (intact : checkpoint.flaw? = none) :
    loadFrom (textDisk (moved checkpoint).compact) ⟨"c.json"⟩ = .ok checkpoint := by
  refine loadFrom_eq_ok.mpr ⟨_, readText_textDisk _, ?_, intact⟩
  rw [Json.ofText?_compact (printable_moved typed), Option.bind_some, ofJson?_moved typed kept]

theorem compact_moved_ne {checkpoint : Checkpoint} (typed : checkpoint.Typed) :
    (moved checkpoint).compact ≠ checkpoint.toJson.fileText := by
  have oneLine := Json.newline_not_mem_compact (printable_moved typed)
  intro same
  rw [same, Json.fileText] at oneLine
  exact oneLine (List.mem_append_right _ List.mem_cons_self)

/-- The members on one line, in reverse and with one more, are another text with the digest. -/
theorem load_moved : ∃ checkpoint text, text ≠ checkpoint.toJson.fileText ∧
    checkpoint = next bareHost ⟨nested, some begun⟩ "before review" ∧
      loadFrom (textDisk text) ⟨"c.json"⟩ = .ok checkpoint ∧
      checkpoint.payload = ⟨nested, some begun⟩ ∧ checkpoint.session = nested.id := by
  obtain ⟨handle, after, saved⟩ := nested_saved
  have payload_typed : CheckpointPayload.Typed ⟨nested, some begun⟩ := ⟨nested_typed, begun_fits⟩
  have typed : (next bareHost ⟨nested, some begun⟩ "before review").Typed :=
    typed_new payload_typed _ _ shown_epoch
  have loaded := loadFrom_moved typed nested_kept (flaw?_new _ _ _ _)
  obtain ⟨_, content, decoded, -⟩ := loadFrom_eq_ok.mp loaded
  have same := (load_same_checksum nested_typed begun_fits saved).2 _ _ _ _ _ content decoded rfl
    loaded fun _ => rfl
  exact ⟨_, _, compact_moved_ne typed, rfl, loaded, same⟩

end Sample

end TaskLoop
