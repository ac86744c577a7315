import TaskLoop.Proofs.Checkpoint.Label
import TaskLoop.Proofs.Engine.Resumption

/-!
Where the checkpoints of a session go that was taken up again. As long as its identifier is one name
they stay in the store: a save writes one file in one directory below it, and the list of all has
the new checkpoint. Nothing sees to it that an identifier is one name.
-/

set_option autoImplicit false

namespace TaskLoop

open TaskLoop.Path (Plain Tidy)
open Act (Ends)
open Disk (Beside)

namespace Project

variable {project : Project} {reference : String} {before after : Host} {session : Session}
  {current : Option Iteration}

/-- A session that is taken up is one of which a file keeps all. -/
theorem typed_of_resumeSession
    (resumed : project.resumeSession reference before = .ok (session, current) after) :
    session.Typed ∧ session.Kept := by
  obtain ⟨handle, between, -, resumed⟩ := Act.bind_eq_ok.mp resumed
  obtain ⟨checkpoint, last, loading, resumed⟩ := Act.bind_eq_ok.mp resumed
  obtain ⟨loaded, -⟩ := Checkpoint.load_eq_ok.mp (Act.mapError_eq_ok.mp loading)
  obtain ⟨⟨typed, -⟩, kept⟩ := Checkpoint.typed_of_loadFrom loaded
  have same : session = { checkpoint.payload.session with status := .active } := by
    revert resumed
    dsimp only
    cases checkpoint.payload.session.status with
    | completed => exact nofun
    | active =>
      intro resumed
      exact (congrArg Prod.fst (Act.pure_eq_ok.mp resumed).1).symm
    | stopped =>
      intro resumed
      exact (congrArg Prod.fst (Act.pure_eq_ok.mp resumed).1).symm
  rw [same]
  exact ⟨⟨typed.context, typed.createdAt, typed.completedIterations, typed.influences⟩,
    ⟨kept.finite, kept.shallow⟩⟩

end Project

namespace Checkpoint

variable {base : Path} {before after : Host} {session : Session} {iteration : Option Iteration}
  {label name : String} {handle : CheckpointHandle}

section Write

variable (plain : Plain session.id) (plainName : Plain name) (value : Json)

include plain plainName

/-- The file of a checkpoint is written in the directory of its session, wherever that is. -/
theorem write_beside :
    Ends (Store.writeJson ((base.join session.id).join name) value) (drawn before)
      (fun _ after => after.disk.locate ((base.join session.id).join name) =
          .ok (before.disk.destination base ++ [session.id, name]) ∧
        ∀ place, place ≠ before.disk.destination base ++ [session.id, name] →
          Beside (base.join session.id) name before.disk after.disk place)
      fun _ after => ∀ place, Beside (base.join session.id) name before.disk after.disk place := by
  have inside : before.disk.destination (base.join session.id) ++ [name] =
      before.disk.destination base ++ [session.id, name] := by
    rw [Disk.destination_join plain, List.append_assoc]
    rfl
  rw [← inside]
  exact Disk.writeAtomic_beside (Path.tidy_join plain base) plainName

theorem beside_of_write (wrote : Store.writeJson ((base.join session.id).join name) value
    (drawn before) = .ok () after) :
    after.disk.locate ((base.join session.id).join name) =
        .ok (before.disk.destination base ++ [session.id, name]) ∧
      ∀ place, place ≠ before.disk.destination base ++ [session.id, name] →
        Beside (base.join session.id) name before.disk after.disk place :=
  (write_beside plain plainName value).of_ok wrote

theorem beside_of_failed {e : Failure} (failed : Store.writeJson
    ((base.join session.id).join name) value (drawn before) = .error e after) :
    ∀ place, Beside (base.join session.id) name before.disk after.disk place :=
  (write_beside plain plainName value).of_error failed

end Write

/-- A save changes one file in the directory of its session, and nothing else but temporary files
beside it and directories that were missing on the way. -/
structure Confined (base : Path) (session : String) (handle : CheckpointHandle)
    (before after : Disk) (name : String) : Prop where
  plain : Plain name
  path : handle.path = (base.join session).join name
  located : after.locate handle.path = .ok (before.destination base ++ [session, name])
  others : ∀ place, place ≠ before.destination base ++ [session, name] →
    Beside (base.join session) name before after place

/-- The checkpoints of a session that was taken up stay in the store if its identifier is one name:
a save writes a file in the directory of the session, which is in the list of all, and changes
nothing else; one that fails does not change that file either. -/
theorem resumed_saves_confined {project : Project} {reference : String} {start between : Host}
    {current : Option Iteration}
    (resumed : project.resumeSession reference start = .ok (session, current) between)
    (plain : Plain session.id) (tidy : Tidy base)
    (noSlash : '/' ∉ (before.fresh before.issued).toList)
    (shown : (before.clock before.readings).Shown)
    (fits : ∀ present ∈ iteration, present.Fits) :
    (∀ handle after, save base session iteration label before = .ok handle after →
      Listed after.disk base handle ∧
        ∃ name, Confined base session.id handle before.disk after.disk name) ∧
    ∀ e after, save base session iteration label before = .error e after →
      ∃ name, Plain name ∧
        ∀ place, Beside (base.join session.id) name before.disk after.disk place := by
  obtain ⟨typed, kept⟩ := Project.typed_of_resumeSession resumed
  have plainName : Plain (next before ⟨session, iteration⟩ label).fileName :=
    plain_fileName (slash_not_mem_settleLabel label) noSlash
  refine ⟨fun handle after saved => ⟨?_, ?_⟩, fun e after failed => ?_⟩
  · have sound : Request.Sound ⟨session, iteration, label⟩ := ⟨plain, typed, fits⟩
    exact listed_of_save tidy sound kept noSlash shown saved
  · have path : handle.path = (base.join session.id).join
        (next before ⟨session, iteration⟩ label).fileName := by
      rw [(save_eq_ok saved).1, path_handle, directory]
    obtain ⟨leads, others⟩ := beside_of_write plain plainName _ (writes_of_save saved).2
    exact ⟨_, plainName, path, path ▸ leads, others⟩
  · obtain ⟨_, failed⟩ := write_of_failed failed
    exact ⟨_, plainName, beside_of_failed plain plainName _ failed⟩

end Checkpoint

/-! ### Identifiers of sessions -/

namespace Sample

open Checkpoint

/-- A checkpoint of a session of a name. -/
def posted (id : String) : Checkpoint := new "posted" ⟨{ nested with id := id }, none⟩ "x" ⟨0, 0⟩

/-- A host with nothing but the file of that checkpoint. -/
def handed (id : String) : Host :=
  { tickingHost with disk := textDisk (posted id).toJson.fileText }

/-- The session as it is taken up. -/
def revived (id : String) : Session := { nested with id := id, status := .active }

/-- A project with its state in a directory below the current one. -/
def bareProject : Project := .ofSettings ⟨""⟩ {}

theorem eq_ok_of_toOption {ε β : Type} {result : Except ε β} {value : β}
    (some : result.toOption = some value) : result = .ok value := by
  cases result with
  | error e => cases some
  | ok found => exact congrArg _ (Option.some.inj some)

/-- The text of the checkpoint is read as the checkpoint. -/
theorem loadFrom_posted {id : String} {disk : Disk} {path : Path}
    (text : disk.readText path = .ok (posted id).toJson.fileText) :
    loadFrom disk path = .ok (posted id) := by
  have payload : CheckpointPayload.Typed ⟨{ nested with id := id }, none⟩ :=
    ⟨typed_renamed id, nofun⟩
  have typed : (posted id).Typed := typed_new payload _ _ shown_epoch
  have kept : (posted id).payload.session.Kept := ⟨nested_kept.finite, nested_kept.shallow⟩
  refine loadFrom_eq_ok.mpr ⟨_, text, ?_, flaw?_new _ _ _ _⟩
  rw [Json.ofText?_fileText (printable_toJson typed.payload.session.context), Option.bind_some,
    ofJson?_toJson typed kept]

/-- A session is taken up whatever its name is. -/
theorem resumed_posted (id : String) :
    bareProject.resumeSession "c.json" (handed id) = .ok (revived id, none) (handed id) := by
  have loaded : loadFrom (handed id).disk ⟨"c.json"⟩ = .ok (posted id) :=
    loadFrom_posted (readText_textDisk _)
  have isFile : (handed id).disk.isFile ⟨"c.json"⟩ = true := rfl
  exact Project.resumeSession_of_found (resolveFrom_path bareProject.checkpointsDir isFile loaded)
    loaded nofun

/-- A save, and what the disk then tells of its handle. -/
def savedTold (session : Session) (tells : Disk → CheckpointHandle → Bool) :
    Act CheckpointError Bool := do
  let handle ← save shelf session none "x"
  Act.look fun disk => .ok (tells disk handle)

theorem saved_of_told {session : Session} {tells : Disk → CheckpointHandle → Bool} {before : Host}
    (told : (savedTold session tells).run' before = some true) : ∃ handle after,
      save shelf session none "x" before = .ok handle after ∧ tells after.disk handle = true := by
  cases answer : savedTold session tells before with
  | ok value after =>
    rw [EStateM.run', EStateM.run, answer] at told
    obtain rfl : value = true := Option.some.inj told
    obtain ⟨handle, between, saved, looked⟩ := Act.bind_eq_ok.mp answer
    obtain ⟨same, rfl⟩ := Act.look_eq_ok.mp looked
    exact ⟨handle, _, saved, Except.ok.inj same⟩
  | error e after =>
    rw [EStateM.run', EStateM.run, answer] at told
    cases told

theorem resumed_saved_inside : ∃ handle after name,
    bareProject.resumeSession "c.json" (handed "s") = .ok (revived "s", none) (handed "s") ∧
      save shelf (revived "s") none "x" (handed "s") = .ok handle after ∧
      after.disk.locate handle.path = .ok ["checkpoints", "s", name] ∧
      Listed after.disk shelf handle := by
  have told : (savedTold (revived "s") fun _ _ => true).run' (handed "s") = some true := by
    decide +kernel
  obtain ⟨handle, after, saved, -⟩ := saved_of_told told
  have noSlash : '/' ∉ ((handed "s").fresh (handed "s").issued).toList := by decide
  obtain ⟨listed, name, confined⟩ := (resumed_saves_confined (resumed_posted "s")
    sound_review.plain tidy_shelf noSlash shown_epoch (sound_other.iteration)).1 handle after saved
  exact ⟨handle, after, name, resumed_posted "s", saved, confined.located, listed⟩

/-- The checkpoints of a session whose name leads out of the store are written there, and they are
in no list. -/
theorem resumed_saved_outside :
    bareProject.resumeSession "c.json" (handed "../outside") =
        .ok (revived "../outside", none) (handed "../outside") ∧
      ∃ handle after, save shelf (revived "../outside") none "x" (handed "../outside") =
          .ok handle after ∧
        after.disk.locate shelf = .ok ["checkpoints"] ∧
        after.disk.locate handle.path =
          .ok ["outside", "19700101T000000000Z_x_00000000.json"] ∧
        listAllFrom after.disk shelf = .ok [] := by
  refine ⟨resumed_posted _, ?_⟩
  have told : (savedTold (revived "../outside") fun disk handle => decide
      ((disk.locate shelf).toOption = some ["checkpoints"] ∧
        (disk.locate handle.path).toOption =
          some ["outside", "19700101T000000000Z_x_00000000.json"] ∧
        (namesIn disk shelf).toOption = some [])).run' (handed "../outside") = some true := by
    decide +kernel
  obtain ⟨handle, after, saved, tells⟩ := saved_of_told told
  obtain ⟨leads, outside, nothing⟩ := of_decide_eq_true tells
  have none : ∀ session ∈ [].filter fun name => after.disk.isDirectory (shelf.join name),
      listFrom after.disk shelf session = .ok [] := List.forall_mem_nil _
  have listed := listAllFrom_of_names (eq_ok_of_toOption nothing) none
  rw [List.filter_nil, List.map_nil, List.flatten_nil, List.mergeSort_nil] at listed
  exact ⟨handle, after, saved, eq_ok_of_toOption leads, eq_ok_of_toOption outside, listed⟩

end Sample

end TaskLoop
