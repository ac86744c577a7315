import TaskLoop.Proofs.Checkpoint.Listing
import TaskLoop.Proofs.Disk.Nested

/-!
What a save writes, and what a store holds that has been written by saves: the files of their
checkpoints, and temporary files of those that failed.
-/

set_option autoImplicit false

namespace TaskLoop

open TaskLoop.Path (Plain Tidy)
open Act (Ends)
open Disk (Deposited Grows Stays Undone)

namespace Checkpoint

variable {base : Path} {root : Place} {before after : Host} {session : Session}
  {iteration : Option Iteration} {label directory name : String} {handle : CheckpointHandle}

/-! ### One save -/

/-- An identifier has been issued and the clock has been read, once each. -/
structure Drawn (before after : Host) : Prop where
  clock : after.clock = before.clock
  fresh : after.fresh = before.fresh
  readings : after.readings = before.readings + 1
  issued : after.issued = before.issued + 1
  processId : after.processId = before.processId
  faults : after.faults <:+ before.faults

/-- A store that a save may start from. -/
structure Ready (base : Path) (root : Place) (session : String) (host : Host) : Prop where
  tidy : Tidy base
  plain : Plain session
  fresh : '/' ∉ (host.fresh host.issued).toList
  located : host.disk.locate base = .ok root
  top : host.disk.node? root = some .directory ∨ host.disk.node? root = none
  noFile : ∀ content, host.disk.node? (root ++ [session]) ≠ some (.file content)

/-- A save that fails could not write its file. -/
theorem write_of_failed {e : CheckpointError}
    (failed : save base session iteration label before = .error e after) : ∃ failure,
    Store.writeJson ((base.join session.id).join (next before ⟨session, iteration⟩ label).fileName)
      (next before ⟨session, iteration⟩ label).toJson (drawn before) = .error failure after := by
  rcases Act.bind_eq_error failed with failed | ⟨_, _, drawn, failed⟩
  · cases failed
  cases drawn
  rcases Act.bind_eq_error failed with failed | ⟨_, _, looked, failed⟩
  · cases failed
  cases looked
  rcases Act.bind_eq_error failed with failed | ⟨_, _, -, failed⟩
  · exact Act.mapError_eq_error failed
  · cases failed

section Save

variable (ready : Ready base root session.id before)

include ready

theorem Ready.plain_fileName (payload : CheckpointPayload) (label : String) :
    Plain (next before payload label).fileName :=
  Checkpoint.plain_fileName (slash_not_mem_settleLabel label) ready.fresh

theorem write_ends (plain : Plain name) (value : Json) :
    Ends (Store.writeJson ((base.join session.id).join name) value) (drawn before)
      (fun _ after => Drawn before after ∧ Deposited root session.id name
        (Text.Utf8.encode value.fileText) before.disk after.disk)
      fun _ after => Drawn before after ∧ Undone root session.id name before after := by
  have blind : Act.Blind fun host =>
      (host.clock, host.fresh, host.readings, host.issued, host.processId) := fun _ _ _ => rfl
  have located : (drawn before).disk.locate base = .ok root := ready.located
  apply ((Disk.writeAtomic_nested ready.tidy ready.plain plain located ready.top
    ready.noFile).and (Disk.writeAtomic_keeps blind _ _ _)).mono
  · rintro _ after ⟨⟨deposited, fewer⟩, same⟩
    simp only [drawn, Prod.mk.injEq] at same
    obtain ⟨clock, fresh, readings, issued, process⟩ := same
    exact ⟨⟨clock, fresh, readings, issued, process, fewer⟩, deposited⟩
  · rintro e after ⟨undone, same⟩
    simp only [drawn, Prod.mk.injEq] at same
    obtain ⟨clock, fresh, readings, issued, process⟩ := same
    exact ⟨⟨clock, fresh, readings, issued, process, undone.faults⟩, undone.faults, undone.grows,
      undone.others, undone.reason⟩

theorem deposited_of_write {value : Json} (plain : Plain name)
    (wrote : Store.writeJson ((base.join session.id).join name) value (drawn before) =
      .ok () after) :
    Drawn before after ∧ Deposited root session.id name (Text.Utf8.encode value.fileText)
      before.disk after.disk := (write_ends ready plain value).of_ok wrote

theorem undone_of_write {value : Json} {e : Failure} (plain : Plain name)
    (failed : Store.writeJson ((base.join session.id).join name) value (drawn before) =
      .error e after) :
    Drawn before after ∧ Undone root session.id name before after :=
  (write_ends ready plain value).of_error failed

/-- A save that comes to its end has written one file in the directory of its session. -/
theorem deposited_of_save (saved : save base session iteration label before = .ok handle after) :
    Drawn before after ∧ Deposited root session.id
      (next before ⟨session, iteration⟩ label).fileName
      (Text.Utf8.encode (next before ⟨session, iteration⟩ label).toJson.fileText)
      before.disk after.disk := by
  exact deposited_of_write ready (ready.plain_fileName ⟨session, iteration⟩ label)
    (writes_of_save saved).2

/-- A save that fails leaves no more than directories and a temporary file. -/
theorem undone_of_save {e : CheckpointError}
    (failed : save base session iteration label before = .error e after) :
    Drawn before after ∧ Undone root session.id
      (next before ⟨session, iteration⟩ label).fileName before after := by
  obtain ⟨_, failed⟩ := write_of_failed failed
  exact undone_of_write ready (ready.plain_fileName ⟨session, iteration⟩ label) failed

end Save

/-! ### What a store holds -/

/-- The place of a checkpoint's file. -/
def placeOf (root : Place) (checkpoint : Checkpoint) : Place :=
  root ++ [checkpoint.session] ++ [checkpoint.fileName]

/-- The path of a checkpoint's file. -/
def pathOf (base : Path) (checkpoint : Checkpoint) : Path :=
  (base.join checkpoint.session).join checkpoint.fileName

/-- The file of a checkpoint holds it. -/
structure Written (root : Place) (disk : Disk) (checkpoint : Checkpoint) : Prop where
  plainSession : Plain checkpoint.session
  plain : Plain checkpoint.fileName
  shortSession : ¬ 255 < checkpoint.session.utf8ByteSize
  short : ¬ 255 < checkpoint.fileName.utf8ByteSize
  top : disk.node? root = some .directory
  inside : disk.node? (root ++ [checkpoint.session]) = some .directory
  holds : disk.node? (placeOf root checkpoint) =
    some (.file (Text.Utf8.encode checkpoint.toJson.fileText))

section Written

variable {disk : Disk} {checkpoint : Checkpoint} (written : Written root disk checkpoint)

include written

theorem Written.locate (tidy : Tidy base) (located : disk.locate base = .ok root) :
    disk.locate (pathOf base checkpoint) = .ok (placeOf root checkpoint) := by
  have leads : disk.locate (base.join checkpoint.session) = .ok (root ++ [checkpoint.session]) := by
    rw [Disk.locate_join tidy written.plainSession located written.top,
      if_neg written.shortSession]
  rw [pathOf, Disk.locate_join (Path.tidy_join written.plainSession base) written.plain leads
    written.inside, if_neg written.short, placeOf]

theorem Written.readText (tidy : Tidy base) (located : disk.locate base = .ok root) :
    disk.readText (pathOf base checkpoint) = .ok checkpoint.toJson.fileText := by
  have held := Disk.read_eq_ok.mpr ⟨_, written.locate tidy located, written.holds⟩
  exact Disk.readText_eq_ok.mpr ⟨_, held, Text.Utf8.decode?_encode _⟩

theorem Written.extension? (base : Path) : (pathOf base checkpoint).extension? = some "json" := by
  rw [pathOf, Path.extension?_join (Path.tidy_join written.plainSession base) written.plain,
    extension?_fileName written.plain]

/-- What is loaded of the file of a checkpoint has the handle of the checkpoint, and a file keeps
all of its session. -/
theorem Written.handle_of_load {loaded : Checkpoint} (tidy : Tidy base)
    (located : disk.locate base = .ok root) (typed : checkpoint.Typed)
    (done : loadFrom disk (pathOf base checkpoint) = .ok loaded) :
    loaded.handle (pathOf base checkpoint) = checkpoint.handle (pathOf base checkpoint) ∧
      checkpoint.payload.session.Kept := by
  obtain ⟨text, read, decoded, -⟩ := loadFrom_eq_ok.mp done
  cases (written.readText tidy located).symm.trans read
  rw [Json.ofText?_fileText (printable_toJson typed.payload.session.context), Option.bind_some,
    ofJson?_written typed.version typed.createdAt] at decoded
  obtain ⟨payload, back, rfl⟩ := Option.map_eq_some_iff.mp decoded
  exact ⟨rfl, CheckpointPayload.kept_of_read back⟩

/-- The file of a checkpoint whose session is kept whole can be loaded. -/
theorem Written.load (tidy : Tidy base) (located : disk.locate base = .ok root)
    (typed : checkpoint.Typed) (kept : checkpoint.payload.session.Kept)
    (intact : checkpoint.flaw? = none) :
    loadFrom disk (pathOf base checkpoint) = .ok checkpoint := by
  apply loadFrom_eq_ok.mpr
  refine ⟨_, written.readText tidy located, ?_, intact⟩
  rw [Json.ofText?_fileText (printable_toJson typed.payload.session.context), Option.bind_some,
    ofJson?_toJson typed kept]

end Written

/-- A store holds nothing but the files of some checkpoints and temporary files. -/
structure Stored (base : Path) (root : Place) (checkpoints : List Checkpoint) (disk : Disk) :
    Prop where
  located : disk.locate base = .ok root
  top : disk.node? root = some .directory ∨ disk.node? root = none
  sessions : ∀ session node, disk.node? (root ++ [session]) = some node →
    node = .directory ∧ Plain session
  files : ∀ session name node, disk.node? (root ++ [session] ++ [name]) = some node →
    node ≠ .directory ∧ Plain name ∧ ((Path.mk name).extension? = some "tmp" ∨
      ∃ checkpoint ∈ checkpoints, checkpoint.session = session ∧ checkpoint.fileName = name)
  written : ∀ checkpoint ∈ checkpoints, Written root disk checkpoint

namespace Stored

variable {checkpoints : List Checkpoint} {checkpoint : Checkpoint} {disk other : Disk}

/-- A name is free when no checkpoint's file and no temporary one has it. -/
theorem vacant (stored : Stored base root checkpoints disk)
    (lasting : (Path.mk name).extension? ≠ some "tmp")
    (fresh : ∀ checkpoint ∈ checkpoints, checkpoint.fileName ≠ name) :
    disk.node? (root ++ [directory] ++ [name]) = none := by
  cases stands : disk.node? (root ++ [directory] ++ [name]) with
  | none => rfl
  | some node =>
    obtain ⟨-, -, temporary | ⟨checkpoint, member, -, named⟩⟩ := stored.files _ _ node stands
    · exact absurd temporary lasting
    · exact absurd named (fresh checkpoint member)

variable (stored : Stored base root checkpoints disk) (grows : Grows disk other)
  (tidy : Tidy base) (plainDirectory : Plain directory) (plain : Plain name)
  (fresh : ∀ checkpoint ∈ checkpoints, checkpoint.fileName ≠ name)
  (others : ∀ place, place ≠ root ++ [directory] ++ [name] →
    Stays root directory name disk other place)

include stored plain fresh others in
/-- The file of a checkpoint stays when another one is written. -/
theorem stays_written (grows : Grows disk other) (member : checkpoint ∈ checkpoints) :
    Written root other checkpoint := by
  have written := stored.written checkpoint member
  refine ⟨written.plainSession, written.plain, written.shortSession, written.short,
    grows.directory _ written.top, grows.directory _ written.inside, ?_⟩
  have apart : placeOf root checkpoint ≠ root ++ [directory] ++ [name] := by
    intro same
    have names := congrArg List.getLast? same
    rw [placeOf, List.getLast?_concat, List.getLast?_concat] at names
    exact fresh checkpoint member (Option.some.inj names)
  cases others _ apart with
  | same same => exact same.trans written.holds
  | made housing free _ =>
    rw [written.holds] at free
    cases free
  | temporary isTemporary _ =>
    obtain ⟨processId, same⟩ := isTemporary
    have names := congrArg List.getLast? same
    rw [placeOf, List.getLast?_concat, List.getLast?_concat, Option.some.injEq] at names
    have extension := extension?_fileName written.plain
    rw [names, Disk.extension?_temporaryName plain] at extension
    exact absurd extension (by decide)

include stored others in
/-- The top of a store is a directory or is missing, as it was. -/
theorem stays_top : other.node? root = some .directory ∨ other.node? root = none := by
  cases others root (by simp) with
  | same same =>
    rw [same]
    exact stored.top
  | made _ _ made => exact .inl made
  | temporary isTemporary _ =>
    obtain ⟨_, same⟩ := isTemporary
    simp at same

include stored plainDirectory others in
/-- What stands at the top of a store are directories of sessions, that of the file among them. -/
theorem stays_sessions {session : String} {node : Node}
    (stands : other.node? (root ++ [session]) = some node) : node = .directory ∧ Plain session := by
  cases others (root ++ [session]) (by simp) with
  | same same => exact stored.sessions session node (same.symm.trans stands)
  | made housing _ made =>
    cases stands.symm.trans made
    rcases housing with same | same
    · simp at same
    · cases List.append_cancel_left same
      exact ⟨rfl, plainDirectory⟩
  | temporary isTemporary _ =>
    obtain ⟨_, same⟩ := isTemporary
    simp at same

include stored plain others in
/-- What stands in a directory of a store beside the file was there or is temporary. -/
theorem stays_files {session file : String} {node : Node}
    (apart : root ++ [session] ++ [file] ≠ root ++ [directory] ++ [name])
    (stands : other.node? (root ++ [session] ++ [file]) = some node) :
    node ≠ .directory ∧ Plain file ∧ ((Path.mk file).extension? = some "tmp" ∨
      ∃ checkpoint ∈ checkpoints, checkpoint.session = session ∧ checkpoint.fileName = file) := by
  cases others _ apart with
  | same same => exact stored.files session file node (same.symm.trans stands)
  | made housing _ _ =>
    rcases housing with same | same
    · simp at same
    · simp at same
  | temporary isTemporary noDirectory =>
    obtain ⟨processId, same⟩ := isTemporary
    have named : file = Disk.temporaryName name processId := by
      rw [List.append_assoc, List.append_assoc] at same
      exact (List.cons.inj (List.cons.inj (List.append_cancel_left same)).2).1
    subst named
    refine ⟨?_, Disk.plain_temporaryName plain _, .inl (Disk.extension?_temporaryName plain _)⟩
    rintro rfl
    exact noDirectory stands

include stored grows tidy plainDirectory plain fresh others in
/-- A store holds what it held and what is in one more file. -/
theorem of_stays {more : List Checkpoint} (kept : ∀ checkpoint ∈ checkpoints, checkpoint ∈ more)
    (new : ∀ checkpoint ∈ more, checkpoint ∈ checkpoints ∨ Written root other checkpoint)
    (file : ∀ node, other.node? (root ++ [directory] ++ [name]) = some node →
      node ≠ .directory ∧
        ∃ checkpoint ∈ more, checkpoint.session = directory ∧ checkpoint.fileName = name) :
    Stored base root more other := by
  refine ⟨grows.locate tidy stored.located, stays_top stored others,
    fun session node => stays_sessions stored plainDirectory others, ?_, ?_⟩
  · intro session name' node stands
    by_cases isFile : root ++ [session] ++ [name'] = root ++ [directory] ++ [name]
    · simp only [List.append_assoc, List.append_cancel_left_eq, List.cons_append, List.nil_append,
        List.cons.injEq, and_true] at isFile
      obtain ⟨rfl, rfl⟩ := isFile
      obtain ⟨noDirectory, found⟩ := file node stands
      exact ⟨noDirectory, plain, .inr found⟩
    · obtain ⟨noDirectory, plain, found⟩ := stays_files stored plain others isFile stands
      refine ⟨noDirectory, plain, found.imp_right ?_⟩
      rintro ⟨checkpoint, member, rest⟩
      exact ⟨checkpoint, kept checkpoint member, rest⟩
  · intro checkpoint member
    rcases new checkpoint member with old | written
    · exact stored.stays_written plain fresh others grows old
    · exact written

/-- A store that holds the files of saves is one to save in. -/
theorem ready (stored : Stored base root checkpoints before.disk) (tidy : Tidy base)
    (plain : Plain session.id) (noSlash : '/' ∉ (before.fresh before.issued).toList) :
    Ready base root session.id before := by
  refine ⟨tidy, plain, noSlash, stored.located, stored.top, fun content stands => ?_⟩
  cases (stored.sessions session.id _ stands).1

end Stored

/-! ### A save in a store -/

/-- Every file of one disk is as it was on the other, temporary files of a checkpoint apart. -/
def LeavesFiles (root : Place) (checkpoint : Checkpoint) (before after : Disk) : Prop :=
  ∀ place content, before.node? place = some (.file content) →
    ¬ Disk.Temporary (root ++ [checkpoint.session]) checkpoint.fileName place →
      after.node? place = some (.file content)

/-- A file is made for a checkpoint where nothing stood, and no other file changes. -/
structure Creates (root : Place) (checkpoint : Checkpoint) (handle : CheckpointHandle)
    (before after : Disk) : Prop where
  session : handle.session = checkpoint.session
  located : after.locate handle.path = .ok (placeOf root checkpoint)
  free : before.node? (placeOf root checkpoint) = none
  holds : after.node? (placeOf root checkpoint) =
    some (.file (Text.Utf8.encode checkpoint.toJson.fileText))
  others : LeavesFiles root checkpoint before after

theorem leaves_of_stays {checkpoint : Checkpoint} {disk other : Disk}
    (free : disk.node? (placeOf root checkpoint) = none)
    (others : ∀ place, place ≠ placeOf root checkpoint →
      Stays root checkpoint.session checkpoint.fileName disk other place) :
    LeavesFiles root checkpoint disk other := by
  intro place content stands lasting
  have apart : place ≠ placeOf root checkpoint := by
    rintro rfl
    rw [free] at stands
    cases stands
  cases others place apart with
  | same same => exact same.trans stands
  | made _ free _ =>
    rw [stands] at free
    cases free
  | temporary isTemporary _ => exact absurd isTemporary lasting

/-- A file that is not made is not there. -/
theorem free_of_stays {checkpoint : Checkpoint} {disk other : Disk}
    (free : disk.node? (placeOf root checkpoint) = none)
    (stays : Stays root checkpoint.session checkpoint.fileName disk other
      (placeOf root checkpoint)) : other.node? (placeOf root checkpoint) = none := by
  cases stays with
  | same same => exact same.trans free
  | made housing _ _ =>
    rcases housing with same | same
    · simp [placeOf] at same
    · simp [placeOf] at same
  | temporary isTemporary _ =>
    obtain ⟨processId, same⟩ := isTemporary
    have named := List.append_cancel_left same
    exact absurd (List.cons.inj named).1.symm (Disk.temporaryName_ne _ _)

section Save

variable {checkpoints : List Checkpoint} {checkpoint : Checkpoint} (tidy : Tidy base)
  (stored : Stored base root checkpoints before.disk) (plain : Plain session.id)
  (noSlash : '/' ∉ (before.fresh before.issued).toList)
  (isNext : next before ⟨session, iteration⟩ label = checkpoint)
  (fresh : ∀ other ∈ checkpoints, other.fileName ≠ checkpoint.fileName)

include tidy stored plain noSlash isNext fresh

/-- A save that comes to its end puts a file more into the store. -/
theorem Stored.grown_of_save (saved : save base session iteration label before = .ok handle after) :
    Drawn before after ∧ handle = checkpoint.handle (pathOf base checkpoint) ∧
      Creates root checkpoint handle before.disk after.disk ∧
      Stored base root (checkpoints ++ [checkpoint]) after.disk := by
  have ready := stored.ready tidy plain noSlash
  have isFile := ready.plain_fileName ⟨session, iteration⟩ label
  obtain ⟨drawn, deposited⟩ := deposited_of_save ready saved
  obtain ⟨handled, -⟩ := save_eq_ok saved
  have own : checkpoint.session = session.id := by
    rw [← isNext]
    rfl
  rw [isNext] at isFile deposited handled
  rw [← own] at plain deposited handled
  have free : before.disk.node? (placeOf root checkpoint) = none :=
    stored.vacant (lasting_fileName isFile) fresh
  have written : Written root after.disk checkpoint :=
    ⟨plain, isFile, deposited.shortDirectory, deposited.short, deposited.top, deposited.inside,
      deposited.holds⟩
  have located := deposited.grows.locate tidy stored.located
  have ofSession : handle.session = checkpoint.session := congrArg CheckpointHandle.session handled
  have path : handle.path = pathOf base checkpoint := by
    rw [handled, path_handle, Checkpoint.directory, pathOf]
  have found : after.disk.locate handle.path = .ok (placeOf root checkpoint) := by
    rw [path]
    exact written.locate tidy located
  refine ⟨drawn, handled, ⟨ofSession, found, free, deposited.holds,
    leaves_of_stays free deposited.others⟩, ?_⟩
  apply stored.of_stays deposited.grows tidy plain isFile fresh deposited.others
  · intro other member
    exact List.mem_append_left _ member
  · intro other member
    rcases List.mem_append.mp member with old | new
    · exact .inl old
    · rw [List.mem_singleton.mp new]
      exact .inr written
  · intro node stands
    have same := Option.some.inj (stands.symm.trans deposited.holds)
    have isNew : checkpoint ∈ checkpoints ++ [checkpoint] :=
      List.mem_append_right _ (List.mem_singleton_self _)
    refine ⟨?_, checkpoint, isNew, rfl, rfl⟩
    rw [same]
    intro h
    cases h

/-- A save that fails leaves the store as it is, and failed for a fault or a long name. -/
theorem Stored.kept_of_save {e : CheckpointError}
    (failed : save base session iteration label before = .error e after) :
    Drawn before after ∧ LeavesFiles root checkpoint before.disk after.disk ∧
      (before.Faulty ∨ 255 < session.id.utf8ByteSize ∨
        255 < (Disk.temporaryName checkpoint.fileName before.processId).utf8ByteSize) ∧
      Stored base root checkpoints after.disk := by
  have ready := stored.ready tidy plain noSlash
  have isFile := ready.plain_fileName ⟨session, iteration⟩ label
  obtain ⟨drawn, undone⟩ := undone_of_save ready failed
  have own : checkpoint.session = session.id := by
    rw [← isNext]
    rfl
  rw [isNext] at isFile undone
  rw [← own] at plain undone ⊢
  have free : before.disk.node? (placeOf root checkpoint) = none :=
    stored.vacant (lasting_fileName isFile) fresh
  refine ⟨drawn, leaves_of_stays free fun place _ => undone.others place, ?_, ?_⟩
  · rcases undone.reason with fault | long | long | occupied | occupied
    · exact .inl fault
    · exact .inr (.inl long)
    · exact .inr (.inr long)
    · exact absurd rfl (stored.files _ _ _ occupied).1
    · cases free.symm.trans occupied
  · apply stored.of_stays undone.grows tidy plain isFile fresh fun place _ => undone.others place
    · exact fun _ member => member
    · exact fun _ => .inl
    · intro node stands
      cases (free_of_stays free (undone.others _)).symm.trans stands

end Save

end Checkpoint

end TaskLoop
