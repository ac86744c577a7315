import TaskLoop.Proofs.Checkpoint.Written

/-!
Saves made one after the other in an empty directory. Each that comes to its end makes a file and
changes none that is there, and the lists give the handles of all that can be loaded again, in the
order of the saves, whatever other files lie between theirs.
-/

set_option autoImplicit false

namespace TaskLoop

open TaskLoop.Path (Plain Tidy)
open Disk (Grows)

namespace Checkpoint

variable {base : Path} {root : Place} {start before after : Host}

/-! ### Requests -/

/-- What is asked of a save. -/
structure Request where
  session : Session
  iteration : Option Iteration
  label : String

/-- A request of a session whose identifier is one component of a path. -/
structure Request.Sound (request : Request) : Prop where
  plain : Plain request.session.id
  session : request.session.Typed
  iteration : ∀ iteration ∈ request.iteration, iteration.Fits

/-- What is saved for a request. -/
def Request.payload (request : Request) : CheckpointPayload := ⟨request.session, request.iteration⟩

/-- The checkpoint that a host makes for a request. -/
def Request.checkpoint (request : Request) (host : Host) : Checkpoint :=
  next host request.payload request.label

/-- The save that is asked for. -/
def Request.save (request : Request) (base : Path) : Act CheckpointError CheckpointHandle :=
  Checkpoint.save base request.session request.iteration request.label

/-- A request and what was answered. -/
structure Saved where
  request : Request
  handle : CheckpointHandle

/-- The checkpoint that was made. -/
def Saved.checkpoint (saved : Saved) : Checkpoint :=
  new saved.handle.id saved.request.payload saved.request.label saved.handle.createdAt

/-- The saves that came to their end, and the host after all of them. -/
structure Saves where
  saved : List Saved
  host : Host

namespace Saves

/-- What has been saved once one more request is answered. -/
def record (saved : List Saved) (request : Request) :
    EStateM.Result CheckpointError Host CheckpointHandle → Saves
  | .ok handle after => ⟨saved ++ [⟨request, handle⟩], after⟩
  | .error _ after => ⟨saved, after⟩

/-- One more request is made. -/
def add (base : Path) (done : Saves) (request : Request) : Saves :=
  record done.saved request (request.save base done.host)

/-- The requests are made one after the other. -/
def all (base : Path) (requests : List Request) (start : Host) : Saves :=
  requests.foldl (add base) ⟨[], start⟩

theorem all_concat (base : Path) (requests : List Request) (request : Request) (start : Host) :
    all base (requests ++ [request]) start = (all base requests start).add base request :=
  List.foldl_concat _ _ _ _

/-- The checkpoints of the sessions of which a file keeps all. -/
def kept (done : Saves) : List Saved :=
  done.saved.filter fun one => decide one.request.session.Kept

end Saves

/-- The times at hand for some saves grow, and the identifiers begin in different ways. -/
structure Supplies (host : Host) (count : Nat) : Prop where
  shown : ∀ i < count, (host.clock (host.readings + i)).Shown
  later : ∀ i j, i < j → j < count →
    (host.clock (host.readings + i)).Before (host.clock (host.readings + j))
  plain : ∀ i < count, '/' ∉ (host.fresh (host.issued + i)).toList
  long : ∀ i < count, 8 ≤ (host.fresh (host.issued + i)).toList.length
  apart : ∀ i j, i < j → j < count →
    (host.fresh (host.issued + i)).toList.take 8 ≠ (host.fresh (host.issued + j)).toList.take 8

/-- Nothing stands in the directory, which need not be there itself. -/
structure Vacant (base : Path) (root : Place) (disk : Disk) : Prop where
  located : disk.locate base = .ok root
  top : disk.node? root = some .directory ∨ disk.node? root = none
  nothing : ∀ name rest, disk.node? (root ++ name :: rest) = none

/-! ### The state after some saves -/

/-- What holds after some requests have been made. -/
structure Holds (base : Path) (root : Place) (start : Host) (made : Nat) (done : Saves) :
    Prop where
  clock : done.host.clock = start.clock
  fresh : done.host.fresh = start.fresh
  readings : done.host.readings = start.readings + made
  issued : done.host.issued = start.issued + made
  processId : done.host.processId = start.processId
  faults : done.host.faults <:+ start.faults
  stored : Stored base root (done.saved.map Saved.checkpoint) done.host.disk
  sound : ∀ one ∈ done.saved, one.request.Sound
  own : ∀ one ∈ done.saved, one.handle = one.checkpoint.handle (pathOf base one.checkpoint)
  supplied : ∀ one ∈ done.saved, ∃ i < made, one.handle.id = start.fresh (start.issued + i) ∧
    one.handle.createdAt = start.clock (start.readings + i)
  ascending : Ascending (done.saved.map Saved.handle)

theorem holds_of_vacant (vacant : Vacant base root start.disk) :
    Holds base root start 0 ⟨[], start⟩ := by
  have nothing {place : Place} {node : Node} {name : String} {rest : List String}
      (stands : start.disk.node? place = some node) (below : place = root ++ name :: rest) :
      False := by
    rw [below, vacant.nothing] at stands
    cases stands
  have stored : Stored base root [] start.disk := by
    refine ⟨vacant.located, vacant.top, ?_, ?_, List.forall_mem_nil _⟩
    · intro session node stands
      exact (nothing stands rfl).elim
    · intro session name node stands
      exact (nothing stands (List.append_assoc _ _ _)).elim
  exact ⟨rfl, rfl, rfl, rfl, rfl, List.suffix_refl _, stored, List.forall_mem_nil _,
    List.forall_mem_nil _, List.forall_mem_nil _, List.Pairwise.nil⟩

namespace Holds

variable {done : Saves} {made count : Nat} {request : Request} {handle : CheckpointHandle}

section Step

variable (tidy : Tidy base) (supplies : Supplies start count) (within : made < count)
  (sound : request.Sound) (holds : Holds base root start made done)

include holds

/-- A handle carries the label of its request in the form in which it is stored. -/
theorem label {one : Saved} (member : one ∈ done.saved) :
    one.handle.label = settleLabel one.request.label :=
  congrArg CheckpointHandle.label (holds.own one member)

theorem checkpoint_eq (request : Request) : request.checkpoint done.host =
    new (start.fresh (start.issued + made)) request.payload request.label
      (start.clock (start.readings + made)) := by
  rw [Request.checkpoint, next, holds.clock, holds.fresh, holds.readings, holds.issued]

theorem drawn (drawn : Drawn done.host after) : after.clock = start.clock ∧
    after.fresh = start.fresh ∧ after.readings = start.readings + (made + 1) ∧
      after.issued = start.issued + (made + 1) ∧ after.processId = start.processId ∧
      after.faults <:+ start.faults :=
  ⟨drawn.clock.trans holds.clock, drawn.fresh.trans holds.fresh,
    by rw [drawn.readings, holds.readings, Nat.add_assoc],
    by rw [drawn.issued, holds.issued, Nat.add_assoc],
    drawn.processId.trans holds.processId, drawn.faults.trans holds.faults⟩

theorem supplied_succ : ∀ one ∈ done.saved, ∃ i < made + 1,
    one.handle.id = start.fresh (start.issued + i) ∧
      one.handle.createdAt = start.clock (start.readings + i) := by
  intro one member
  obtain ⟨i, before, supplied⟩ := holds.supplied one member
  exact ⟨i, before.trans (Nat.lt_succ_self made), supplied⟩

include supplies within

theorem noSlash : '/' ∉ (done.host.fresh done.host.issued).toList := by
  rw [holds.fresh, holds.issued]
  exact supplies.plain made within

/-- The next file has a name that no file before it has. -/
theorem fileName_ne (request : Request) : ∀ other ∈ done.saved.map Saved.checkpoint,
    other.fileName ≠ (request.checkpoint done.host).fileName := by
  intro other isOther same
  obtain ⟨one, member, rfl⟩ := List.mem_map.mp isOther
  obtain ⟨i, before, id, -⟩ := holds.supplied one member
  have mine : one.checkpoint.id = start.fresh (start.issued + i) := id
  rw [holds.checkpoint_eq] at same
  have alike := take_id_of_fileName same
    (by simpa only [mine] using supplies.long i (before.trans within)) (supplies.long made within)
  rw [mine] at alike
  exact supplies.apart i made before within alike

include tidy sound

/-- A save that comes to its end makes a file more. -/
theorem saved (saves : request.save base done.host = .ok handle after) :
    Creates root (request.checkpoint done.host) handle done.host.disk after.disk ∧
      Holds base root start (made + 1) ⟨done.saved ++ [⟨request, handle⟩], after⟩ := by
  have isNext : next done.host ⟨request.session, request.iteration⟩ request.label =
      request.checkpoint done.host := rfl
  obtain ⟨drawn, handled, creates, stored⟩ := holds.stored.grown_of_save tidy sound.plain
    (holds.noSlash supplies within) isNext (holds.fileName_ne supplies within request) saves
  have new_eq := holds.checkpoint_eq request
  have id : handle.id = start.fresh (start.issued + made) := by
    rw [handled, new_eq]
    rfl
  have time : handle.createdAt = start.clock (start.readings + made) := by
    rw [handled, new_eq]
    rfl
  have checkpoint : Saved.checkpoint ⟨request, handle⟩ = request.checkpoint done.host := by
    rw [Saved.checkpoint, id, time, new_eq]
  obtain ⟨clock, fresh, readings, issued, processId, faults⟩ := holds.drawn drawn
  refine ⟨creates, clock, fresh, readings, issued, processId, faults, ?_, ?_, ?_, ?_, ?_⟩
  · rw [List.map_append, List.map_singleton, checkpoint]
    exact stored
  · exact List.forall_mem_append.mpr ⟨holds.sound, List.forall_mem_singleton.mpr sound⟩
  · intro one member
    rcases List.mem_append.mp member with old | new
    · exact holds.own one old
    · rw [List.mem_singleton.mp new, checkpoint]
      exact handled
  · intro one member
    rcases List.mem_append.mp member with old | new
    · exact holds.supplied_succ one old
    · rw [List.mem_singleton.mp new]
      exact ⟨made, Nat.lt_succ_self made, id, time⟩
  · rw [List.map_append, List.map_singleton]
    refine List.pairwise_append.mpr ⟨holds.ascending, List.pairwise_singleton _ _, ?_⟩
    intro earlier isEarlier later isLater
    obtain ⟨one, member, rfl⟩ := List.mem_map.mp isEarlier
    obtain ⟨i, before, -, earlierTime⟩ := holds.supplied one member
    rw [List.mem_singleton.mp isLater, earlierTime, time]
    exact supplies.later i made before within

/-- A save that fails leaves all files, and there was a fault or a name was too long. -/
theorem failed {e : CheckpointError} (fails : request.save base done.host = .error e after) :
    LeavesFiles root (request.checkpoint done.host) done.host.disk after.disk ∧
      (start.Faulty ∨ 255 < request.session.id.utf8ByteSize ∨
        255 < (Disk.temporaryName (request.checkpoint done.host).fileName
          start.processId).utf8ByteSize) ∧
      Holds base root start (made + 1) ⟨done.saved, after⟩ := by
  have isNext : next done.host ⟨request.session, request.iteration⟩ request.label =
      request.checkpoint done.host := rfl
  obtain ⟨drawn, leaves, reason, stored⟩ := holds.stored.kept_of_save tidy sound.plain
    (holds.noSlash supplies within) isNext (holds.fileName_ne supplies within request) fails
  obtain ⟨clock, fresh, readings, issued, processId, faults⟩ := holds.drawn drawn
  refine ⟨leaves, ?_, clock, fresh, readings, issued, processId, faults, stored, holds.sound,
    holds.own, holds.supplied_succ, holds.ascending⟩
  rw [holds.processId] at reason
  rcases reason with ⟨count, fault⟩ | long
  · exact .inl ⟨count, holds.faults.subset fault⟩
  · exact .inr long

theorem add : Holds base root start (made + 1) (done.add base request) := by
  rw [Saves.add]
  cases answer : request.save base done.host with
  | ok handle after => exact (holds.saved tidy supplies within sound answer).2
  | error e after => exact (holds.failed tidy supplies within sound answer).2.2

end Step

end Holds

/-- What holds after some requests have been made holds after more of them. -/
theorem holds_foldl {requests : List Request} {done : Saves} {made count : Nat} (tidy : Tidy base)
    (supplies : Supplies start count) (within : made + requests.length ≤ count)
    (sound : ∀ request ∈ requests, request.Sound) (holds : Holds base root start made done) :
    Holds base root start (made + requests.length) (requests.foldl (Saves.add base) done) := by
  induction requests generalizing made done with
  | nil => exact holds
  | cons request requests ih =>
    obtain ⟨first, others⟩ := List.forall_mem_cons.mp sound
    rw [List.length_cons] at within
    have step := holds.add tidy supplies (by omega) first
    have counted : made + (request :: requests).length = made + 1 + requests.length := by
      rw [List.length_cons]
      omega
    rw [counted, List.foldl_cons]
    exact ih (by omega) others step

/-! ### Other files -/

/-- Something that is no file of an intact checkpoint. -/
def Foreign (name : String) (node : Node) : Prop :=
  (Path.mk name).extension? = some "json" → ∀ content, node = .file content → ¬ Intact content

/-- A disk on which all stands that stood on another one. What else stands in the directory and in
those in it is no file of an intact checkpoint. -/
structure Littered (root : Place) (before after : Disk) : Prop where
  workingDir : after.workingDir = before.workingDir
  kept : ∀ place node, before.node? place = some node → after.node? place = some node
  top : ∀ content, after.node? root ≠ some (.file content)
  plain : ∀ name node, before.node? (root ++ [name]) = none →
    after.node? (root ++ [name]) = some node → Plain name
  foreign : ∀ directory name node, before.node? (root ++ [directory] ++ [name]) = none →
    after.node? (root ++ [directory] ++ [name]) = some node → Plain name ∧ Foreign name node

theorem littered_refl {disk : Disk} (top : ∀ content, disk.node? root ≠ some (.file content)) :
    Littered root disk disk := by
  refine ⟨rfl, fun _ _ stands => stands, top, ?_, ?_⟩
  · intro name node free stands
    cases free.symm.trans stands
  · intro directory name node free stands
    cases free.symm.trans stands

/-- A file that is put where nothing stood, in the directory of a session, is litter. -/
theorem littered_put {disk : Disk} {directory name : String} {node : Node} (plain : Plain name)
    (free : disk.node? (root ++ [directory] ++ [name]) = none)
    (top : ∀ content, disk.node? root ≠ some (.file content)) (foreign : Foreign name node) :
    Littered root disk (disk.put (root ++ [directory] ++ [name]) node) := by
  have others (place : Place) (apart : place ≠ root ++ [directory] ++ [name]) :
      (disk.put (root ++ [directory] ++ [name]) node).node? place = disk.node? place :=
    Disk.node?_put_of_ne disk node apart
  refine ⟨rfl, ?_, ?_, ?_, ?_⟩
  · intro place other stands
    rw [others, stands]
    rintro rfl
    cases free.symm.trans stands
  · intro content
    rw [others root (by simp)]
    exact top content
  · intro other node free stands
    rw [others _ (by simp)] at stands
    cases free.symm.trans stands
  · intro other name' node' free' stands
    by_cases same : root ++ [other] ++ [name'] = root ++ [directory] ++ [name]
    · rw [same, Disk.node?_put_self disk node (by simp)] at stands
      cases stands
      obtain ⟨-, rfl⟩ : other = directory ∧ name' = name := by simpa using same
      exact ⟨plain, foreign⟩
    · rw [others _ same] at stands
      cases free'.symm.trans stands

namespace Holds

variable {done : Saves} {made count : Nat} {disk : Disk} {one : Saved} {handle : CheckpointHandle}
  (tidy : Tidy base) (supplies : Supplies start count) (within : made ≤ count)
  (holds : Holds base root start made done) (littered : Littered root done.host.disk disk)

include holds supplies within in
/-- The checkpoints that were made have numbers of their widths and times that a clock shows. -/
theorem typed (member : one ∈ done.saved) : one.checkpoint.Typed := by
  have sound := holds.sound one member
  obtain ⟨i, before, -, time⟩ := holds.supplied one member
  apply typed_new ⟨sound.session, sound.iteration⟩
  rw [time]
  exact supplies.shown i (before.trans_le within)

include tidy holds littered

theorem located : disk.locate base = .ok root := by
  have grows : Grows done.host.disk disk :=
    ⟨littered.workingDir, fun place => littered.kept place .directory⟩
  exact grows.locate tidy holds.stored.located

omit tidy in
/-- Each file that was made holds its checkpoint still. -/
theorem written (member : one ∈ done.saved) : Written root disk one.checkpoint := by
  have written := holds.stored.written _ (List.mem_map_of_mem member)
  exact ⟨written.plainSession, written.plain, written.shortSession, written.short,
    littered.kept _ _ written.top, littered.kept _ _ written.inside,
    littered.kept _ _ written.holds⟩

/-- Each file that was made reads as its checkpoint. -/
theorem readText (member : one ∈ done.saved) :
    disk.readText one.handle.path = .ok one.checkpoint.toJson.fileText := by
  rw [holds.own one member, path_handle]
  exact (holds.written littered member).readText tidy (holds.located tidy littered)

include supplies within

/-- A file that was made is listed when a file keeps all of its session. -/
theorem handleIn?_iff (member : one ∈ done.saved) :
    handleIn? disk (pathOf base one.checkpoint) = some handle ↔
      one.request.session.Kept ∧ one.handle = handle := by
  have written := holds.written littered member
  have located := holds.located tidy littered
  have typed := holds.typed supplies within member
  rw [handleIn?_eq_some, written.extension?, holds.own one member]
  constructor
  · rintro ⟨-, loaded, done, rfl⟩
    obtain ⟨same, kept⟩ := written.handle_of_load tidy located typed done
    exact ⟨kept, same.symm⟩
  · rintro ⟨kept, rfl⟩
    have loads := written.load tidy located typed kept (flaw?_new _ _ _ _)
    exact ⟨rfl, one.checkpoint, loads, rfl⟩

/-- What is listed is what was saved and is kept whole. -/
theorem shelved : Shelved base root (done.kept.map Saved.handle) disk := by
  refine ⟨holds.located tidy littered, ?_, ?_, ?_, ?_, ?_, ?_⟩
  · cases stands : disk.node? root with
    | none => exact .inr rfl
    | some node =>
      cases node with
      | file content => exact absurd stands (littered.top content)
      | directory => exact .inl rfl
  · intro session node stands
    cases stood : done.host.disk.node? (root ++ [session]) with
    | none => exact littered.plain session node stood stands
    | some node => exact (holds.stored.sessions session node stood).2
  · intro session name node stands
    cases stood : done.host.disk.node? (root ++ [session] ++ [name]) with
    | none => exact (littered.foreign session name node stood stands).1
    | some node => exact (holds.stored.files session name node stood).2.1
  · intro handle isHandle
    obtain ⟨one, member, rfl⟩ := List.mem_map.mp isHandle
    obtain ⟨member, kept⟩ := List.mem_filter.mp member
    have written := holds.written littered member
    have own := congrArg CheckpointHandle.session (holds.own one member)
    refine ⟨one.checkpoint.fileName, ?_, written.plain, ?_⟩
    · rw [own]
      exact written.plainSession
    · rw [own]
      exact (holds.handleIn?_iff tidy supplies within littered member).mpr
        ⟨of_decide_eq_true kept, rfl⟩
  · intro session name handle plainSession plain found
    obtain ⟨-, -, -, content, stands, intact⟩ :=
      stands_of_handleIn? tidy plainSession plain (holds.located tidy littered) found
    have json := (handleIn?_eq_some.mp found).1
    rw [Path.extension?_join (Path.tidy_join plainSession base) plain] at json
    cases stood : done.host.disk.node? (root ++ [session] ++ [name]) with
    | none =>
      have foreign := (littered.foreign session name _ stood stands).2
      exact absurd intact (foreign json content rfl)
    | some node =>
      obtain ⟨-, -, temporary | ⟨checkpoint, isMade, rfl, rfl⟩⟩ :=
        holds.stored.files session name node stood
      · rw [json] at temporary
        exact absurd temporary (by decide)
      · obtain ⟨one, member, rfl⟩ := List.mem_map.mp isMade
        obtain ⟨kept, rfl⟩ :=
          (holds.handleIn?_iff tidy supplies within littered member).mp found
        refine ⟨List.mem_map_of_mem (List.mem_filter.mpr ⟨member, decide_eq_true kept⟩), ?_⟩
        exact congrArg CheckpointHandle.session (holds.own one member)
  · exact holds.ascending.sublist (List.filter_sublist.map _)

omit littered in
/-- The list of all is of the checkpoints that are kept whole. -/
theorem listAllFrom : Checkpoint.listAllFrom done.host.disk base =
    .ok (done.kept.map Saved.handle) := by
  have noFile : ∀ content, done.host.disk.node? root ≠ some (.file content) := by
    intro content stands
    rcases holds.stored.top with top | top
    · cases top.symm.trans stands
    · cases top.symm.trans stands
  exact (holds.shelved tidy supplies within (littered_refl noFile)).listAllFrom tidy

/-- The list of a session is of those of its checkpoints that are kept whole. -/
theorem listFrom {session : String} (plain : Plain session)
    (noFile : ∀ content, disk.node? (root ++ [session]) ≠ some (.file content)) :
    Checkpoint.listFrom disk base session = .ok ((done.kept.filter fun one =>
      one.request.session.id == session).map Saved.handle) := by
  have own : ∀ one ∈ done.kept, one.handle.session = one.request.session.id := fun one member =>
    congrArg CheckpointHandle.session (holds.own one (List.mem_of_mem_filter member))
  have shelved := holds.shelved tidy supplies within littered
  rw [shelved.listFrom tidy plain noFile, List.filter_map]
  apply congrArg (fun list => Except.ok (List.map Saved.handle list))
  apply List.filter_congr
  intro one member
  rw [Function.comp_apply, own one member]

end Holds

/-! ### All saves -/

theorem holds_all {requests : List Request} {count : Nat} (tidy : Tidy base)
    (vacant : Vacant base root start.disk) (supplies : Supplies start count)
    (within : requests.length ≤ count) (sound : ∀ request ∈ requests, request.Sound) :
    Holds base root start requests.length (Saves.all base requests start) := by
  have run := holds_foldl tidy supplies (by omega) sound (holds_of_vacant vacant)
  rwa [Nat.zero_add] at run

/-- How a save is answered: it comes to its end unless there is a fault or a name is too long, it
makes a file where nothing stood if it does, and no file changes but a temporary one. -/
structure Answered (base : Path) (root : Place) (start : Host) (request : Request)
    (before : Host) : Prop where
  answers : ¬ start.Faulty → ¬ 255 < request.session.id.utf8ByteSize →
    ¬ 255 < (Disk.temporaryName (request.checkpoint before).fileName
      start.processId).utf8ByteSize → ∃ handle after, request.save base before = .ok handle after
  creates : ∀ handle after, request.save base before = .ok handle after →
    Creates root (request.checkpoint before) handle before.disk after.disk
  leaves : ∀ e after, request.save base before = .error e after →
    LeavesFiles root (request.checkpoint before) before.disk after.disk

theorem Holds.answered {done : Saves} {made count : Nat} {request : Request} (tidy : Tidy base)
    (supplies : Supplies start count) (within : made < count) (sound : request.Sound)
    (holds : Holds base root start made done) : Answered base root start request done.host := by
  refine ⟨?_, ?_, ?_⟩
  · intro sure shortDirectory short
    cases answer : request.save base done.host with
    | ok handle after => exact ⟨handle, after, rfl⟩
    | error e after =>
      obtain ⟨-, fault | long | long, -⟩ := holds.failed tidy supplies within sound answer
      · exact absurd fault sure
      · exact absurd long shortDirectory
      · exact absurd long short
  · intro handle after answer
    exact (holds.saved tidy supplies within sound answer).1
  · intro e after answer
    exact (holds.failed tidy supplies within sound answer).1

/-- Each of some saves in an empty directory makes a file where nothing stood, unless there is a
fault or a name is too long, and changes no file that is there but a temporary one. Whatever else
comes to lie beside the files, each holds its checkpoint, and the lists give the handles of all of
which a file keeps the whole session, in the order of the saves. -/
theorem saves_listed {requests : List Request} (tidy : Tidy base)
    (vacant : Vacant base root start.disk) (supplies : Supplies start requests.length)
    (sound : ∀ request ∈ requests, request.Sound) :
    (∀ first request rest, requests = first ++ request :: rest →
      Answered base root start request (Saves.all base first start).host) ∧
    ∀ disk, Littered root (Saves.all base requests start).host.disk disk →
      (∀ one ∈ (Saves.all base requests start).saved,
        disk.readText one.handle.path = .ok one.checkpoint.toJson.fileText) ∧
      (∀ session, Plain session →
        (∀ content, disk.node? (root ++ [session]) ≠ some (.file content)) →
          listFrom disk base session = .ok (((Saves.all base requests start).kept.filter fun one =>
            one.request.session.id == session).map Saved.handle)) ∧
      listAllFrom disk base = .ok ((Saves.all base requests start).kept.map Saved.handle) := by
  constructor
  · intro first request rest split
    have within : first.length < requests.length := by
      rw [split, List.length_append, List.length_cons]
      omega
    have parts : (∀ one ∈ first, one.Sound) ∧ ∀ one ∈ request :: rest, one.Sound := by
      rw [split] at sound
      exact List.forall_mem_append.mp sound
    have holds := holds_all tidy vacant supplies within.le parts.1
    exact holds.answered tidy supplies within (List.forall_mem_cons.mp parts.2).1
  · intro disk littered
    have holds := holds_all tidy vacant supplies le_rfl sound
    refine ⟨?_, ?_, (holds.shelved tidy supplies le_rfl littered).listAllFrom tidy⟩
    · intro one member
      exact holds.readText tidy littered member
    · intro session plain noFile
      exact holds.listFrom tidy supplies le_rfl littered plain noFile

end Checkpoint

/-! ### Saves of two sessions -/

namespace Sample

open Checkpoint

/-- A number as an identifier of eight digits. -/
def numbered (n : Nat) : String := String.ofList (Timestamp.padded 8 n)

/-- A host without files whose clock shows a second more at each reading. -/
def tickingHost : Host := .new ⟨.empty, []⟩ (fun n => ⟨n, 0⟩) numbered

theorem vacant_tickingHost : Vacant ⟨"checkpoints"⟩ ["checkpoints"] tickingHost.disk :=
  ⟨rfl, .inr rfl, fun _ _ => rfl⟩

theorem supplies_tickingHost : Supplies tickingHost 2 where
  shown i within := by
    obtain rfl | rfl : i = 0 ∨ i = 1 := by omega
    · exact ⟨by decide, by decide⟩
    · exact ⟨by decide, by decide⟩
  later i j before _ := by
    show ¬ Timestamp.le ⟨_, 0⟩ ⟨_, 0⟩ = true
    rw [Timestamp.le_iff]
    simp only [tickingHost, Host.new]
    omega
  plain i within := by
    obtain rfl | rfl : i = 0 ∨ i = 1 := by omega
    · decide
    · decide
  long i within := by
    obtain rfl | rfl : i = 0 ∨ i = 1 := by omega
    · decide
    · decide
  apart i j before within := by
    obtain ⟨rfl, rfl⟩ : i = 0 ∧ j = 1 := by omega
    decide

theorem not_faulty_tickingHost : ¬ tickingHost.Faulty := by
  rintro ⟨_, fault⟩
  cases fault

/-- The base of the saves. -/
def shelf : Path := ⟨"checkpoints"⟩

theorem tidy_shelf : Path.Tidy shelf := Path.tidy_of_last rfl (by decide) (by decide)

def review : Request := ⟨nested, some begun, "before review"⟩

def other : Request := ⟨{ nested with id := "t" }, none, ""⟩

theorem sound_review : review.Sound :=
  ⟨⟨by decide, by decide, by decide, by decide⟩, nested_typed, begun_fits⟩

theorem typed_renamed (id : String) : Session.Typed { nested with id := id } :=
  ⟨nested_typed.context, nested_typed.createdAt, nested_typed.completedIterations,
    nested_typed.influences⟩

theorem sound_other : other.Sound :=
  ⟨⟨by decide, by decide, by decide, by decide⟩, typed_renamed _, nofun⟩

/-- The file of the first or second checkpoint that is made has a name that is short enough. -/
def Short (number : Nat) (request : Request) : Prop :=
  ¬ 255 < request.session.id.utf8ByteSize ∧
    ¬ 255 < (Disk.temporaryName (new (numbered number) request.payload request.label
      ⟨number, 0⟩).fileName tickingHost.processId).utf8ByteSize

/-- A first save with short names comes to its end. -/
theorem saved_first {request : Request} (sound : request.Sound) (short : Short 0 request) :
    ∃ handle after, request.save shelf tickingHost = .ok handle after ∧
      Holds shelf ["checkpoints"] tickingHost 1 ⟨[⟨request, handle⟩], after⟩ := by
  have start := holds_of_vacant vacant_tickingHost
  obtain ⟨handle, after, saved⟩ := (start.answered tidy_shelf supplies_tickingHost (by decide)
    sound).answers not_faulty_tickingHost short.1 short.2
  exact ⟨handle, after, saved,
    (start.saved tidy_shelf supplies_tickingHost (by decide) sound saved).2⟩

/-- So does a second one. -/
theorem saved_second {one two : Request} {first : CheckpointHandle} {between : Host}
    (holds : Holds shelf ["checkpoints"] tickingHost 1 ⟨[⟨one, first⟩], between⟩)
    (sound : two.Sound) (short : Short 1 two) :
    ∃ second after, two.save shelf between = .ok second after ∧
      Holds shelf ["checkpoints"] tickingHost 2 ⟨[⟨one, first⟩, ⟨two, second⟩], after⟩ := by
  have made : two.checkpoint between = new (numbered 1) two.payload two.label ⟨1, 0⟩ :=
    holds.checkpoint_eq two
  obtain ⟨second, after, saved⟩ := (holds.answered tidy_shelf supplies_tickingHost (by decide)
    sound).answers not_faulty_tickingHost short.1 (made ▸ short.2)
  exact ⟨second, after, saved,
    (holds.saved tidy_shelf supplies_tickingHost (by decide) sound saved).2⟩

theorem short_review_other : Short 0 review ∧ Short 1 other :=
  ⟨⟨by decide, by decide +kernel⟩, by decide, by decide +kernel⟩

/-- Both saves come to their end. -/
theorem reviews_saved : ∃ first second after, Saves.all shelf [review, other] tickingHost =
    ⟨[⟨review, first⟩, ⟨other, second⟩], after⟩ := by
  obtain ⟨first, between, saved, holds⟩ := saved_first sound_review short_review_other.1
  obtain ⟨second, after, saved', -⟩ := saved_second holds sound_other short_review_other.2
  refine ⟨first, second, after, ?_⟩
  have soFar : Saves.all shelf [review] tickingHost = ⟨[⟨review, first⟩], between⟩ := by
    rw [← List.nil_append [review], Saves.all_concat]
    exact congrArg (Saves.record [] review) saved
  have both : Saves.all shelf [review, other] tickingHost =
      (Saves.all shelf [review] tickingHost).add shelf other :=
    Saves.all_concat shelf [review] other tickingHost
  rw [both, soFar]
  exact congrArg (Saves.record [⟨review, first⟩] other) saved'

theorem saves_listed_reviews : ∃ first second disk,
    (Saves.all shelf [review, other] tickingHost).saved = [⟨review, first⟩, ⟨other, second⟩] ∧
      disk.node? ["checkpoints", "s", "notes.txt"] = some (.file []) ∧
      listFrom disk shelf "s" = .ok [first] ∧ listAllFrom disk shelf = .ok [first, second] := by
  have sound : ∀ request ∈ [review, other], request.Sound :=
    List.forall_mem_cons.mpr ⟨sound_review, List.forall_mem_singleton.mpr sound_other⟩
  have supplies : Supplies tickingHost [review, other].length := supplies_tickingHost
  have holds := holds_all tidy_shelf vacant_tickingHost supplies le_rfl sound
  obtain ⟨-, lists⟩ := saves_listed tidy_shelf vacant_tickingHost supplies sound
  obtain ⟨first, second, after, run⟩ := reviews_saved
  rw [run] at holds lists
  have kept : Saves.kept ⟨[⟨review, first⟩, ⟨other, second⟩], after⟩ =
      [⟨review, first⟩, ⟨other, second⟩] := by
    have ofReview : review.session.Kept := nested_kept
    have ofOther : other.session.Kept := ⟨nested_kept.finite, nested_kept.shallow⟩
    simp only [Saves.kept, List.filter_cons, List.filter_nil, ofReview, ofOther, decide_true,
      ↓reduceIte]
  rw [kept] at lists
  -- A file of notes is put beside the one of the first session.
  have written := holds.stored.written _ (List.mem_map_of_mem List.mem_cons_self)
  have noFile (content : List UInt8) : after.disk.node? ["checkpoints"] ≠ some (.file content) := by
    rw [written.top]
    exact nofun
  have free : after.disk.node? (["checkpoints"] ++ ["s"] ++ ["notes.txt"]) = none := by
    apply holds.stored.vacant (by decide)
    intro checkpoint member same
    have json := extension?_fileName (holds.stored.written checkpoint member).plain
    rw [same] at json
    exact absurd json (by decide)
  have littered : Littered ["checkpoints"] after.disk
      (after.disk.put (["checkpoints"] ++ ["s"] ++ ["notes.txt"]) (.file [])) := by
    apply littered_put ⟨by decide, by decide, by decide, by decide⟩ free noFile
    intro json
    exact absurd json (by decide)
  obtain ⟨-, ofSession, ofAll⟩ := lists _ littered
  have inside : after.disk.node? (["checkpoints"] ++ ["s"]) = some .directory := written.inside
  have ofFirst := ofSession "s" sound_review.plain fun content => by
    rw [littered.kept _ _ inside]
    exact nofun
  exact ⟨first, second, _, by rw [run], Disk.node?_put_self _ _ (by decide), ofFirst, ofAll⟩

/-- A value of arrays in one another. -/
def nest : Nat → Json
  | 0 => .null
  | n + 1 => .array [nest n]

theorem canonical_nest : ∀ n, (nest n).Canonical
  | 0 => trivial
  | n + 1 => ⟨canonical_nest n, trivial⟩

theorem nesting_nest : ∀ n, (nest n).nesting = n
  | 0 => rfl
  | n + 1 => by simp only [nest, Json.nesting, Json.nestingItems, nesting_nest n, Nat.max_zero]

/-- A session with an addition that nests deeper than a checkpoint has room for. -/
def buried : Session :=
  { nested with context := { extensions := OrderedMap.empty.insert "limits" (nest 123) } }

def tooDeep : Request := ⟨buried, none, ""⟩

theorem sound_tooDeep : tooDeep.Sound := by
  refine ⟨sound_review.plain, ⟨?_, shown_epoch, by decide, nested_typed.influences⟩, nofun⟩
  intro value member
  obtain rfl : value = nest 123 := List.mem_singleton.mp member
  exact canonical_nest 123

theorem not_kept_buried : ¬ buried.Kept := by
  intro kept
  have shallow := kept.shallow (nest 123) (List.mem_singleton_self _)
  rw [nesting_nest] at shallow
  exact absurd shallow (by decide)

/-- A name with more bytes than one in a directory may have. -/
def lengthy : String := String.ofList (List.replicate 256 'a')

theorem toList_lengthy : lengthy.toList = List.replicate 256 'a' := String.toList_ofList

theorem utf8ByteSize_lengthy : lengthy.utf8ByteSize = 256 := by
  decide +kernel

def tooLong : Request := ⟨{ nested with id := lengthy }, none, ""⟩

theorem sound_tooLong : tooLong.Sound := by
  have noSlash : '/' ∉ lengthy.toList := by
    rw [toList_lengthy]
    intro member
    exact absurd (List.eq_of_mem_replicate member) (by decide)
  have long : 2 < lengthy.toList.length := by
    rw [toList_lengthy, List.length_replicate]
    decide
  exact ⟨Path.Plain.of_long long noSlash, typed_renamed _, nofun⟩

/-- The save of a session with a long name fails, and one that nests too deep is saved but is not
in the lists. -/
theorem saves_unlisted : Vacant shelf ["checkpoints"] tickingHost.disk ∧
    Supplies tickingHost [tooLong, tooDeep].length ∧
    (∀ request ∈ [tooLong, tooDeep], request.Sound) ∧
    ∃ e between handle after, tooLong.save shelf tickingHost = .error e between ∧
      tooDeep.save shelf between = .ok handle after ∧
      listFrom after.disk shelf buried.id = .ok [] ∧ listAllFrom after.disk shelf = .ok [] := by
  have start := holds_of_vacant vacant_tickingHost
  refine ⟨vacant_tickingHost, supplies_tickingHost,
    List.forall_mem_cons.mpr ⟨sound_tooLong, List.forall_mem_singleton.mpr sound_tooDeep⟩, ?_⟩
  cases answer : tooLong.save shelf tickingHost with
  | ok handle after =>
    have holds := (start.saved tidy_shelf supplies_tickingHost (by decide) sound_tooLong answer).2
    have written := holds.stored.written _ List.mem_cons_self
    have long : 255 < lengthy.utf8ByteSize := by
      rw [utf8ByteSize_lengthy]
      decide
    exact absurd long written.shortSession
  | error e between =>
    have holds :=
      (start.failed tidy_shelf supplies_tickingHost (by decide) sound_tooLong answer).2.2
    have made : tooDeep.checkpoint between = new (numbered 1) tooDeep.payload "" ⟨1, 0⟩ :=
      holds.checkpoint_eq tooDeep
    have short : ¬ 255 < (Disk.temporaryName (tooDeep.checkpoint between).fileName
        tickingHost.processId).utf8ByteSize := by
      rw [made]
      decide +kernel
    obtain ⟨handle, after, saved⟩ := (holds.answered tidy_shelf supplies_tickingHost (by decide)
      sound_tooDeep).answers not_faulty_tickingHost (by decide) short
    have last : Holds shelf ["checkpoints"] tickingHost 2 ⟨[⟨tooDeep, handle⟩], after⟩ :=
      (holds.saved tidy_shelf supplies_tickingHost (by decide) sound_tooDeep saved).2
    have nothing : Saves.kept ⟨[⟨tooDeep, handle⟩], after⟩ = [] := by
      have lost : ¬ tooDeep.session.Kept := not_kept_buried
      simp only [Saves.kept, List.filter_cons, List.filter_nil, lost, decide_false,
        Bool.false_eq_true, ↓reduceIte]
    have written := last.stored.written _ List.mem_cons_self
    have inside : after.disk.node? (["checkpoints"] ++ [tooDeep.session.id]) = some .directory :=
      written.inside
    have littered : Littered ["checkpoints"] after.disk after.disk := by
      apply littered_refl
      rw [written.top]
      exact fun _ => nofun
    have ofAll := (last.shelved tidy_shelf supplies_tickingHost le_rfl littered).listAllFrom
      tidy_shelf
    have ofSession := last.listFrom tidy_shelf supplies_tickingHost le_rfl littered
      sound_tooDeep.plain fun content => by
        rw [inside]
        exact nofun
    rw [nothing] at ofAll ofSession
    exact ⟨e, between, handle, after, rfl, saved, ofSession, ofAll⟩

end Sample

end TaskLoop
