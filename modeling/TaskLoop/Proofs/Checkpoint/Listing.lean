import TaskLoop.Proofs.Checkpoint.Store
import TaskLoop.Proofs.Disk.Listing

/-!
What the lists of checkpoints say of the files: each lists the intact files in the order in which
they were made, and nothing else that lies beside them. So a reference that means a checkpoint means
one that can be loaded.
-/

set_option autoImplicit false

namespace TaskLoop

open TaskLoop.Path (Plain Tidy)

namespace Checkpoint

/-! ### Order -/

/-- A list that is sorted is the one list of the same items in which each item stands before those
that it alone comes before. -/
theorem mergeSort_eq {β : Type} {le : β → β → Bool} {found sorted : List β}
    (trans : ∀ first second third, le first second = true → le second third = true →
      le first third = true)
    (total : ∀ left right, (le left right || le right left) = true) (same : found.Perm sorted)
    (strict : sorted.Pairwise fun earlier later => le earlier later = true ∧
      ¬ le later earlier = true) : found.mergeSort le = sorted := by
  have listed := (List.mergeSort_perm found le).trans same
  have apart : sorted.Pairwise fun left right => ¬ (le left right = true ∧ le right left = true) :=
    strict.imp fun one both => one.2 both.2
  have symmetric : Std.Symm fun left right : β => ¬ (le left right = true ∧ le right left = true) :=
    ⟨fun _ _ one both => one both.symm⟩
  apply List.Perm.eq_of_pairwise _ (List.pairwise_mergeSort trans total found)
    (strict.imp And.left) listed
  intro left right isLeft isRight before after
  by_contra other
  exact apart.forall (listed.mem_iff.mp isLeft) isRight other ⟨before, after⟩

theorem listedBefore_iff {left right : CheckpointHandle} :
    listedBefore left right = true ↔
      left.createdAt = right.createdAt ∧ (compare left.path.names right.path.names).isLE = true ∨
        left.createdAt ≠ right.createdAt ∧ left.createdAt.le right.createdAt = true := by
  by_cases same : left.createdAt = right.createdAt
  · simp only [listedBefore, same, BEq.rfl, ↓reduceIte, true_and, ne_eq, not_true_eq_false,
      false_and, or_false]
    cases compare left.path.names right.path.names <;> decide
  · simp [listedBefore, same]

theorem listedBefore_total (left right : CheckpointHandle) :
    (listedBefore left right || listedBefore right left) = true := by
  rw [Bool.or_eq_true, listedBefore_iff, listedBefore_iff]
  by_cases same : left.createdAt = right.createdAt
  · have swapped : compare right.path.names left.path.names =
        (compare left.path.names right.path.names).swap := Std.OrientedCmp.eq_swap
    simp only [same, swapped, true_and, ne_eq, not_true_eq_false, false_and, or_false]
    cases compare left.path.names right.path.names <;> decide
  · have total := Bool.or_eq_true_iff.mp (Timestamp.le_total left.createdAt right.createdAt)
    exact total.imp (fun before => .inr ⟨same, before⟩) fun after => .inr ⟨Ne.symm same, after⟩

theorem listedBefore_trans (first second third : CheckpointHandle)
    (before : listedBefore first second = true) (after : listedBefore second third = true) :
    listedBefore first third = true := by
  rw [listedBefore_iff] at before after ⊢
  rcases before with ⟨same, below⟩ | ⟨apart, earlier⟩
  · rw [same]
    exact after.imp_left fun ⟨same', above⟩ => ⟨same', Std.TransCmp.isLE_trans below above⟩
  · right
    rcases after with ⟨same', -⟩ | ⟨-, later⟩
    · rw [← same']
      exact ⟨apart, earlier⟩
    · refine ⟨fun same => apart ?_, Timestamp.le_trans earlier later⟩
      rw [← same] at later
      exact Timestamp.le_antisymm earlier later

/-- Each handle is of an earlier time than those behind it. -/
def Ascending (handles : List CheckpointHandle) : Prop :=
  handles.Pairwise fun earlier later => earlier.createdAt.Before later.createdAt

theorem Ascending.nodup {handles : List CheckpointHandle} (ascending : Ascending handles) :
    handles.Nodup := by
  apply ascending.imp
  rintro earlier _ before rfl
  exact before.ne rfl

theorem mergeSort_listedBefore {found handles : List CheckpointHandle}
    (ascending : Ascending handles) (same : found.Perm handles) :
    found.mergeSort listedBefore = handles := by
  apply mergeSort_eq listedBefore_trans listedBefore_total same
  apply ascending.imp
  intro earlier later before
  rw [listedBefore_iff, listedBefore_iff]
  refine ⟨.inr ⟨before.ne, before.le⟩, ?_⟩
  rintro (⟨level, -⟩ | ⟨-, after⟩)
  · exact before.ne level.symm
  · exact before after

theorem mergeSort_createdAt {found handles : List CheckpointHandle}
    (ascending : Ascending handles) (same : found.Perm handles) :
    (found.mergeSort fun left right => left.createdAt.le right.createdAt) = handles := by
  apply mergeSort_eq _ (fun _ _ => Timestamp.le_total _ _) same
  · exact ascending.imp fun before => ⟨before.le, before⟩
  · exact fun _ _ _ => Timestamp.le_trans

/-! ### Names -/

theorem mapM_eq_ok {β γ ε : Type} {read : β → Except ε γ} {result : β → γ} {values : List β}
    (each : ∀ value ∈ values, read value = .ok (result value)) :
    values.mapM read = .ok (values.map result) := by
  induction values with
  | nil => rfl
  | cons value rest ih =>
    obtain ⟨first, others⟩ := List.forall_mem_cons.mp each
    simp only [List.mapM_cons, first, ih others, List.map_cons]
    rfl

variable {disk : Disk} {base path : Path} {root : Place} {session name : String}
  {handle : CheckpointHandle}

/-- Where a directory or nothing is, the names are those under which something stands in it. -/
theorem namesIn_eq_ok (noFile : disk.isFile path = false) :
    ∃ names, namesIn disk path = .ok names ∧ names.Nodup ∧ ∀ name, name ∈ names ↔
      ∃ place node, disk.locate path = .ok place ∧ disk.node? place = some .directory ∧
        disk.node? (place ++ [name]) = some node := by
  cases located : disk.locate path with
  | error e =>
    refine ⟨[], ?_, List.nodup_nil, ?_⟩
    · simp [namesIn, Disk.pathExists, Disk.at?, located]
    · simp
  | ok place =>
    cases stands : disk.node? place with
    | none =>
      refine ⟨[], ?_, List.nodup_nil, ?_⟩
      · simp [namesIn, Disk.pathExists, Disk.at?, located, stands]
      · simp [stands]
    | some node =>
      cases node with
      | file content => simp [Disk.isFile, Disk.at?, located, stands] at noFile
      | directory =>
        refine ⟨disk.namesIn place, ?_, Disk.nodup_namesIn disk place, ?_⟩
        · have required := Disk.requireDirectory_of_node? disk stands
          simp [namesIn, Disk.pathExists, Disk.at?, Disk.list, located, stands, required, bind,
            Except.bind, pure, Except.pure]
        · intro name
          simp [Disk.mem_namesIn, stands]

/-- The list of a session is made of the names in its directory. -/
theorem listFrom_of_names {names : List String}
    (listing : namesIn disk (base.join session) = .ok names) : listFrom disk base session =
      .ok ((names.filterMap fun name => handleIn? disk ((base.join session).join name)).mergeSort
        listedBefore) := by
  simp only [listFrom, directory, listing, bind, Except.bind, pure, Except.pure]

/-- The list of all is made of those of the sessions. -/
theorem listAllFrom_of_names {names : List String} {own : String → List CheckpointHandle}
    (listing : namesIn disk base = .ok names)
    (each : ∀ session ∈ names.filter fun name => disk.isDirectory (base.join name),
      listFrom disk base session = .ok (own session)) : listAllFrom disk base =
      .ok (((names.filter fun name => disk.isDirectory (base.join name)).map own).flatten.mergeSort
        fun left right => left.createdAt.le right.createdAt) := by
  simp only [listAllFrom, sessionsFrom, listing, mapM_eq_ok each, bind, Except.bind, pure,
    Except.pure]

/-- A file is listed under its own path. -/
theorem handleIn?_eq_some : handleIn? disk path = some handle ↔
    path.extension? = some "json" ∧ ∃ checkpoint, loadFrom disk path = .ok checkpoint ∧
      checkpoint.handle path = handle := by
  simp only [handleIn?, Option.ite_none_right_eq_some, beq_iff_eq]
  apply and_congr_right
  intro _
  cases loadFrom disk path with
  | error e => simp
  | ok checkpoint => simp

theorem path_of_handleIn? (found : handleIn? disk path = some handle) : handle.path = path := by
  obtain ⟨-, checkpoint, -, rfl⟩ := handleIn?_eq_some.mp found
  rfl

/-- Bytes that are the text of an intact checkpoint. -/
def Intact (content : List UInt8) : Prop := ∃ text checkpoint,
  Text.Utf8.decode? content = some text ∧ (Json.ofText? text).bind ofJson? = some checkpoint ∧
    checkpoint.flaw? = none

/-- A file that is listed lies below a path that leads somewhere. -/
theorem located_of_handleIn? (tidy : Tidy base) (plainSession : Plain session) (plain : Plain name)
    (found : handleIn? disk ((base.join session).join name) = some handle) :
    ∃ root, disk.locate base = .ok root := by
  obtain ⟨-, checkpoint, loaded, -⟩ := handleIn?_eq_some.mp found
  obtain ⟨text, read, -⟩ := loadFrom_eq_ok.mp loaded
  obtain ⟨_, held, -⟩ := Disk.readText_eq_ok.mp read
  obtain ⟨_, leads, -⟩ := Disk.read_eq_ok.mp held
  obtain ⟨_, led, -⟩ := Disk.locate_join_eq_ok (Path.tidy_join plainSession base) plain leads
  obtain ⟨root, located, -⟩ := Disk.locate_join_eq_ok tidy plainSession led
  exact ⟨root, located⟩

/-- A file that is listed is intact and stands in a directory. -/
theorem stands_of_handleIn? (tidy : Tidy base) (plainSession : Plain session) (plain : Plain name)
    (located : disk.locate base = .ok root)
    (found : handleIn? disk ((base.join session).join name) = some handle) :
    disk.node? root = some .directory ∧ disk.isDirectory (base.join session) = true ∧
      disk.node? (root ++ [session]) = some .directory ∧
      ∃ content, disk.node? (root ++ [session] ++ [name]) = some (.file content) ∧
        Intact content := by
  obtain ⟨-, checkpoint, loaded, -⟩ := handleIn?_eq_some.mp found
  obtain ⟨text, read, decoded, intact⟩ := loadFrom_eq_ok.mp loaded
  obtain ⟨content, held, isText⟩ := Disk.readText_eq_ok.mp read
  obtain ⟨place, leads, stands⟩ := Disk.read_eq_ok.mp held
  obtain ⟨inner, led, directory, rfl, -⟩ :=
    Disk.locate_join_eq_ok (Path.tidy_join plainSession base) plain leads
  obtain ⟨_, led', top, rfl, -⟩ := Disk.locate_join_eq_ok tidy plainSession led
  cases located.symm.trans led'
  exact ⟨top, Disk.isDirectory_of_locate led directory, directory, content, stands, text,
    checkpoint, isText, decoded, intact⟩

/-! ### Stores -/

/-- A directory with a directory for each session. The files of some handles, each of an earlier
time than those behind it, are listed under them, and no others are listed at all. -/
structure Shelved (base : Path) (root : Place) (shelf : List CheckpointHandle) (disk : Disk) :
    Prop where
  located : disk.locate base = .ok root
  top : disk.node? root = some .directory ∨ disk.node? root = none
  plainSession : ∀ session node, disk.node? (root ++ [session]) = some node → Plain session
  plain : ∀ session name node, disk.node? (root ++ [session] ++ [name]) = some node → Plain name
  listed : ∀ handle ∈ shelf, ∃ name, Plain handle.session ∧ Plain name ∧
    handleIn? disk ((base.join handle.session).join name) = some handle
  others : ∀ session name handle, Plain session → Plain name →
    handleIn? disk ((base.join session).join name) = some handle →
      handle ∈ shelf ∧ handle.session = session
  ascending : Ascending shelf

/-- The handles of the sessions, one session after the other, are all handles once. -/
theorem perm_of_sessions {shelf : List CheckpointHandle} {sessions : List String}
    (once : shelf.Nodup) (apart : sessions.Nodup)
    (complete : ∀ handle ∈ shelf, handle.session ∈ sessions) :
    (sessions.map fun session =>
      shelf.filter fun handle => handle.session == session).flatten.Perm shelf := by
  apply (List.perm_ext_iff_of_nodup _ once).mpr
  · intro handle
    constructor
    · intro member
      obtain ⟨own, isOwn, member⟩ := List.mem_flatten.mp member
      obtain ⟨session, -, rfl⟩ := List.mem_map.mp isOwn
      exact List.mem_of_mem_filter member
    · intro member
      apply List.mem_flatten.mpr
      refine ⟨_, List.mem_map_of_mem (complete handle member), ?_⟩
      simp [member]
  · apply List.nodup_flatten.mpr
    constructor
    · intro own isOwn
      obtain ⟨session, -, rfl⟩ := List.mem_map.mp isOwn
      exact once.filter _
    · apply List.pairwise_map.mpr
      apply apart.imp
      intro one other apart handle isOne isOther
      have sameOne := (List.mem_filter.mp isOne).2
      have sameOther := (List.mem_filter.mp isOther).2
      rw [beq_iff_eq] at sameOne sameOther
      exact apart (sameOne.symm.trans sameOther)

namespace Shelved

variable {shelf : List CheckpointHandle} (tidy : Tidy base) (shelved : Shelved base root shelf disk)

include tidy shelved

/-- A session's list is of its handles, in their order. -/
theorem listFrom (plainSession : Plain session)
    (noFile : ∀ content, disk.node? (root ++ [session]) ≠ some (.file content)) :
    Checkpoint.listFrom disk base session =
      .ok (shelf.filter fun handle => handle.session == session) := by
  have inner := Path.tidy_join plainSession base
  obtain ⟨names, listing, once, isName⟩ := namesIn_eq_ok
    (Disk.isFile_join tidy plainSession shelved.located noFile)
  have plain : ∀ name ∈ names, Plain name := by
    intro name member
    obtain ⟨place, node, led, -, stands⟩ := (isName name).mp member
    obtain ⟨_, reached, -, rfl, -⟩ := Disk.locate_join_eq_ok tidy plainSession led
    cases shelved.located.symm.trans reached
    exact shelved.plain session name node stands
  have found : (names.filterMap fun name => handleIn? disk ((base.join session).join name)).Perm
      (shelf.filter fun handle => handle.session == session) := by
    apply (List.perm_ext_iff_of_nodup _ (shelved.ascending.nodup.filter _)).mpr
    · intro handle
      rw [List.mem_filterMap, List.mem_filter, beq_iff_eq]
      constructor
      · rintro ⟨name, member, found⟩
        exact shelved.others session name handle plainSession (plain name member) found
      · rintro ⟨member, rfl⟩
        obtain ⟨name, -, plain, found⟩ := shelved.listed handle member
        obtain ⟨-, there, directory, content, stands, -⟩ :=
          stands_of_handleIn? tidy plainSession plain shelved.located found
        obtain ⟨led, -⟩ := Disk.isDirectory_join tidy plainSession shelved.located there
        exact ⟨name, (isName name).mpr ⟨_, _, led, directory, stands⟩, found⟩
    · apply List.pairwise_filterMap.mpr
      apply once.imp_of_mem
      intro one other isOne isOther apart handle found handle' found' same
      subst same
      have path := (path_of_handleIn? found).symm.trans (path_of_handleIn? found')
      have named := congrArg Path.fileName? path
      rw [Path.fileName?_join inner (plain one isOne),
        Path.fileName?_join inner (plain other isOther)] at named
      exact apart (Option.some.inj named)
  rw [listFrom_of_names listing, mergeSort_listedBefore (shelved.ascending.filter _) found]

theorem isDirectory_of_mem {handle : CheckpointHandle} (member : handle ∈ shelf) :
    disk.node? root = some .directory ∧ disk.isDirectory (base.join handle.session) = true ∧
      disk.node? (root ++ [handle.session]) = some .directory := by
  obtain ⟨name, plainSession, plain, found⟩ := shelved.listed handle member
  obtain ⟨top, there, directory, -⟩ :=
    stands_of_handleIn? tidy plainSession plain shelved.located found
  exact ⟨top, there, directory⟩

/-- The list of all sessions is of all handles, in their order. -/
theorem listAllFrom : Checkpoint.listAllFrom disk base = .ok shelf := by
  have noFile : disk.isFile base = false := by
    rcases shelved.top with top | free
    · simp [Disk.isFile, Disk.at?, shelved.located, top]
    · simp [Disk.isFile, Disk.at?, shelved.located, free]
  obtain ⟨names, listing, once, isName⟩ := namesIn_eq_ok noFile
  -- The sessions are the names of directories,
  have sessions : ∀ session ∈ names.filter fun name => disk.isDirectory (base.join name),
      Plain session ∧ disk.node? (root ++ [session]) = some .directory := by
    intro session member
    obtain ⟨member, there⟩ := List.mem_filter.mp member
    obtain ⟨place, node, led, -, stands⟩ := (isName session).mp member
    cases shelved.located.symm.trans led
    have plain := shelved.plainSession session node stands
    exact ⟨plain, (Disk.isDirectory_join tidy plain shelved.located there).2⟩
  have each : ∀ session ∈ names.filter fun name => disk.isDirectory (base.join name),
      Checkpoint.listFrom disk base session =
        .ok (shelf.filter fun handle => handle.session == session) := by
    intro session member
    obtain ⟨plain, there⟩ := sessions session member
    exact shelved.listFrom tidy plain (by simp [there])
  -- and the session of each handle is one of them.
  have complete : ∀ handle ∈ shelf,
      handle.session ∈ names.filter fun name => disk.isDirectory (base.join name) := by
    intro handle member
    obtain ⟨top, there, directory⟩ := shelved.isDirectory_of_mem tidy member
    exact List.mem_filter.mpr
      ⟨(isName _).mpr ⟨root, _, shelved.located, top, directory⟩, there⟩
  have found := perm_of_sessions shelved.ascending.nodup (once.filter _) complete
  rw [listAllFrom_of_names listing each, mergeSort_createdAt shelved.ascending found]

end Shelved

/-! ### References -/

section References

variable {reference : String} {handle : CheckpointHandle}

theorem loadFrom_of_handleIn? (found : handleIn? disk path = some handle) :
    ∃ checkpoint, loadFrom disk handle.path = .ok checkpoint := by
  obtain ⟨-, checkpoint, loaded, rfl⟩ := handleIn?_eq_some.mp found
  exact ⟨checkpoint, loaded⟩

theorem loadFrom_of_listFrom {handles : List CheckpointHandle}
    (listed : listFrom disk base session = .ok handles) (member : handle ∈ handles) :
    ∃ checkpoint, loadFrom disk handle.path = .ok checkpoint := by
  simp only [listFrom, bind, Except.bind] at listed
  split at listed
  · cases listed
  · cases listed
    rw [List.mem_mergeSort] at member
    obtain ⟨name, -, found⟩ := List.mem_filterMap.mp member
    exact loadFrom_of_handleIn? found

/-- What all of many readings give comes of one of them. -/
theorem mem_of_mapM {β γ ε : Type} {read : β → Except ε γ} {values : List β} {results : List γ}
    {result : γ} (done : values.mapM read = .ok results) (member : result ∈ results) :
    ∃ value ∈ values, read value = .ok result := by
  induction values generalizing results with
  | nil =>
    cases done
    cases member
  | cons value rest ih =>
    simp only [List.mapM_cons, bind, Except.bind] at done
    split at done
    · cases done
    · rename_i first got
      split at done
      · cases done
      · rename_i others gotOthers
        cases done
        rcases List.mem_cons.mp member with rfl | member
        · exact ⟨value, List.mem_cons_self, got⟩
        · obtain ⟨found, among, same⟩ := ih gotOthers member
          exact ⟨found, List.mem_cons_of_mem _ among, same⟩

theorem loadFrom_of_listAllFrom {handles : List CheckpointHandle}
    (listed : listAllFrom disk base = .ok handles) (member : handle ∈ handles) :
    ∃ checkpoint, loadFrom disk handle.path = .ok checkpoint := by
  simp only [listAllFrom, bind, Except.bind] at listed
  split at listed
  · cases listed
  · split at listed
    · cases listed
    · rename_i all each
      cases listed
      rw [List.mem_mergeSort] at member
      obtain ⟨own, among, member⟩ := List.mem_flatten.mp member
      obtain ⟨session, -, got⟩ := mem_of_mapM each among
      exact loadFrom_of_listFrom got member

/-- A reference that is resolved is resolved to a checkpoint that can be loaded. -/
theorem loadFrom_of_resolveFrom (resolved : resolveFrom disk base reference = .ok handle) :
    ∃ checkpoint, loadFrom disk handle.path = .ok checkpoint := by
  simp only [resolveFrom, bind, Except.bind] at resolved
  split at resolved
  · split at resolved
    · cases resolved
    · rename_i checkpoint loaded
      cases resolved
      exact ⟨checkpoint, loaded⟩
  · split at resolved
    · cases resolved
    · rename_i all listed
      split at resolved
      · rename_i only same
        cases resolved
        have among : handle ∈ all.filter fun handle =>
            reference.toList.isPrefixOf handle.id.toList := by
          rw [same]
          exact List.mem_singleton_self handle
        exact loadFrom_of_listAllFrom listed (List.mem_of_mem_filter among)
      · split at resolved
        · rename_i newest found
          cases resolved
          have among := List.mem_of_find?_eq_some found
          exact loadFrom_of_listAllFrom listed (List.mem_reverse.mp among)
        · cases resolved

/-- The path of a file that can be loaded is resolved to what the file holds. -/
theorem resolveFrom_path {checkpoint : Checkpoint} (base : Path) (isFile : disk.isFile path = true)
    (loaded : loadFrom disk path = .ok checkpoint) :
    resolveFrom disk base path.text = .ok (checkpoint.handle path) := by
  simp only [resolveFrom, isFile, ↓reduceIte, loaded, bind, Except.bind]
  rfl

end References

end Checkpoint

end TaskLoop
