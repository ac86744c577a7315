import TaskLoop.Proofs.Checkpoint.Written
import TaskLoop.Store.Status

/-!
What the replacement of a file leaves, whatever its path is and whichever step fails. When it comes
to its end the file holds the new content and nothing stands beside it under the temporary name.
When it fails the file is as it was, but no one takes away what was written beside it, nor the
directories that were made.
-/

set_option autoImplicit false

namespace TaskLoop.Disk

open Act (Ends)
open Host (Spares)

variable {before host after : Host} {path parent : Path} {place : Place} {name : String}
  {bytes content : List UInt8}

/-! ### What is left -/

/-- The place beside a file where its new content is written first. -/
def asidePlace? (path : Path) (host : Host) : Option Place := do
  let parent ← path.parent?
  let name ← path.fileName?
  return host.disk.destination parent ++ [temporaryName name host.processId]

/-- What stands at a place that a replacement has no business with: what stood there, or a
directory that was missing on the way to the file. -/
inductive Kept (path : Path) (before after : Disk) (place : Place) : Prop where
  | same (same : after.node? place = before.node? place)
  | made (onWay : ∃ parent other, path.parent? = some parent ∧ parent.Passes other ∧
      place = before.destination other)
    (free : before.node? place = none) (made : after.node? place = some .directory)

/-- What is left when a file has been replaced. -/
structure Replaced (path : Path) (bytes : List UInt8) (before after : Host) : Prop where
  holds : after.disk.read path = .ok bytes
  aside : ∀ place, asidePlace? path before = some place → after.disk.node? place = none
  others : ∀ place, place ≠ before.disk.destination path → asidePlace? path before ≠ some place →
    Kept path before.disk after.disk place

/-- What is left when a file could not be replaced: beside it there may stand a beginning of what
was to be written, in place of what was no directory. -/
structure Abandoned (path : Path) (bytes : List UInt8) (before after : Host) : Prop where
  aside : ∀ place, asidePlace? path before = some place → Kept path before.disk after.disk place ∨
    before.disk.node? place ≠ some .directory ∧
      ∃ count, after.disk.node? place = some (.file (bytes.take count))
  others : ∀ place, asidePlace? path before ≠ some place → Kept path before.disk after.disk place

theorem Kept.of_same {first second third : Disk} (kept : Kept path first second place)
    (same : third.node? place = second.node? place) : Kept path first third place := by
  cases kept with
  | same kept => exact .same (same.trans kept)
  | made onWay free made => exact .made onWay free (same.trans made)

/-- What stood at a place is still there. -/
theorem Kept.node? {first second : Disk} {node : Node} (kept : Kept path first second place)
    (stood : first.node? place = some node) : second.node? place = some node := by
  cases kept with
  | same same => exact same.trans stood
  | made _ free _ =>
    rw [free] at stood
    cases stood

theorem Abandoned.of_kept (kept : ∀ place, Kept path before.disk after.disk place) :
    Abandoned path bytes before after :=
  ⟨fun place _ => .inl (kept place), fun place _ => kept place⟩

theorem kept_of_buildsWay (isParent : path.parent? = some parent)
    (way : BuildsWay parent before after) (place : Place) :
    Kept path before.disk after.disk place := by
  rcases way.node? place with same | ⟨⟨free, made⟩, other, passes, isPlace⟩
  · exact .same same
  · exact .made ⟨parent, other, isParent, passes, isPlace⟩ free made

/-! ### On the way -/

/-- A content stands beside the file it is for, and nothing else has changed but that directories
were made. -/
structure Aside (path : Path) (place : Place) (content : List UInt8) (before host : Host) :
    Prop where
  free : before.disk.node? place ≠ some .directory
  holds : host.disk.node? place = some (.file content)
  others : ∀ other, other ≠ place → Kept path before.disk host.disk other
  workingDir : host.disk.workingDir = before.disk.workingDir

namespace Aside

theorem abandoned {count : Nat} (isPlace : asidePlace? path before = some place)
    (aside : Aside path place (bytes.take count) before host) :
    Abandoned path bytes before host := by
  constructor
  · intro other isOther
    cases isPlace.symm.trans isOther
    exact .inr ⟨aside.free, count, aside.holds⟩
  · intro other apart
    apply aside.others
    rintro rfl
    exact apart isPlace

theorem spent (aside : Aside path place content before host) (faults : List (Option Nat)) :
    Aside path place content before { host with faults := faults } :=
  ⟨aside.free, aside.holds, aside.others, aside.workingDir⟩

theorem put (aside : Aside path place content before host) (faults : List (Option Nat))
    (content' : List UInt8) : Aside path place content' before
      { host with faults := faults, disk := host.disk.put place (.file content') } := by
  have below : place ≠ [] := ne_nil_of_node? aside.free
  refine ⟨aside.free, node?_put_self _ _ below, fun other apart => ?_, aside.workingDir⟩
  exact (aside.others other apart).of_same (node?_put_of_ne _ _ apart)

end Aside

/-- A file that is made stands where its path leads, or nothing has changed. -/
theorem createFile_aside {temporary : Path} (kept : ∀ place, Kept path before.disk host.disk place)
    (workingDir : host.disk.workingDir = before.disk.workingDir) :
    Ends (createFile temporary) host
      (fun place after => place = before.disk.destination temporary ∧
        Aside path place [] before after)
      fun _ after => ∀ place, Kept path before.disk after.disk place := by
  apply (createFile_ends (fun _ => False) temporary host).mono
  · rintro place after ⟨led, spares, empty, -⟩
    refine ⟨(locate_eq_ok led).trans (destination_of_workingDir temporary workingDir), ?_, empty,
      fun other apart => (kept other).of_same (spares.nodes other apart), ?_⟩
    · intro stood
      have stands := spares.grows.directory place ((kept place).node? stood)
      rw [empty] at stands
      cases stands
    · exact spares.grows.workingDir.trans workingDir
  · rintro _ after ⟨⟨spares, -⟩, -⟩ place
    exact (kept place).of_same (spares.nodes place id)

theorem asidePlace?_eq_some (isPlace : asidePlace? path host = some place) :
    ∃ parent name, path.parent? = some parent ∧ path.fileName? = some name ∧
      place = host.disk.destination parent ++ [temporaryName name host.processId] := by
  simp only [asidePlace?, Option.bind_eq_bind, Option.bind_eq_some_iff, Option.pure_def,
    Option.some.injEq] at isPlace
  obtain ⟨parent, isParent, name, isName, rfl⟩ := isPlace
  exact ⟨parent, name, isParent, isName, rfl⟩

/-- The new content is written beside the file, never in it. -/
theorem ne_destination (isPlace : asidePlace? path host = some place) :
    place ≠ host.disk.destination path := by
  obtain ⟨parent, name, isParent, isName, rfl⟩ := asidePlace?_eq_some isPlace
  rw [destination_below (Path.below_of_parent? isParent isName)]
  simp [temporaryName_ne]

theorem writeBytes_aside (isPlace : asidePlace? path before = some place)
    (empty : Aside path place [] before host) :
    Ends (Host.writeBytes place bytes) host (fun _ => Aside path place bytes before)
      fun _ => Abandoned path bytes before := by
  apply writeBytes_ends empty.holds
  · intro count _
    exact Aside.abandoned isPlace (empty.put _ _)
  · exact empty.put _ _

theorem Aside.abandoned_whole (isPlace : asidePlace? path before = some place)
    (aside : Aside path place bytes before host) : Abandoned path bytes before host := by
  rw [← List.take_length (l := bytes)] at aside
  exact aside.abandoned isPlace

theorem sync_aside (isPlace : asidePlace? path before = some place)
    (aside : Aside path place bytes before host) :
    Ends (Host.step .ok) host (fun _ => Aside path place bytes before)
      fun _ => Abandoned path bytes before := by
  apply step_ends
  · intro _ _
    exact (aside.spent _).abandoned_whole isPlace
  · rintro _ ⟨⟩
    exact aside.spent _

/-- What stands aside is put in place of the file, or stays where it is. -/
theorem renameFile_aside (isPlace : asidePlace? path before = some place)
    (aside : Aside path place bytes before host) :
    Ends (renameFile place path) host
      (fun _ after => path.trimmed = path.text.toList ∧ after.disk.node? place = none ∧
        ∀ other, other ≠ before.disk.destination path → other ≠ place →
          Kept path before.disk after.disk other)
      fun _ after => Abandoned path bytes before after := by
  have below : place ≠ [] := ne_nil_of_node? aside.free
  apply step_ends
  · intro e _
    exact (aside.spent _).abandoned_whole isPlace
  · intro disk changed
    cases located : host.disk.locate path with
    | error e => simp [located, bind, Except.bind] at changed
    | ok target =>
      have isTarget : target = before.disk.destination path :=
        (locate_eq_ok located).trans (destination_of_workingDir path aside.workingDir)
      have apart : place ≠ target := isTarget ▸ ne_destination isPlace
      simp only [located, aside.holds, bind, Except.bind] at changed
      split at changed
      · cases changed
      · rename_i node isNode _
        cases isNode
        split at changed
        · rename_i trimmed
          cases changed
          refine ⟨beq_iff_eq.mp trimmed, ?_, fun other notTarget notAside => ?_⟩
          · exact (node?_put_of_ne _ _ apart).trans (node?_remove_self _ below)
          · rw [← isTarget] at notTarget
            have same := (node?_put_of_ne _ (.file bytes) notTarget).trans
              (node?_remove_of_ne host.disk notAside)
            exact (aside.others other notAside).of_same same
        · cases changed
      · cases changed

/-- A file that was made aside is filled, and put in place of the other. -/
theorem finish_aside (isPlace : asidePlace? path before = some place)
    (empty : Aside path place [] before host) (writing syncing replacing : String) :
    Ends (do
        (Host.writeBytes place bytes).within writing
        (Host.step .ok).within syncing
        (renameFile place path).within replacing) host
      (fun _ after => path.trimmed = path.text.toList ∧ after.disk.node? place = none ∧
        ∀ other, other ≠ before.disk.destination path → other ≠ place →
          Kept path before.disk after.disk other)
      fun _ after => Abandoned path bytes before after := by
  apply Ends.bind
  apply Ends.within
  apply (writeBytes_aside isPlace empty).mono _ fun _ _ => id
  intro _ written aside
  apply Ends.bind
  apply Ends.within
  apply (sync_aside isPlace aside).mono _ fun _ _ => id
  intro _ synced aside
  apply Ends.within
  exact renameFile_aside isPlace aside

/-! ### A replacement -/

/-- What a replacement that came to its end has cleared away: the file that was made aside is gone,
and all but the file that was replaced is kept. -/
structure Cleared (path : Path) (before after : Host) : Prop where
  tidy : path.Tidy
  gone : ∀ place, asidePlace? path before = some place → after.disk.node? place = none
  others : ∀ place, place ≠ before.disk.destination path → asidePlace? path before ≠ some place →
    Kept path before.disk after.disk place

/-- Where the directories of a file are made, the file is made aside, filled and put in place. -/
theorem fillAside_clears {parent : Path} {name : String} {housed : Host}
    (isParent : path.parent? = some parent) (isName : path.fileName? = some name)
    (kept : ∀ place, Kept path before.disk housed.disk place)
    (workingDir : housed.disk.workingDir = before.disk.workingDir)
    (creating writing syncing replacing : String) :
    Ends (do
        let place ← (createFile (parent.join (temporaryName name before.processId))).within creating
        (Host.writeBytes place bytes).within writing
        (Host.step .ok).within syncing
        (renameFile place path).within replacing) housed
      (fun _ after => Cleared path before after) fun _ after => Abandoned path bytes before after := by
  have plain := (Path.below_of_parent? isParent isName).plain
  have isAside : asidePlace? path before =
      some (before.disk.destination (parent.join (temporaryName name before.processId))) := by
    rw [destination_join (plain_temporaryName plain _), asidePlace?, isParent, isName]
    rfl
  apply Ends.bind
  apply Ends.within
  apply (createFile_aside kept workingDir).mono _ fun _ _ => Abandoned.of_kept
  intro place created empty
  have isPlace : asidePlace? path before = some place :=
    isAside.trans (congrArg some empty.1.symm)
  apply (finish_aside isPlace empty.2 _ _ _).mono _ fun _ _ => id
  rintro _ after ⟨trimmed, gone, others⟩
  refine ⟨Path.tidy_of_fileName? isName trimmed, ?_, fun other apart notAside => ?_⟩
  · intro other isOther
    cases isPlace.symm.trans isOther
    exact gone
  · apply others other apart
    rintro rfl
    exact notAside isPlace

theorem writeAtomic_clears (path : Path) (bytes : List UInt8) (before : Host) :
    Ends (writeAtomic path bytes) before (fun _ after => Cleared path before after)
      fun _ after => Abandoned path bytes before after := by
  rw [writeAtomic]
  cases isParent : path.parent? with
  | none => exact Abandoned.of_kept fun _ => .same rfl
  | some parent =>
  have houses := (makeDirectoriesFrom_buildsWay (parent.text.length + 1) parent before).and
    (makeDirectoriesFrom_keeps (fun _ _ _ => rfl : Act.Blind Host.processId) _ parent before)
  have kept {host : Host} (way : BuildsWay parent before host) : ∀ place,
      Kept path before.disk host.disk place := kept_of_buildsWay isParent way
  cases isName : path.fileName? with
  | none =>
    simp only [pure_bind]
    apply Ends.bind
    apply Ends.within
    apply houses.mono
    · exact fun _ housed made => Abandoned.of_kept (kept made.1)
    · exact fun _ housed made => Abandoned.of_kept (kept made.1)
  | some name =>
    simp only [pure_bind]
    apply Ends.bind
    apply Ends.within
    apply houses.mono
    · intro _ housed made
      apply Ends.get
      rw [made.2]
      exact fillAside_clears isParent isName (kept made.1) made.1.workingDir _ _ _ _
    · exact fun _ housed made => Abandoned.of_kept (kept made.1)

/-- A replacement either comes to its end, with nothing left beside the file, or what it leaves is
beside the file. -/
theorem writeAtomic_leaves (path : Path) (bytes : List UInt8) (before : Host) :
    Ends (writeAtomic path bytes) before (fun _ => Replaced path bytes before)
      fun _ => Abandoned path bytes before := by
  have reads : Ends (writeAtomic path bytes) before
      (fun _ after => path.Tidy → after.disk.read path = .ok bytes) fun _ _ => True := by
    rw [Ends]
    split
    · rename_i done
      exact fun tidy => read_writeAtomic tidy done
    · trivial
  apply ((writeAtomic_clears path bytes before).and reads).mono
  · rintro _ after ⟨cleared, reads⟩
    exact ⟨reads cleared.tidy, cleared.gone, cleared.others⟩
  · exact fun _ _ => And.left

/-! ### The writing of values -/

/-- Work that replaces a file leaves what is left by that, whatever it comes to. -/
structure Settles {ε β : Type} (act : Act ε β) (path : Path) (bytes : List UInt8) (before : Host) :
    Prop where
  replaced : ∀ value after, act before = .ok value after → Replaced path bytes before after
  abandoned : ∀ e after, act before = .error e after → Abandoned path bytes before after

theorem asidePlace?_congr (path : Path) (disk : host.disk = before.disk)
    (process : host.processId = before.processId) :
    asidePlace? path host = asidePlace? path before := by
  simp only [asidePlace?, disk, process]

/-- What else a host is does not count for what a replacement leaves. -/
theorem replaced_of_write {value : Json} (wrote : Store.writeJson path value host = .ok () after)
    (disk : host.disk = before.disk) (process : host.processId = before.processId) :
    Replaced path (Text.Utf8.encode value.fileText) before after := by
  obtain ⟨holds, aside, others⟩ := (writeAtomic_leaves path _ host).of_ok wrote
  rw [asidePlace?_congr path disk process] at aside others
  rw [disk] at others
  exact ⟨holds, aside, others⟩

theorem abandoned_of_write {value : Json} {e : Failure}
    (failed : Store.writeJson path value host = .error e after) (disk : host.disk = before.disk)
    (process : host.processId = before.processId) :
    Abandoned path (Text.Utf8.encode value.fileText) before after := by
  obtain ⟨aside, others⟩ := (writeAtomic_leaves path _ host).of_error failed
  rw [asidePlace?_congr path disk process, disk] at aside others
  exact ⟨aside, others⟩

theorem update_settles (snapshot : StatusSnapshot) (path : Path) (before : Host) :
    Settles (snapshot.update path) path (Text.Utf8.encode { snapshot with
      updatedAt := before.clock before.readings }.toJson.fileText) before := by
  constructor
  · intro _ after updated
    obtain ⟨_, looked, reads, updated⟩ := Act.bind_eq_ok.mp updated
    cases reads
    obtain ⟨_, written, writing, updated⟩ := Act.bind_eq_ok.mp updated
    cases updated
    exact replaced_of_write (Act.mapError_eq_ok.mp writing) rfl rfl
  · intro _ after failed
    rcases Act.bind_eq_error failed with failed | ⟨_, _, reads, failed⟩
    · cases failed
    cases reads
    rcases Act.bind_eq_error failed with failed | ⟨_, _, -, failed⟩
    · obtain ⟨_, failed⟩ := Act.mapError_eq_error failed
      exact abandoned_of_write failed rfl rfl
    · cases failed

theorem save_settles (root : Path) (session : Session) (iteration : Option Iteration)
    (label : String) (before : Host) :
    Settles (Checkpoint.save root session iteration label)
      ((root.join session.id).join (Checkpoint.next before ⟨session, iteration⟩ label).fileName)
      (Text.Utf8.encode (Checkpoint.next before ⟨session, iteration⟩ label).toJson.fileText)
      before := by
  constructor
  · intro _ _ saved
    exact replaced_of_write (Checkpoint.writes_of_save saved).2 rfl rfl
  · intro _ _ failed
    obtain ⟨_, failed⟩ := Checkpoint.write_of_failed failed
    exact abandoned_of_write failed rfl rfl

/-- Whatever the path of a file leads to and whichever step of its replacement fails, a file that
is replaced has its new content, and nothing that stood anywhere is changed by this but what stood
under the temporary name beside the file. That name is free when the replacement comes to its end;
when it fails a beginning of the content may stay there. So it is for the status, for every value
in a store and for checkpoints. -/
theorem replacements_settle (before : Host) :
    (∀ path bytes, Settles (writeAtomic path bytes) path bytes before) ∧
    (∀ path value,
      Settles (Store.writeJson path value) path (Text.Utf8.encode value.fileText) before) ∧
    (∀ path (snapshot : StatusSnapshot), Settles (snapshot.update path) path (Text.Utf8.encode
      { snapshot with updatedAt := before.clock before.readings }.toJson.fileText) before) ∧
    ∀ root session iteration label, Settles (Checkpoint.save root session iteration label)
      ((root.join session.id).join (Checkpoint.next before ⟨session, iteration⟩ label).fileName)
      (Text.Utf8.encode (Checkpoint.next before ⟨session, iteration⟩ label).toJson.fileText)
      before := by
  have writes (path : Path) (bytes : List UInt8) : Settles (writeAtomic path bytes) path bytes
      before :=
    ⟨fun _ _ => (writeAtomic_leaves path bytes before).of_ok,
      fun _ _ => (writeAtomic_leaves path bytes before).of_error⟩
  refine ⟨writes, fun path value => writes path _, fun path snapshot => ?_, ?_⟩
  · exact update_settles snapshot path before
  · exact fun root session iteration label => save_settles root session iteration label before

end TaskLoop.Disk

namespace TaskLoop.Sample

open Disk

/-- Files in the root, the working directory. -/
def rootHost (nodes : List (Place × Node)) : Host :=
  .new ⟨OrderedMap.ofList nodes, []⟩ (fun _ => ⟨0, 0⟩) Identifier.ofNumber

/-- A directory cannot be replaced, and what was to be put there stays beside it. A file that stood
under the temporary name does not outlast a replacement that comes to its end. -/
theorem replacements_touch_others :
    (∃ e after, writeAtomic ⟨"d"⟩ [1] (rootHost [(["d"], .directory)]) = .error e after ∧
      (rootHost [(["d"], .directory)]).disk.node? [".d.1.tmp"] = none ∧
      after.disk.node? [".d.1.tmp"] = some (.file [1])) ∧
    ∃ after, writeAtomic ⟨"f"⟩ [1] (rootHost [([".f.1.tmp"], .file [2])]) = .ok () after ∧
      after.disk.node? [".f.1.tmp"] = none := by
  refine ⟨⟨_, _, rfl, ?_, ?_⟩, _, rfl, ?_⟩
  · decide +kernel
  · decide +kernel
  · decide +kernel

end TaskLoop.Sample
