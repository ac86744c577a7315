import TaskLoop.Proofs.Checkpoint.Sequence

/-!
A checkpoint whose file can be loaded is in the list of all, and as long as it is the newest it is
found by the label that it carries.
-/

set_option autoImplicit false

namespace TaskLoop

open TaskLoop.Path (Plain Tidy)

namespace Checkpoint

variable {disk : Disk} {base : Path} {session name reference : String} {handle : CheckpointHandle}
  {all : List CheckpointHandle}

/-! ### The list of all -/

/-- A checkpoint is in the list of all sessions. -/
def Listed (disk : Disk) (base : Path) (handle : CheckpointHandle) : Prop :=
  ∃ all, listAllFrom disk base = .ok all ∧ handle ∈ all

/-- A directory has a list, and the files in it that can be loaded are on it. -/
theorem listFrom_of_isDirectory (there : disk.isDirectory (base.join session) = true) :
    ∃ handles, listFrom disk base session = .ok handles ∧ ∀ place name node handle,
      disk.locate (base.join session) = .ok place → disk.node? place = some .directory →
      disk.node? (place ++ [name]) = some node →
      handleIn? disk ((base.join session).join name) = some handle → handle ∈ handles := by
  obtain ⟨names, listing, -, isName⟩ := namesIn_eq_ok (Disk.isFile_of_isDirectory there)
  refine ⟨_, listFrom_of_names listing, ?_⟩
  intro place name node handle leads inside stands found
  have member : name ∈ names := (isName name).mpr ⟨place, node, leads, inside, stands⟩
  exact List.mem_mergeSort.mpr (List.mem_filterMap.mpr ⟨name, member, found⟩)

/-- A file in the directory of a session that can be loaded is in the list of all. -/
theorem listed_of_handleIn? (tidy : Tidy base) (plainSession : Plain session) (plain : Plain name)
    (found : handleIn? disk ((base.join session).join name) = some handle) :
    Listed disk base handle := by
  obtain ⟨root, located⟩ := located_of_handleIn? tidy plainSession plain found
  obtain ⟨top, there, inside, _, stands, -⟩ :=
    stands_of_handleIn? tidy plainSession plain located found
  obtain ⟨leads, -⟩ := Disk.isDirectory_join tidy plainSession located there
  obtain ⟨names, listing, -, isName⟩ :=
    namesIn_eq_ok (Disk.isFile_of_isDirectory (Disk.isDirectory_of_locate located top))
  have each : ∀ session ∈ names.filter fun name => disk.isDirectory (base.join name),
      listFrom disk base session = .ok ((listFrom disk base session).toOption.getD []) := by
    intro session member
    obtain ⟨_, listed, -⟩ := listFrom_of_isDirectory (List.mem_filter.mp member).2
    rw [listed]
    rfl
  refine ⟨_, listAllFrom_of_names listing each, ?_⟩
  have isSession : session ∈ names.filter fun name => disk.isDirectory (base.join name) :=
    List.mem_filter.mpr ⟨(isName _).mpr ⟨root, _, located, top, inside⟩, there⟩
  rw [List.mem_mergeSort, List.mem_flatten]
  refine ⟨_, List.mem_map_of_mem isSession, ?_⟩
  obtain ⟨handles, listed, members⟩ := listFrom_of_isDirectory there
  rw [listed]
  exact members _ _ _ _ leads inside stands found

/-- The list of all is in the order of the times. -/
theorem sorted_of_listAllFrom (listed : listAllFrom disk base = .ok all) :
    all.Pairwise fun earlier later => earlier.createdAt.le later.createdAt := by
  simp only [listAllFrom, bind, Except.bind] at listed
  split at listed
  · cases listed
  · split at listed
    · cases listed
    · cases listed
      apply List.pairwise_mergeSort
      · exact fun _ _ _ => Timestamp.le_trans
      · exact fun _ _ => Timestamp.le_total _ _

/-! ### Labels -/

theorem resolve_eq_error {host : Host} {e : CheckpointError} :
    resolve base reference host = .error e host ↔
      resolveFrom host.disk base reference = .error e := by
  simp only [resolve, Act.look]
  cases resolveFrom host.disk base reference with
  | ok found => simp
  | error other => simp

section Resolve

variable (listed : listAllFrom disk base = .ok all) (noFile : disk.isFile ⟨reference⟩ = false)
  (noId : ∀ other ∈ all, ¬ reference.toList <+: other.id.toList)

include listed noFile noId

/-- What is neither the path of a file nor the start of an identifier means the last checkpoint of
that label. -/
theorem resolveFrom_of_label : resolveFrom disk base reference =
    match all.reverse.find? fun other => other.label == reference with
    | some handle => .ok handle
    | none => .error (.notFound reference) := by
  have none : (all.filter fun other => reference.toList.isPrefixOf other.id.toList) = [] := by
    apply List.filter_eq_nil_iff.mpr
    intro other isOther
    rw [List.isPrefixOf_iff_prefix]
    exact noId other isOther
  simp only [resolveFrom, noFile, listed, none, bind, Except.bind, Bool.false_eq_true, ↓reduceIte]
  rfl

/-- A label that no checkpoint carries is not found. -/
theorem resolveFrom_unknown (unknown : ∀ other ∈ all, other.label ≠ reference) :
    resolveFrom disk base reference = .error (.notFound reference) := by
  have none : (all.reverse.find? fun other => other.label == reference) = none := by
    apply List.find?_eq_none.mpr
    intro other isOther
    rw [beq_iff_eq]
    exact unknown other (List.mem_reverse.mp isOther)
  rw [resolveFrom_of_label listed noFile noId, none]

/-- The newest checkpoint is found by its label. -/
theorem resolveFrom_newest (member : handle ∈ all) (labelled : handle.label = reference)
    (newest : ∀ other ∈ all, other ≠ handle → other.createdAt.Before handle.createdAt) :
    resolveFrom disk base reference = .ok handle := by
  rw [resolveFrom_of_label listed noFile noId]
  cases found : all.reverse.find? fun other => other.label == reference with
  | none =>
    have unlike := List.find?_eq_none.mp found handle (List.mem_reverse.mpr member)
    exact absurd (beq_iff_eq.mpr labelled) unlike
  | some other =>
    obtain ⟨-, front, back, parts, apart⟩ := List.find?_eq_some_iff_append.mp found
    have isOther : other ∈ all := List.mem_reverse.mp (List.mem_of_find?_eq_some found)
    have among := List.mem_reverse.mpr member
    have sorted := List.pairwise_reverse.mpr (sorted_of_listAllFrom listed)
    rw [parts] at among sorted
    rcases List.mem_append.mp among with before | behind
    · have unlike := apart handle before
      simp [labelled] at unlike
    · rcases List.mem_cons.mp behind with rfl | behind
      · rfl
      · -- What stands behind it in the reversed list is not later.
        have late := List.rel_of_pairwise_cons (List.pairwise_append.mp sorted).2.1 behind
        by_cases same : other = handle
        · rw [same]
        · exact absurd late (newest other isOther same)

end Resolve

/-! ### Paths of no file -/

/-- A path leads out of a directory to where no file is. -/
structure Elsewhere (root : Place) (disk : Disk) (path : Path) (place : Place) : Prop where
  located : disk.locate path = .ok place
  outside : ¬ root <+: place
  noFile : ∀ content, disk.node? place ≠ some (.file content)

namespace Elsewhere

variable {root place : Place} {path : Path}

theorem isFile (elsewhere : Elsewhere root disk path place) : disk.isFile path = false := by
  rw [Disk.isFile, Disk.at?, elsewhere.located]
  dsimp only
  split
  · rename_i content found
    exact absurd found (elsewhere.noFile content)
  · rfl

/-- A save makes no file where such a path leads to. -/
theorem of_save {checkpoints : List Checkpoint} {request : Request} {before after : Host}
    (tidy : Tidy base) (stored : Stored base root checkpoints before.disk) (sound : request.Sound)
    (noSlash : '/' ∉ (before.fresh before.issued).toList)
    (saved : request.save base before = .ok handle after) (tidyPath : Tidy path)
    (elsewhere : Elsewhere root before.disk path place) :
    Elsewhere root after.disk path place := by
  have ready := stored.ready tidy sound.plain noSlash
  obtain ⟨-, deposited⟩ := deposited_of_save ready saved
  refine ⟨deposited.grows.locate tidyPath elsewhere.located, elsewhere.outside, ?_⟩
  apply (deposited.others place _).noFile elsewhere.outside elsewhere.noFile
  rintro rfl
  rw [List.append_assoc] at elsewhere
  exact elsewhere.outside (List.prefix_append _ _)

end Elsewhere

/-! ### Saves -/

section Save

variable {request : Request} {before after : Host} (tidy : Tidy base) (sound : request.Sound)
  (kept : request.session.Kept) (noSlash : '/' ∉ (before.fresh before.issued).toList)
  (shown : (before.clock before.readings).Shown)
  (saved : request.save base before = .ok handle after)

include tidy sound kept noSlash shown saved

/-- A checkpoint that was saved of a session that is kept whole is in the list of all. -/
theorem listed_of_save : Listed after.disk base handle := by
  have isNext : next before ⟨request.session, request.iteration⟩ request.label =
      request.checkpoint before := rfl
  have intact : (request.checkpoint before).flaw? = none := flaw?_new _ _ _ _
  have typed : request.payload.Typed := ⟨sound.session, sound.iteration⟩
  have decodes : (Json.ofText? (request.checkpoint before).toJson.fileText).bind ofJson? =
      some (request.checkpoint before) := decode_next typed kept shown
  obtain ⟨handled, content⟩ := save_eq_ok saved
  rw [isNext] at handled content
  have plain : Plain (request.checkpoint before).fileName :=
    plain_fileName (slash_not_mem_settleLabel request.label) noSlash
  rw [handled, path_handle] at content
  apply listed_of_handleIn? tidy sound.plain plain
  rw [handleIn?_eq_some]
  refine ⟨?_, _, loadFrom_eq_ok.mpr ⟨_, content, decodes, intact⟩, handled.symm⟩
  rw [Path.extension?_join (Path.tidy_join sound.plain base) plain, extension?_fileName plain]

/-- A checkpoint that was saved is found by its label in the form in which it is stored. It must be
newer than all others in the store, and the stored form must be neither the path of a file nor the
start of an identifier. -/
theorem resolve_saved
    (newest : ∀ other, Listed after.disk base other → other ≠ handle →
      other.createdAt.Before handle.createdAt)
    (noFile : after.disk.isFile ⟨settleLabel request.label⟩ = false)
    (noId : ∀ other, Listed after.disk base other →
      ¬ (settleLabel request.label).toList <+: other.id.toList) :
    resolve base (settleLabel request.label) after = .ok handle after := by
  obtain ⟨all, listed, member⟩ := listed_of_save tidy sound kept noSlash shown saved
  have labelled : handle.label = settleLabel request.label := by
    rw [(save_eq_ok saved).1]
    rfl
  refine Act.look_eq_ok.mpr ⟨resolveFrom_newest listed noFile ?_ member labelled ?_, rfl⟩
  · exact fun other isOther => noId other ⟨all, listed, isOther⟩
  · exact fun other isOther => newest other ⟨all, listed, isOther⟩

end Save

end Checkpoint

namespace Sample

open Checkpoint

/-- A second session is saved under the label of the first one as it is stored. -/
def again : Request := ⟨{ nested with id := "t" }, none, "before-review"⟩

theorem sound_again : again.Sound := ⟨sound_other.plain, typed_renamed _, nofun⟩

theorem kept_again : again.session.Kept := ⟨nested_kept.finite, nested_kept.shallow⟩

/-- A session that no file keeps whole is saved under a label that stays as it is. -/
def sunken : Request := ⟨buried, none, "deep"⟩

theorem sound_sunken : sunken.Sound := ⟨sound_tooDeep.plain, sound_tooDeep.session, nofun⟩

theorem short_again_sunken : Short 1 again ∧ Short 0 sunken :=
  ⟨⟨by decide, by decide +kernel⟩, by decide, by decide +kernel⟩

/-- The form in which the labels are stored. -/
theorem settleLabel_review_sunken : settleLabel "before review" = "before-review" ∧
    settleLabel "deep" = "deep" := by
  decide +kernel

theorem settleLabel_again : settleLabel "before-review" = "before-review" := by
  rw [← settleLabel_review_sunken.1, settleLabel_settleLabel]

/-- A first save makes no file beside the store. -/
theorem elsewhere_first {request : Request} {handle : CheckpointHandle} {after : Host} {path : Path}
    {name : String} (sound : request.Sound)
    (saved : request.save shelf tickingHost = .ok handle after) (tidy : Tidy path)
    (located : tickingHost.disk.locate path = .ok [name]) (other : "checkpoints" ≠ name) :
    Elsewhere ["checkpoints"] after.disk path [name] := by
  have start : Elsewhere ["checkpoints"] tickingHost.disk path [name] := by
    refine ⟨located, fun below => other (List.cons_prefix_cons.mp below).1, ?_⟩
    intro content there
    cases there
  exact start.of_save tidy_shelf (holds_of_vacant vacant_tickingHost).stored sound
    (supplies_tickingHost.plain 0 (by decide)) saved tidy

/-- Of two sessions that are saved under one label the second one is found. -/
theorem resolve_saved_again : ∃ first second after, first.label = second.label ∧
    listAllFrom after.disk shelf = .ok [first, second] ∧
      resolve shelf "before-review" after = .ok second after := by
  obtain ⟨first, between, saved, one⟩ := saved_first sound_review short_review_other.1
  obtain ⟨second, after, saved', both⟩ := saved_second one sound_again short_again_sunken.1
  have isFirst : ⟨review, first⟩ ∈ [Saved.mk review first, ⟨again, second⟩] := List.mem_cons_self
  have isSecond : ⟨again, second⟩ ∈ [Saved.mk review first, ⟨again, second⟩] :=
    List.mem_cons_of_mem _ List.mem_cons_self
  have listed : listAllFrom after.disk shelf = .ok [first, second] := by
    have kept : Saves.kept ⟨[⟨review, first⟩, ⟨again, second⟩], after⟩ =
        [⟨review, first⟩, ⟨again, second⟩] := by
      have ofReview : review.session.Kept := nested_kept
      simp only [Saves.kept, List.filter_cons, List.filter_nil, ofReview, kept_again, decide_true,
        ↓reduceIte]
    have listed := both.listAllFrom tidy_shelf supplies_tickingHost le_rfl
    rwa [kept] at listed
  have ofFirst : first.label = settleLabel review.label := both.label isFirst
  have ofSecond : second.label = settleLabel again.label := both.label isSecond
  have members {handle : CheckpointHandle} (member : Listed after.disk shelf handle) :
      handle = first ∨ handle = second := by
    obtain ⟨all, found, member⟩ := member
    cases listed.symm.trans found
    simpa using member
  have shown : (between.clock between.readings).Shown := by
    rw [one.clock, one.readings]
    exact supplies_tickingHost.shown 1 (by decide)
  have noFile : after.disk.isFile ⟨settleLabel again.label⟩ = false := by
    have tidy : Tidy ⟨"before-review"⟩ := Path.tidy_of_last rfl (by decide) (by decide)
    have beside : Elsewhere ["checkpoints"] between.disk ⟨"before-review"⟩ ["before-review"] :=
      elsewhere_first sound_review saved tidy rfl (by decide)
    have none := beside.of_save tidy_shelf one.stored sound_again
      (one.noSlash supplies_tickingHost (by decide)) saved' tidy
    rw [again, settleLabel_again]
    exact none.isFile
  refine ⟨first, second, after, ?_, listed, ?_⟩
  · exact ofFirst.trans
      (settleLabel_review_sunken.1.trans (settleLabel_again.symm.trans ofSecond.symm))
  · rw [← settleLabel_again]
    apply resolve_saved tidy_shelf sound_again kept_again
      (one.noSlash supplies_tickingHost (by decide)) shown saved' _ noFile
    · intro handle member starts
      obtain ⟨i, within, id⟩ : ∃ i < 2, handle.id = numbered i := by
        rcases members member with rfl | rfl
        · obtain ⟨i, within, id, -⟩ := both.supplied _ isFirst
          exact ⟨i, within, by rw [id]; exact congrArg numbered (Nat.zero_add i)⟩
        · obtain ⟨i, within, id, -⟩ := both.supplied _ isSecond
          exact ⟨i, within, by rw [id]; exact congrArg numbered (Nat.zero_add i)⟩
      have label : settleLabel again.label = "before-review" := settleLabel_again
      rw [id, label] at starts
      obtain rfl | rfl : i = 0 ∨ i = 1 := by omega
      · exact absurd starts (by decide)
      · exact absurd starts (by decide)
    · intro handle member other
      have ascending : first.createdAt.Before second.createdAt :=
        List.rel_of_pairwise_cons both.ascending (List.mem_singleton_self second)
      exact (members member).elim (fun same => same ▸ ascending) fun same => absurd same other

/-- The first checkpoint has the first identifier. -/
theorem id_first {request : Request} {handle : CheckpointHandle} {after : Host}
    (holds : Holds shelf ["checkpoints"] tickingHost 1 ⟨[⟨request, handle⟩], after⟩) :
    handle.id = "00000000" := by
  obtain ⟨i, within, id, -⟩ := holds.supplied _ List.mem_cons_self
  obtain rfl : i = 0 := by omega
  exact id.trans (by decide)

/-- A checkpoint is not found by a label that is stored in another form, and not at all when its
file does not keep the session whole. -/
theorem saved_unresolved :
    (∃ handle after, review.Sound ∧ review.save shelf tickingHost = .ok handle after ∧
      listAllFrom after.disk shelf = .ok [handle] ∧ after.disk.isFile ⟨"before review"⟩ = false ∧
      ¬ "before review".toList <+: handle.id.toList ∧
      resolve shelf "before review" after = .error (.notFound "before review") after) ∧
    ∃ handle after, sunken.Sound ∧ sunken.save shelf tickingHost = .ok handle after ∧
      settleLabel "deep" = "deep" ∧ listAllFrom after.disk shelf = .ok [] ∧
      after.disk.isFile ⟨"deep"⟩ = false ∧ ¬ "deep".toList <+: handle.id.toList ∧
      resolve shelf "deep" after = .error (.notFound "deep") after := by
  constructor
  · obtain ⟨handle, after, saved, holds⟩ := saved_first sound_review short_review_other.1
    have listed : listAllFrom after.disk shelf = .ok [handle] := by
      have kept : Saves.kept ⟨[⟨review, handle⟩], after⟩ = [⟨review, handle⟩] := by
        have ofReview : review.session.Kept := nested_kept
        simp only [Saves.kept, List.filter_cons, List.filter_nil, ofReview, decide_true, ↓reduceIte]
      have listed := holds.listAllFrom tidy_shelf supplies_tickingHost (by decide)
      rwa [kept] at listed
    have tidy : Tidy ⟨"before review"⟩ := Path.tidy_of_last rfl (by decide) (by decide)
    have beside : Elsewhere ["checkpoints"] after.disk ⟨"before review"⟩ ["before review"] :=
      elsewhere_first sound_review saved tidy rfl (by decide)
    have noId : ¬ "before review".toList <+: handle.id.toList := by
      rw [id_first holds]
      decide
    have unlike : handle.label ≠ "before review" := by
      have label : handle.label = settleLabel "before review" := holds.label List.mem_cons_self
      rw [label, settleLabel_review_sunken.1]
      decide
    refine ⟨handle, after, sound_review, saved, listed, beside.isFile, noId,
      resolve_eq_error.mpr ?_⟩
    exact resolveFrom_unknown listed beside.isFile (List.forall_mem_singleton.mpr noId)
      (List.forall_mem_singleton.mpr unlike)
  · obtain ⟨handle, after, saved, holds⟩ := saved_first sound_sunken short_again_sunken.2
    have listed : listAllFrom after.disk shelf = .ok [] := by
      have lost : Saves.kept ⟨[⟨sunken, handle⟩], after⟩ = [] := by
        have buried : ¬ sunken.session.Kept := not_kept_buried
        simp only [Saves.kept, List.filter_cons, List.filter_nil, buried, decide_false,
          Bool.false_eq_true, ↓reduceIte]
      have listed := holds.listAllFrom tidy_shelf supplies_tickingHost (by decide)
      rwa [lost] at listed
    have tidy : Tidy ⟨"deep"⟩ := Path.tidy_of_last rfl (by decide) (by decide)
    have beside : Elsewhere ["checkpoints"] after.disk ⟨"deep"⟩ ["deep"] :=
      elsewhere_first sound_sunken saved tidy rfl (by decide)
    have noId : ¬ "deep".toList <+: handle.id.toList := by
      rw [id_first holds]
      decide
    refine ⟨handle, after, sound_sunken, saved, settleLabel_review_sunken.2, listed, beside.isFile,
      noId, resolve_eq_error.mpr ?_⟩
    exact resolveFrom_unknown listed beside.isFile (List.forall_mem_nil _) (List.forall_mem_nil _)

end Sample

end TaskLoop
