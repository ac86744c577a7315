import TaskLoop.Proofs.Disk.Append

/-!
What work on files leaves alone even when it fails. It takes no lock and gives none back, and a
file that could not be replaced is as it was.
-/

set_option autoImplicit false

namespace TaskLoop

open Act (Ends)

/-! ### Locks -/

namespace Act

variable {ε ε' β γ : Type}

/-- The work leaves a view of the host as it is, well done or not. -/
def Keeps {δ : Type} (view : Host → δ) (act : Act ε β) : Prop := ∀ before,
  act.Ends before (fun _ after => view after = view before)
    fun _ after => view after = view before

namespace Keeps

variable {δ : Type} {view : Host → δ}

theorem of_ok {act : Act ε β} {before after : Host} {value : β} (keeps : act.Keeps view)
    (ran : act before = .ok value after) : view after = view before := (keeps before).of_ok ran

theorem of_error {act : Act ε β} {before after : Host} {e : ε} (keeps : act.Keeps view)
    (ran : act before = .error e after) : view after = view before := by
  have ends := keeps before
  rwa [Ends, ran] at ends

theorem pure (value : β) : (Pure.pure value : Act ε β).Keeps view := fun _ => rfl

theorem throw (e : ε) : (MonadExcept.throw e : Act ε β).Keeps view := fun _ => rfl

theorem get : (MonadState.get : Act ε Host).Keeps view := fun _ => rfl

theorem files : (Host.files : Act ε Disk).Keeps view := fun _ => rfl

theorem bind {act : Act ε β} {next : β → Act ε γ} (first : act.Keeps view)
    (rest : ∀ value, (next value).Keeps view) : (act >>= next).Keeps view := by
  intro before
  refine Ends.bind ((first before).mono (fun value between same => ?_) fun _ _ => id)
  exact (rest value between).mono (fun _ _ later => later.trans same) fun _ _ later =>
    later.trans same

theorem tryCatch {act : Act ε β} {handler : ε → Act ε β} (first : act.Keeps view)
    (rest : ∀ e, (handler e).Keeps view) : (tryCatch act handler).Keeps view := by
  intro before
  refine Ends.tryCatch ((first before).mono (fun _ _ => id) fun e between same => ?_)
  exact (rest e between).mono (fun _ _ later => later.trans same) fun _ _ later =>
    later.trans same

theorem mapError {act : Act ε β} (keeps : act.Keeps view) (change : ε → ε') :
    (act.mapError change).Keeps view := by
  intro before
  have ends := keeps before
  simp only [Ends, Act.mapError] at ends ⊢
  cases ran : act before with
  | ok value after =>
    rw [ran] at ends
    exact ends
  | error e after =>
    rw [ran] at ends
    exact ends

theorem look (see : Disk → Except ε β) : (Act.look see).Keeps view := by
  intro before
  simp only [Ends, Act.look]
  cases see before.disk <;> rfl

end Keeps

/-- A view of a host that shows neither its files nor the faults to come. -/
def Blind {δ : Type} (view : Host → δ) : Prop := ∀ host disk faults,
  view { host with disk := disk, faults := faults } = view host

section Views

variable {δ : Type} {view : Host → δ} (blind : Blind view)

include blind

theorem Keeps.step (change : Disk → Except DiskError Disk) : (Host.step change).Keeps view :=
  fun before => Disk.step_ends (fun _ _ => blind before before.disk _) fun _ _ => blind _ _ _

theorem Keeps.writeBytes (place : Place) (bytes : List UInt8) :
    (Host.writeBytes place bytes).Keeps view := by
  intro before
  simp only [Ends, Host.writeBytes]
  cases before.faults.head?.join with
  | none => exact blind _ _ _
  | some count => exact blind _ _ _

end Views

/-- The work leaves the locks as they are, well done or not. -/
def KeepsLocks (act : Act ε β) : Prop := act.Keeps Host.locked

end Act

namespace Disk

open Act (Blind Keeps KeepsLocks)
open Host (Spares)
open TaskLoop.Path (Plain Tidy)

section Views

variable {δ : Type} {view : Host → δ} (blind : Blind view)

/-- What follows an attempt to make a directory that did not succeed: it may be there already. -/
def settle (path : Path) (e : DiskError) : Act DiskError Unit := do
  if (← Host.files).isDirectory path then pure () else throw e

theorem settle_keeps (path : Path) (e : DiskError) : (settle path e).Keeps view := by
  apply Keeps.bind Keeps.files
  intro disk
  split
  · exact Keeps.pure ()
  · exact Keeps.throw e

include blind

theorem makeDirectoriesFrom_keeps (depth : Nat) (path : Path) :
    (makeDirectoriesFrom depth path).Keeps view := by
  induction depth generalizing path with
  | zero => exact Keeps.throw _
  | succ depth ih =>
    have made (path : Path) : (makeDirectory path).Keeps view := Keeps.step blind _
    rw [makeDirectoriesFrom]
    split
    · exact Keeps.pure ()
    · have attempt : (tryCatch (do makeDirectory path; pure none) (pure ∘ some) :
          Act DiskError (Option DiskError)).Keeps view :=
        Keeps.tryCatch (Keeps.bind (made path) fun _ => Keeps.pure _) fun _ =>
          Keeps.pure _
      apply Keeps.bind attempt
      intro first
      cases first with
      | none => exact Keeps.pure ()
      | some e =>
        cases e with
        | notFound =>
          dsimp only
          cases path.parent? with
          | none => exact Keeps.throw _
          | some parent =>
            apply Keeps.bind (ih parent)
            intro _
            exact Keeps.tryCatch (made path) fun e => settle_keeps path e
        | _ => exact settle_keeps path _

theorem createFile_keeps (path : Path) : (createFile path).Keeps view := by
  apply Keeps.bind (Keeps.look _)
  intro place
  exact Keeps.bind (Keeps.step blind _) fun _ => Keeps.pure _

/-- A file is replaced without a change of what such a view shows, or not replaced. -/
theorem writeAtomic_keeps (path : Path) (bytes : List UInt8) :
    (writeAtomic path bytes).Keeps view := by
  unfold writeAtomic
  have made (parent : Path) (doing : String) : ((makeDirectories parent).within doing).Keeps view :=
    (makeDirectoriesFrom_keeps blind _ _).mapError _
  cases path.parent? with
  | none => exact fun _ => rfl
  | some parent =>
    cases path.fileName? with
    | none =>
      simp only [pure_bind]
      exact Keeps.bind (made parent _) fun _ _ => rfl
    | some name =>
      simp only [pure_bind]
      refine Keeps.bind (made parent _) fun _ => ?_
      refine Keeps.bind Keeps.get fun host => ?_
      refine Keeps.bind ((createFile_keeps blind _).mapError _) fun place => ?_
      refine Keeps.bind ((Keeps.writeBytes blind _ _).mapError _) fun _ => ?_
      refine Keeps.bind ((Keeps.step blind _).mapError _) fun _ => ?_
      exact (Keeps.step blind _).mapError _

end Views

theorem writeAtomic_keepsLocks (path : Path) (bytes : List UInt8) :
    (writeAtomic path bytes).KeepsLocks := writeAtomic_keeps (fun _ _ _ => rfl) path bytes

/-! ### Replacements that fail -/

variable {before after : Host} {base : Path} {name : String} {root : Place} {bytes : List UInt8}

/-- The place of a file that a name is written under before it is put in its place. -/
def Temporary (root : Place) (name : String) (place : Place) : Prop :=
  ∃ processId, place = root ++ [temporaryName name processId]

theorem spends (touched : Place → Prop) (host : Host) (faults : List (Option Nat)) :
    Spares touched host { host with faults := faults } :=
  ⟨rfl, rfl, .refl _, fun _ _ => rfl⟩

/-- How the file of a lock is opened: it is made if there is none. -/
def opening (place : Place) (disk : Disk) : Except DiskError Disk :=
  match disk.node? place with
  | some .directory => .error .isDirectory
  | some (.file _) => .ok disk
  | none => .ok (disk.put place (.file []))

/-- A lock is taken if no one has it, and only its file is touched. -/
theorem lock_ends {path : Path} {place : Place} (located : before.disk.locate path = .ok place) :
    Ends (Host.lock path) before
      (fun taken after => Spares (· = place) before after ∧ match taken with
        | some found =>
          found = place ∧ place ∉ before.locked ∧ after.locked = place :: before.locked
        | none => after.locked = before.locked)
      fun _ after => Spares (· = place) before after ∧ after.locked = before.locked := by
  have opens : Ends (Host.step (opening place)) before
      (fun _ after => Spares (· = place) before after ∧ after.locked = before.locked)
      fun _ after => Spares (· = place) before after ∧ after.locked = before.locked := by
    refine step_ends (fun _ _ => ⟨spends _ _ _, rfl⟩) fun disk changed => ⟨?_, rfl⟩
    rw [opening] at changed
    split at changed
    · cases changed
    · cases changed
      exact spends _ _ _
    · rename_i free
      cases changed
      refine .put (.inr ?_)
      simp [free]
  simp only [Ends, Host.lock, located]
  cases ran : Host.step _ before with
  | error e opened => exact Ends.of_error opens ran
  | ok _ opened =>
    obtain ⟨spares, kept⟩ := Ends.of_ok opens ran
    dsimp only
    by_cases taken : opened.locked.contains place = true
    · rw [if_pos taken]
      exact ⟨spares, kept⟩
    · rw [if_neg taken]
      refine ⟨⟨spares.clock, spares.fresh, spares.grows, spares.nodes⟩, rfl, ?_, congrArg _ kept⟩
      rw [← kept]
      exact fun held => taken (List.contains_iff_mem.mpr held)

/-- Making a directory that is there changes no file, whatever it comes to. -/
theorem makeDirectories_there {touched : Place → Prop} (tidy : Tidy base)
    (located : before.disk.locate base = .ok root)
    (directory : before.disk.node? root = some .directory) :
    Ends (makeDirectories base) before (fun _ => Spares touched before)
      fun _ => Spares touched before := by
  have notEmpty := tidy.isEmpty_text
  have spent := spends touched before before.faults.tail
  rw [makeDirectories, makeDirectoriesFrom]
  simp only [notEmpty, Bool.false_eq_true, ↓reduceIte]
  rcases makeDirectory_located located with ⟨free, -⟩ | ⟨e, found, failed⟩
  · rw [directory] at free
    cases free
  · refine Ends.bind (Ends.tryCatch (Ends.bind ?_))
    simp only [Ends, failed]
    show Ends _ { before with faults := before.faults.tail } _ _
    cases e with
    | notFound => exact absurd rfl found
    | _ =>
      refine Ends.bind ?_
      show Ends (if _ then pure () else throw _) _ _ _
      split
      · exact spent
      · exact spent

/-- A file is made without content, or nothing has changed. -/
theorem createFile_ends (touched : Place → Prop) (path : Path) (host : Host) :
    Ends (createFile path) host
      (fun place after => host.disk.locate path = .ok place ∧ Spares (· = place) host after ∧
        after.disk.node? place = some (.file []) ∧ after.faults <:+ host.faults)
      fun _ after => (Spares touched host after ∧ after.faults <:+ host.faults) ∧ (host.Faulty ∨
        ∀ place, host.disk.locate path = .ok place → host.disk.node? place = some .directory) := by
  apply Ends.bind
  cases located : host.disk.locate path with
  | error e =>
    simp only [Ends, Act.look, located]
    refine ⟨⟨.refl host, List.suffix_refl _⟩, .inr fun _ same => ?_⟩
    cases same
  | ok place =>
    simp only [Ends, Act.look, located]
    apply Ends.bind
    apply step_ends
    · intro e reason
      refine ⟨⟨spends touched host _, List.tail_suffix _⟩,
        reason.imp And.left fun refused _ same => ?_⟩
      cases same
      split at refused
      · assumption
      · cases refused
    · intro disk changed
      split at changed
      · cases changed
      · rename_i free
        cases changed
        exact ⟨rfl, .put (.inr free), node?_put_self _ _ (ne_nil_of_node? free),
          List.tail_suffix _⟩

/-- The making of a file beside the one it replaces, behind the making of its directory. -/
def fill (base : Path) (name : String) (bytes : List UInt8) : Act Failure Unit := do
  let processId := (← get).processId
  let temporary := base.join (temporaryName name processId)
  let place ← (createFile temporary).within s!"Failed to create temp file: {temporary.text}"
  (Host.writeBytes place bytes).within s!"Failed to write temp file: {temporary.text}"
  (Host.step .ok).within s!"Failed to sync temp file: {temporary.text}"
  (renameFile place (base.join name)).within s!"Failed to replace {(base.join name).text}"

theorem writeAtomic_join (tidy : Tidy base) (plain : Plain name) (bytes : List UInt8) :
    writeAtomic (base.join name) bytes = (do
      (makeDirectories base).within s!"Failed to create directory: {base.text}"
      fill base name bytes) := by
  rw [writeAtomic, Path.parent?_join tidy plain, Path.fileName?_join tidy plain]
  simp only [pure_bind]
  rfl

theorem utf8ByteSize_le_temporaryName (name : String) (processId : Nat) :
    name.utf8ByteSize ≤ (temporaryName name processId).utf8ByteSize := by
  have text : temporaryName name processId = "." ++ name ++ "." ++ toString processId ++ ".tmp" := rfl
  simp only [text, String.utf8ByteSize_append]
  omega

/-- What a replacement leaves that failed behind the making of the directory: the files as they
were, and perhaps one of the temporary name. -/
structure Spoilt (root : Place) (name : String) (before after : Host) : Prop where
  spares : Spares (· = root ++ [temporaryName name before.processId]) before after
  faults : after.faults <:+ before.faults
  temporary : after.disk.node? (root ++ [temporaryName name before.processId]) =
      before.disk.node? (root ++ [temporaryName name before.processId]) ∨
    ∃ content, after.disk.node? (root ++ [temporaryName name before.processId]) =
      some (.file content)
  reason : before.Faulty ∨ 255 < (temporaryName name before.processId).utf8ByteSize ∨
    before.disk.node? (root ++ [temporaryName name before.processId]) = some .directory ∨
    before.disk.node? (root ++ [name]) = some .directory

/-- What a replacement leaves that came to its end: the file, and none of the temporary name. -/
structure Filled (root : Place) (name : String) (bytes : List UInt8) (before after : Host) :
    Prop where
  spares : Spares (fun place => place = root ++ [temporaryName name before.processId] ∨
    place = root ++ [name]) before after
  faults : after.faults <:+ before.faults
  temporary : after.disk.node? (root ++ [temporaryName name before.processId]) = none
  free : before.disk.node? (root ++ [name]) ≠ some .directory
  holds : after.disk.node? (root ++ [name]) = some (.file bytes)
  short : ¬ 255 < name.utf8ByteSize

/-- A file is put under another name in its directory, or nothing has changed. -/
theorem renameFile_ends {source : String} (tidy : Tidy base) (plain : Plain name)
    (located : before.disk.locate base = .ok root)
    (directory : before.disk.node? root = some .directory) (apart : source ≠ name)
    (holds : before.disk.node? (root ++ [source]) = some (.file bytes)) :
    Ends (renameFile (root ++ [source]) (base.join name)) before
      (fun _ after => before.disk.node? (root ++ [name]) ≠ some .directory ∧
        ¬ 255 < name.utf8ByteSize ∧
        Spares (fun place => place = root ++ [source] ∨ place = root ++ [name]) before after ∧
        after.disk.node? (root ++ [source]) = none ∧
        after.disk.node? (root ++ [name]) = some (.file bytes) ∧ after.faults <:+ before.faults)
      fun _ after => ((∀ touched, Spares touched before after) ∧ after.faults <:+ before.faults) ∧
        (before.Faulty ∨ 255 < name.utf8ByteSize ∨
          before.disk.node? (root ++ [name]) = some .directory) := by
  have leads := locate_join tidy plain located directory
  have trimmed := (Path.tidy_join plain base).trimmed
  have other : root ++ [source] ≠ root ++ [name] := by simp [apart]
  have noDirectory : before.disk.node? (root ++ [source]) ≠ some .directory := by simp [holds]
  apply step_ends
  · intro e reason
    refine ⟨⟨fun touched => spends touched before _, List.tail_suffix _⟩, ?_⟩
    rcases reason with ⟨fault, -⟩ | refused
    · exact .inl fault
    rw [leads] at refused
    split at refused
    · rename_i long
      exact .inr (.inl long)
    · simp only [bind, Except.bind, holds, trimmed, BEq.rfl, ↓reduceIte] at refused
      split at refused
      · rename_i occupied
        exact .inr (.inr occupied)
      · cases refused
      · rename_i gone _
        cases gone
  · intro disk changed
    rw [leads] at changed
    split at changed
    · cases changed
    · rename_i short
      simp only [bind, Except.bind, holds, trimmed, BEq.rfl, ↓reduceIte] at changed
      split at changed
      · cases changed
      · rename_i node found free
        cases found
        cases changed
        have moved : (before.disk.remove (root ++ [source])).node? (root ++ [name]) ≠
            some .directory := node?_remove_ne_directory free
        refine ⟨free, short, ⟨rfl, rfl, ?_, fun place apart => ?_⟩, ?_, ?_, List.tail_suffix _⟩
        · exact (Grows.remove noDirectory).trans (.put _ (.inr moved))
        · rw [not_or] at apart
          exact (node?_put_of_ne _ _ apart.2).trans (node?_remove_of_ne _ apart.1)
        · exact (node?_put_of_ne _ _ other).trans (node?_remove_self _ (by simp))
        · exact node?_put_self _ _ (by simp)
      · rename_i gone _
        cases gone

/-- A replacement on its way: the file of the temporary name has a content, and nothing else has
changed. -/
structure Begun (root : Place) (name : String) (content : List UInt8) (before host : Host) :
    Prop where
  spares : Spares (· = root ++ [temporaryName name before.processId]) before host
  faults : host.faults <:+ before.faults
  holds : host.disk.node? (root ++ [temporaryName name before.processId]) = some (.file content)

section Begun

variable {host : Host} {content : List UInt8}

theorem Begun.faulty (begun : Begun root name content before host) (fault : host.Faulty) :
    before.Faulty := by
  obtain ⟨count, fault⟩ := fault
  exact ⟨count, begun.faults.subset fault⟩

theorem Begun.spent (begun : Begun root name content before host) :
    Begun root name content before { host with faults := host.faults.tail } :=
  ⟨begun.spares.trans (spends _ _ _), (List.tail_suffix _).trans begun.faults, begun.holds⟩

theorem Begun.put (begun : Begun root name content before host) (content' : List UInt8) :
    Begun root name content' before { host with
      faults := host.faults.tail
      disk := host.disk.put (root ++ [temporaryName name before.processId]) (.file content') } := by
  have free : host.disk.node? (root ++ [temporaryName name before.processId]) ≠
      some .directory := by simp [begun.holds]
  exact ⟨begun.spares.trans (.put (.inr free)), (List.tail_suffix _).trans begun.faults,
    node?_put_self _ _ (ne_nil_of_node? free)⟩

/-- The file of the temporary name stays when the replacement goes no further. -/
theorem Begun.spoilt (begun : Begun root name content before host)
    (reason : before.Faulty ∨ 255 < (temporaryName name before.processId).utf8ByteSize ∨
      before.disk.node? (root ++ [name]) = some .directory) : Spoilt root name before host :=
  ⟨begun.spares, begun.faults, .inr ⟨content, begun.holds⟩, reason.imp_right (.imp_right .inr)⟩

/-- The file of the temporary name is made, unless there is a fault or it cannot be one. -/
theorem createTemporary_ends (tidy : Tidy base) (plain : Plain name)
    (located : before.disk.locate base = .ok root)
    (directory : before.disk.node? root = some .directory) :
    Ends (createFile (base.join (temporaryName name before.processId))) before
      (fun place after => place = root ++ [temporaryName name before.processId] ∧
        Begun root name [] before after)
      fun _ => Spoilt root name before := by
  have plainTemporary := plain_temporaryName plain before.processId
  apply (createFile_ends (fun _ => False) _ before).mono
  · rintro place created ⟨led, spared, empty, fewer⟩
    obtain ⟨_, found, -, rfl, -⟩ := locate_join_eq_ok tidy plainTemporary led
    cases located.symm.trans found
    exact ⟨rfl, spared, fewer, empty⟩
  · rintro e after ⟨⟨spares, fewer⟩, reason⟩
    refine ⟨spares.mono fun _ => False.elim, fewer, .inl (spares.nodes _ id),
      reason.imp_right ?_⟩
    intro blocked
    rw [locate_join tidy plainTemporary located directory] at blocked
    split at blocked
    · rename_i long
      exact .inl long
    · exact .inr (.inl (blocked _ rfl))

theorem writeTemporary_ends (begun : Begun root name [] before host) :
    Ends (Host.writeBytes (root ++ [temporaryName name before.processId]) bytes) host
      (fun _ => Begun root name bytes before) fun _ => Spoilt root name before := by
  apply writeBytes_ends begun.holds
  · intro count fault
    exact (begun.put _).spoilt (.inl (begun.faulty ⟨count, fault⟩))
  · exact begun.put _

theorem syncTemporary_ends (begun : Begun root name bytes before host) :
    Ends (Host.step .ok) host (fun _ => Begun root name bytes before)
      fun _ => Spoilt root name before := by
  apply step_ends
  · rintro e (⟨fault, -⟩ | refused)
    · exact begun.spent.spoilt (.inl (begun.faulty fault))
    · cases refused
  · rintro _ ⟨⟩
    exact begun.spent

/-- The file of the temporary name is put in place of the other, or stays. -/
theorem placeTemporary_ends (tidy : Tidy base) (plain : Plain name)
    (located : before.disk.locate base = .ok root)
    (directory : before.disk.node? root = some .directory)
    (begun : Begun root name bytes before host) :
    Ends (renameFile (root ++ [temporaryName name before.processId]) (base.join name)) host
      (fun _ => Filled root name bytes before) fun _ => Spoilt root name before := by
  have other : temporaryName name before.processId ≠ name := temporaryName_ne name before.processId
  have kept := begun.spares.nodes (root ++ [name]) (by simp [other.symm])
  apply (renameFile_ends tidy plain (begun.spares.grows.locate tidy located)
    (begun.spares.grows.directory root directory) other begun.holds).mono
  · rintro _ after ⟨vacant, short, moved, gone, holds, later⟩
    rw [kept] at vacant
    exact ⟨(begun.spares.mono fun _ => .inl).trans moved, later.trans begun.faults, gone, vacant,
      holds, short⟩
  · rintro e after ⟨⟨same, later⟩, reason⟩
    have left : Begun root name bytes before after := ⟨begun.spares.trans (same _),
      later.trans begun.faults, ((same fun _ => False).nodes _ id).trans begun.holds⟩
    apply left.spoilt
    rcases reason with fault | long | occupied
    · exact .inl (begun.faulty fault)
    · exact .inr (.inl (Nat.lt_of_lt_of_le long (utf8ByteSize_le_temporaryName _ _)))
    · exact .inr (.inr (kept.symm.trans occupied))

end Begun

/-- A file of a temporary name is made, filled and put in place of the other. -/
theorem fill_ends (tidy : Tidy base) (plain : Plain name)
    (located : before.disk.locate base = .ok root)
    (directory : before.disk.node? root = some .directory) :
    Ends (fill base name bytes) before (fun _ => Filled root name bytes before)
      fun _ => Spoilt root name before := by
  apply Ends.get
  apply Ends.bind
  apply Ends.within
  apply (createTemporary_ends tidy plain located directory).mono _ fun _ _ => id
  rintro _ created ⟨rfl, begun⟩
  apply Ends.bind
  apply Ends.within
  apply (writeTemporary_ends begun).mono _ fun _ _ => id
  intro _ written begun
  apply Ends.bind
  apply Ends.within
  apply (syncTemporary_ends begun).mono _ fun _ _ => id
  intro _ synced begun
  apply Ends.within
  exact placeTemporary_ends tidy plain located directory begun

/-- A file that could not be replaced is as it was, and so is every other that has no temporary
name. -/
theorem writeAtomic_ends (tidy : Tidy base) (plain : Plain name)
    (located : before.disk.locate base = .ok root)
    (directory : before.disk.node? root = some .directory) :
    Ends (writeAtomic (base.join name) bytes) before (fun _ _ => True)
      fun _ => Spares (Temporary root name) before := by
  rw [writeAtomic_join tidy plain]
  apply Ends.bind
  apply Ends.within
  apply (makeDirectories_there tidy located directory).mono
  · intro _ housed kept
    apply (fill_ends tidy plain (kept.grows.locate tidy located)
      (kept.grows.directory root directory)).mono
    · exact fun _ _ _ => trivial
    · intro e after spoilt
      exact kept.trans (spoilt.spares.mono fun _ same => ⟨_, same⟩)
  · exact fun _ _ => id

/-! ### Additions -/

/-- A file is opened, or nothing has changed. -/
theorem openFile_spares (touched : Place → Prop) (path : Path) (host : Host) :
    Ends (openFile path) host
      (fun found after => host.disk.locate path = .ok found.1 ∧
        Spares (· = found.1) host after ∧ after.disk.node? found.1 = some (.file found.2))
      fun _ => Spares touched host := by
  refine Ends.bind ?_
  cases located : host.disk.locate path with
  | error e =>
    simp only [Ends, Act.look, located]
    exact .refl host
  | ok place =>
    simp only [Ends, Act.look, located]
    refine Ends.bind (step_ends (fun _ _ => spends touched host _) fun disk changed => ?_)
    refine Ends.bind ?_
    cases stands : host.disk.node? place with
    | none =>
      rw [stands] at changed
      cases changed
      have free : host.disk.node? place ≠ some .directory := by simp [stands]
      have made : (host.disk.put place (.file [])).node? place = some (.file []) :=
        node?_put_self _ _ (ne_nil_of_node? free)
      simp only [Ends, Host.files, made]
      exact ⟨rfl, .put (.inr free), made⟩
    | some node =>
      cases node with
      | directory =>
        rw [stands] at changed
        cases changed
      | file content =>
        rw [stands] at changed
        cases changed
        simp only [Ends, Host.files, stands]
        exact ⟨rfl, spends _ _ _, stands⟩

/-- A file that is added to is the only one that changes, whatever that comes to. -/
theorem appendLine_spares {line : List UInt8} (tidy : Tidy base) (plain : Plain name)
    (located : before.disk.locate base = .ok root)
    (directory : before.disk.node? root = some .directory) :
    Ends (appendLine (base.join name) line) before (fun _ => Spares (· = root ++ [name]) before)
      fun _ => Spares (· = root ++ [name]) before := by
  simp only [appendLine, makeParent, Path.parent?_join tidy plain]
  refine Ends.bind (Ends.within ((makeDirectories_there tidy located directory).mono
    (fun _ housed kept => ?_) fun _ _ => id))
  refine Ends.bind (Ends.within ((openFile_spares _ _ housed).mono ?_ fun _ _ => kept.trans))
  rintro ⟨place, content⟩ opened ⟨led, spared, holds⟩
  obtain ⟨_, found, -, same, -⟩ := locate_join_eq_ok tidy plain led
  cases (kept.grows.locate tidy located).symm.trans found
  subst same
  have made := kept.trans spared
  -- What is written is behind what the file then holds.
  have writes {host : Host} {content : List UInt8}
      (spares : Spares (· = root ++ [name]) before host)
      (holds : host.disk.node? (root ++ [name]) = some (.file content)) :
      Ends ((Host.writeBytes (root ++ [name]) (line ++ [10])).within
          s!"Failed to append to {(base.join name).text}") host
        (fun _ => Spares (· = root ++ [name]) before)
        fun _ => Spares (· = root ++ [name]) before := by
    have free : host.disk.node? (root ++ [name]) ≠ some .directory := by simp [holds]
    exact Ends.within (writeBytes_ends holds (fun _ _ => spares.trans (.put (.inr free)))
      (spares.trans (.put (.inr free))))
  dsimp only
  split
  · have free : opened.disk.node? (root ++ [name]) ≠ some .directory := by simp [holds]
    refine Ends.bind (Ends.within (step_ends (fun _ _ => made.trans (spends _ _ _)) ?_))
    rintro _ ⟨⟩
    exact writes (made.trans (.put (.inr free))) (node?_put_self _ _ (ne_nil_of_node? free))
  · exact writes made holds

end Disk

end TaskLoop
