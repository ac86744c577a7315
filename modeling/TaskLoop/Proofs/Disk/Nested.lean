import TaskLoop.Proofs.Disk.Listing
import TaskLoop.Proofs.Disk.Locks

/-!
A file in a directory below another. Both directories are made where they are missing, and
whatever the writing comes to, nothing else changes but a file of a temporary name.
-/

set_option autoImplicit false

namespace TaskLoop.Disk

open Act (Ends)
open Host (Spares)
open TaskLoop.Path (Plain Tidy)

variable {before : Host} {base path : Path} {directory name : String} {root place : Place}
  {bytes : List UInt8}

/-! ### One directory -/

theorem makeDirectory_ends (path : Path) (before : Host) :
    Ends (makeDirectory path) before
      (fun _ after => ∃ place, before.disk.locate path = .ok place ∧
        Spares (· = place) before after ∧ before.disk.node? place = none ∧
        after.disk.node? place = some .directory ∧ after.faults <:+ before.faults)
      fun e after => after = { before with faults := before.faults.tail } ∧
        (before.Faulty ∧ e = .noSpace ∨ before.disk.locate path = .error e ∨
          e = .alreadyExists ∧ ∃ place node, before.disk.locate path = .ok place ∧
            before.disk.node? place = some node) := by
  apply step_ends
  · intro e reason
    refine ⟨rfl, reason.imp_right fun refused => ?_⟩
    cases located : before.disk.locate path with
    | error e =>
      simp only [located, bind, Except.bind, Except.error.injEq] at refused
      rw [refused]
      exact .inl rfl
    | ok place =>
      cases stands : before.disk.node? place with
      | none => simp [located, stands, bind, Except.bind] at refused
      | some node =>
        simp only [located, stands, bind, Except.bind, Except.error.injEq] at refused
        exact .inr ⟨refused.symm, place, node, rfl, stands⟩
  · intro disk changed
    simp only [bind, Except.bind] at changed
    split at changed
    · cases changed
    · rename_i place located
      split at changed
      · cases changed
      · rename_i free
        cases changed
        have below : place ≠ [] := by
          apply ne_nil_of_node?
          rw [free]
          exact nofun
        exact ⟨place, located, .put (.inl rfl), free, node?_put_self _ _ below,
          List.tail_suffix _⟩

theorem settle_ends (path : Path) (e : DiskError) (host : Host) :
    Ends (settle path e) host
      (fun _ after => after = host ∧ host.disk.isDirectory path = true)
      fun _ after => after = host ∧ host.disk.isDirectory path = false := by
  apply Ends.bind
  show Ends (if host.disk.isDirectory path = true then pure () else throw e) host _ _
  split
  · rename_i there
    exact ⟨rfl, there⟩
  · rename_i missing
    exact ⟨rfl, Bool.eq_false_iff.mpr missing⟩

/-- A directory is made, or it is there already. -/
def makeOrFind (path : Path) : Act DiskError Unit := tryCatch (makeDirectory path) (settle path)

theorem makeOrFind_ends (located : before.disk.locate path = .ok place)
    (noFile : ∀ content, before.disk.node? place ≠ some (.file content)) :
    Ends (makeOrFind path) before
      (fun _ after => Spares (· = place) before after ∧
        after.disk.node? place = some .directory ∧ after.faults <:+ before.faults)
      fun _ after => (∀ touched, Spares touched before after) ∧ before.Faulty := by
  apply Ends.tryCatch
  apply (makeDirectory_ends path before).mono
  · rintro _ after ⟨_, led, spares, -, made, fewer⟩
    cases located.symm.trans led
    exact ⟨spares, made, fewer⟩
  · rintro e _ ⟨rfl, reason⟩
    apply (settle_ends path e _).mono
    · rintro _ _ ⟨rfl, there⟩
      refine ⟨spends _ _ _, ?_, List.tail_suffix _⟩
      simpa [isDirectory, at?, located] using there
    · rintro _ _ ⟨rfl, missing⟩
      refine ⟨fun _ => spends _ _ _, ?_⟩
      rcases reason with ⟨fault, -⟩ | refused | ⟨-, _, node, led, stands⟩
      · exact fault
      · cases located.symm.trans refused
      · cases located.symm.trans led
        cases node with
        | file content => exact absurd stands (noFile content)
        | directory => simp [isDirectory, at?, located, stands] at missing

/-! ### Two directories -/

/-- A directory above is made only when an attempt finds it missing. -/
theorem makeDirectoriesFrom_found (depth : Nat) (tidy : Tidy path)
    (found : ∀ after, makeDirectory path before ≠ .error .notFound after) :
    makeDirectoriesFrom (depth + 1) path before = makeOrFind path before := by
  have notEmpty := tidy.isEmpty_text
  rw [makeDirectoriesFrom, makeOrFind]
  simp only [notEmpty, Bool.false_eq_true, ↓reduceIte, Act.tryCatch_eq, bind, EStateM.bind]
  cases made : makeDirectory path before with
  | ok _ after => rfl
  | error e after =>
    cases e with
    | notFound => exact absurd made (found after)
    | _ => rfl

theorem makeDirectoriesFrom_missing {above : Path} {between : Host} (depth : Nat)
    (tidy : Tidy path) (parent : path.parent? = some above)
    (missing : makeDirectory path before = .error .notFound between) :
    makeDirectoriesFrom (depth + 1) path before = (do
      makeDirectoriesFrom depth above
      makeOrFind path) between := by
  have notEmpty := tidy.isEmpty_text
  rw [makeDirectoriesFrom]
  simp only [notEmpty, Bool.false_eq_true, ↓reduceIte, Act.tryCatch_eq, bind, EStateM.bind, missing,
    parent]
  rfl

theorem not_notFound_of_locate {after : Host} (located : before.disk.locate path ≠ .error .notFound) :
    makeDirectory path before ≠ .error .notFound after := by
  intro missing
  obtain ⟨-, ⟨-, same⟩ | refused | ⟨same, -⟩⟩ := (makeDirectory_ends path before).of_error missing
  · cases same
  · exact located refused
  · cases same

/-- Two places, one in the other. -/
def Housing (root : Place) (directory : String) (place : Place) : Prop :=
  place = root ∨ place = root ++ [directory]

/-- What the making of a directory in another leaves: both are there. -/
structure Housed (root : Place) (directory : String) (before after : Host) : Prop where
  spares : Spares (Housing root directory) before after
  top : after.disk.node? root = some .directory
  inside : after.disk.node? (root ++ [directory]) = some .directory
  short : ¬ 255 < directory.utf8ByteSize
  faults : after.faults <:+ before.faults

/-- What the making of a directory in another leaves that failed. -/
structure Unhoused (root : Place) (directory : String) (before after : Host) : Prop where
  spares : Spares (Housing root directory) before after
  reason : before.Faulty ∨ 255 < directory.utf8ByteSize

theorem locate_join_missing (tidy : Tidy base) (plain : Plain name)
    (located : before.disk.locate base = .ok root) (free : before.disk.node? root = none) :
    before.disk.locate (base.join name) = .error .notFound := by
  rw [locate_tidy _ tidy] at located
  rw [locate_tidy _ (Path.tidy_join plain base), Path.names_join plain,
    Path.isAbsolute_join plain, follow_append, located]
  simp only [Except.bind, follow, requireDirectory, free]

/-- The inner of two directories is made or found when the outer one is there. -/
theorem makeOrFind_join (tidy : Tidy base) (plain : Plain directory)
    (located : before.disk.locate base = .ok root)
    (top : before.disk.node? root = some .directory)
    (noFile : ∀ content, before.disk.node? (root ++ [directory]) ≠ some (.file content)) :
    Ends (makeOrFind (base.join directory)) before (fun _ => Housed root directory before)
      fun _ => Unhoused root directory before := by
  have leads := locate_join tidy plain located top
  by_cases long : 255 < directory.utf8ByteSize
  · rw [if_pos long] at leads
    apply Ends.tryCatch
    apply (makeDirectory_ends _ before).mono
    · rintro _ after ⟨_, led, -⟩
      cases leads.symm.trans led
    · rintro e _ ⟨rfl, -⟩
      apply (settle_ends _ e _).mono
      · rintro _ _ ⟨rfl, there⟩
        simp [isDirectory, at?, leads] at there
      · rintro _ _ ⟨rfl, -⟩
        exact ⟨spends _ _ _, .inr long⟩
  · rw [if_neg long] at leads
    apply (makeOrFind_ends leads noFile).mono
    · rintro _ after ⟨spares, inside, fewer⟩
      exact ⟨spares.mono fun _ => .inr, spares.grows.directory root top, inside, long, fewer⟩
    · rintro e after ⟨same, fault⟩
      exact ⟨same _, .inl fault⟩

/-- What is left behind a fault that was spent is left behind the whole. -/
theorem Housed.of_spent {after : Host}
    (housed : Housed root directory { before with faults := before.faults.tail } after) :
    Housed root directory before after :=
  ⟨(spends _ before _).trans housed.spares, housed.top, housed.inside, housed.short,
    housed.faults.trans (List.tail_suffix _)⟩

theorem Unhoused.of_spent {after : Host}
    (unhoused : Unhoused root directory { before with faults := before.faults.tail } after) :
    Unhoused root directory before after := by
  refine ⟨(spends _ before _).trans unhoused.spares, unhoused.reason.imp_left ?_⟩
  rintro ⟨count, fault⟩
  exact ⟨count, List.mem_of_mem_tail fault⟩

/-- Both directories are made, one after the other, when the outer one is missing. -/
theorem makeBoth_housed (depth : Nat) (tidy : Tidy base) (plain : Plain directory)
    (located : before.disk.locate base = .ok root) (free : before.disk.node? root = none)
    (noFile : ∀ content, before.disk.node? (root ++ [directory]) ≠ some (.file content)) :
    Ends (do
        makeDirectoriesFrom (depth + 1) base
        makeOrFind (base.join directory)) before
      (fun _ => Housed root directory before) fun _ => Unhoused root directory before := by
  have upper : before.disk.locate base ≠ .error .notFound := by
    rw [located]
    exact nofun
  apply Ends.bind
  rw [Ends, makeDirectoriesFrom_found _ tidy fun _ => not_notFound_of_locate upper]
  apply (makeOrFind_ends located (by simp [free])).mono
  · rintro _ housed ⟨spares, there, fewer⟩
    have above : Spares (Housing root directory) before housed := spares.mono fun _ => .inl
    have noFile' (content : List UInt8) :
        housed.disk.node? (root ++ [directory]) ≠ some (.file content) := by
      rw [spares.nodes _ (by simp)]
      exact noFile content
    apply (makeOrFind_join tidy plain (spares.grows.locate tidy located) there noFile').mono
    · intro _ after done
      exact ⟨above.trans done.spares, done.top, done.inside, done.short, done.faults.trans fewer⟩
    · rintro _ after ⟨spares', reason⟩
      refine ⟨above.trans spares', reason.imp_left ?_⟩
      rintro ⟨count, fault⟩
      exact ⟨count, fewer.subset fault⟩
  · rintro _ after ⟨same, fault⟩
    exact ⟨same _, .inl fault⟩

/-- No directory is made in one that is missing. -/
theorem makeDirectory_missing (leads : before.disk.locate path = .error .notFound) :
    Ends (makeDirectory path) before (fun _ _ => False)
      fun e after => after = { before with faults := before.faults.tail } ∧
        (before.Faulty ∧ e = .noSpace ∨ e = .notFound) := by
  apply (makeDirectory_ends path before).mono
  · rintro _ after ⟨_, led, -⟩
    cases leads.symm.trans led
  · rintro e after ⟨spent, fault | refused | ⟨-, _, _, led, -⟩⟩
    · exact ⟨spent, .inl fault⟩
    · cases leads.symm.trans refused
      exact ⟨spent, .inr rfl⟩
    · cases leads.symm.trans led

/-- Both directories are there when the inner one has been made, or there was a fault or its name
is too long. -/
theorem makeDirectories_housed (tidy : Tidy base) (plain : Plain directory)
    (located : before.disk.locate base = .ok root)
    (top : before.disk.node? root = some .directory ∨ before.disk.node? root = none)
    (noFile : ∀ content, before.disk.node? (root ++ [directory]) ≠ some (.file content)) :
    Ends (makeDirectories (base.join directory)) before (fun _ => Housed root directory before)
      fun _ => Unhoused root directory before := by
  have inner := Path.tidy_join plain base
  rw [makeDirectories]
  rcases top with top | free
  · have lower : before.disk.locate (base.join directory) ≠ .error .notFound := by
      rw [locate_join tidy plain located top]
      intro same
      split at same
      · cases same
      · cases same
    rw [Ends, makeDirectoriesFrom_found _ inner fun _ => not_notFound_of_locate lower]
    exact makeOrFind_join tidy plain located top noFile
  -- The outer one is made first when the attempt at the inner one finds it missing.
  have leads := locate_join_missing tidy plain located free
  cases attempt : makeDirectory (base.join directory) before with
  | ok _ after => exact ((makeDirectory_missing leads).of_ok attempt).elim
  | error e between =>
    obtain ⟨rfl, ⟨fault, rfl⟩ | rfl⟩ := (makeDirectory_missing leads).of_error attempt
    · have found (after : Host) : makeDirectory (base.join directory) before ≠
          .error .notFound after := by
        rw [attempt]
        intro same
        cases same
      rw [Ends, makeDirectoriesFrom_found _ inner found]
      apply Ends.tryCatch
      rw [Ends, attempt]
      apply (settle_ends _ _ _).mono
      · rintro _ _ ⟨rfl, there⟩
        simp [isDirectory, at?, leads] at there
      · rintro _ _ ⟨rfl, -⟩
        exact ⟨spends _ _ _, .inl fault⟩
    · obtain ⟨depth, enough⟩ : ∃ depth, (base.join directory).text.length = depth + 1 := by
        apply Nat.exists_eq_succ_of_ne_zero
        rw [← String.length_toList]
        exact fun none => inner.notEmpty (List.length_eq_zero_iff.mp none)
      have spent : ({ before with faults := before.faults.tail } : Host).disk.locate base = .ok root :=
        located
      rw [enough, Ends, makeDirectoriesFrom_missing _ inner (Path.parent?_join tidy plain) attempt]
      apply (makeBoth_housed depth tidy plain spent free noFile).mono
      · exact fun _ _ => Housed.of_spent
      · exact fun _ _ => Unhoused.of_spent

/-! ### A file in the inner one -/

/-- What stands at a place after the writing of a file in a directory of another: what stood
there, a directory that was missing, or something of a temporary name. -/
inductive Stays (root : Place) (directory name : String) (before after : Disk) (place : Place) :
    Prop where
  | same (same : after.node? place = before.node? place)
  | made (housing : Housing root directory place) (free : before.node? place = none)
    (made : after.node? place = some .directory)
  | temporary (isTemporary : Temporary (root ++ [directory]) name place)
    (noDirectory : after.node? place ≠ some .directory)

theorem Stays.of_same {before between after : Disk}
    (stays : Stays root directory name before between place)
    (same : after.node? place = between.node? place) :
    Stays root directory name before after place := by
  cases stays with
  | same kept => exact .same (same.trans kept)
  | made housing free made => exact .made housing free (same.trans made)
  | temporary isTemporary noDirectory =>
    apply Stays.temporary isTemporary
    rwa [same]

/-- A file is made nowhere but in the outer directory. -/
theorem Stays.noFile {before after : Disk} (stays : Stays root directory name before after place)
    (outside : ¬ root <+: place)
    (noFile : ∀ content, before.node? place ≠ some (.file content)) (content : List UInt8) :
    after.node? place ≠ some (.file content) := by
  cases stays with
  | same same =>
    rw [same]
    exact noFile content
  | made _ _ made =>
    rw [made]
    intro same
    cases same
  | temporary isTemporary _ =>
    obtain ⟨_, rfl⟩ := isTemporary
    rw [List.append_assoc] at outside
    exact absurd (List.prefix_append _ _) outside

theorem stays_of_builds {after : Host} (spares : Spares (Housing root directory) before after)
    (builds : Builds before after) (place : Place) :
    Stays root directory name before.disk after.disk place := by
  by_cases housing : Housing root directory place
  · rcases builds.node? place with same | ⟨free, made⟩
    · exact .same same
    · exact .made housing free made
  · exact .same (spares.nodes place housing)

/-- What the writing of a file in a directory of another leaves. -/
structure Deposited (root : Place) (directory name : String) (bytes : List UInt8)
    (before after : Disk) : Prop where
  grows : Grows before after
  top : after.node? root = some .directory
  inside : after.node? (root ++ [directory]) = some .directory
  free : before.node? (root ++ [directory] ++ [name]) ≠ some .directory
  holds : after.node? (root ++ [directory] ++ [name]) = some (.file bytes)
  shortDirectory : ¬ 255 < directory.utf8ByteSize
  short : ¬ 255 < name.utf8ByteSize
  others : ∀ place, place ≠ root ++ [directory] ++ [name] →
    Stays root directory name before after place

/-- What the writing of a file in a directory of another leaves when it fails, and why it did. -/
structure Undone (root : Place) (directory name : String) (before after : Host) : Prop where
  faults : after.faults <:+ before.faults
  grows : Grows before.disk after.disk
  others : ∀ place, Stays root directory name before.disk after.disk place
  reason : before.Faulty ∨ 255 < directory.utf8ByteSize ∨
    255 < (temporaryName name before.processId).utf8ByteSize ∨
    before.disk.node? (root ++ [directory] ++ [temporaryName name before.processId]) =
      some .directory ∨
    before.disk.node? (root ++ [directory] ++ [name]) = some .directory

theorem writeAtomic_nested (tidy : Tidy base) (plainDirectory : Plain directory)
    (plain : Plain name) (located : before.disk.locate base = .ok root)
    (top : before.disk.node? root = some .directory ∨ before.disk.node? root = none)
    (noFile : ∀ content, before.disk.node? (root ++ [directory]) ≠ some (.file content)) :
    Ends (writeAtomic ((base.join directory).join name) bytes) before
      (fun _ after => Deposited root directory name bytes before.disk after.disk ∧
        after.faults <:+ before.faults)
      fun _ => Undone root directory name before := by
  have inner := Path.tidy_join plainDirectory base
  rw [writeAtomic_join inner plain]
  apply Ends.bind
  apply Ends.within
  apply (((makeDirectories_housed tidy plainDirectory located top noFile).and
    (makeDirectoriesFrom_builds _ _ before)).and
    (makeDirectoriesFrom_keeps (fun _ _ _ => rfl : Act.Blind Host.processId) _ _ before)).mono
  · rintro _ housed ⟨⟨there, builds⟩, process⟩
    have stays : ∀ place, Stays root directory name before.disk housed.disk place :=
      stays_of_builds there.spares builds
    have leads : housed.disk.locate (base.join directory) = .ok (root ++ [directory]) := by
      rw [locate_join tidy plainDirectory (there.spares.grows.locate tidy located) there.top,
        if_neg there.short]
    have inFile (other : String) : housed.disk.node? (root ++ [directory] ++ [other]) =
        before.disk.node? (root ++ [directory] ++ [other]) := by
      apply there.spares.nodes
      simp [Housing]
    apply (fill_ends inner plain leads there.inside).mono
    · intro _ after filled
      have grows := there.spares.grows.trans filled.spares.grows
      refine ⟨⟨grows, filled.spares.grows.directory _ there.top,
        filled.spares.grows.directory _ there.inside, ?_, filled.holds, there.short,
        filled.short, ?_⟩, filled.faults.trans there.faults⟩
      · rw [← inFile]
        exact filled.free
      · intro place apart
        by_cases temporary : place = root ++ [directory] ++ [temporaryName name housed.processId]
        · subst temporary
          apply Stays.temporary ⟨_, rfl⟩
          rw [filled.temporary]
          exact nofun
        · exact (stays place).of_same (filled.spares.nodes place (not_or.mpr ⟨temporary, apart⟩))
    · intro _ after spoilt
      refine ⟨spoilt.faults.trans there.faults, there.spares.grows.trans spoilt.spares.grows, ?_, ?_⟩
      · intro place
        by_cases temporary : place = root ++ [directory] ++ [temporaryName name housed.processId]
        · subst temporary
          rcases spoilt.temporary with same | ⟨content, holds⟩
          · exact (stays _).of_same same
          · apply Stays.temporary ⟨_, rfl⟩
            rw [holds]
            exact nofun
        · exact (stays place).of_same (spoilt.spares.nodes place temporary)
      · have reason := spoilt.reason
        rw [inFile, inFile, process] at reason
        rcases reason with ⟨count, fault⟩ | blocked
        · exact .inl ⟨count, builds.faults.subset fault⟩
        · exact .inr (.inr blocked)
  · rintro e after ⟨⟨failed, builds⟩, -⟩
    exact ⟨builds.faults, failed.spares.grows, stays_of_builds failed.spares builds,
      failed.reason.imp_right .inl⟩

/-! ### A file in any directory -/

/-- What stands at a place after the writing of a file in a directory, wherever that is: what stood
there, a directory that was missing on the way, or something of a temporary name. -/
inductive Beside (base : Path) (name : String) (before after : Disk) (place : Place) : Prop where
  | same (same : after.node? place = before.node? place)
  | made (onWay : ∃ other, base.Passes other ∧ place = before.destination other)
    (free : before.node? place = none) (made : after.node? place = some .directory)
  | temporary (isTemporary : Temporary (before.destination base) name place)
    (noDirectory : after.node? place ≠ some .directory)

theorem Beside.of_same {before between after : Disk}
    (beside : Beside base name before between place)
    (same : after.node? place = between.node? place) : Beside base name before after place := by
  cases beside with
  | same kept => exact .same (same.trans kept)
  | made onWay free made => exact .made onWay free (same.trans made)
  | temporary isTemporary noDirectory =>
    apply Beside.temporary isTemporary
    rwa [same]

theorem beside_of_buildsWay {after : Host} (way : BuildsWay base before after) (place : Place) :
    Beside base name before.disk after.disk place := by
  rcases way.node? place with same | ⟨⟨free, made⟩, onWay⟩
  · exact .same same
  · exact .made onWay free made

theorem makeDirectories_isDirectory (tidy : Tidy base) : Ends (makeDirectories base) before
    (fun _ after => after.disk.isDirectory base = true) fun _ _ => True := by
  rw [Ends]
  split
  · rename_i made
    exact (makeDirectoriesFrom_eq_ok made).2 tidy
  · trivial

/-- The writing of a file in a directory leaves what stands elsewhere, whatever it comes to, and the
file is where its path leads when it comes to its end. -/
theorem writeAtomic_beside (tidy : Tidy base) (plain : Plain name) :
    Ends (writeAtomic (base.join name) bytes) before
      (fun _ after =>
        after.disk.locate (base.join name) = .ok (before.disk.destination base ++ [name]) ∧
        ∀ place, place ≠ before.disk.destination base ++ [name] →
          Beside base name before.disk after.disk place)
      fun _ after => ∀ place, Beside base name before.disk after.disk place := by
  rw [writeAtomic_join tidy plain]
  apply Ends.bind
  apply Ends.within
  apply ((makeDirectoriesFrom_buildsWay _ _ before).and (makeDirectories_isDirectory tidy)).mono
  · rintro _ housed ⟨way, there⟩
    obtain ⟨root, leads, directory⟩ := locate_of_isDirectory there
    have isRoot : root = before.disk.destination base :=
      (locate_eq_ok leads).trans (destination_of_workingDir base way.workingDir)
    subst isRoot
    have beside : ∀ place, Beside base name before.disk housed.disk place := beside_of_buildsWay way
    apply (fill_ends tidy plain leads directory).mono
    · intro _ after filled
      constructor
      · rw [locate_join tidy plain (filled.spares.grows.locate tidy leads)
          (filled.spares.grows.directory _ directory), if_neg filled.short]
      · intro place apart
        by_cases temporary : place =
            before.disk.destination base ++ [temporaryName name housed.processId]
        · subst temporary
          apply Beside.temporary ⟨_, rfl⟩
          rw [filled.temporary]
          exact nofun
        · exact (beside place).of_same (filled.spares.nodes place (not_or.mpr ⟨temporary, apart⟩))
    · intro _ after spoilt place
      by_cases temporary : place =
          before.disk.destination base ++ [temporaryName name housed.processId]
      · subst temporary
        rcases spoilt.temporary with same | ⟨content, holds⟩
        · exact (beside _).of_same same
        · apply Beside.temporary ⟨_, rfl⟩
          rw [holds]
          exact nofun
      · exact (beside place).of_same (spoilt.spares.nodes place temporary)
  · rintro _ _ ⟨way, -⟩
    exact beside_of_buildsWay way

end TaskLoop.Disk
