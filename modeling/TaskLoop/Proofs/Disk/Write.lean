import TaskLoop.Disk.Write
import TaskLoop.Proofs.Decimal.Digits
import TaskLoop.Proofs.Disk.Places

/-!
What writing leaves as it was. A file that is replaced, or gets a line more, leaves every other
file alone, and what was a directory stays one.
-/

set_option autoImplicit false

namespace TaskLoop

/-! ### Work on a host -/

namespace Act

variable {ε ε' β γ : Type}

/-- The host that work leaves, well done or not. -/
def final (act : Act ε β) (before : Host) : Host :=
  match act before with
  | .ok _ after => after
  | .error _ after => after

theorem tryCatch_eq (act : Act ε β) (handler : ε → Act ε β) (before : Host) :
    tryCatch act handler before =
      match act before with
      | .ok value after => .ok value after
      | .error e after => handler e after := by
  show EStateM.tryCatch act handler before = _
  delta EStateM.tryCatch
  dsimp only
  cases act before with
  | ok value after => rfl
  | error e after => rfl

/-- Work in two parts comes to its end when both do. -/
theorem bind_eq_ok {act : Act ε β} {next : β → Act ε γ} {before after : Host} {value : γ} :
    (act >>= next) before = .ok value after ↔
      ∃ first between, act before = .ok first between ∧ next first between = .ok value after := by
  simp only [bind, EStateM.bind]
  constructor
  · intro done
    split at done
    · rename_i first between ran
      exact ⟨first, between, ran, done⟩
    · cases done
  · rintro ⟨first, between, ran, done⟩
    rw [ran]
    exact done

theorem mapError_eq_ok {change : ε → ε'} {act : Act ε β} {before after : Host} {value : β} :
    act.mapError change before = .ok value after ↔ act before = .ok value after := by
  simp only [mapError]
  constructor
  · intro done
    split at done
    · rename_i ran
      cases done
      exact ran
    · cases done
  · intro ran
    rw [ran]

theorem mapError_eq_error {change : ε → ε'} {act : Act ε β} {before after : Host} {e : ε'}
    (failed : act.mapError change before = .error e after) :
    ∃ e', act before = .error e' after := by
  simp only [mapError] at failed
  split at failed
  · cases failed
  · rename_i ran
    cases failed
    exact ⟨_, ran⟩

theorem bind_eq_error {act : Act ε β} {next : β → Act ε γ} {before after : Host} {e : ε}
    (failed : (act >>= next) before = .error e after) : act before = .error e after ∨
      ∃ value between, act before = .ok value between ∧ next value between = .error e after := by
  simp only [bind, EStateM.bind] at failed
  split at failed
  · exact .inr ⟨_, _, ‹_›, failed⟩
  · rename_i ran
    cases failed
    exact .inl ran

theorem within_eq_ok {doing : String} {act : Act DiskError β} {before after : Host} {value : β} :
    act.within doing before = .ok value after ↔ act before = .ok value after :=
  mapError_eq_ok

theorem look_eq_ok {view : Disk → Except ε β} {before after : Host} {value : β} :
    look view before = .ok value after ↔ view before.disk = .ok value ∧ after = before := by
  simp only [look]
  constructor
  · intro done
    split at done
    · rename_i seen
      cases done
      exact ⟨seen, rfl⟩
    · cases done
  · rintro ⟨seen, rfl⟩
    rw [seen]

theorem pure_eq_ok {before after : Host} {value result : β} :
    (pure value : Act ε β) before = .ok result after ↔ value = result ∧ before = after := by
  simp only [pure, EStateM.pure, EStateM.Result.ok.injEq]

end Act

/-- One host is what the other came to be: it has the same clock and the same identifiers to
issue, its directories are still there, and so is all but what was touched. -/
structure Host.Spares (touched : Place → Prop) (before after : Host) : Prop where
  clock : after.clock = before.clock
  fresh : after.fresh = before.fresh
  grows : Disk.Grows before.disk after.disk
  nodes : ∀ place, ¬ touched place → after.disk.node? place = before.disk.node? place

namespace Host.Spares

variable {touched touched' : Place → Prop} {first second third : Host}

theorem refl (host : Host) : Spares touched host host :=
  ⟨rfl, rfl, .refl _, fun _ _ => rfl⟩

theorem trans (one : Spares touched first second) (two : Spares touched second third) :
    Spares touched first third :=
  ⟨two.clock.trans one.clock, two.fresh.trans one.fresh, one.grows.trans two.grows,
    fun place free => (two.nodes place free).trans (one.nodes place free)⟩

theorem mono (spares : Spares touched first second)
    (more : ∀ place, touched place → touched' place) : Spares touched' first second :=
  ⟨spares.clock, spares.fresh, spares.grows,
    fun place free => spares.nodes place fun once => free (more place once)⟩

end Host.Spares

namespace Host

variable {before after : Host}

/-- Only one place is touched when something is put there that takes no directory away. -/
theorem Spares.put {place : Place} {node : Node} {faults : List (Option Nat)}
    (free : node = .directory ∨ before.disk.node? place ≠ some .directory) :
    Spares (· = place) before
      { before with faults := faults, disk := before.disk.put place node } :=
  ⟨rfl, rfl, .put _ free, fun _ apart => Disk.node?_put_of_ne _ _ apart⟩

theorem step_eq_ok {change : Disk → Except DiskError Disk}
    (done : step change before = .ok () after) :
    ∃ disk, change before.disk = .ok disk ∧
      after = { before with faults := before.faults.tail, disk := disk } := by
  simp only [step] at done
  split at done
  · cases done
  · split at done
    · rename_i changed
      cases done
      exact ⟨_, changed, rfl⟩
    · cases done

/-- A step that changes nothing leaves the disk as it is. -/
theorem disk_of_step {touched : Place → Prop} (done : step .ok before = .ok () after) :
    Spares touched before after ∧ after.disk = before.disk := by
  obtain ⟨_, same, rfl⟩ := step_eq_ok done
  cases same
  exact ⟨⟨rfl, rfl, .refl _, fun _ _ => rfl⟩, rfl⟩

/-- Bytes are written behind what the file holds. -/
theorem writeBytes_eq_ok {place : Place} {bytes content : List UInt8}
    (holds : before.disk.node? place = some (.file content))
    (done : writeBytes place bytes before = .ok () after) :
    Spares (· = place) before after ∧
      after.disk.node? place = some (.file (content ++ bytes)) := by
  have free : before.disk.node? place ≠ some .directory := by
    rw [holds]
    exact nofun
  simp only [writeBytes, holds] at done
  split at done
  · cases done
  · cases done
    exact ⟨.put (.inr free), Disk.node?_put_self _ _ (Disk.ne_nil_of_node? free)⟩

end Host

namespace Disk

open TaskLoop.Path (Plain Tidy)
open Host (Spares)

variable {before after : Host}

/-! ### Directories -/

/-- Making a directory whose place is known: there was nothing and now it is there, or it fails
for another reason than a missing way. -/
theorem makeDirectory_located {path : Path} {place : Place}
    (located : before.disk.locate path = .ok place) :
    (before.disk.node? place = none ∧ makeDirectory path before = .ok () { before with
        faults := before.faults.tail
        disk := before.disk.put place .directory }) ∨
      ∃ e, e ≠ .notFound ∧
        makeDirectory path before = .error e { before with faults := before.faults.tail } := by
  rw [makeDirectory]
  simp only [Host.step]
  split
  · exact .inr ⟨_, DiskError.noConfusion, rfl⟩
  · simp only [bind, Except.bind, located]
    cases stands : before.disk.node? place with
    | none => exact .inl ⟨rfl, rfl⟩
    | some node => exact .inr ⟨_, DiskError.noConfusion, rfl⟩

/-- A directory whose place is known is there when it has been made, and nothing else has
changed. -/
theorem makeDirectories_eq_ok {path : Path} {place : Place} (tidy : Tidy path)
    (located : before.disk.locate path = .ok place)
    (done : makeDirectories path before = .ok () after) :
    Spares (· = place) before after ∧ after.disk.node? place = some .directory := by
  have notEmpty := tidy.isEmpty_text
  rw [makeDirectories, makeDirectoriesFrom] at done
  simp only [notEmpty, Bool.false_eq_true, ↓reduceIte] at done
  obtain ⟨first, between, ran, done⟩ := Act.bind_eq_ok.mp done
  rcases makeDirectory_located located with ⟨free, made⟩ | ⟨e, found, failed⟩
  · simp only [Act.tryCatch_eq, bind, EStateM.bind, made] at ran
    cases ran
    cases done
    refine ⟨⟨rfl, rfl, Grows.put _ (.inl rfl), fun other apart => node?_put_of_ne _ _ apart⟩, ?_⟩
    by_cases top : place = []
    · subst top
      rfl
    · exact node?_put_self _ _ top
  · simp only [Act.tryCatch_eq, bind, EStateM.bind, failed] at ran
    cases ran
    have settled : ((do
        if (← Host.files).isDirectory path then pure () else throw e : Act DiskError Unit)
          { before with faults := before.faults.tail }) = .ok () after := by
      revert done
      cases e <;> first | exact absurd rfl found | exact id
    simp only [bind, EStateM.bind, Host.files] at settled
    split at settled
    · rename_i directory
      cases settled
      have stands : before.disk.node? place = some .directory := by
        rw [isDirectory, at?, located] at directory
        exact eq_of_beq directory
      exact ⟨⟨rfl, rfl, .refl _, fun _ _ => rfl⟩, stands⟩
    · cases settled

/-- Making a directory adds it, or leaves the files as they are. -/
theorem makeDirectory_spares (path : Path) (host : Host) :
    Spares (fun _ => True) host (Act.final (makeDirectory path) host) := by
  rw [makeDirectory, Act.final, Host.step]
  split
  · rename_i done
    split at done
    · cases done
    · split at done
      · rename_i changed
        cases done
        simp only [bind, Except.bind] at changed
        split at changed
        · cases changed
        · split at changed
          · cases changed
          · cases changed
            exact (Spares.put (.inl rfl)).mono fun _ _ => trivial
      · cases done
  · rename_i failed
    split at failed
    · cases failed
      exact ⟨rfl, rfl, .refl _, fun _ _ => rfl⟩
    · split at failed
      · cases failed
      · cases failed
        exact ⟨rfl, rfl, .refl _, fun _ _ => rfl⟩

/-- A directory that has been made is there. -/
theorem makeDirectory_eq_ok {path : Path} (tidy : Tidy path)
    (done : makeDirectory path before = .ok () after) : after.disk.isDirectory path = true := by
  obtain ⟨disk, changed, rfl⟩ := Host.step_eq_ok done
  simp only [bind, Except.bind] at changed
  split at changed
  · cases changed
  · rename_i place located
    split at changed
    · cases changed
    · rename_i free
      cases changed
      have grows : Grows before.disk (before.disk.put place .directory) := .put _ (.inl rfl)
      have below : place ≠ [] := ne_nil_of_node? (by rw [free]; exact nofun)
      rw [isDirectory, at?, grows.locate tidy located]
      exact beq_iff_eq.mpr (node?_put_self _ _ below)

/-- What an attempt to make a directory came to, its error kept. -/
theorem attempt_makeDirectory {path : Path} {first : Option DiskError}
    (ran : (tryCatch (do makeDirectory path; pure none) (pure ∘ some) :
      Act DiskError (Option DiskError)) before = .ok first after) :
    Spares (fun _ => True) before after ∧
      (first = none → Tidy path → after.disk.isDirectory path = true) := by
  have spares := makeDirectory_spares path before
  simp only [Act.tryCatch_eq, bind, EStateM.bind, Act.final] at ran spares
  cases made : makeDirectory path before with
  | ok _ between =>
    rw [made] at ran spares
    cases ran
    exact ⟨spares, fun _ tidy => makeDirectory_eq_ok tidy made⟩
  | error e between =>
    rw [made] at ran spares
    cases ran
    exact ⟨spares, fun absent => by cases absent⟩

/-- An error is settled by a directory that is there. -/
theorem settle_eq_ok {path : Path} {e : DiskError}
    (done : (do if (← Host.files).isDirectory path then pure () else throw e :
      Act DiskError Unit) before = .ok () after) :
    after = before ∧ before.disk.isDirectory path = true := by
  simp only [bind, EStateM.bind, Host.files] at done
  split at done
  · rename_i directory
    cases done
    exact ⟨rfl, directory⟩
  · cases done

/-- A directory is made, or the error is settled by the one that is there. -/
theorem makeOrSettle_eq_ok {path : Path}
    (done : (tryCatch (makeDirectory path) fun e => do
      if (← Host.files).isDirectory path then pure () else throw e : Act DiskError Unit) before =
        .ok () after) :
    Spares (fun _ => True) before after ∧ (Tidy path → after.disk.isDirectory path = true) := by
  have spares := makeDirectory_spares path before
  rw [Act.final] at spares
  simp only [Act.tryCatch_eq] at done
  cases made : makeDirectory path before with
  | ok _ _ =>
    rw [made] at done spares
    cases done
    exact ⟨spares, fun tidy => makeDirectory_eq_ok tidy made⟩
  | error e _ =>
    rw [made] at done spares
    obtain ⟨rfl, directory⟩ := settle_eq_ok done
    exact ⟨spares, fun _ => directory⟩

theorem makeDirectoriesFrom_eq_ok {depth : Nat} {path : Path}
    (done : makeDirectoriesFrom depth path before = .ok () after) :
    Spares (fun _ => True) before after ∧ (Tidy path → after.disk.isDirectory path = true) := by
  induction depth generalizing path before after with
  | zero => cases done
  | succ depth ih =>
    rw [makeDirectoriesFrom] at done
    split at done
    · rename_i empty
      cases done
      refine ⟨.refl _, fun tidy => absurd ?_ tidy.notEmpty⟩
      rw [String.isEmpty_iff.mp empty]
      rfl
    · obtain ⟨first, between, ran, done⟩ := Act.bind_eq_ok.mp done
      obtain ⟨spares, made⟩ := attempt_makeDirectory ran
      cases first with
      | none =>
        cases done
        exact ⟨spares, made rfl⟩
      | some e =>
        by_cases missing : e = .notFound
        · subst missing
          revert done
          cases path.parent? with
          | none => exact nofun
          | some parent =>
            intro done
            obtain ⟨_, housed, above, done⟩ := Act.bind_eq_ok.mp done
            obtain ⟨last, directory⟩ := makeOrSettle_eq_ok done
            exact ⟨(spares.trans (ih above).1).trans last, directory⟩
        · have settling : ((do
              if (← Host.files).isDirectory path then pure () else throw e : Act DiskError Unit)
                between) = .ok () after := by
            revert done
            cases e <;> first | exact absurd rfl missing | exact id
          obtain ⟨rfl, directory⟩ := settle_eq_ok settling
          exact ⟨spares, fun _ => directory⟩

/-- A directory that has been made in another has a name that is not too long. -/
theorem locate_of_makeDirectories {base : Path} {name : String} {root : Place} (tidy : Tidy base)
    (plain : Plain name) (located : before.disk.locate base = .ok root)
    (directory : before.disk.node? root = some .directory)
    (done : makeDirectories (base.join name) before = .ok () after) :
    before.disk.locate (base.join name) = .ok (root ++ [name]) := by
  obtain ⟨spares, made⟩ := makeDirectoriesFrom_eq_ok done
  have leads := made (Path.tidy_join plain base)
  rw [isDirectory, at?] at leads
  rw [locate_join tidy plain located directory]
  rw [locate_join tidy plain (spares.grows.locate tidy located)
    (spares.grows.directory root directory)] at leads
  split at leads
  · rename_i place led
    split at led
    · cases led
    · rename_i short
      rw [if_neg short]
  · cases leads

/-! ### Files -/

/-- A file that has been made has no content. -/
theorem createFile_eq_ok {path : Path} {place : Place}
    (done : createFile path before = .ok place after) :
    before.disk.locate path = .ok place ∧ Spares (· = place) before after ∧
      after.disk.node? place = some (.file []) := by
  obtain ⟨_, _, looked, opened⟩ := Act.bind_eq_ok.mp done
  obtain ⟨located, rfl⟩ := Act.look_eq_ok.mp looked
  obtain ⟨_, _, ran, answered⟩ := Act.bind_eq_ok.mp opened
  obtain ⟨rfl, rfl⟩ := Act.pure_eq_ok.mp answered
  obtain ⟨disk, changed, rfl⟩ := Host.step_eq_ok ran
  split at changed
  · cases changed
  · rename_i free
    cases changed
    exact ⟨located, .put (.inr free), node?_put_self _ _ (ne_nil_of_node? free)⟩

/-- A file whose content has been replaced has the new one. -/
theorem refill_eq_ok {place : Place} {content other : List UInt8}
    (holds : before.disk.node? place = some (.file content))
    (done : Host.step (fun disk => .ok (disk.put place (.file other))) before = .ok () after) :
    Spares (· = place) before after ∧ after.disk.node? place = some (.file other) := by
  have free : before.disk.node? place ≠ some .directory := by
    rw [holds]
    exact nofun
  obtain ⟨disk, changed, rfl⟩ := Host.step_eq_ok done
  cases changed
  exact ⟨.put (.inr free), node?_put_self _ _ (ne_nil_of_node? free)⟩

/-- A file that has been put under another path is found there. -/
theorem renameFile_eq_ok {source : Place} {target : Path} {content : List UInt8}
    (holds : before.disk.node? source = some (.file content))
    (done : renameFile source target before = .ok () after) :
    ∃ place, before.disk.locate target = .ok place ∧
      Spares (fun other => other = source ∨ other = place) before after ∧
      after.disk.node? place = some (.file content) := by
  obtain ⟨disk, changed, rfl⟩ := Host.step_eq_ok done
  simp only [bind, Except.bind] at changed
  split at changed
  · cases changed
  · rename_i place located
    simp only [holds] at changed
    split at changed
    · cases changed
    · rename_i node found free
      cases found
      split at changed
      case isFalse => cases changed
      cases changed
      have moved : (before.disk.remove source).node? place ≠ some .directory :=
        node?_remove_ne_directory free
      have noDirectory : before.disk.node? source ≠ some .directory := by
        rw [holds]
        exact nofun
      refine ⟨place, located, ⟨rfl, rfl, ?_, fun other apart => ?_⟩, ?_⟩
      · exact (Grows.remove noDirectory).trans (.put _ (.inr moved))
      · rw [not_or] at apart
        exact (node?_put_of_ne _ _ apart.2).trans (node?_remove_of_ne _ apart.1)
      · exact node?_put_self _ _ (ne_nil_of_node? free)
    · rename_i none _
      cases none

/-- The name under which a file of a name is written before it is put in its place. -/
def temporaryName (name : String) (processId : Nat) : String := s!".{name}.{processId}.tmp"

theorem toList_temporaryName (name : String) (processId : Nat) :
    (temporaryName name processId).toList =
      '.' :: name.toList ++ '.' :: Decimal.digitsOf processId ++ ['.', 't', 'm', 'p'] := by
  have digits : (toString processId).toList = Decimal.digitsOf processId := Nat.toList_repr
  simp only [temporaryName, String.toList_append, digits, List.append_assoc]
  rfl

theorem plain_temporaryName {name : String} (plain : Plain name) (processId : Nat) :
    Plain (temporaryName name processId) := by
  have text := toList_temporaryName name processId
  refine Plain.of_long ?_ ?_
  · rw [text]
    simp only [List.length_append, List.length_cons, List.length_nil]
    omega
  · rw [text]
    intro member
    simp only [List.cons_append, List.mem_cons, List.mem_append, List.not_mem_nil] at member
    rcases member with same | (member | same | member) | same | same | same | same | member
    · exact absurd same (by decide)
    · exact plain.noSlash member
    · exact absurd same (by decide)
    · exact absurd (Decimal.isDigit_digitsOf '/' member) (by decide)
    · exact absurd same (by decide)
    · exact absurd same (by decide)
    · exact absurd same (by decide)
    · exact absurd same (by decide)
    · exact member

theorem extension?_temporaryName {name : String} (plain : Plain name) (processId : Nat) :
    (Path.mk (temporaryName name processId)).extension? = some "tmp" := by
  have text := toList_temporaryName name processId
  rw [Path.extension?_plain (plain_temporaryName plain processId) text (by simp) (by decide)]

theorem temporaryName_ne (name : String) (processId : Nat) : temporaryName name processId ≠ name := by
  intro same
  have text := toList_temporaryName name processId
  have length := congrArg List.length (same ▸ text)
  simp only [List.length_append, List.length_cons] at length
  omega

/-- What a file that is replaced lets change: it, its directory when that is new, and a file of
its temporary name. -/
def Replacing (root : Place) (name : String) (place : Place) : Prop :=
  place = root ∨ place = root ++ [name] ∨
    ∃ processId, place = root ++ [temporaryName name processId]

/-- The directory of a file that has been replaced has been made. -/
theorem makeDirectories_of_writeAtomic {base : Path} {name : String} {bytes : List UInt8}
    (tidy : Tidy base) (plain : Plain name)
    (done : writeAtomic (base.join name) bytes before = .ok () after) :
    ∃ housed, makeDirectories base before = .ok () housed := by
  rw [writeAtomic, Path.parent?_join tidy plain] at done
  simp only [pure_bind] at done
  obtain ⟨_, housed, making, -⟩ := Act.bind_eq_ok.mp done
  exact ⟨housed, Act.within_eq_ok.mp making⟩

/-- A file that has been replaced holds the new content. -/
theorem writeAtomic_eq_ok {base : Path} {name : String} {root : Place} {bytes : List UInt8}
    (tidy : Tidy base) (plain : Plain name) (located : before.disk.locate base = .ok root)
    (done : writeAtomic (base.join name) bytes before = .ok () after) :
    Spares (Replacing root name) before after ∧
      after.disk.locate (base.join name) = .ok (root ++ [name]) ∧
      after.disk.node? (root ++ [name]) = some (.file bytes) := by
  rw [writeAtomic, Path.parent?_join tidy plain, Path.fileName?_join tidy plain] at done
  simp only [pure_bind] at done
  obtain ⟨_, housed, making, made⟩ := Act.bind_eq_ok.mp done
  obtain ⟨process, _, got, named⟩ := Act.bind_eq_ok.mp made
  cases got
  obtain ⟨place, created, creating, opened⟩ := Act.bind_eq_ok.mp named
  obtain ⟨_, written, writing, filled⟩ := Act.bind_eq_ok.mp opened
  obtain ⟨_, synced, syncing, renamed⟩ := Act.bind_eq_ok.mp filled
  obtain ⟨kept, -⟩ := makeDirectories_eq_ok tidy located (Act.within_eq_ok.mp making)
  have housedRoot := kept.grows.locate tidy located
  -- The content is written under a temporary name.
  obtain ⟨led, spared, empty⟩ := createFile_eq_ok (Act.within_eq_ok.mp creating)
  obtain ⟨_, found, -, rfl, -⟩ :=
    locate_join_eq_ok tidy (plain_temporaryName plain housed.processId) led
  cases housedRoot.symm.trans found
  obtain ⟨added, holds⟩ := Host.writeBytes_eq_ok empty (Act.within_eq_ok.mp writing)
  obtain ⟨kept', same⟩ := Host.disk_of_step (Act.within_eq_ok.mp syncing)
  rw [← same] at holds
  -- Then the file is put in its place.
  obtain ⟨target, reached, replaced, stands⟩ :=
    renameFile_eq_ok holds (Act.within_eq_ok.mp renamed)
  have writtenRoot := added.grows.locate tidy (spared.grows.locate tidy housedRoot)
  rw [← same] at writtenRoot
  obtain ⟨_, found, -, rfl, -⟩ := locate_join_eq_ok tidy plain reached
  cases writtenRoot.symm.trans found
  have atTemporary (place : Place)
      (same : place = root ++ [temporaryName name housed.processId]) :
      Replacing root name place := .inr (.inr ⟨_, same⟩)
  have whole := (kept.mono fun _ => .inl).trans ((spared.mono atTemporary).trans
    ((added.mono atTemporary).trans (kept'.trans (replaced.mono fun place touched => ?_))))
  · exact ⟨whole, replaced.grows.locate (Path.tidy_join plain base) reached, stands⟩
  · exact touched.elim (atTemporary place) fun same => .inr (.inl same)

/-- A file that has been put in its place is read as it was written, wherever it lies. -/
theorem read_writeAtomic {path : Path} {bytes : List UInt8} (tidy : Tidy path)
    (done : writeAtomic path bytes before = .ok () after) : after.disk.read path = .ok bytes := by
  rw [writeAtomic] at done
  cases parent : path.parent? with
  | none =>
    rw [parent] at done
    cases done
  | some parent =>
  cases named : path.fileName? with
  | none =>
    simp only [parent, named, pure_bind] at done
    obtain ⟨_, _, -, failed⟩ := Act.bind_eq_ok.mp done
    cases failed
  | some name =>
  simp only [parent, named, pure_bind] at done
  obtain ⟨_, _, -, made⟩ := Act.bind_eq_ok.mp done
  obtain ⟨_, _, -, numbered⟩ := Act.bind_eq_ok.mp made
  obtain ⟨place, created, creating, opened⟩ := Act.bind_eq_ok.mp numbered
  obtain ⟨_, written, writing, filled⟩ := Act.bind_eq_ok.mp opened
  obtain ⟨_, synced, syncing, renamed⟩ := Act.bind_eq_ok.mp filled
  obtain ⟨-, -, empty⟩ := createFile_eq_ok (Act.within_eq_ok.mp creating)
  obtain ⟨-, holds⟩ := Host.writeBytes_eq_ok empty (Act.within_eq_ok.mp writing)
  obtain ⟨-, same⟩ : Spares (fun _ => True) written synced ∧ synced.disk = written.disk :=
    Host.disk_of_step (Act.within_eq_ok.mp syncing)
  rw [← same] at holds
  obtain ⟨target, reached, replaced, stands⟩ :=
    renameFile_eq_ok holds (Act.within_eq_ok.mp renamed)
  exact read_eq_ok.mpr ⟨target, replaced.grows.locate tidy reached, stands⟩

/-- A file that gets a line more is touched, and its directory when that is new. -/
theorem appendLine_eq_ok {base : Path} {name : String} {root : Place} {line : List UInt8}
    (tidy : Tidy base) (plain : Plain name) (located : before.disk.locate base = .ok root)
    (done : appendLine (base.join name) line before = .ok () after) :
    Spares (fun place => place = root ∨ place = root ++ [name]) before after := by
  rw [appendLine] at done
  obtain ⟨_, housed, making, done⟩ := Act.bind_eq_ok.mp done
  rw [makeParent, Path.parent?_join tidy plain] at making
  obtain ⟨kept, directory⟩ := makeDirectories_eq_ok tidy located (Act.within_eq_ok.mp making)
  obtain ⟨⟨place, content⟩, opened, opening, adding⟩ := Act.bind_eq_ok.mp done
  obtain ⟨target, seen, looked, found⟩ := Act.bind_eq_ok.mp (Act.within_eq_ok.mp opening)
  obtain ⟨led, same⟩ := Act.look_eq_ok.mp looked
  subst seen
  obtain ⟨_, reached, -, rfl, -⟩ := locate_join_eq_ok tidy plain led
  cases (kept.grows.locate tidy located).symm.trans reached
  obtain ⟨_, stepped, ran, answered⟩ := Act.bind_eq_ok.mp found
  have added : Spares (· = root ++ [name]) housed stepped := by
    obtain ⟨disk, changed, rfl⟩ := Host.step_eq_ok ran
    split at changed
    · cases changed
    · cases changed
      exact ⟨rfl, rfl, .refl _, fun _ _ => rfl⟩
    · rename_i free
      cases changed
      refine .put (.inr ?_)
      rw [free]
      exact nofun
  obtain ⟨_, _, got, answered⟩ := Act.bind_eq_ok.mp answered
  cases got
  have whole : place = root ++ [name] ∧ stepped.disk.node? place = some (.file content) ∧
      opened = stepped := by
    revert answered
    cases stands : stepped.disk.node? (root ++ [name]) with
    | none => exact nofun
    | some node =>
      cases node with
      | directory => exact nofun
      | file _ =>
        intro answered
        obtain ⟨same, rfl⟩ := Act.pure_eq_ok.mp answered
        cases same
        exact ⟨rfl, stands, rfl⟩
  obtain ⟨rfl, holds, rfl⟩ := whole
  refine (kept.mono fun _ => .inl).trans (Spares.mono (added.trans ?_) fun _ => .inr)
  -- What is torn is cut off before the line is added.
  dsimp only at adding
  split at adding
  · obtain ⟨_, shortened, cutting, adding⟩ := Act.bind_eq_ok.mp adding
    obtain ⟨cut, stands⟩ := refill_eq_ok holds (Act.within_eq_ok.mp cutting)
    exact cut.trans (Host.writeBytes_eq_ok stands (Act.within_eq_ok.mp adding)).1
  · exact (Host.writeBytes_eq_ok holds (Act.within_eq_ok.mp adding)).1

/-! ### Files written in place -/

/-- A file that has been written in place is read as it was written. -/
theorem read_writeFile {path : Path} {bytes : List UInt8} (tidy : Tidy path)
    (done : writeFile path bytes before = .ok () after) : after.disk.read path = .ok bytes := by
  obtain ⟨place, created, creating, writing⟩ := Act.bind_eq_ok.mp done
  obtain ⟨located, made, empty⟩ := createFile_eq_ok creating
  obtain ⟨written, holds⟩ := Host.writeBytes_eq_ok empty writing
  exact read_eq_ok.mpr ⟨place, (made.trans written).grows.locate tidy located, holds⟩

/-- A file is made, or emptied, just when its path leads to a place without a directory and the
step goes well. -/
theorem createFile_eq_ok_iff {path : Path} {place : Place} :
    createFile path before = .ok place after ↔ before.faults.head?.join = none ∧
      before.disk.locate path = .ok place ∧ before.disk.node? place ≠ some .directory ∧
      after = { before with
        faults := before.faults.tail
        disk := before.disk.put place (.file []) } := by
  constructor
  · intro done
    obtain ⟨_, between, looked, opened⟩ := Act.bind_eq_ok.mp done
    obtain ⟨located, same⟩ := Act.look_eq_ok.mp looked
    subst between
    obtain ⟨_, _, ran, answered⟩ := Act.bind_eq_ok.mp opened
    obtain ⟨rfl, rfl⟩ := Act.pure_eq_ok.mp answered
    have well : before.faults.head?.join = none := by
      cases fault : before.faults.head?.join with
      | none => rfl
      | some count =>
        simp only [Host.step, fault] at ran
        cases ran
    obtain ⟨disk, changed, same⟩ := Host.step_eq_ok ran
    split at changed
    · cases changed
    · rename_i free
      cases changed
      exact ⟨well, located, free, same⟩
  · rintro ⟨well, located, free, rfl⟩
    have looked : Act.look (fun disk => disk.locate path) before = .ok place before :=
      Act.look_eq_ok.mpr ⟨located, rfl⟩
    refine Act.bind_eq_ok.mpr ⟨place, before, looked, ?_⟩
    refine Act.bind_eq_ok.mpr ⟨(), _, ?_, Act.pure_eq_ok.mpr ⟨rfl, rfl⟩⟩
    simp only [Host.step, well]

/-- A file can be written in place just when its path leads to one, or to where one can be, and
both steps go well. -/
theorem exists_writeFile {path : Path} {bytes : List UInt8} :
    (∃ after, writeFile path bytes before = .ok () after) ↔
      (∀ fault ∈ before.faults.take 2, fault = none) ∧
        ∃ place, before.disk.locate path = .ok place ∧ before.disk.node? place ≠ some .directory := by
  have steps : (∀ fault ∈ before.faults.take 2, fault = none) ↔
      before.faults.head?.join = none ∧ before.faults.tail.head?.join = none := by
    match before.faults with
    | [] => simp
    | [first] => simp
    | first :: second :: rest => simp
  have writes (place : Place) (host : Host) : (∃ after, Host.writeBytes place bytes host = .ok () after) ↔
      host.faults.head?.join = none := by
    simp only [Host.writeBytes]
    cases host.faults.head?.join <;> simp
  rw [steps]
  constructor
  · rintro ⟨after, done⟩
    obtain ⟨place, created, creating, writing⟩ := Act.bind_eq_ok.mp done
    obtain ⟨first, located, free, rfl⟩ := createFile_eq_ok_iff.mp creating
    exact ⟨⟨first, (writes _ _).mp ⟨_, writing⟩⟩, place, located, free⟩
  · rintro ⟨⟨first, second⟩, place, located, free⟩
    obtain ⟨after, writing⟩ := (writes place { before with
      faults := before.faults.tail
      disk := before.disk.put place (.file []) }).mpr second
    exact ⟨after, Act.bind_eq_ok.mpr
      ⟨place, _, createFile_eq_ok_iff.mpr ⟨first, located, free, rfl⟩, writing⟩⟩

end Disk

end TaskLoop
