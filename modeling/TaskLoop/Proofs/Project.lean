import TaskLoop.Engine.Basic
import TaskLoop.Proofs.Disk.Locks

/-!
The files in the directory of a project's state. What stands there under one name stays while
files of other names are written.
-/

set_option autoImplicit false

namespace TaskLoop

/-- The clock, the identifiers to issue and the files. -/
def Host.lasting (host : Host) : (Nat → Timestamp) × (Nat → String) × Disk :=
  (host.clock, host.fresh, host.disk)

end TaskLoop

namespace TaskLoop.Project

open Disk (Replacing temporaryName)
open TaskLoop.Path (Plain Tidy)

variable {project : Project} {root : Place} {name other : String} {content : Option Node}
  {before after : Host}

theorem tidy_stateDir (project : Project) : Tidy project.stateDir :=
  Path.tidy_join (Plain.of_long (by decide) (by decide)) _

/-- The directory of a project's state stands at a place, and there stands what is said under a
name. -/
structure Keeping (project : Project) (root : Place) (name : String) (content : Option Node)
    (disk : Disk) : Prop where
  located : disk.locate project.stateDir = .ok root
  directory : disk.node? root = some .directory
  content : disk.node? (root ++ [name]) = content

/-- A name that is not another, nor one under which a file of the other is written before it is
put in its place. -/
structure Apart (name other : String) : Prop where
  ne : name ≠ other
  temporary : ∀ processId, name ≠ temporaryName other processId

/-- Only names that begin with a dot are temporary. -/
theorem Apart.of_visible (ne : name ≠ other) (visible : name.toList.head? ≠ some '.') :
    Apart name other := by
  refine ⟨ne, fun processId same => visible ?_⟩
  rw [same, Disk.toList_temporaryName]
  rfl

/-- A condition on a host that outlasts every change but one at the places it is about. Under it
the directory of the project's state stands at a place. -/
structure Guards (project : Project) (root : Place) (about : Place → Prop) (holds : Host → Prop) :
    Prop where
  located : ∀ host, holds host → host.disk.locate project.stateDir = .ok root
  outlasts : ∀ touched before after, Host.Spares touched before after →
    (∀ place, touched place → ¬ about place) → holds before → holds after

/-- A file is replaced without a change at the places a condition is about. -/
def Beside (root : Place) (about : Place → Prop) (other : String) : Prop :=
  ∀ place, Replacing root other place → ¬ about place

namespace Guards

variable {about : Place → Prop} {holds : Host → Prop} (guards : project.Guards root about holds)

include guards

/-- How often the clock was looked at and how many identifiers were issued does not count. -/
theorem lasting (same : after.lasting = before.lasting) (held : holds before) : holds after := by
  simp only [Host.lasting, Prod.mk.injEq] at same
  obtain ⟨clock, fresh, disk⟩ := same
  have nothing : Host.Spares (fun _ => False) before after :=
    ⟨clock, fresh, disk ▸ .refl _, fun _ _ => by rw [disk]⟩
  exact guards.outlasts _ _ _ nothing (fun _ => False.elim) held

theorem clock (held : holds before) : holds { before with readings := before.readings + 1 } := by
  have same : Host.lasting { before with readings := before.readings + 1 } = before.lasting := rfl
  exact guards.lasting same held

/-- A file of the project's state is replaced that the condition is not about. -/
theorem replace {bytes : List UInt8} (plain : Plain other) (beside : Beside root about other)
    (held : holds before)
    (done : Disk.writeAtomic (project.stateDir.join other) bytes before = .ok () after) :
    holds after := by
  obtain ⟨spares, -, -⟩ :=
    Disk.writeAtomic_eq_ok project.tidy_stateDir plain (guards.located _ held) done
  exact guards.outlasts _ _ _ spares beside held

/-- A file of the project's state gets a line more that the condition is not about. -/
theorem append {line : List UInt8} (plain : Plain other) (beside : Beside root about other)
    (held : holds before)
    (done : Disk.appendLine (project.stateDir.join other) line before = .ok () after) :
    holds after := by
  have spares :=
    Disk.appendLine_eq_ok project.tidy_stateDir plain (guards.located _ held) done
  refine guards.outlasts _ _ _ spares (fun place touches => beside place ?_) held
  exact touches.elim .inl fun same => .inr (.inl same)

/-- A file of the project's state is replaced, or not, that the condition is not about. -/
theorem replace_ends {path : Path} {bytes : List UInt8}
    (named : project.stateDir.join other = path) (plain : Plain other)
    (beside : Beside root about other) (directory : before.disk.node? root = some .directory)
    (held : holds before) :
    (Disk.writeAtomic path bytes).Ends before (fun _ => holds) fun _ => holds := by
  subst named
  cases ran : Disk.writeAtomic (project.stateDir.join other) bytes before with
  | ok _ after =>
    rw [Act.Ends, ran]
    exact guards.replace plain beside held ran
  | error e after =>
    have spares := (Disk.writeAtomic_ends project.tidy_stateDir plain (guards.located _ held)
      directory).of_error ran
    rw [Act.Ends, ran]
    exact guards.outlasts _ _ _ spares (fun place touches => beside place (.inr (.inr touches)))
      held

/-- A file of the project's state gets a line more, or not, that the condition is not about. -/
theorem append_ends {path : Path} {line : List UInt8}
    (named : project.stateDir.join other = path) (plain : Plain other)
    (beside : Beside root about other) (directory : before.disk.node? root = some .directory)
    (held : holds before) :
    (Disk.appendLine path line).Ends before (fun _ => holds) fun _ => holds := by
  subst named
  have outlasts (after : Host) (spares : Host.Spares (· = root ++ [other]) before after) :
      holds after :=
    guards.outlasts _ _ _ spares (fun place touches => beside place (.inr (.inl touches))) held
  exact (Disk.appendLine_spares project.tidy_stateDir plain (guards.located _ held)
    directory).mono (fun _ => outlasts) fun _ => outlasts

end Guards

theorem ne_root (root : Place) (name : String) : root ++ [name] ≠ root := by
  intro same
  have length := congrArg List.length same
  rw [List.length_append, List.length_singleton] at length
  omega

/-- What is replaced is apart from a file of another name. -/
theorem Apart.beside (apart : Apart name other) : Beside root (· = root ++ [name]) other := by
  rintro place replacing rfl
  rcases replacing with same | same | ⟨processId, same⟩
  · exact ne_root root name same
  · exact apart.ne (List.singleton_inj.mp (List.append_cancel_left same))
  · exact apart.temporary processId (List.singleton_inj.mp (List.append_cancel_left same))

namespace Keeping

variable {disk : Disk}

theorem spares {touched : Place → Prop}
    (keeping : project.Keeping root name content before.disk)
    (spares : Host.Spares touched before after) (apart : ¬ touched (root ++ [name])) :
    project.Keeping root name content after.disk :=
  ⟨spares.grows.locate project.tidy_stateDir keeping.located,
    spares.grows.directory root keeping.directory,
    (spares.nodes _ apart).trans keeping.content⟩

/-- What stands under a name is a condition about that place. -/
theorem guards (project : Project) (root : Place) (name : String) (content : Option Node) :
    project.Guards root (· = root ++ [name])
      fun host => project.Keeping root name content host.disk where
  located _ keeping := keeping.located
  outlasts _ _ _ spares apart keeping :=
    keeping.spares spares fun touches => apart _ touches rfl

/-- Another file is replaced. -/
theorem replace_other {bytes : List UInt8} (keeping : project.Keeping root name content before.disk)
    (apart : Apart name other) (plain : Plain other)
    (done : Disk.writeAtomic (project.stateDir.join other) bytes before = .ok () after) :
    project.Keeping root name content after.disk :=
  (guards project root name content).replace plain apart.beside keeping done

/-- The file is replaced. -/
theorem replace {bytes : List UInt8} (keeping : project.Keeping root name content before.disk)
    (plain : Plain name)
    (done : Disk.writeAtomic (project.stateDir.join name) bytes before = .ok () after) :
    project.Keeping root name (some (.file bytes)) after.disk := by
  obtain ⟨spares, -, stands⟩ :=
    Disk.writeAtomic_eq_ok project.tidy_stateDir plain keeping.located done
  exact ⟨spares.grows.locate project.tidy_stateDir keeping.located,
    spares.grows.directory root keeping.directory, stands⟩

/-- The file is replaced, or is as it was. -/
theorem replace_ends {path : Path} {bytes : List UInt8}
    (keeping : project.Keeping root name content before.disk)
    (named : project.stateDir.join name = path) (plain : Plain name) :
    (Disk.writeAtomic path bytes).Ends before
      (fun _ after => project.Keeping root name (some (.file bytes)) after.disk)
      fun _ after => project.Keeping root name content after.disk := by
  subst named
  cases ran : Disk.writeAtomic (project.stateDir.join name) bytes before with
  | ok _ after =>
    rw [Act.Ends, ran]
    exact keeping.replace plain ran
  | error e after =>
    have spares := (Disk.writeAtomic_ends project.tidy_stateDir plain keeping.located
      keeping.directory).of_error ran
    rw [Act.Ends, ran]
    refine keeping.spares spares ?_
    rintro ⟨processId, same⟩
    have named := List.singleton_inj.mp (List.append_cancel_left same)
    exact Disk.temporaryName_ne name processId named.symm

/-- The path of the file leads to it. -/
theorem locate (keeping : project.Keeping root name content disk) (plain : Plain name)
    (short : name.utf8ByteSize ≤ 255) :
    disk.locate (project.stateDir.join name) = .ok (root ++ [name]) := by
  rw [Disk.locate_join project.tidy_stateDir plain keeping.located keeping.directory,
    if_neg (Nat.not_lt.mpr short)]

theorem read {bytes : List UInt8}
    (keeping : project.Keeping root name (some (.file bytes)) disk) (plain : Plain name)
    (short : name.utf8ByteSize ≤ 255) : disk.read (project.stateDir.join name) = .ok bytes :=
  Disk.read_eq_ok.mpr ⟨_, keeping.locate plain short, keeping.content⟩

theorem read_missing (keeping : project.Keeping root name none disk) (plain : Plain name)
    (short : name.utf8ByteSize ≤ 255) :
    disk.read (project.stateDir.join name) = .error .notFound := by
  simp only [Disk.read, keeping.locate plain short, keeping.content, bind, Except.bind]

/-- The file gets a line more and is then read as what stands there. -/
theorem append {line bytes : List UInt8}
    (keeping : project.Keeping root name content before.disk) (plain : Plain name)
    (done : Disk.appendLine (project.stateDir.join name) line before = .ok () after)
    (content : after.disk.read (project.stateDir.join name) = .ok bytes) :
    project.Keeping root name (some (.file bytes)) after.disk := by
  have spares := Disk.appendLine_eq_ok project.tidy_stateDir plain keeping.located done
  have located := spares.grows.locate project.tidy_stateDir keeping.located
  refine ⟨located, spares.grows.directory root keeping.directory, ?_⟩
  obtain ⟨place, led, stands⟩ := Disk.read_eq_ok.mp content
  obtain ⟨_, reached, -, rfl, -⟩ := Disk.locate_join_eq_ok project.tidy_stateDir plain led
  cases located.symm.trans reached
  exact stands

end Keeping

end TaskLoop.Project

namespace TaskLoop.Project

/-- The directory of a project's state stands at a place, and what stands there under a name is as
is asked for. -/
def Filed (project : Project) (root : Place) (name : String) (asked : Option Node → Prop)
    (host : Host) : Prop :=
  ∃ content, project.Keeping root name content host.disk ∧ asked content

namespace Filed

variable {project : Project} {root : Place} {name : String} {asked : Option Node → Prop}

theorem directory {host : Host} (filed : project.Filed root name asked host) :
    host.disk.node? root = some .directory := by
  obtain ⟨_, keeping, -⟩ := filed
  exact keeping.directory

theorem guards (project : Project) (root : Place) (name : String) (asked : Option Node → Prop) :
    project.Guards root (· = root ++ [name]) (project.Filed root name asked) where
  located := by
    rintro host ⟨_, keeping, -⟩
    exact keeping.located
  outlasts := by
    rintro touched before after spares apart ⟨content, keeping, held⟩
    exact ⟨content, keeping.spares spares fun touches => apart _ touches rfl, held⟩

/-- The file is replaced by one that is as is asked for, or is as it was. -/
theorem replace_ends {path : Path} {bytes : List UInt8} {before : Host}
    (filed : project.Filed root name asked before) (named : project.stateDir.join name = path)
    (plain : Path.Plain name) (asks : asked (some (.file bytes))) :
    (Disk.writeAtomic path bytes).Ends before (fun _ => project.Filed root name asked)
      fun _ => project.Filed root name asked := by
  obtain ⟨content, keeping, held⟩ := filed
  exact (keeping.replace_ends named plain).mono (fun _ _ stands => ⟨_, stands, asks⟩)
    fun _ _ stands => ⟨content, stands, held⟩

theorem mono {host : Host} {asked' : Option Node → Prop} (filed : project.Filed root name asked host)
    (asks : ∀ content, asked content → asked' content) : project.Filed root name asked' host := by
  obtain ⟨content, keeping, held⟩ := filed
  exact ⟨content, keeping, asks content held⟩

/-- Where the directory stands every name has what stands there. -/
theorem of_located {host : Host} (located : host.disk.locate project.stateDir = .ok root)
    (directory : host.disk.node? root = some .directory)
    (asks : asked (host.disk.node? (root ++ [name]))) : project.Filed root name asked host :=
  ⟨_, ⟨located, directory, rfl⟩, asks⟩

section Lines

open Disk (Lined Standing)
open TaskLoop.Path (Plain)

variable {host before : Host} {lines line : List UInt8}

/-- The path of a file of lines leads to them. -/
theorem standing (filed : project.Filed root name (Lined lines) host) (plain : Plain name)
    (short : name.utf8ByteSize ≤ 255) : Standing (project.stateDir.join name) lines host := by
  obtain ⟨content, keeping, lined⟩ := filed
  rw [Standing, ← Disk.locate_eq_ok (keeping.locate plain short), keeping.content]
  exact lined

/-- The whole lines of a file of lines. -/
theorem linesOf (filed : project.Filed root name (Lined lines) host) (plain : Plain name)
    (short : name.utf8ByteSize ≤ 255) (whole : lines = [] ∨ lines.getLast? = some 10) :
    host.disk.linesOf (project.stateDir.join name) = lines := by
  obtain ⟨content, keeping, lined⟩ := filed
  simp only [Disk.linesOf, Disk.read, keeping.locate plain short, keeping.content, bind,
    Except.bind]
  cases content with
  | none => exact lined.symm
  | some node =>
    cases node with
    | directory => exact lined.symm
    | file bytes =>
      obtain ⟨torn, oneLine, rfl⟩ := lined
      exact Disk.completeLines_append whole oneLine

/-- Where the directory stands every name has the lines that its path leads to. -/
theorem of_linesOf (located : host.disk.locate project.stateDir = .ok root)
    (directory : host.disk.node? root = some .directory) (plain : Plain name)
    (short : name.utf8ByteSize ≤ 255) :
    project.Filed root name (Lined (host.disk.linesOf (project.stateDir.join name))) host := by
  refine of_located located directory ?_
  have keeping : project.Keeping root name _ host.disk := ⟨located, directory, rfl⟩
  simp only [Disk.linesOf, Disk.read, keeping.locate plain short, bind, Except.bind]
  cases stands : host.disk.node? (root ++ [name]) with
  | none => rfl
  | some node =>
    cases node with
    | directory => rfl
    | file bytes => exact Disk.lined_completeLines bytes

/-- A line that is added stands behind the others. When its addition fails the lines are those
there were, or it stands behind them nevertheless. -/
theorem append_ends {path : Path} (filed : project.Filed root name (Lined lines) before)
    (named : project.stateDir.join name = path) (plain : Plain name)
    (short : name.utf8ByteSize ≤ 255) (whole : lines = [] ∨ lines.getLast? = some 10)
    (oneLine : 10 ∉ line) :
    (Disk.appendLine path line).Ends before
      (fun _ => project.Filed root name (Lined (lines ++ (line ++ [10]))))
      fun _ after => project.Filed root name (Lined lines) after ∨
        after.disk.read path = .ok (lines ++ (line ++ [10])) := by
  subst named
  have standing := filed.standing plain short
  obtain ⟨content, keeping, -⟩ := filed
  have ends := Disk.appendLine_ends (Path.tidy_join plain project.stateDir) whole oneLine standing
  cases ran : Disk.appendLine (project.stateDir.join name) line before with
  | ok _ after =>
    rw [Act.Ends, ran]
    exact ⟨_, keeping.append plain ran (ends.of_ok ran), [], List.not_mem_nil,
      (List.append_nil _).symm⟩
  | error e after =>
    rw [Act.Ends, ran]
    have spares := (Disk.appendLine_spares project.tidy_stateDir plain keeping.located
      keeping.directory).of_error ran
    rcases ends.of_error ran with stands | ⟨all, -⟩
    · have kept : project.Keeping root name _ after.disk :=
        ⟨spares.grows.locate project.tidy_stateDir keeping.located,
          spares.grows.directory root keeping.directory, rfl⟩
      rw [Standing, ← Disk.locate_eq_ok (kept.locate plain short)] at stands
      exact .inl ⟨_, kept, stands⟩
    · exact .inr all

end Lines

end Filed

end TaskLoop.Project

namespace TaskLoop

/-- The builder leaves the files of a project's state alone. -/
def Builder.Spares {σ : Type} (builder : Builder σ) (project : Project) : Prop :=
  ∀ artifact agents host root name content, project.Keeping root name content host.disk →
    project.Keeping root name content (builder.build artifact agents host).2.disk

/-- The builder leaves the files of a project's state alone, and the identifiers to be issued. -/
structure Builder.Discreet {σ : Type} (builder : Builder σ) (project : Project) : Prop where
  spares : builder.Spares project
  fresh : ∀ artifact agents host, (builder.build artifact agents host).2.fresh = host.fresh

end TaskLoop
