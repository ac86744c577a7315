import TaskLoop.Disk.Basic
import TaskLoop.Failure
import TaskLoop.Timestamp

/-!
What a program is run on: its files and the locks on them, a clock, a source of fresh identifiers,
and which of its coming steps on files will fail. An operation that fails leaves the files as its
steps so far made them.
-/

set_option autoImplicit false

namespace TaskLoop

/-- What a program is run on. Each step on files takes one item of `faults`: `none` goes well,
and `some n` fails after the first `n` bytes of what it was to write. After the last item all
goes well. -/
structure Host where
  disk : Disk
  faults : List (Option Nat)
  clock : Nat → Timestamp
  readings : Nat
  fresh : Nat → String
  issued : Nat
  locked : List Place
  processId : Nat

/-- Work on a host that can fail and then leaves the host as far as it had come. -/
abbrev Act (ε : Type) := EStateM ε Host

namespace Host

/-- A host with files and a clock on which no step fails. -/
def new (disk : Disk) (clock : Nat → Timestamp) (fresh : Nat → String) : Host :=
  ⟨disk, [], clock, 0, fresh, 0, [], 1⟩

/-- Reads the clock. -/
def now {ε : Type} : Act ε Timestamp := fun host =>
  .ok (host.clock host.readings) { host with readings := host.readings + 1 }

/-- Issues an identifier not issued before. -/
def newId {ε : Type} : Act ε String := fun host =>
  .ok (host.fresh host.issued) { host with issued := host.issued + 1 }

/-- The files as they are. -/
def files {ε : Type} : Act ε Disk := fun host => .ok host.disk host

/-- What becomes of the next step on files. -/
def takeFault : Act DiskError (Option Nat) := fun host =>
  .ok host.faults.head?.join { host with faults := host.faults.tail }

/-- A step that changes the files, or fails before it has. -/
def step (change : Disk → Except DiskError Disk) : Act DiskError Unit := fun host =>
  let rest := { host with faults := host.faults.tail }
  match host.faults.head?.join with
  | some _ => .error .noSpace rest
  | none =>
    match change host.disk with
    | .ok disk => .ok () { rest with disk := disk }
    | .error e => .error e rest

/-- A step that writes bytes behind what a file holds, or fails after the first of them. -/
def writeBytes (place : Place) (bytes : List UInt8) : Act DiskError Unit := fun host =>
  let rest := { host with faults := host.faults.tail }
  let append (bytes : List UInt8) : Disk :=
    match host.disk.node? place with
    | some (.file content) => host.disk.put place (.file (content ++ bytes))
    | _ => host.disk
  match host.faults.head?.join with
  | some count => .error .noSpace { rest with disk := append (bytes.take count) }
  | none => .ok () { rest with disk := append bytes }

/-- Makes the file at a path if there is none, and locks it. The answer is the place of the lock,
or nothing when the file is locked already. -/
def lock (path : Path) : Act DiskError (Option Place) := fun host =>
  match host.disk.locate path with
  | .error e => .error e host
  | .ok place =>
    let opening := step fun disk =>
      match disk.node? place with
      | some .directory => .error .isDirectory
      | some (.file _) => .ok disk
      | none => .ok (disk.put place (.file []))
    match opening host with
    | .error e host => .error e host
    | .ok () host =>
      if host.locked.contains place then .ok none host
      else .ok (some place) { host with locked := place :: host.locked }

/-- Gives a lock back. -/
def unlock {ε : Type} (place : Place) : Act ε Unit := fun host =>
  .ok () { host with locked := host.locked.erase place }

end Host

/-- Work whose errors are seen as another kind. -/
def Act.mapError {ε ε' α : Type} (change : ε → ε') (act : Act ε α) : Act ε' α := fun host =>
  match act host with
  | .ok value host => .ok value host
  | .error e host => .error (change e) host

/-- A look at the files that may fail. -/
def Act.look {ε α : Type} (view : Disk → Except ε α) : Act ε α := fun host =>
  match view host.disk with
  | .ok value => .ok value host
  | .error e => .error e host

/-- Work on files seen from what was being done. -/
def Act.within {α : Type} (doing : String) (act : Act DiskError α) : Act Failure α :=
  act.mapError fun e => (Failure.root e.message).within doing

end TaskLoop
