import TaskLoop.Build
import TaskLoop.Disk.Write
import TaskLoop.Generator.Basic
import TaskLoop.Shell.Run

/-!
Those who build artifacts. A builder works on the host's files and keeps a state of its own from
call to call.
-/

set_option autoImplicit false

namespace TaskLoop

/-- A way to build an artifact. -/
structure Builder (σ : Type) where
  build : Artifact → σ → Host → (Except Failure BuildOutcome × σ) × Host

/-- Accepts every artifact. -/
def Builder.accepting {σ : Type} : Builder σ where
  build _ state host := ((.ok .passed, state), host)

/-- A build by a command: the directory it runs in, the file below it that the artifact is written
to if any, and the milliseconds it may take. -/
structure BuildCommand where
  text : String
  directory : Path
  artifact : Option String
  limit : Nat

namespace BuildCommand

/-- Writes the artifact to its file. -/
def writeArtifact (command : BuildCommand) (artifact : Artifact) : Act Failure Unit :=
  match command.artifact with
  | none => return ()
  | some below =>
    let path := command.directory.join below
    (Disk.writeAtomic path (Text.Utf8.encode artifact.content.toList)).mapError
      (·.within s!"Failed to write artifact to {path.text}")

/-- The result of a shell that ended. -/
def outcome (command : BuildCommand) (ending : Shell.Ending) (machine : Shell.Machine) :
    BuildOutcome :=
  let text (bytes : List UInt8) : String := String.ofList (Text.Utf8.decodeLossy bytes)
  match ending with
  | .exited status => .ofCommand (some status) (text machine.out) (text machine.err)
  | .killed => .ofCommand none (text machine.out) (text machine.err)
  | .outOfTime => .timedOut (command.limit / 1000)

/-- Where the command runs. -/
def place (command : BuildCommand) (disk : Disk) : Except DiskError Place := do
  let place ← disk.locate command.directory
  disk.requireDirectory place
  return place

/-- Writes the artifact and runs the command. -/
def run (command : BuildCommand) (artifact : Artifact) : Act Failure BuildOutcome := do
  command.writeArtifact artifact
  let directory ← (Act.look command.place).within s!"Failed to spawn build command: {command.text}"
  fun host =>
    let (ending, machine) := Shell.runText host.disk directory command.limit command.text
    .ok (command.outcome ending machine) { host with disk := machine.disk }

/-- The builder that runs a command for each artifact. -/
def builder {σ : Type} (command : BuildCommand) : Builder σ where
  build artifact state host :=
    match command.run artifact host with
    | .ok outcome host => ((.ok outcome, state), host)
    | .error failure host => ((.error failure, state), host)

end BuildCommand

end TaskLoop
