import TaskLoop.Project
import TaskLoop.Text.Words

/-!
What commands work on: the host and the lines printed so far. A command that fails keeps what it
had printed before.
-/

set_option autoImplicit false

namespace TaskLoop.CommandLine

/-- Why a command ends early: with a message, because the short form of an identifier would end
inside a character, or over a sum that does not fit in 64 bits. -/
inductive CommandError where
  | failed (message : String)
  | splitCharacter
  | overflowed
  deriving DecidableEq, Repr

/-- The host and the lines printed so far. -/
structure Console where
  host : Host
  lines : List String := []

/-- A command. -/
abbrev Command := EStateM CommandError Console

/-- Prints lines. -/
def printLines (lines : List String) : Command Unit :=
  modify fun console => { console with lines := console.lines ++ lines }

/-- Prints a line. -/
def print (line : String) : Command Unit := printLines [line]

/-- Stops with a message. -/
def refuse {α : Type} (message : String) : Command α := throw (.failed message)

/-- Work on the host whose errors have messages. -/
def onHost {ε α : Type} (message : ε → String) (act : Act ε α) : Command α := fun console =>
  match act console.host with
  | .ok value host => .ok value { console with host := host }
  | .error e host => .error (.failed (message e)) { console with host := host }

/-- How many bytes of an identifier its short form has. -/
def shortLength : Nat := 8

/-- The short form of an identifier: its first bytes, if they end where a character does. -/
def shortId? (id : String) : Option String :=
  let bytes := Text.Utf8.encode id.toList
  if bytes.length ≤ shortLength then some id
  else (Text.Utf8.decode? (bytes.take shortLength)).map String.ofList

/-- The short form of an identifier; a command cannot go on without it. -/
def shortId (id : String) : Command String :=
  match shortId? id with
  | some short => return short
  | none => throw .splitCharacter

/-- The project in a directory that has been set up. -/
def openProject (directory : Path) (environment : Environment) : Command Project := do
  if Project.isInitialized (← get).host.disk directory then
    onHost SettingsError.message (Project.load directory environment)
  else refuse ("Project not initialized. Run 'reloop init' first to create the .reloop/ "
    ++ "directory.")

/-- The head of a table and the rule below it. -/
def tableHead (cells : List (Nat × String)) : List String :=
  [Text.columns cells, Text.columns (cells.map fun (width, _) =>
    (width, String.ofList (List.replicate width '-')))]

end TaskLoop.CommandLine
