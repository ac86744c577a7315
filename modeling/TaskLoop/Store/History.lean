import TaskLoop.Iteration
import TaskLoop.Store.File

/-!
The history file: a line for each finished iteration, in the order they finished. A last line
without a line feed is of a write that has not come to its end.
-/

set_option autoImplicit false

namespace TaskLoop.History

/-- A finished iteration and the session it belongs to. -/
structure Entry where
  session : String
  iteration : Iteration
  deriving DecidableEq

namespace Entry

/-- An entry as it stands on its line. -/
def toJson (entry : Entry) : Json :=
  .object (("session_id", .string entry.session) :: entry.iteration.members)

/-- Reads an entry: an object whose members, also those of no meaning, are settled values. -/
def ofJson? (json : Json) : Option Entry :=
  match json with
  | .object members => do
    let _ ← members.mapM fun member => Json.settle? 126 member.2
    let own ← json.fields? ["session_id"]
    let rest ← json.fields? Iteration.fieldNames
    return ⟨← own.required "session_id" Json.string?, ← Iteration.ofFields? rest⟩
  | _ => none

/-- The line of an entry, without its line feed. -/
def line (entry : Entry) : List Char := entry.toJson.compact

end Entry

/-- Adds an entry. -/
def append (path : Path) (entry : Entry) : Act Failure Unit :=
  Disk.appendLine path (Text.Utf8.encode entry.line)

/-- The entries of numbered lines, the last of which may be incomplete. A line that cannot be
read is answered by its number. -/
def ofLines (lastMayBeTorn : Bool) : List (List Char × Nat) → Except Nat (List Entry)
  | [] => .ok []
  | (line, number) :: rest =>
    if (Text.trim line).isEmpty then ofLines lastMayBeTorn rest
    else
      match (Json.ofText? line).bind Entry.ofJson? with
      | some entry => (ofLines lastMayBeTorn rest).map (entry :: ·)
      | none => if lastMayBeTorn && rest.isEmpty then .ok [] else .error number

/-- The entries of a history text. -/
def ofText (text : List Char) : Except Nat (List Entry) :=
  ofLines (text.getLast? != some '\n') ((Text.lines text).zipIdx 1)

/-- Reads every entry; without a file there are none. -/
def read (path : Path) : Act Failure (List Entry) :=
  Act.look fun disk =>
    match disk.readText path with
    | .error .notFound => .ok []
    | .error e => .error ((Failure.root e.message).within s!"Failed to read history: {path.text}")
    | .ok text =>
      match ofText text with
      | .ok entries => .ok entries
      | .error number => .error (.root
          (s!"Malformed history entry at {path.text}:{number}: " ++ Store.malformedText))

/-- The iterations of one session. -/
def ofSession (session : String) (entries : List Entry) : List Iteration :=
  (entries.filter fun entry => entry.session == session).map (·.iteration)

end TaskLoop.History
