import TaskLoop.Disk.Write
import TaskLoop.Json.Printer
import TaskLoop.Json.Reader

/-!
Files that hold one JSON value.
-/

set_option autoImplicit false

namespace TaskLoop.Store

/-- What is said of a text that is not JSON of the expected form. -/
def malformedText : String := "the text is not JSON of the expected form"

/-- Reads a file that holds one value of a known form. -/
def readJson {α : Type} (path : Path) (decode : Json → Option α) : Act StoreError α :=
  Act.look fun disk =>
    match disk.readText path with
    | .error e => .error (.unreadable path.text e.message)
    | .ok text =>
      match (Json.ofText? text).bind decode with
      | some value => .ok value
      | none => .error (.malformed path.text malformedText)

/-- Replaces a file by one that holds a value. -/
def writeJson (path : Path) (value : Json) : Act Failure Unit :=
  Disk.writeAtomic path (Text.Utf8.encode value.fileText)

end TaskLoop.Store
