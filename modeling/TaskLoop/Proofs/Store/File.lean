import TaskLoop.Proofs.Disk.Write
import TaskLoop.Proofs.Json.ReadBack
import TaskLoop.Proofs.Text.Utf8
import TaskLoop.Store.File

/-!
A file that was replaced by one that holds a value is read as the text of that value.
-/

set_option autoImplicit false

namespace TaskLoop.Store

variable {before after : Host} {path : Path} {value : Json}

theorem readText_writeJson (tidy : path.Tidy) (done : writeJson path value before = .ok () after) :
    after.disk.readText path = .ok value.fileText := by
  have content := Disk.read_writeAtomic tidy done
  exact Disk.readText_eq_ok.mpr ⟨_, content, Text.Utf8.decode?_encode _⟩

/-- What was written is what a later reader of the file decodes. -/
theorem readJson_writeJson {α : Type} {decode : Json → Option α} {result : α} (tidy : path.Tidy)
    (printable : Json.Printable value) (decoded : decode value = some result)
    (done : writeJson path value before = .ok () after) :
    readJson path decode after = .ok result after := by
  simp only [readJson, Act.look, readText_writeJson tidy done, Json.ofText?_fileText printable,
    Option.bind_some, decoded]

end TaskLoop.Store
