import Mathlib.Data.List.Nodup
import TaskLoop.Proofs.Disk.Places

/-!
What the names in a directory are, and where a path with one more name leads.
-/

set_option autoImplicit false

namespace TaskLoop.Disk

open TaskLoop.Path (Plain Tidy)

variable {disk : Disk} {place other : Place} {name : String}

/-! ### Names in a directory -/

/-- The name under which something stands in a place, if it does. -/
def nameIn? (place other : Place) : Option String :=
  if other.length == place.length + 1 && place.isPrefixOf other then other.getLast? else none

theorem nameIn?_eq_some : nameIn? place other = some name ↔ other = place ++ [name] := by
  constructor
  · intro named
    simp only [nameIn?, Option.ite_none_right_eq_some, Bool.and_eq_true, beq_iff_eq,
      List.isPrefixOf_iff_prefix] at named
    obtain ⟨⟨length, rest, rfl⟩, last⟩ := named
    rw [List.length_append, Nat.add_left_cancel_iff] at length
    obtain ⟨only, rfl⟩ := List.length_eq_one_iff.mp length
    simp at last
    rw [last]
  · rintro rfl
    simp [nameIn?]

theorem node?_of_ne_nil (below : place ≠ []) : disk.node? place = disk.nodes.find? place := by
  rw [node?, List.isEmpty_eq_false_iff.mpr below]
  rfl

/-- The names in a place are those under which something stands there. -/
theorem mem_namesIn :
    name ∈ disk.namesIn place ↔ ∃ node, disk.node? (place ++ [name]) = some node := by
  have listed : name ∈ disk.namesIn place ↔ place ++ [name] ∈ disk.nodes.keys := by
    apply List.mem_filterMap.trans
    constructor
    · rintro ⟨other, isKey, named⟩
      rwa [← nameIn?_eq_some.mp named]
    · intro isKey
      exact ⟨_, isKey, nameIn?_eq_some.mpr rfl⟩
  rw [listed, OrderedMap.mem_keys_iff, node?_of_ne_nil (by simp)]

theorem nodup_namesIn (disk : Disk) (place : Place) : (disk.namesIn place).Nodup := by
  apply disk.nodes.nodup_keys.filterMap
  intro one two name first second
  exact (nameIn?_eq_some.mp first).trans (nameIn?_eq_some.mp second).symm

/-! ### One more name -/

section Join

variable {base : Path} {root : Place} (tidy : Tidy base) (plain : Plain name)
  (located : disk.locate base = .ok root)

include tidy plain located

/-- What is found under a path with one more name stands under that name. -/
theorem at?_join {node : Node} (found : disk.at? (base.join name) = some node) :
    disk.locate (base.join name) = .ok (root ++ [name]) ∧
      disk.node? (root ++ [name]) = some node := by
  rw [at?] at found
  split at found
  · rename_i place led
    obtain ⟨_, reached, -, rfl, -⟩ := locate_join_eq_ok tidy plain led
    cases located.symm.trans reached
    exact ⟨led, found⟩
  · cases found

theorem isFile_join (noFile : ∀ content, disk.node? (root ++ [name]) ≠ some (.file content)) :
    disk.isFile (base.join name) = false := by
  rw [isFile]
  split
  · rename_i content found
    exact absurd (at?_join tidy plain located found).2 (noFile content)
  · rfl

theorem isDirectory_join (directory : disk.isDirectory (base.join name) = true) :
    disk.locate (base.join name) = .ok (root ++ [name]) ∧
      disk.node? (root ++ [name]) = some .directory :=
  at?_join tidy plain located (beq_iff_eq.mp directory)

end Join

theorem isDirectory_of_locate {path : Path} (located : disk.locate path = .ok place)
    (directory : disk.node? place = some .directory) : disk.isDirectory path = true := by
  simp only [isDirectory, at?, located, directory, BEq.rfl]

theorem locate_of_isDirectory {path : Path} (there : disk.isDirectory path = true) :
    ∃ place, disk.locate path = .ok place ∧ disk.node? place = some .directory := by
  rw [isDirectory, beq_iff_eq, at?] at there
  split at there
  · rename_i place located
    exact ⟨place, located, there⟩
  · cases there

theorem isFile_of_isDirectory {path : Path} (there : disk.isDirectory path = true) :
    disk.isFile path = false := by
  rw [isDirectory, beq_iff_eq] at there
  rw [isFile, there]

end TaskLoop.Disk
