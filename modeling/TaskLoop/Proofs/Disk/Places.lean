import TaskLoop.Disk.Basic
import TaskLoop.Proofs.Disk.Path
import TaskLoop.Proofs.OrderedMap

/-!
Where paths lead, and what of that outlasts a change of the files. A change that takes no
directory away leaves every path leading where it led.
-/

set_option autoImplicit false

namespace TaskLoop.Disk

open TaskLoop.Path (Plain Tidy)

/-! ### What stands where -/

section Nodes

variable (disk : Disk) {place other : Place}

theorem node?_put_self (node : Node) (below : place ≠ []) :
    (disk.put place node).node? place = some node := by
  rw [node?, List.isEmpty_eq_false_iff.mpr below]
  exact OrderedMap.find?_insert_self _ _ _

theorem node?_put_of_ne (node : Node) (apart : other ≠ place) :
    (disk.put place node).node? other = disk.node? other := by
  rw [node?, node?]
  split
  · rfl
  · exact OrderedMap.find?_insert_of_ne _ _ apart

theorem node?_remove_of_ne (apart : other ≠ place) :
    (disk.remove place).node? other = disk.node? other := by
  rw [node?, node?]
  split
  · rfl
  · exact OrderedMap.find?_erase_of_ne _ apart

theorem node?_remove_self (below : place ≠ []) : (disk.remove place).node? place = none := by
  rw [node?, List.isEmpty_eq_false_iff.mpr below]
  exact OrderedMap.find?_erase_self _ _

theorem requireDirectory_of_node? (directory : disk.node? place = some .directory) :
    disk.requireDirectory place = .ok () := by
  rw [requireDirectory, directory]

variable {disk}

/-- Only the root is a directory whatever else there is. -/
theorem ne_nil_of_node? (free : disk.node? place ≠ some .directory) : place ≠ [] := by
  rintro rfl
  exact free rfl

theorem node?_remove_ne_directory (free : disk.node? place ≠ some .directory) :
    (disk.remove other).node? place ≠ some .directory := by
  by_cases same : place = other
  · subst same
    rw [node?, List.isEmpty_eq_false_iff.mpr (ne_nil_of_node? free)]
    intro found
    rw [remove] at found
    simp only [Bool.false_eq_true, ↓reduceIte, OrderedMap.find?_erase_self] at found
    cases found
  · rw [node?_remove_of_ne disk same]
    exact free

theorem node?_of_requireDirectory (required : disk.requireDirectory place = .ok ()) :
    disk.node? place = some .directory := by
  unfold requireDirectory at required
  split at required
  · assumption
  · cases required
  · cases required

end Nodes

/-! ### Following names -/

theorem follow_append (disk : Disk) (place : Place) (names more : List String) :
    disk.follow place (names ++ more) = (disk.follow place names).bind (disk.follow · more) := by
  induction names generalizing place with
  | nil => rfl
  | cons name rest ih =>
    rw [List.cons_append, follow, follow]
    cases disk.requireDirectory place with
    | error e => rfl
    | ok _ =>
      dsimp only
      split
      · exact ih _
      · split
        · rfl
        · exact ih _

theorem follow_plain {disk : Disk} {place : Place} {name : String} (plain : Plain name)
    (directory : disk.node? place = some .directory) :
    disk.follow place [name] =
      if 255 < name.utf8ByteSize then .error .nameTooLong else .ok (place ++ [name]) := by
  have notUp : (name == "..") = false := by
    rw [beq_eq_false_iff_ne]
    rintro rfl
    exact plain.noDots rfl
  simp only [follow, requireDirectory_of_node? disk directory, notUp, Bool.false_eq_true,
    ↓reduceIte]

/-- A path that ends in a name leads where its names lead. -/
theorem locate_tidy (disk : Disk) {path : Path} (tidy : Tidy path) :
    disk.locate path =
      disk.follow (if path.isAbsolute then [] else disk.workingDir) path.names := by
  have notEmpty := tidy.isEmpty_text
  rw [locate, notEmpty]
  simp only [Bool.false_eq_true, ↓reduceIte, tidy.trimmed, BEq.rfl]
  split
  · rename_i failed
    rw [failed]
  · rename_i led
    rw [led]
    split <;> rfl

/-- Where names lead from a place once the directories on the way are there. -/
def reach (place : Place) (names : List String) : Place :=
  names.foldl (fun place name => if name == ".." then place.dropLast else place ++ [name]) place

/-- Where a path leads once the directories on the way are there. -/
def destination (disk : Disk) (path : Path) : Place :=
  reach (if path.isAbsolute then [] else disk.workingDir) path.names

theorem follow_eq_ok {disk : Disk} {place target : Place} {names : List String}
    (led : disk.follow place names = .ok target) : target = reach place names := by
  induction names generalizing place with
  | nil =>
    cases led
    rfl
  | cons name rest ih =>
    rw [follow] at led
    rw [reach, List.foldl_cons]
    split at led
    · cases led
    · split at led
      · rename_i up
        rw [if_pos up]
        exact ih led
      · rename_i down
        split at led
        · cases led
        · rw [if_neg down]
          exact ih led

theorem locate_eq_ok {disk : Disk} {path : Path} {place : Place}
    (located : disk.locate path = .ok place) : place = disk.destination path := by
  rw [locate] at located
  split at located
  · cases located
  · split at located
    · cases located
    · rename_i target led
      have reached := follow_eq_ok led
      split at located
      · split at located
        · cases located
          exact reached
        · cases located
      · cases located
        exact reached

theorem destination_of_workingDir {disk other : Disk} (path : Path)
    (same : other.workingDir = disk.workingDir) : other.destination path = disk.destination path := by
  rw [destination, same, destination]

/-- A path leads one level down from where its parent leads, wherever that is. -/
theorem destination_below {path parent : Path} {name : String} (below : Path.Below path parent name)
    (disk : Disk) : disk.destination path = disk.destination parent ++ [name] := by
  have notUp : (name == "..") = false := by
    rw [beq_eq_false_iff_ne]
    rintro rfl
    exact below.plain.noDots rfl
  simp only [destination, reach, below.names, below.isAbsolute, List.foldl_append, List.foldl_cons,
    List.foldl_nil, notUp, Bool.false_eq_true, ↓reduceIte]

theorem destination_join {name : String} (plain : Plain name) (base : Path) (disk : Disk) :
    disk.destination (base.join name) = disk.destination base ++ [name] :=
  destination_below (Path.below_join plain base) disk

section Join

variable {disk : Disk} {base : Path} {name : String} {root : Place} (tidy : Tidy base)
  (plain : Plain name)

include tidy plain

/-- A path with one more name leads one level further down. -/
theorem locate_join (located : disk.locate base = .ok root)
    (directory : disk.node? root = some .directory) :
    disk.locate (base.join name) =
      if 255 < name.utf8ByteSize then .error .nameTooLong else .ok (root ++ [name]) := by
  rw [locate_tidy disk tidy] at located
  rw [locate_tidy disk (Path.tidy_join plain base), Path.names_join plain,
    Path.isAbsolute_join plain, follow_append, located]
  exact follow_plain plain directory

/-- A path with one more name leads somewhere only through a directory. -/
theorem locate_join_eq_ok {place : Place} (located : disk.locate (base.join name) = .ok place) :
    ∃ root, disk.locate base = .ok root ∧ disk.node? root = some .directory ∧
      place = root ++ [name] ∧ ¬ 255 < name.utf8ByteSize := by
  have led := located
  rw [locate_tidy disk (Path.tidy_join plain base), Path.names_join plain,
    Path.isAbsolute_join plain, follow_append, ← locate_tidy disk tidy] at led
  cases before : disk.locate base with
  | error e =>
    rw [before] at led
    cases led
  | ok root =>
    rw [before] at led
    cases required : disk.requireDirectory root with
    | error e =>
      simp only [Except.bind, follow, required] at led
      cases led
    | ok _ =>
      have directory := node?_of_requireDirectory required
      rw [locate_join tidy plain before directory] at located
      split at located
      · cases located
      · rename_i short
        exact ⟨root, rfl, directory, (Except.ok.inj located).symm, short⟩

end Join

/-! ### Directories that stay -/

/-- Every directory of one disk is one of the other. -/
structure Grows (before after : Disk) : Prop where
  workingDir : after.workingDir = before.workingDir
  directory : ∀ place, before.node? place = some .directory →
    after.node? place = some .directory

namespace Grows

theorem refl (disk : Disk) : Grows disk disk := ⟨rfl, fun _ => id⟩

theorem trans {first second third : Disk} (one : Grows first second) (two : Grows second third) :
    Grows first third :=
  ⟨two.workingDir.trans one.workingDir,
    fun place directory => two.directory place (one.directory place directory)⟩

theorem put (disk : Disk) {place : Place} {node : Node}
    (free : node = .directory ∨ disk.node? place ≠ some .directory) :
    Grows disk (disk.put place node) := by
  refine ⟨rfl, fun other directory => ?_⟩
  by_cases same : other = place
  · subst same
    by_cases top : other = []
    · subst top
      rfl
    · rw [node?_put_self disk node top]
      rcases free with rfl | occupied
      · rfl
      · exact absurd directory occupied
  · rw [node?_put_of_ne disk node same]
    exact directory

theorem remove {disk : Disk} {place : Place} (free : disk.node? place ≠ some .directory) :
    Grows disk (disk.remove place) := by
  refine ⟨rfl, fun other directory => ?_⟩
  by_cases same : other = place
  · subst same
    exact absurd directory free
  · rw [node?_remove_of_ne disk same]
    exact directory

variable {before after : Disk} (grows : Grows before after)

include grows

theorem follow {place target : Place} {names : List String}
    (led : before.follow place names = .ok target) : after.follow place names = .ok target := by
  induction names generalizing place with
  | nil => exact led
  | cons name rest ih =>
    rw [Disk.follow] at led ⊢
    cases required : before.requireDirectory place with
    | error e =>
      rw [required] at led
      cases led
    | ok _ =>
      have directory := grows.directory place (node?_of_requireDirectory required)
      rw [required] at led
      rw [requireDirectory_of_node? after directory]
      dsimp only at led ⊢
      split at led
      · rename_i up
        rw [if_pos up]
        exact ih led
      · rename_i down
        rw [if_neg down]
        split at led
        · cases led
        · rename_i short
          rw [if_neg short]
          exact ih led

/-- Paths lead where they led. -/
theorem locate {path : Path} {place : Place} (tidy : Tidy path)
    (located : before.locate path = .ok place) : after.locate path = .ok place := by
  rw [locate_tidy _ tidy] at located ⊢
  rw [grows.workingDir]
  exact grows.follow located

end Grows

/-! ### What is read -/

section Reading

variable {disk : Disk} {path : Path} {bytes : List UInt8} {text : List Char}

/-- What is read is the file that the path leads to. -/
theorem read_eq_ok : disk.read path = .ok bytes ↔
    ∃ place, disk.locate path = .ok place ∧ disk.node? place = some (.file bytes) := by
  simp only [read, bind, Except.bind]
  constructor
  · intro content
    split at content
    · cases content
    · rename_i place located
      split at content
      · rename_i stands
        cases content
        exact ⟨place, located, stands⟩
      · cases content
      · cases content
  · rintro ⟨place, located, stands⟩
    simp only [located, stands]

theorem readText_eq_ok : disk.readText path = .ok text ↔
    ∃ bytes, disk.read path = .ok bytes ∧ Text.Utf8.decode? bytes = some text := by
  simp only [readText, bind, Except.bind]
  constructor
  · intro content
    split at content
    · cases content
    · rename_i bytes held
      split at content
      · rename_i decoded
        cases content
        exact ⟨bytes, held, decoded⟩
      · cases content
  · rintro ⟨bytes, held, decoded⟩
    simp only [held, decoded]

/-- What is read is a file. -/
theorem isFile_of_read (content : disk.read path = .ok bytes) : disk.isFile path = true := by
  obtain ⟨place, located, stands⟩ := read_eq_ok.mp content
  simp only [isFile, at?, located, stands]

/-- A file that can be read is there. -/
theorem pathExists_of_read (content : disk.read path = .ok bytes) :
    disk.pathExists path = true := by
  obtain ⟨place, located, stands⟩ := read_eq_ok.mp content
  simp only [pathExists, at?, located, stands, Option.isSome_some]

end Reading

end TaskLoop.Disk
