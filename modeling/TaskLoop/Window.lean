/-!
The end of a list.
-/

set_option autoImplicit false

namespace TaskLoop

/-- The last `count` items of a list, all of them if there are no more. -/
def lastItems {α : Type} (count : Nat) (items : List α) : List α :=
  items.drop (items.length - count)

theorem length_lastItems {α : Type} (count : Nat) (items : List α) :
    (lastItems count items).length = min count items.length := by
  rw [lastItems, List.length_drop]
  omega

theorem map_lastItems {α β : Type} (change : α → β) (count : Nat) (items : List α) :
    (lastItems count items).map change = lastItems count (items.map change) := by
  rw [lastItems, lastItems, List.map_drop, List.length_map]

end TaskLoop
