import TaskLoop.Text.Case
import TaskLoop.Text.Words
import TaskLoop.OrderedMap

/-!
Kinds of failure, told apart by keywords in the failure's text. The rules are tried in order and
the first that has a keyword in the text decides.
-/

set_option autoImplicit false

namespace TaskLoop

/-- The kind of a build or review failure. -/
inductive Category where
  | syntactic
  | reference
  | typing
  | runtime
  | unknown
  deriving DecidableEq, Repr, Inhabited

namespace Category

/-- Every category, in the order of the rules. -/
def all : List Category := [syntactic, reference, typing, runtime, unknown]

/-- The place of a category in the order. -/
def index : Category → Nat
  | syntactic => 0
  | reference => 1
  | typing => 2
  | runtime => 3
  | unknown => 4

instance : Ord Category := ⟨fun left right => compare left.index right.index⟩

theorem compare_eq_index (left right : Category) :
    compare left right = compare left.index right.index := rfl

instance : Std.TransOrd Category where
  eq_swap := by
    intro left right
    simp only [compare_eq_index]
    exact Std.OrientedCmp.eq_swap
  isLE_trans := by
    intro first second third
    simp only [compare_eq_index]
    exact Std.TransCmp.isLE_trans

theorem index_injective {left right : Category} (same : left.index = right.index) :
    left = right := by
  cases left <;> cases right <;> first | rfl | exact absurd same (by decide)

instance : Std.LawfulEqOrd Category where
  eq_of_compare := by
    intro left right same
    rw [compare_eq_index] at same
    exact index_injective (Std.LawfulEqCmp.eq_of_compare same)
  compare_self := by
    intro category
    exact @Std.ReflCmp.compare_self Nat compare _ category.index

/-- The name of a category in files and reports. -/
def name : Category → String
  | syntactic => "syntax"
  | reference => "reference"
  | typing => "type"
  | runtime => "runtime"
  | unknown => "unknown"

/-- The category of a name. -/
def ofName? (name : String) : Option Category := all.find? fun category => category.name == name

/-- The lower-case keywords that select each category, in the order they are tried. -/
def rules : List (Category × List String) := [
  (syntactic, ["syntax error", "parse error", "unexpected token", "missing semicolon",
    "expected ';'", "expected expression", "expected identifier", "unterminated"]),
  (reference, ["undefined reference", "unresolved", "implicit declaration", "undeclared",
    "cannot find", "multiple definition", "no such file", "ld returned", "linker"]),
  (typing, ["incompatible", "type mismatch", "mismatched types", "invalid conversion",
    "type error"]),
  (runtime, ["segmentation", "segfault", "core dumped", "assertion", "panicked", "deadlock",
    "stack overflow", "out of memory", "timed out", "timeout", "abort"])]

/-- The category of the first rule with a keyword in a lower-case text. -/
def ofLower (text : List Char) : Category :=
  match rules.find? fun rule => rule.2.any fun keyword => Text.contains keyword.toList text with
  | some rule => rule.1
  | none => unknown

/-- The category of a failure's text in any letter case. -/
def classify (text : String) : Category := ofLower (Text.lower text.toList)

end Category

end TaskLoop
