import TaskLoop.Category
import TaskLoop.Proofs.Similarity

/-!
The category of a failure goes by keywords in its text as it stands, with single blanks between
their words, and so by less than its settled form goes by: blanks that the settled form leaves out
can hide a keyword, and nothing else can.
-/

set_option autoImplicit false

namespace TaskLoop

theorem Text.contains_iff {part text : List Char} :
    Text.contains part text = true ↔ part <:+: text := by
  induction text with
  | nil => rw [Text.contains, List.isEmpty_iff, List.infix_nil]
  | cons c rest ih =>
    rw [Text.contains, Bool.or_eq_true, List.isPrefixOf_iff_prefix, ih, List.infix_cons_iff]

namespace Category

open Similarity Text

/-! ### Keywords -/

/-- The keywords that select a category. -/
def keywords (category : Category) : List String := (rules.lookup category).getD []

/-- A keyword of a category stands in a text. -/
def Selects (category : Category) (text : List Char) : Prop :=
  ∃ keyword ∈ category.keywords, keyword.toList <:+: text

instance (category : Category) (text : List Char) : Decidable (category.Selects text) :=
  decidable_of_iff (category.keywords.any fun keyword => Text.contains keyword.toList text) (by
    simp only [List.any_eq_true, Text.contains_iff, Selects])

/-- The categories are tried in order. -/
theorem ofLower_eq (text : List Char) : ofLower text =
    if syntactic.Selects text then syntactic else if reference.Selects text then reference
    else if typing.Selects text then typing else if runtime.Selects text then runtime
    else unknown := by
  have tried (category : Category) : (category.keywords.any fun keyword =>
      Text.contains keyword.toList text) = decide (category.Selects text) := by
    rw [Bool.eq_iff_iff, decide_eq_true_eq]
    simp only [List.any_eq_true, Text.contains_iff, Selects]
  have listed : rules = [(syntactic, syntactic.keywords), (reference, reference.keywords),
      (typing, typing.keywords), (runtime, runtime.keywords)] := rfl
  rw [ofLower, listed]
  simp only [List.find?_cons, tried, List.find?_nil]
  by_cases first : syntactic.Selects text
  · simp only [first, decide_true, ↓reduceIte]
  by_cases second : reference.Selects text
  · simp only [first, second, decide_true, decide_false, ↓reduceIte]
  by_cases third : typing.Selects text
  · simp only [first, second, third, decide_true, decide_false, ↓reduceIte]
  by_cases fourth : runtime.Selects text
  · simp only [first, second, third, fourth, decide_true, decide_false, ↓reduceIte]
  · simp only [first, second, third, fourth, decide_false, ↓reduceIte]

theorem not_selects_unknown (text : List Char) : ¬ unknown.Selects text := by
  rintro ⟨keyword, member, -⟩
  cases member

/-- A category with a keyword in the text is the one decided on, or a later one than it. -/
theorem index_ofLower_le {category : Category} {text : List Char}
    (selects : category.Selects text) : (ofLower text).index ≤ category.index := by
  rw [ofLower_eq]
  cases category with
  | syntactic => exact Nat.le_of_eq (by rw [if_pos selects])
  | reference => rw [if_pos selects]; split <;> decide
  | typing => rw [if_pos selects]; split_ifs <;> decide
  | runtime => rw [if_pos selects]; split_ifs <;> decide
  | unknown => exact absurd selects (not_selects_unknown text)

theorem selects_ofLower (text : List Char) :
    ofLower text = unknown ∨ (ofLower text).Selects text := by
  rw [ofLower_eq]
  split_ifs with first second third fourth
  · exact .inr first
  · exact .inr second
  · exact .inr third
  · exact .inr fourth
  · exact .inl rfl

theorem index_le_unknown (category : Category) : category.index ≤ unknown.index := by
  cases category <;> decide

/-! ### Settled forms -/

/-- The keywords have single blanks between their words. -/
theorem collapse_keyword {category : Category} {keyword : String}
    (member : keyword ∈ category.keywords) : collapse keyword.toList = keyword.toList := by
  have even : ∀ category ∈ all, ∀ keyword ∈ category.keywords,
      collapse keyword.toList = keyword.toList := by
    decide +kernel
  exact even category (by cases category <;> decide) keyword member

theorem Selects.collapse {category : Category} {text : List Char}
    (selects : category.Selects text) : category.Selects (collapse text) := by
  obtain ⟨keyword, member, stands⟩ := selects
  exact ⟨keyword, member, within_collapse (collapse_keyword member) stands⟩

/-- The category that a text's settled form is in. -/
def ofSettled (text : String) : Category := classify (String.ofList (normalize text.toList))

theorem ofSettled_eq (text : String) : ofSettled text = ofLower (normalize text.toList) := by
  rw [ofSettled, classify, String.toList_ofList, lower_normalize]

/-- Keywords only come to light when the settled form is taken. -/
theorem index_ofSettled_le (text : String) : (ofSettled text).index ≤ (classify text).index := by
  rw [ofSettled_eq]
  rcases selects_ofLower (lower text.toList) with unselected | selects
  · rw [classify, unselected]
    exact index_le_unknown _
  · rw [normalize_eq]
    exact index_ofLower_le selects.collapse

/-- A text is in the category of its settled form unless all keywords of it are hidden. -/
theorem classify_eq_ofSettled_iff (text : String) : classify text = ofSettled text ↔
    ofSettled text = unknown ∨ (ofSettled text).Selects (lower text.toList) := by
  constructor
  · intro same
    rw [← same]
    exact selects_ofLower _
  · rintro (unselected | selects)
    · have least := index_ofSettled_le text
      rw [unselected] at least ⊢
      exact index_injective (Nat.le_antisymm (index_le_unknown _) least)
    · exact index_injective (Nat.le_antisymm (index_ofLower_le selects) (index_ofSettled_le text))

/-- A text with single blanks hides no keyword. -/
theorem classify_of_evenlySpaced {text : String} (even : EvenlySpaced text.toList) :
    classify text = ofSettled text := by
  rw [classify_eq_ofSettled_iff, ofSettled_eq]
  refine (selects_ofLower _).imp id ?_
  rintro ⟨keyword, member, stands⟩
  refine ⟨keyword, member, ?_⟩
  have form : lower (trim text.toList) = normalize text.toList := by
    rw [even, normalize_eq_lower]
  rw [← form] at stands
  exact stands.trans (lower_trim_within _)

/-- Texts with single blanks and one settled form are in one category. -/
theorem classify_eq_of_evenlySpaced {left right : String} (leftEven : EvenlySpaced left.toList)
    (rightEven : EvenlySpaced right.toList)
    (same : normalize left.toList = normalize right.toList) : classify left = classify right := by
  rw [classify_of_evenlySpaced leftEven, classify_of_evenlySpaced rightEven, ofSettled_eq,
    ofSettled_eq, same]

end Category

end TaskLoop
