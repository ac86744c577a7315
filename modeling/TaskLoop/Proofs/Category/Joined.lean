import Mathlib.Data.List.Infix
import TaskLoop.Build
import TaskLoop.Generator.Basic
import TaskLoop.Proofs.Category

/-!
Failures told in one text. No keyword reaches across what is put between the parts of a text, so
the text has the keywords of its parts and no others, and the part whose category comes first in
the order of the rules decides.
-/

set_option autoImplicit false

namespace TaskLoop

namespace Text

/-! ### Words and separators -/

/-- A word that cannot stand across a separator: it begins and ends with no part of the separator,
and neither stands in the other. -/
structure Severs (separator word : List Char) : Prop where
  ends : ∀ start ∈ separator.inits, start ≠ [] → ¬ start <:+ word
  begins : ∀ tail ∈ separator.tails, tail ≠ [] → ¬ tail <+: word
  around : ¬ separator <:+: word
  inside : ¬ word <:+: separator

variable {separator word front rest : List Char}

instance : Decidable (Severs separator word) :=
  decidable_of_iff ((∀ start ∈ separator.inits, start ≠ [] → ¬ start <:+ word) ∧
    (∀ tail ∈ separator.tails, tail ≠ [] → ¬ tail <+: word) ∧ ¬ separator <:+: word ∧
      ¬ word <:+: separator)
    ⟨fun ⟨ends, begins, around, inside⟩ => ⟨ends, begins, around, inside⟩,
      fun severs => ⟨severs.ends, severs.begins, severs.around, severs.inside⟩⟩

namespace Severs

theorem infix_behind (severs : Severs separator word) (stands : word <:+: separator ++ rest) :
    word <:+: rest := by
  suffices within : ∀ tail, tail <:+ separator → word <:+: tail ++ rest → word <:+: rest from
    within separator (List.suffix_refl _) stands
  intro tail
  induction tail with
  | nil => exact fun _ stands => stands
  | cons c tail ih =>
    intro isTail stands
    rcases List.infix_cons_iff.mp stands with first | later
    · rcases List.prefix_or_prefix_of_prefix first (List.prefix_append (c :: tail) rest) with
        short | long
      · exact absurd (short.isInfix.trans isTail.isInfix) severs.inside
      · exact absurd long (severs.begins _ ((List.mem_tails _ _).mpr isTail) (List.cons_ne_nil _ _))
    · exact ih ((List.suffix_cons c tail).trans isTail) later

/-- A word that stands in two texts with a separator between them stands in one of them. -/
theorem infix_append_iff (severs : Severs separator word) :
    word <:+: front ++ separator ++ rest ↔ word <:+: front ∨ word <:+: rest := by
  constructor
  · intro stands
    rw [List.append_assoc] at stands
    induction front with
    | nil => exact .inr (severs.infix_behind stands)
    | cons c front ih =>
      rcases List.infix_cons_iff.mp stands with first | later
      · rcases List.prefix_or_prefix_of_prefix first (List.prefix_append (c :: front) _) with
          short | ⟨beyond, rfl⟩
        · exact .inl short.isInfix
        · -- What reaches beyond the front begins the separator or holds all of it.
          have reaches : beyond <+: separator ++ rest := (List.prefix_append_right_inj _).mp first
          by_cases none : beyond = []
          · rw [none, List.append_nil]
            exact .inl (List.infix_refl _)
          rcases List.prefix_or_prefix_of_prefix reaches (List.prefix_append separator rest) with
            short | long
          · exact absurd (List.suffix_append _ _)
              (severs.ends beyond ((List.mem_inits _ _).mpr short) none)
          · exact absurd (long.isInfix.trans (List.suffix_append _ _).isInfix) severs.around
      · exact (ih later).imp_left (·.trans (List.suffix_cons c front).isInfix)
  · rintro (left | right)
    · rw [List.append_assoc]
      exact left.trans (List.prefix_append _ _).isInfix
    · exact right.trans (List.suffix_append _ _).isInfix

/-- A word that stands in joined texts stands in one of them. -/
theorem infix_joinWith_iff (severs : Severs separator word) {parts : List (List Char)} :
    word <:+: joinWith separator parts ↔ ∃ part ∈ parts, word <:+: part := by
  induction parts with
  | nil =>
    refine ⟨fun stands => ?_, fun ⟨_, member, _⟩ => absurd member List.not_mem_nil⟩
    rw [List.eq_nil_of_infix_nil stands] at severs
    exact absurd List.nil_infix severs.inside
  | cons part parts ih =>
    rw [List.exists_mem_cons_iff]
    cases parts with
    | nil => exact (or_iff_left fun ⟨_, member, _⟩ => absurd member List.not_mem_nil).symm
    | cons next parts => rw [joinWith_cons_cons, severs.infix_append_iff, ih]

end Severs

/-! ### Joined texts -/

theorem toList_intercalate (separator : String) (parts : List String) :
    (separator.intercalate parts).toList = joinWith separator.toList (parts.map String.toList) := by
  induction parts with
  | nil => rfl
  | cons part parts ih =>
    cases parts with
    | nil => rw [String.intercalate_singleton, List.map_cons, List.map_nil, joinWith]
    | cons next parts =>
      rw [String.intercalate_cons_cons, String.toList_append, String.toList_append, ih]
      rfl

/-- Lower case does not look across a semicolon with a blank behind it. -/
theorem lower_append_semicolon_append (front rest : List Char) :
    lower (front ++ [';', ' '] ++ rest) = lower front ++ [';', ' '] ++ lower rest := by
  have mark : lower (front ++ [';']) = lower front ++ [';'] := by
    have other : Similarity.isTokenChar ';' = false := by decide
    exact Similarity.lower_between (List.forall_mem_nil _) (List.forall_mem_singleton.mpr other)
      front
  have cut : front ++ [';', ' '] ++ rest = front ++ [';'] ++ ' ' :: rest := by
    rw [List.append_assoc, List.append_assoc]
    rfl
  rw [cut, lower_append_blank _ _ (by decide), mark, List.append_assoc, List.append_assoc]
  rfl

end Text

namespace Category

open Text

/-! ### Keywords of joined texts -/

theorem mem_all (category : Category) : category ∈ all := by
  cases category <;> decide

/-- No keyword stands across a line feed, or across a semicolon with a blank behind it. -/
theorem severs_keyword {category : Category} {keyword : String}
    (member : keyword ∈ category.keywords) :
    Severs ['\n'] keyword.toList ∧ Severs [';', ' '] keyword.toList := by
  have each : ∀ category ∈ all, ∀ keyword ∈ category.keywords,
      Severs ['\n'] keyword.toList ∧ Severs [';', ' '] keyword.toList := by
    decide +kernel
  exact each category (mem_all category) keyword member

/-- The keywords of a text in lower case are those of some parts. -/
def SharesKeywords (text : List Char) (parts : List (List Char)) : Prop :=
  ∀ category : Category, ∀ keyword ∈ category.keywords,
    keyword.toList <:+: text ↔ ∃ part ∈ parts, keyword.toList <:+: part

theorem sharesKeywords_joinWith (parts : List (List Char)) :
    SharesKeywords (lower (joinWith ['\n'] parts)) (parts.map lower) := by
  intro category keyword member
  rw [lower_joinWith (lower_append_blank_append (by decide))]
  exact (severs_keyword member).1.infix_joinWith_iff

theorem sharesKeywords_lines (lines : List String) :
    SharesKeywords (lower ("\n".intercalate lines).toList)
      (lines.map fun line => lower line.toList) := by
  have shares := sharesKeywords_joinWith (lines.map String.toList)
  rw [toList_intercalate]
  rwa [List.map_map] at shares

theorem sharesKeywords_listed (texts : List String) :
    SharesKeywords (lower ("; ".intercalate texts).toList)
      (texts.map fun text => lower text.toList) := by
  intro category keyword member
  have separator : "; ".toList = [';', ' '] := rfl
  rw [toList_intercalate, separator, lower_joinWith lower_append_semicolon_append, List.map_map]
  exact (severs_keyword member).2.infix_joinWith_iff

/-! ### The first category -/

/-- A category among some that none of them comes before is the first of them. -/
theorem find?_all_eq_some {categories : List Category} {first : Category}
    (member : first ∈ categories)
    (least : ∀ category ∈ categories, first.index ≤ category.index) :
    all.find? (fun category => decide (category ∈ categories)) = some first := by
  have before (category : Category) (earlier : category.index < first.index) :
      category ∉ categories := fun listed => Nat.not_le.mpr earlier (least category listed)
  rw [List.find?_eq_some_iff_append]
  refine ⟨decide_eq_true member, all.take first.index, all.drop (first.index + 1), ?_, ?_⟩
  · cases first <;> rfl
  · intro category earlier
    rw [Bool.not_eq_true', decide_eq_false_iff_not]
    apply before
    cases first <;> revert category <;> decide

namespace SharesKeywords

variable {text : List Char} {parts : List (List Char)}

theorem selects_iff (shares : SharesKeywords text parts) (category : Category) :
    category.Selects text ↔ ∃ part ∈ parts, category.Selects part := by
  constructor
  · rintro ⟨keyword, member, stands⟩
    obtain ⟨part, isPart, inPart⟩ := (shares category keyword member).mp stands
    exact ⟨part, isPart, keyword, member, inPart⟩
  · rintro ⟨part, isPart, keyword, member, inPart⟩
    exact ⟨keyword, member, (shares category keyword member).mpr ⟨part, isPart, inPart⟩⟩

/-- The text is in no later category than any of the parts. -/
theorem index_le (shares : SharesKeywords text parts) {part : List Char} (isPart : part ∈ parts) :
    (ofLower text).index ≤ (ofLower part).index := by
  rcases selects_ofLower part with unselected | selects
  · rw [unselected]
    exact index_le_unknown _
  · exact index_ofLower_le ((shares.selects_iff _).mpr ⟨part, isPart, selects⟩)

/-- The text is in the category of one of the parts. -/
theorem exists_ofLower_eq (shares : SharesKeywords text parts) (some : parts ≠ []) :
    ∃ part ∈ parts, ofLower part = ofLower text := by
  rcases selects_ofLower text with unselected | selects
  · obtain ⟨part, isPart⟩ := List.exists_mem_of_ne_nil parts some
    refine ⟨part, isPart, index_injective (Nat.le_antisymm ?_ (shares.index_le isPart))⟩
    rw [unselected]
    exact index_le_unknown _
  · obtain ⟨part, isPart, inPart⟩ := (shares.selects_iff _).mp selects
    exact ⟨part, isPart, index_injective
      (Nat.le_antisymm (index_ofLower_le inPart) (shares.index_le isPart))⟩

end SharesKeywords

/-! ### Failures told in one text -/

/-- A text tells of failures as its parts do: a keyword stands in it just when it stands in one of
them, and its category is the first of theirs in the order of the rules. -/
structure TellsAs (text : String) (parts : List String) : Prop where
  keywords : ∀ category : Category, ∀ keyword ∈ category.keywords,
    keyword.toList <:+: lower text.toList ↔ ∃ part ∈ parts, keyword.toList <:+: lower part.toList
  first : all.find? (fun category => decide (category ∈ parts.map classify)) = some (classify text)

theorem SharesKeywords.tellsAs {text : String} {parts : List String}
    (shares : SharesKeywords (lower text.toList) (parts.map fun part => lower part.toList))
    (some : parts ≠ []) : TellsAs text parts where
  keywords := by
    intro category keyword member
    rw [shares category keyword member]
    simp only [List.mem_map, exists_exists_and_eq_and]
  first := by
    obtain ⟨part, isPart, same⟩ := shares.exists_ofLower_eq (List.map_eq_nil_iff.not.mpr some)
    obtain ⟨text', isText, rfl⟩ := List.mem_map.mp isPart
    refine find?_all_eq_some (List.mem_map.mpr ⟨text', isText, same⟩) fun category listed => ?_
    obtain ⟨other, isOther, rfl⟩ := List.mem_map.mp listed
    exact shares.index_le (List.mem_map_of_mem isOther)

theorem tellsAs_lines {lines : List String} (some : lines ≠ []) :
    TellsAs ("\n".intercalate lines) lines :=
  (sharesKeywords_lines lines).tellsAs some

theorem tellsAs_listed {texts : List String} (some : texts ≠ []) :
    TellsAs ("; ".intercalate texts) texts :=
  (sharesKeywords_listed texts).tellsAs some

theorem errorText_of_errors {outcome : BuildOutcome} (some : outcome.errors ≠ []) :
    outcome.errorText = "\n".intercalate outcome.errors := by
  rw [BuildOutcome.errorText, List.isEmpty_eq_false_iff.mpr some]
  rfl

/-- The error lines of a build told in one text, and the issues of a review, have the keywords of
the single ones and no others, and are in the category that comes first among theirs. -/
theorem joined_tells_as_parts (outcome : BuildOutcome) (findings : Findings) :
    (outcome.errors ≠ [] → TellsAs outcome.errorText outcome.errors) ∧
      (findings.issues ≠ [] → TellsAs findings.summary findings.issues) := by
  constructor
  · intro some
    rw [errorText_of_errors some]
    exact tellsAs_lines some
  · intro some
    rw [Findings.summary, List.isEmpty_eq_false_iff.mpr some]
    exact tellsAs_listed some

end Category

end TaskLoop

namespace TaskLoop.Sample

open Category

/-- Keywords that are cut in two by the joints do not count, and of those that remain whole the
first in the order of the rules decides. -/
theorem joints_cut_keywords :
    let lines := ["deadlock in syntax", "error: Linker LD", "returned, missing", "semicolon"]
    let issues := ["expected '", "' parse", "TYPE ERROR before ΟΣ", "timeout"]
    classify (BuildOutcome.errorText { errors := lines }) = reference ∧
      classify (Findings.summary ⟨false, issues⟩) = typing := by
  intro lines issues
  obtain ⟨ofLines, ofIssues⟩ := joined_tells_as_parts { errors := lines } ⟨false, issues⟩
  constructor
  · exact Option.some.inj ((ofLines (by decide)).first.symm.trans (by decide +kernel))
  · exact Option.some.inj ((ofIssues (by decide)).first.symm.trans (by decide +kernel))

end TaskLoop.Sample
