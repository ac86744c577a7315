import TaskLoop.Proofs.Category.Joined

/-!
What the error text of a failed build tells of the failure. The text is made of lines about errors,
some of those the build wrote, so it is in no later category than the lines that are kept; when none
is kept it is all of standard error.
-/

set_option autoImplicit false

namespace TaskLoop

namespace Text

/-! ### Lines -/

theorem joinWith_splitBy (text : List Char) :
    joinWith ['\n'] (splitBy (· == '\n') text) = text := by
  induction text with
  | nil => rfl
  | cons c text ih =>
    rw [splitBy]
    cases split : splitBy (· == '\n') text with
    | nil => exact absurd split (splitBy_ne_nil text)
    | cons part parts =>
      rw [split] at ih
      by_cases ends : c = '\n'
      · rw [if_pos (beq_iff_eq.mpr ends), joinWith_cons_cons, ih, ends]
        rfl
      · rw [if_neg (beq_iff_eq.not.mpr ends)]
        cases parts with
        | nil => exact congrArg (c :: ·) ih
        | cons next parts => exact congrArg (c :: ·) ih

/-! ### Blanks at the ends -/

variable {word front text back : List Char}

theorem infix_of_blanks_append (visible : ∀ c ∈ word.head?, isBlank c = false)
    (blanks : ∀ c ∈ front, isBlank c = true) (stands : word <:+: front ++ text) :
    word <:+: text := by
  induction front with
  | nil => exact stands
  | cons c front ih =>
    obtain ⟨first, others⟩ := List.forall_mem_cons.mp blanks
    rcases List.infix_cons_iff.mp stands with start | later
    · cases word with
      | nil => exact List.nil_infix
      | cons d word =>
        obtain ⟨rfl, -⟩ := List.cons_prefix_cons.mp start
        have kept := visible d rfl
        rw [first] at kept
        cases kept
    · exact ih others later

/-- A word without blanks at its ends stands in what is between blanks. -/
theorem Tight.infix_of_blanks (tight : Tight word) (before : ∀ c ∈ front, isBlank c = true)
    (behind : ∀ c ∈ back, isBlank c = true) (stands : word <:+: front ++ text ++ back) :
    word <:+: text := by
  rw [List.append_assoc] at stands
  have start := infix_of_blanks_append tight.first before stands
  rw [← List.reverse_infix, List.reverse_append] at start
  rw [← List.reverse_infix]
  refine infix_of_blanks_append ?_ (fun c member => behind c (List.mem_reverse.mp member)) start
  rw [List.head?_reverse]
  exact tight.last

theorem Tight.infix_lower_trim_iff (tight : Tight word) :
    word <:+: lower (trim text) ↔ word <:+: lower text := by
  refine ⟨fun stands => stands.trans (lower_trim_within text), fun stands => ?_⟩
  obtain ⟨front, back, whole, before, behind⟩ := exists_trimBy isBlank text
  have cut : lower text = lower (front ++ trim text ++ back) := congrArg lower whole
  rw [cut, lower_append_blanks _ behind, lower_blanks_append _ before] at stands
  exact tight.infix_of_blanks before behind stands

end Text

namespace Category

open Text

/-! ### Keywords of trimmed texts -/

theorem tight_keyword {category : Category} {keyword : String}
    (member : keyword ∈ category.keywords) : Tight keyword.toList := by
  have each : ∀ category ∈ all, ∀ keyword ∈ category.keywords,
      trim keyword.toList = keyword.toList := by
    decide +kernel
  rw [← each category (mem_all category) keyword member]
  exact tight_trim _

theorem sharesKeywords_trim (text : List Char) :
    SharesKeywords (lower text) [lower (trim text)] := by
  intro category keyword member
  simp only [List.mem_singleton, exists_eq_left]
  exact (tight_keyword member).infix_lower_trim_iff.symm

theorem classify_trim (text : String) :
    classify (String.ofList (trim text.toList)) = classify text := by
  obtain ⟨part, isPart, same⟩ :=
    (sharesKeywords_trim text.toList).exists_ofLower_eq (List.cons_ne_nil _ _)
  rw [classify, String.toList_ofList, ← List.mem_singleton.mp isPart]
  exact same

/-- A text has the keywords of its lines, with or without the blanks at their ends. -/
theorem sharesKeywords_trimmed (text : List Char) :
    SharesKeywords (lower text) ((lines text).map fun line => lower (trim line)) := by
  intro category keyword member
  have settled (line : List Char) :
      keyword.toList <:+: lower (trim line) ↔ keyword.toList <:+: lower line :=
    (tight_keyword member).infix_lower_trim_iff
  have returned (line : List Char) :
      keyword.toList <:+: lower (dropReturn line) ↔ keyword.toList <:+: lower line := by
    rw [← settled, trim_dropReturn, settled]
  have parts := sharesKeywords_joinWith (splitBy (· == '\n') text) category keyword member
  obtain ⟨front, last, cut, listed⟩ := exists_lines text
  rw [joinWith_splitBy] at parts
  rw [parts, cut, listed]
  simp only [List.mem_map, exists_exists_and_eq_and, List.mem_append, or_and_right, exists_or,
    settled, returned]
  refine or_congr Iff.rfl ?_
  by_cases empty : last = []
  · -- No line comes of what is empty, and no keyword stands there.
    have nothing : ¬ keyword.toList <:+: lower [] := fun stands =>
      (severs_keyword member).1.inside (List.eq_nil_of_infix_nil stands ▸ List.nil_infix)
    simp only [empty, ↓reduceIte, List.mem_singleton, exists_eq_left, nothing, List.not_mem_nil,
      false_and, exists_false]
  · rw [if_neg empty]

end Category

namespace BuildOutcome

open Category

/-! ### Error lines -/

theorem mem_errorLines {output line : String} (kept : line ∈ errorLines output) :
    ∃ whole ∈ Text.lines output.toList, Text.trim whole = line.toList := by
  obtain ⟨trimmed, isKept, rfl⟩ := List.mem_map.mp kept
  obtain ⟨whole, isLine, rfl⟩ :=
    List.mem_map.mp (List.mem_filter.mp (List.mem_of_mem_take isKept)).1
  exact ⟨whole, isLine, String.toList_ofList.symm⟩

/-- No line is in an earlier category than the output it is from. -/
theorem index_classify_le {output line : String} (kept : line ∈ errorLines output) :
    (classify output).index ≤ (classify line).index := by
  obtain ⟨whole, isLine, trimmed⟩ := mem_errorLines kept
  have least := (sharesKeywords_trimmed output.toList).index_le
    (List.mem_map_of_mem (f := fun line => Text.lower (Text.trim line)) isLine)
  rwa [trimmed] at least

/-- When a keyword stands in the output, some line of it is in the category of the whole. -/
theorem exists_classify_eq {output : String} (telling : classify output ≠ unknown) :
    ∃ line ∈ Text.lines output.toList,
      classify (String.ofList (Text.trim line)) = classify output := by
  have shares := sharesKeywords_trimmed output.toList
  rcases selects_ofLower (Text.lower output.toList) with unselected | selects
  · exact absurd unselected telling
  obtain ⟨part, isPart, -⟩ := (shares.selects_iff _).mp selects
  obtain ⟨other, isOther, same⟩ := shares.exists_ofLower_eq (List.ne_nil_of_mem isPart)
  obtain ⟨line, isLine, rfl⟩ := List.mem_map.mp isOther
  refine ⟨line, isLine, ?_⟩
  rw [classify, String.toList_ofList]
  exact same

theorem errors_of_failed {exitCode : Option Int} (failed : exitCode ≠ some 0)
    (stdout stderr : String) : (ofCommand exitCode stdout stderr).errors =
      if errorLines stderr = [] then errorLines stdout else errorLines stderr := by
  simp only [ofCommand, beq_eq_false_iff_ne.mpr failed, Bool.false_eq_true, ↓reduceIte,
    List.isEmpty_iff]

/-! ### Error texts -/

theorem classify_errorText_of_none {outcome : BuildOutcome} (none : outcome.errors = [])
    (telling : classify outcome.stderr ≠ unknown) :
    classify outcome.errorText = classify outcome.stderr := by
  have written : (Text.trim outcome.stderr.toList).isEmpty = false := by
    rw [List.isEmpty_eq_false_iff]
    intro empty
    have same := classify_trim outcome.stderr
    rw [empty] at same
    exact telling (same.symm.trans (by decide))
  rw [errorText, none]
  simp only [List.isEmpty_nil, written, Bool.not_true, Bool.not_false, Bool.false_eq_true,
    ↓reduceIte]
  exact classify_trim outcome.stderr

theorem index_errorText_le (outcome : BuildOutcome) {line : String}
    (kept : line ∈ outcome.errors) :
    (classify outcome.errorText).index ≤ (classify line).index := by
  rw [errorText_of_errors (List.ne_nil_of_mem kept)]
  exact (sharesKeywords_lines outcome.errors).index_le (List.mem_map_of_mem kept)

theorem exists_classify_errorText (outcome : BuildOutcome) (some : outcome.errors ≠ []) :
    ∃ line ∈ outcome.errors, classify line = classify outcome.errorText := by
  obtain ⟨part, isPart, same⟩ := (sharesKeywords_lines outcome.errors).exists_ofLower_eq
    (List.map_eq_nil_iff.not.mpr some)
  obtain ⟨line, isLine, rfl⟩ := List.mem_map.mp isPart
  rw [errorText_of_errors some]
  exact ⟨line, isLine, same⟩

/-- How a failed build is classified by its error text when a keyword stands in what it wrote to
standard error: as all of that when no line is kept, else no later than any line that is kept, and
just as all of that when the line that decides there is kept. -/
structure Uncovers (stderr : String) (outcome : BuildOutcome) : Prop where
  unhidden : outcome.errors = [] ∨ (∃ line ∈ outcome.errors, classify line ≠ unknown) →
    classify outcome.errorText ≠ unknown
  unfiltered : outcome.errors = [] → classify outcome.errorText = classify stderr
  kept : ∀ line ∈ outcome.errors,
    (classify outcome.errorText).index ≤ (classify line).index
  decisive : ∃ line ∈ Text.lines stderr.toList,
    classify (String.ofList (Text.trim line)) = classify stderr ∧
      (String.ofList (Text.trim line) ∈ errorLines stderr →
        classify outcome.errorText = classify stderr)

/-- A build that failed is not hidden from the classifier by the lines that are kept of what it
wrote, unless no keyword stands in any of them. -/
theorem failure_uncovered {exitCode : Option Int} (failed : exitCode ≠ some 0)
    (stdout stderr : String) (telling : classify stderr ≠ unknown) :
    Uncovers stderr (ofCommand exitCode stdout stderr) := by
  have unfiltered (none : (ofCommand exitCode stdout stderr).errors = []) :
      classify (ofCommand exitCode stdout stderr).errorText = classify stderr :=
    classify_errorText_of_none none telling
  refine ⟨?_, unfiltered, fun line => index_errorText_le _, ?_⟩
  · rintro (none | ⟨line, kept, tells⟩) hidden
    · exact telling ((unfiltered none).symm.trans hidden)
    · have least := index_errorText_le _ kept
      rw [hidden] at least
      exact tells (index_injective (Nat.le_antisymm (index_le_unknown _) least))
  · obtain ⟨line, isLine, same⟩ := exists_classify_eq telling
    refine ⟨line, isLine, same, fun kept => ?_⟩
    have errors : (ofCommand exitCode stdout stderr).errors = errorLines stderr := by
      rw [errors_of_failed failed, if_neg (List.ne_nil_of_mem kept)]
    rw [← errors] at kept
    obtain ⟨first, isFirst, decides⟩ := exists_classify_errorText _ (List.ne_nil_of_mem kept)
    have earlier := index_errorText_le _ kept
    rw [errors] at isFirst
    have later := index_classify_le isFirst
    rw [same] at earlier
    rw [decides] at later
    exact index_injective (Nat.le_antisymm earlier later)

end BuildOutcome

end TaskLoop

namespace TaskLoop.Sample

open Category BuildOutcome

/-- A cause is found in all of standard error when no line is kept, and in the line that tells it
when that is kept. -/
theorem causes_uncovered :
    let unkept := "ld: cannot find -lm\n"
    let kept := "cc1: fatal\r\n  main.c:3: ERROR: Expected ';' here\nld returned 1"
    (ofCommand (some 2) "" unkept).errors = [] ∧
      classify (ofCommand (some 2) "" unkept).errorText = reference ∧
      (ofCommand none "" kept).errors = ["cc1: fatal", "main.c:3: ERROR: Expected ';' here"] ∧
      classify (ofCommand none "" kept).errorText ≠ unknown := by
  intro unkept kept
  have nothing : (ofCommand (some 2) "" unkept).errors = [] := by decide +kernel
  have lines : (ofCommand none "" kept).errors =
      ["cc1: fatal", "main.c:3: ERROR: Expected ';' here"] := by
    decide +kernel
  have told : "main.c:3: ERROR: Expected ';' here" ∈ (ofCommand none "" kept).errors := by
    rw [lines]
    exact List.mem_cons_of_mem _ List.mem_cons_self
  have ended : (some 2 : Option Int) ≠ some 0 := by decide
  have killed : (none : Option Int) ≠ some 0 := by decide
  have whole := failure_uncovered ended "" unkept (by decide +kernel)
  have line := failure_uncovered killed "" kept (by decide +kernel)
  refine ⟨nothing, ?_, lines, ?_⟩
  · rw [whole.unfiltered nothing]
    decide +kernel
  · exact line.unhidden (.inr ⟨_, told, by decide +kernel⟩)

/-- A cause is hidden when the lines before it that are about errors fill the room there is, or when
it is told in a line without any of the words for errors next to one that has one. -/
theorem causes_hidden :
    let crowded := "\n".intercalate (List.replicate 20 "error" ++ ["error: expected ';'"])
    let unmarked := "ld: cannot find -lm\nmake: *** Error 1"
    (classify crowded = syntactic ∧
        classify (ofCommand (some 1) "" crowded).errorText = unknown) ∧
      classify unmarked = reference ∧
        classify (ofCommand (some 1) "" unmarked).errorText = unknown := by
  decide +kernel

end TaskLoop.Sample
