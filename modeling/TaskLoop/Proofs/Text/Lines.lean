import TaskLoop.Text.Words

/-!
The lines of a text that was written line by line, and what is left of a text without the blanks at
its ends.
-/

set_option autoImplicit false

namespace TaskLoop.Text

variable {isSeparator : Char → Bool}

theorem splitBy_of_none {text : List Char} (none : ∀ c ∈ text, isSeparator c = false) :
    splitBy isSeparator text = [text] := by
  induction text with
  | nil => rfl
  | cons c text ih =>
    obtain ⟨first, others⟩ := List.forall_mem_cons.mp none
    rw [splitBy, first, ih others]
    rfl

theorem splitBy_append {text rest : List Char} {c : Char}
    (none : ∀ other ∈ text, isSeparator other = false) (separates : isSeparator c = true) :
    splitBy isSeparator (text ++ c :: rest) = text :: splitBy isSeparator rest := by
  induction text with
  | nil =>
    rw [List.nil_append, splitBy, separates]
    rfl
  | cons other text ih =>
    obtain ⟨first, others⟩ := List.forall_mem_cons.mp none
    rw [List.cons_append, splitBy, first, ih others]
    rfl

theorem splitBy_ne_nil (text : List Char) : splitBy isSeparator text ≠ [] := by
  cases text with
  | nil => exact List.cons_ne_nil _ _
  | cons c text =>
    rw [splitBy]
    split
    · exact List.cons_ne_nil _ _
    · split <;> exact List.cons_ne_nil _ _

theorem splitBy_append_cons {isSeparator : Char → Bool} (front rest : List Char) {c : Char}
    (separates : isSeparator c = true) :
    splitBy isSeparator (front ++ c :: rest) =
      splitBy isSeparator front ++ splitBy isSeparator rest := by
  induction front with
  | nil => exact splitBy_append (List.forall_mem_nil _) separates
  | cons d front ih =>
    rw [List.cons_append, splitBy, splitBy, ih]
    cases isSeparator d with
    | true => rfl
    | false =>
      cases split : splitBy isSeparator front with
      | nil => exact absurd split (splitBy_ne_nil front)
      | cons part parts => rfl

/-- The lines as they are written, each with a line feed behind it. -/
def ended (written : List (List Char)) : List Char := written.flatMap (· ++ ['\n'])

/-- A text that a line stands for: no line feed in it and no carriage return at its end. -/
structure IsLine (text : List Char) : Prop where
  oneLine : '\n' ∉ text
  noReturn : text.getLast? ≠ some '\r'

theorem ne_newline {text : List Char} (oneLine : '\n' ∉ text) :
    ∀ c ∈ text, (c == '\n') = false := by
  intro c member
  rw [beq_eq_false_iff_ne]
  rintro rfl
  exact oneLine member

theorem splitBy_ended {written : List (List Char)} {last : List Char}
    (each : ∀ line ∈ written, '\n' ∉ line) (lastLine : '\n' ∉ last) :
    splitBy (· == '\n') (ended written ++ last) = written ++ [last] := by
  induction written with
  | nil => exact splitBy_of_none (ne_newline lastLine)
  | cons line written ih =>
    obtain ⟨first, others⟩ := List.forall_mem_cons.mp each
    have cut : ended (line :: written) ++ last = line ++ '\n' :: (ended written ++ last) := by
      simp only [ended, List.flatMap_cons, List.append_assoc, List.cons_append, List.nil_append]
    rw [cut, splitBy_append (ne_newline first) (beq_self_eq_true _), ih others]
    rfl

/-- The lines of a text are those that were written, and one without a line feed if any. -/
theorem lines_ended {written : List (List Char)} {last : List Char}
    (each : ∀ line ∈ written, IsLine line) (lastLine : '\n' ∉ last) :
    lines (ended written ++ last) = written ++ if last = [] then [] else [last] := by
  have whole : written.map dropReturn = written := by
    rw [List.map_congr_left (g := id), List.map_id]
    intro line member
    have noReturn := (each line member).noReturn
    rw [dropReturn, beq_eq_false_iff_ne.mpr noReturn]
    rfl
  have oneLine : ∀ line ∈ written, '\n' ∉ line := fun line member => (each line member).oneLine
  simp only [lines, splitBy_ended oneLine lastLine, List.dropLast_concat, List.getLast?_concat,
    whole]
  cases last with
  | nil => rw [if_pos rfl, List.append_nil]
  | cons c last => rw [if_neg (List.cons_ne_nil _ _)]

theorem exists_lines (text : List Char) : ∃ front last,
    splitBy (· == '\n') text = front ++ [last] ∧
      lines text = front.map dropReturn ++ if last = [] then [] else [last] := by
  refine ⟨_, _, (List.dropLast_concat_getLast (splitBy_ne_nil text)).symm, ?_⟩
  simp only [lines, List.getLast?_eq_some_getLast (splitBy_ne_nil text)]
  cases (splitBy (· == '\n') text).getLast (splitBy_ne_nil text) with
  | nil => rw [if_pos rfl, List.append_nil]
  | cons c last => rw [if_neg (List.cons_ne_nil _ _)]

/-! ### Ends of a text -/

/-- A character that is kept stops the search for it. -/
theorem dropWhile_ne_nil_of_mem {drop : Char → Bool} {text : List Char} {c : Char}
    (member : c ∈ text) (kept : drop c = false) : text.dropWhile drop ≠ [] := by
  intro nothing
  have cut : text.takeWhile drop ++ text.dropWhile drop = text := List.takeWhile_append_dropWhile
  rw [nothing, List.append_nil] at cut
  rw [← cut] at member
  have dropped := List.all_eq_true.mp List.all_takeWhile c member
  rw [kept] at dropped
  cases dropped

theorem trim_cons_ne_nil {c : Char} {text : List Char} (visible : isBlank c = false) :
    trim (c :: text) ≠ [] := by
  intro nothing
  have start : (c :: text).dropWhile isBlank = c :: text := by
    rw [List.dropWhile_cons, visible]
    rfl
  rw [trim, trimBy, start, List.reverse_eq_nil_iff] at nothing
  exact dropWhile_ne_nil_of_mem (List.mem_reverse.mpr List.mem_cons_self) visible nothing

end TaskLoop.Text
