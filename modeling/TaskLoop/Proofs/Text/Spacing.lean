import TaskLoop.Proofs.Text.Words

/-!
A text with one blank between neighbouring words. What stands in a text and has single blanks
itself still stands there when the text is brought into this form, but not the other way round.
-/

set_option autoImplicit false

namespace TaskLoop.Text

variable {c d : Char} {text front rest : List Char}

/-- The words of a text with one blank between neighbours. -/
def collapse (text : List Char) : List Char := joinWith [' '] (words text)

/-- Between its ends a text has single blanks only. -/
def EvenlySpaced (text : List Char) : Prop := trim text = collapse text

instance : Decidable (EvenlySpaced text) := inferInstanceAs (Decidable (_ = _))

theorem joinWith_cons_cons (separator part next : List Char) (parts : List (List Char)) :
    joinWith separator (part :: next :: parts) =
      part ++ separator ++ joinWith separator (next :: parts) := rfl

theorem joinWith_eq_nil {parts : List (List Char)} (some : ∀ part ∈ parts, part ≠ []) :
    joinWith [' '] parts = [] ↔ parts = [] := by
  cases parts with
  | nil => exact ⟨fun _ => rfl, fun _ => rfl⟩
  | cons part parts =>
    refine ⟨fun empty => ?_, fun none => by cases none⟩
    cases parts with
    | nil => exact absurd empty (some part List.mem_cons_self)
    | cons next parts =>
      rw [joinWith_cons_cons] at empty
      exact absurd (List.append_eq_nil_iff.mp (List.append_eq_nil_iff.mp empty).1).2
        (List.cons_ne_nil _ _)

theorem collapse_eq_nil : collapse text = [] ↔ words text = [] :=
  joinWith_eq_nil fun _ member => (isWord_of_mem_words member).some

/-! ### From the front -/

theorem collapse_cons_blank (rest : List Char) (blank : isBlank c = true) :
    collapse (c :: rest) = collapse rest := by
  rw [collapse, words_cons_blank rest blank, collapse]

theorem words_cons_visible (rest : List Char) (visible : isBlank c = false) : ∃ word others,
    splitBy isBlank rest = word :: others ∧
      words (c :: rest) = (c :: word) :: others.filter fun part => !part.isEmpty := by
  rw [words, splitBy, visible]
  cases split : splitBy isBlank rest with
  | nil => exact absurd split (splitBy_ne_nil rest)
  | cons word others => exact ⟨word, others, rfl, rfl⟩

/-- Each word takes up at least one character. -/
theorem length_words_le (text : List Char) : (words text).length ≤ text.length := by
  induction text with
  | nil => exact Nat.le_refl 0
  | cons c rest ih =>
    rw [List.length_cons]
    cases visible : isBlank c with
    | true =>
      rw [words_cons_blank rest visible]
      exact Nat.le_succ_of_le ih
    | false =>
      obtain ⟨word, others, split, listed⟩ := words_cons_visible rest visible
      have fewer : (others.filter fun part => !part.isEmpty).length ≤ (words rest).length := by
        rw [words, split]
        exact (List.sublist_cons_self word others).filter _ |>.length_le
      rw [listed, List.length_cons]
      omega

theorem collapse_visible_visible (rest : List Char) (visible : isBlank c = false)
    (next : isBlank d = false) : collapse (c :: d :: rest) = c :: collapse (d :: rest) := by
  obtain ⟨word, others, split, listed⟩ := words_cons_visible (d :: rest) visible
  obtain ⟨inner, behind, split', listed'⟩ := words_cons_visible rest next
  have same : splitBy isBlank (d :: rest) = (d :: inner) :: behind := by
    rw [splitBy, next, split']
    rfl
  obtain ⟨rfl, rfl⟩ := List.cons.inj (same.symm.trans split)
  rw [collapse, collapse, listed, listed']
  cases behind.filter fun part => !part.isEmpty <;> rfl

theorem collapse_visible_blank (rest : List Char) (visible : isBlank c = false)
    (blank : isBlank d = true) : collapse (c :: d :: rest) =
      c :: if collapse rest = [] then [] else ' ' :: collapse rest := by
  have cut : words (c :: d :: rest) = [c] :: words rest := by
    have alone : words [c] = [[c]] :=
      words_of_isWord ⟨List.cons_ne_nil _ _, List.forall_mem_singleton.mpr visible⟩
    have whole := words_append_blank [c] rest blank
    rwa [alone] at whole
  rw [collapse, cut]
  cases listed : words rest with
  | nil => rw [if_pos (collapse_eq_nil.mpr listed), joinWith]
  | cons word others =>
    rw [if_neg (fun empty => by rw [collapse_eq_nil.mp empty] at listed; cases listed),
      joinWith_cons_cons, collapse, listed]
    rfl

theorem collapse_visible (rest : List Char) (visible : isBlank c = false) :
    ∃ behind, collapse (c :: rest) = c :: behind := by
  cases rest with
  | nil =>
    refine ⟨[], ?_⟩
    rw [collapse, words_of_isWord ⟨List.cons_ne_nil _ _, List.forall_mem_singleton.mpr visible⟩,
      joinWith]
  | cons d rest =>
    cases next : isBlank d with
    | true => exact ⟨_, collapse_visible_blank rest visible next⟩
    | false => exact ⟨_, collapse_visible_visible rest visible next⟩

/-! ### Parts -/

theorem collapse_end (front text : List Char) : collapse text <:+ collapse (front ++ text) := by
  induction front with
  | nil => exact List.suffix_refl _
  | cons c front ih =>
    refine ih.trans ?_
    rw [List.cons_append]
    generalize front ++ text = rest
    cases visible : isBlank c with
    | true => simp only [collapse_cons_blank rest visible, List.suffix_refl]
    | false =>
      cases rest with
      | nil => exact List.nil_suffix
      | cons d rest =>
        cases next : isBlank d with
        | true =>
          rw [collapse_cons_blank rest next, collapse_visible_blank rest visible next]
          split
          · rename_i empty
            rw [empty]
            exact List.nil_suffix
          · exact (List.suffix_cons _ _).trans (List.suffix_cons _ _)
        | false =>
          rw [collapse_visible_visible rest visible next]
          exact List.suffix_cons _ _

theorem collapse_start (text back : List Char) : collapse text <+: collapse (text ++ back) := by
  induction text with
  | nil => exact List.nil_prefix
  | cons c text ih =>
    rw [List.cons_append]
    cases visible : isBlank c with
    | true => rwa [collapse_cons_blank _ visible, collapse_cons_blank _ visible]
    | false =>
      cases text with
      | nil =>
        obtain ⟨behind, whole⟩ := collapse_visible back visible
        rw [List.nil_append, whole, collapse, words_of_isWord
          ⟨List.cons_ne_nil _ _, List.forall_mem_singleton.mpr visible⟩, joinWith]
        exact List.cons_prefix_cons.mpr ⟨rfl, List.nil_prefix⟩
      | cons d text =>
        rw [List.cons_append] at ih ⊢
        cases next : isBlank d with
        | true =>
          rw [collapse_cons_blank _ next, collapse_cons_blank _ next] at ih
          rw [collapse_visible_blank _ visible next, collapse_visible_blank _ visible next]
          refine List.cons_prefix_cons.mpr ⟨rfl, ?_⟩
          split
          · exact List.nil_prefix
          · rename_i some
            have more : collapse (text ++ back) ≠ [] := by
              intro empty
              rw [empty] at ih
              exact some (List.prefix_nil.mp ih)
            rw [if_neg more]
            exact List.cons_prefix_cons.mpr ⟨rfl, ih⟩
        | false =>
          rw [collapse_visible_visible _ visible next, collapse_visible_visible _ visible next]
          exact List.cons_prefix_cons.mpr ⟨rfl, ih⟩

/-- A part with single blanks stands in a text also when the text is given single blanks. -/
theorem within_collapse {part : List Char} (even : collapse part = part) (stands : part <:+: text) :
    part <:+: collapse text := by
  obtain ⟨front, back, rfl⟩ := stands
  have ahead := collapse_start part back
  have behind := collapse_end front (part ++ back)
  rw [even] at ahead
  rw [← List.append_assoc] at behind
  exact ahead.isInfix.trans behind.isInfix

/-! ### Lower case -/

theorem lower_blanks_append (rest : List Char) (blanks : ∀ c ∈ front, isBlank c = true) :
    lower (front ++ rest) = front ++ lower rest := by
  induction front with
  | nil => rfl
  | cons c front ih =>
    obtain ⟨first, others⟩ := List.forall_mem_cons.mp blanks
    have cut := lower_append_blank [] (front ++ rest) first
    rw [List.cons_append, List.cons_append, ← ih others]
    exact cut

theorem lower_append_blanks (front : List Char) (blanks : ∀ c ∈ rest, isBlank c = true) :
    lower (front ++ rest) = lower front ++ rest := by
  cases rest with
  | nil => rw [List.append_nil, List.append_nil]
  | cons c rest =>
    obtain ⟨first, others⟩ := List.forall_mem_cons.mp blanks
    have same : lower rest = rest := by
      have whole := lower_blanks_append [] others
      rw [List.append_nil] at whole
      exact whole.trans (List.append_nil rest)
    rw [lower_append_blank front rest first, same]

/-- A text in lower case has its trimmed text in lower case between the same blanks. -/
theorem lower_trim_within (text : List Char) : lower (trim text) <:+: lower text := by
  obtain ⟨front, back, whole, before, behind⟩ := exists_trimBy isBlank text
  have cut : lower text = lower (front ++ trim text ++ back) := congrArg lower whole
  rw [cut, lower_append_blanks _ behind, lower_blanks_append _ before]
  exact List.infix_append _ _ _

/-- Texts with a separator between them that lower case does not look across. -/
theorem lower_joinWith {separator : List Char} (cuts : ∀ part rest,
      lower (part ++ separator ++ rest) = lower part ++ separator ++ lower rest)
    (parts : List (List Char)) :
    lower (joinWith separator parts) = joinWith separator (parts.map lower) := by
  induction parts with
  | nil => rfl
  | cons part parts ih =>
    cases parts with
    | nil => rfl
    | cons next parts =>
      rw [joinWith_cons_cons, cuts, ih]
      rfl

theorem lower_append_blank_append {blank : Char} (isBlank : isBlank blank = true)
    (front rest : List Char) :
    lower (front ++ [blank] ++ rest) = lower front ++ [blank] ++ lower rest := by
  rw [List.append_assoc, List.append_assoc]
  exact lower_append_blank front rest isBlank

theorem lower_collapse (text : List Char) : lower (collapse text) = collapse (lower text) := by
  rw [collapse, lower_joinWith (lower_append_blank_append (by decide)), collapse, words_lower]

end TaskLoop.Text
