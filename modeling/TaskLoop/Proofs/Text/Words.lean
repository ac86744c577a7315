import Mathlib.Data.List.TakeWhile
import TaskLoop.Proofs.Text.Case

/-!
The words of a text. A blank ends one word and belongs to none, so a text of words is cut into these
words, and lower case goes word by word.
-/

set_option autoImplicit false

namespace TaskLoop.Text

/-! ### Cutting -/

theorem eq_false_of_mem_splitBy {isSeparator : Char → Bool} {text part : List Char}
    (member : part ∈ splitBy isSeparator text) : ∀ c ∈ part, isSeparator c = false := by
  induction text generalizing part with
  | nil =>
    obtain rfl := List.mem_singleton.mp member
    exact List.forall_mem_nil _
  | cons c text ih =>
    rw [splitBy] at member
    cases separates : isSeparator c with
    | true =>
      simp only [separates, ↓reduceIte, List.mem_cons] at member
      rcases member with rfl | member
      · exact List.forall_mem_nil _
      · exact ih member
    | false =>
      cases split : splitBy isSeparator text with
      | nil => exact absurd split (splitBy_ne_nil text)
      | cons first parts =>
        simp only [separates, split, Bool.false_eq_true, ↓reduceIte, List.mem_cons] at member
        rcases member with rfl | member
        · exact List.forall_mem_cons.mpr ⟨separates, ih (split ▸ List.mem_cons_self)⟩
        · exact ih (split ▸ List.mem_cons_of_mem _ member)

/-- A word: some characters, and no blank among them. -/
structure IsWord (word : List Char) : Prop where
  some : word ≠ []
  visible : ∀ c ∈ word, isBlank c = false

theorem isWord_of_mem_words {text word : List Char} (member : word ∈ words text) : IsWord word := by
  obtain ⟨part, some⟩ := List.mem_filter.mp member
  exact ⟨by simpa using some, eq_false_of_mem_splitBy part⟩

section Blank

variable {blank c d : Char} {front rest : List Char}

theorem words_append_blank (front rest : List Char) (isBlank : isBlank blank = true) :
    words (front ++ blank :: rest) = words front ++ words rest := by
  rw [words, splitBy_append_cons front rest isBlank, List.filter_append]
  rfl

theorem words_cons_blank (rest : List Char) (isBlank : isBlank blank = true) :
    words (blank :: rest) = words rest :=
  words_append_blank [] rest isBlank

theorem words_blanks_append (rest : List Char) (blanks : ∀ c ∈ front, isBlank c = true) :
    words (front ++ rest) = words rest := by
  induction front with
  | nil => rfl
  | cons c front ih =>
    obtain ⟨first, others⟩ := List.forall_mem_cons.mp blanks
    rw [List.cons_append, words_cons_blank _ first, ih others]

theorem words_append_blanks (front : List Char) (blanks : ∀ c ∈ rest, isBlank c = true) :
    words (front ++ rest) = words front := by
  cases rest with
  | nil => rw [List.append_nil]
  | cons c rest =>
    obtain ⟨first, others⟩ := List.forall_mem_cons.mp blanks
    have nothing : words rest = [] := by
      rw [← List.append_nil rest, words_blanks_append [] others]
      rfl
    rw [words_append_blank front rest first, nothing, List.append_nil]

theorem words_of_isWord {word : List Char} (isWord : IsWord word) : words word = [word] := by
  rw [words, splitBy_of_none isWord.visible]
  simpa using isWord.some

/-- A text of words with single blanks between them is cut into these words. -/
theorem words_joinWith {parts : List (List Char)} (each : ∀ part ∈ parts, IsWord part) :
    words (joinWith [' '] parts) = parts := by
  induction parts with
  | nil => rfl
  | cons part parts ih =>
    obtain ⟨first, others⟩ := List.forall_mem_cons.mp each
    cases parts with
    | nil => exact words_of_isWord first
    | cons next parts =>
      have cut : joinWith [' '] (part :: next :: parts) =
          part ++ ' ' :: joinWith [' '] (next :: parts) := List.append_assoc _ _ _
      rw [cut, words_append_blank _ _ (by decide), words_of_isWord first, ih others]
      rfl

/-! ### Ends -/

/-- A text is what is left when its ends are trimmed, between two runs of what was dropped. -/
theorem exists_trimBy (drop : Char → Bool) (text : List Char) : ∃ front back,
    text = front ++ trimBy drop text ++ back ∧ (∀ c ∈ front, drop c = true) ∧
      ∀ c ∈ back, drop c = true := by
  refine ⟨text.takeWhile drop, ((text.dropWhile drop).reverse.takeWhile drop).reverse, ?_, ?_, ?_⟩
  · have right : (text.dropWhile drop).reverse.takeWhile drop ++
        (text.dropWhile drop).reverse.dropWhile drop = (text.dropWhile drop).reverse :=
      List.takeWhile_append_dropWhile
    have whole := congrArg List.reverse right
    rw [List.reverse_append, List.reverse_reverse] at whole
    rw [trimBy, List.append_assoc, whole, List.takeWhile_append_dropWhile]
  · exact List.all_eq_true.mp List.all_takeWhile
  · intro c member
    exact List.all_eq_true.mp List.all_takeWhile c (List.mem_reverse.mp member)

theorem mem_of_mem_trimBy {drop : Char → Bool} {text : List Char} (member : c ∈ trimBy drop text) :
    c ∈ text := by
  obtain ⟨front, back, whole, -, -⟩ := exists_trimBy drop text
  rw [whole]
  exact List.mem_append_left _ (List.mem_append_right _ member)

/-- What is dropped around a text whose own ends are kept is cut off. -/
theorem trimBy_between {drop : Char → Bool} {front text back : List Char}
    (before : ∀ c ∈ front, drop c = true) (behind : ∀ c ∈ back, drop c = true)
    (first : ∀ c ∈ text.head?, drop c = false) (last : ∀ c ∈ text.getLast?, drop c = false) :
    trimBy drop (front ++ text ++ back) = text := by
  rw [trimBy, List.append_assoc, List.dropWhile_append_of_pos before]
  cases text with
  | nil =>
    rw [List.nil_append, List.dropWhile_eq_nil_iff.mpr behind]
    rfl
  | cons c rest =>
    have front : ((c :: rest) ++ back).dropWhile drop = (c :: rest) ++ back :=
      dropWhile_of_head? first
    have reversed : ∀ d ∈ back.reverse, drop d = true :=
      fun d member => behind d (List.mem_reverse.mp member)
    rw [front, List.reverse_append, List.dropWhile_append_of_pos reversed, dropWhile_of_head?,
      List.reverse_reverse]
    rw [List.head?_reverse]
    exact last

theorem trim_append_blanks {blanks : List Char} (text : List Char)
    (behind : ∀ c ∈ blanks, isBlank c = true) : trim (text ++ blanks) = trim text := by
  obtain ⟨front, back, whole, before, others⟩ := exists_trimBy isBlank text
  have tight := tight_trim text
  have cut : text ++ blanks = front ++ trim text ++ (back ++ blanks) := by
    rw [← List.append_assoc]
    exact congrArg (· ++ blanks) whole
  rw [cut]
  exact trimBy_between before (List.forall_mem_append.mpr ⟨others, behind⟩) tight.first tight.last

theorem trim_cons_blank {c : Char} (text : List Char) (blank : isBlank c = true) :
    trim (c :: text) = trim text := by
  rw [trim, trimBy, List.dropWhile_cons_of_pos blank, trim, trimBy]

/-- A carriage return at the end of a line is one of the blanks there. -/
theorem trim_dropReturn (line : List Char) : trim (dropReturn line) = trim line := by
  rw [dropReturn]
  split
  · rename_i isLast
    obtain ⟨front, rfl⟩ := List.getLast?_eq_some_iff.mp (beq_iff_eq.mp isLast)
    rw [List.dropLast_concat, trim_append_blanks front (List.forall_mem_singleton.mpr (by decide))]
  · rfl

/-- Blanks at the ends of a text belong to no word. -/
theorem words_trim (text : List Char) : words (trim text) = words text := by
  obtain ⟨front, back, whole, before, behind⟩ := exists_trimBy isBlank text
  have cut : words text = words (front ++ trim text ++ back) := congrArg words whole
  rw [cut, List.append_assoc, words_blanks_append _ before, words_append_blanks _ behind]

end Blank

/-! ### Lower case -/

/-- The code points of the blanks. -/
def blankPoints : List Nat :=
  [0x9, 0xA, 0xB, 0xC, 0xD, 0x20, 0x85, 0xA0, 0x1680, 0x2000, 0x2001, 0x2002, 0x2003, 0x2004, 0x2005,
    0x2006, 0x2007, 0x2008, 0x2009, 0x200A, 0x2028, 0x2029, 0x202F, 0x205F, 0x3000]

theorem mem_blankPoints {c : Char} (blank : isBlank c = true) : c.toNat ∈ blankPoints := by
  simp only [isBlank, Bool.or_eq_true, Bool.and_eq_true, decide_eq_true_eq, beq_iff_eq] at blank
  simp only [blankPoints, List.mem_cons, List.not_mem_nil, or_false]
  omega

/-- A blank is no letter and no digit. -/
theorem isAlphanumeric_of_isBlank {c : Char} (blank : isBlank c = true) :
    isAlphanumeric c = false := by
  have each : ∀ point ∈ blankPoints, isAlphanumeric (Char.ofNat point) = false := by decide +kernel
  have same := each c.toNat (mem_blankPoints blank)
  rwa [Char.ofNat_toNat] at same

/-- A blank stays as it is in lower case, and the search for a cased character stops at it. -/
theorem lowerChar_blank {c : Char} (blank : isBlank c = true) :
    (lowerChar c = [c] ∧ c ≠ 'Σ') ∧ isCaseIgnorable c = false ∧ isCased c = false := by
  have all : ∀ point ∈ blankPoints, (lowerChar (Char.ofNat point) = [Char.ofNat point] ∧
      Char.ofNat point ≠ 'Σ') ∧ isCaseIgnorable (Char.ofNat point) = false ∧
      isCased (Char.ofNat point) = false := by
    decide +kernel
  have held := all c.toNat (mem_blankPoints blank)
  rwa [Char.ofNat_toNat] at held

/-- What stands behind a text does not count when no cased character is found there. -/
theorem casedNext_append (front : List Char) {rest : List Char} (ends : casedNext rest = false) :
    casedNext (front ++ rest) = casedNext front := by
  rw [casedNext, List.dropWhile_append, casedNext]
  cases found : front.dropWhile isCaseIgnorable with
  | nil => exact ends
  | cons c others => rfl

theorem casedNext_cons_blank {c : Char} (blank : isBlank c = true) (rest : List Char) :
    casedNext (c :: rest) = false := by
  obtain ⟨-, stops, uncased⟩ := lowerChar_blank blank
  rw [casedNext, List.dropWhile_cons, stops]
  exact uncased

section Contexts

variable {front rest before outer : List Char}

theorem lowerAt_append (c : Char) (front : List Char) (ends : casedNext rest = false) :
    lowerAt before c (front ++ rest) = lowerAt before c front := by
  rw [lowerAt, casedNext_append front ends, lowerAt]

theorem lowerAfter_append (before front : List Char) (ends : casedNext rest = false) :
    lowerAfter before (front ++ rest) =
      lowerAfter before front ++ lowerAfter (front.reverse ++ before) rest := by
  induction front generalizing before with
  | nil => rfl
  | cons c front ih =>
    rw [List.cons_append, lowerAfter_cons, lowerAfter_cons, lowerAt_append c front ends, ih,
      List.append_assoc, List.reverse_cons, List.append_assoc]
    rfl

theorem lowerAfter_outer (before text : List Char) (ends : casedNext outer = false) :
    lowerAfter (before ++ outer) text = lowerAfter before text := by
  induction text generalizing before with
  | nil => rfl
  | cons c text ih =>
    rw [lowerAfter_cons, lowerAfter_cons, ← List.cons_append, ih, lowerAt,
      casedNext_append before ends, lowerAt]

end Contexts

/-- Lower case goes word by word: nothing before a blank counts for what is behind it. -/
theorem lower_append_blank {c : Char} (front rest : List Char) (blank : isBlank c = true) :
    lower (front ++ c :: rest) = lower front ++ c :: lower rest := by
  obtain ⟨⟨same, notSigma⟩, -⟩ := lowerChar_blank blank
  have one (before : List Char) : lowerAt before c rest = [c] := by
    rw [lowerAt, beq_eq_false_iff_ne.mpr notSigma]
    exact same
  have behind : lowerAfter (c :: front.reverse) rest = lower rest :=
    lowerAfter_outer [] rest (casedNext_cons_blank blank _)
  rw [lower, lowerAfter_append [] front (casedNext_cons_blank blank rest), lowerAfter_cons, one,
    List.append_nil, behind]
  rfl

theorem visible_lowerAfter {before text : List Char} (visible : ∀ c ∈ text, isBlank c = false) :
    ∀ d ∈ lowerAfter before text, isBlank d = false := by
  induction text generalizing before with
  | nil => exact List.forall_mem_nil _
  | cons c text ih =>
    obtain ⟨first, others⟩ := List.forall_mem_cons.mp visible
    intro d member
    rw [lowerAfter_cons, List.mem_append] at member
    rcases member with here | later
    · exact (lowerAt_of_mem here).2 first
    · exact ih others d later

theorem IsWord.lower {word : List Char} (isWord : IsWord word) : IsWord (lower word) := by
  refine ⟨?_, visible_lowerAfter isWord.visible⟩
  cases word with
  | nil => exact absurd rfl isWord.some
  | cons c rest =>
    rw [Text.lower, lowerAfter_cons]
    exact List.append_ne_nil_of_left_ne_nil (lowerAt_ne_nil _ _ _) _

/-- The words of a text in lower case are its words in lower case. -/
theorem words_lower (text : List Char) : words (lower text) = (words text).map lower := by
  have visibleWords {front : List Char} (visible : ∀ c ∈ front, isBlank c = false) :
      words (lower front) = (words front).map lower := by
    cases front with
    | nil => rfl
    | cons c front =>
      have isWord : IsWord (c :: front) := ⟨List.cons_ne_nil _ _, visible⟩
      rw [words_of_isWord isWord, words_of_isWord isWord.lower]
      rfl
  -- The word that is under way is carried along up to the blank behind it.
  suffices under : ∀ front, (∀ c ∈ front, isBlank c = false) →
      words (lower (front ++ text)) = (words (front ++ text)).map lower from
    under [] (List.forall_mem_nil _)
  induction text with
  | nil =>
    intro front visible
    rw [List.append_nil]
    exact visibleWords visible
  | cons c text ih =>
    intro front visible
    cases blank : isBlank c with
    | true =>
      rw [lower_append_blank front text blank, words_append_blank _ _ blank,
        words_append_blank _ _ blank, List.map_append, visibleWords visible]
      exact congrArg _ (ih [] (List.forall_mem_nil _))
    | false =>
      have longer : ∀ d ∈ front ++ [c], isBlank d = false :=
        List.forall_mem_append.mpr ⟨visible, List.forall_mem_singleton.mpr blank⟩
      have next := ih (front ++ [c]) longer
      rwa [List.append_assoc] at next

end TaskLoop.Text
