import TaskLoop.Json.Extract
import TaskLoop.Proofs.Json.Torn
import TaskLoop.Proofs.Text.Lines

/-!
Which part of a text the search for a block of balanced braces finds, when an object's text stands
in it: the object's, if the braces inside it close only what was opened inside it.
-/

set_option autoImplicit false

namespace TaskLoop.Json

/-- How many braces are open after a text that begins with `depth` open ones. There is no answer
once the outermost one is closed. -/
def openAfter? : Nat → List Char → Option Nat
  | depth, [] => some depth
  | depth, c :: rest =>
    if c == '\x7b' then openAfter? (depth + 1) rest
    else if c == '\x7d' then if depth ≤ 1 then none else openAfter? (depth - 1) rest
    else openAfter? depth rest

/-- Whether the character is a brace. -/
def isBrace (c : Char) : Bool := c == '\x7b' || c == '\x7d'

theorem openAfter?_filter (depth : Nat) (text : List Char) :
    openAfter? depth (text.filter isBrace) = openAfter? depth text := by
  induction text generalizing depth with
  | nil => rfl
  | cons c text ih =>
    by_cases opening : c = '\x7b'
    · subst opening
      exact ih (depth + 1)
    · by_cases closing : c = '\x7d'
      · subst closing
        have kept : ('\x7d' :: text).filter isBrace = '\x7d' :: text.filter isBrace := rfl
        rw [kept, openAfter?, openAfter?]
        simp only [ih]
      · have notOpening : (c == '\x7b') = false := beq_eq_false_iff_ne.mpr opening
        have notClosing : (c == '\x7d') = false := beq_eq_false_iff_ne.mpr closing
        have dropped : (c :: text).filter isBrace = text.filter isBrace := by
          rw [List.filter_cons, isBrace, notOpening, notClosing]
          rfl
        rw [dropped, ih, openAfter?]
        simp only [notOpening, notClosing, Bool.false_eq_true, ↓reduceIte]

theorem openAfter?_pos {depth left : Nat} {text : List Char} (positive : 0 < depth)
    (scanned : openAfter? depth text = some left) : 0 < left := by
  induction text generalizing depth with
  | nil => cases scanned; exact positive
  | cons c text ih =>
    rw [openAfter?] at scanned
    split at scanned
    · exact ih (Nat.succ_pos depth) scanned
    split at scanned
    · split at scanned
      · cases scanned
      · exact ih (by omega) scanned
    · exact ih positive scanned

/-- A text that leaves the outermost brace open is passed over. -/
theorem takeBalanced?_of_open {depth left : Nat} {text : List Char}
    (scanned : openAfter? depth text = some left) (rest : List Char) :
    takeBalanced? depth (text ++ rest) = (takeBalanced? left rest).map (text ++ ·) := by
  induction text generalizing depth with
  | nil =>
    cases scanned
    simp only [List.nil_append, Option.map_id_fun', id]
  | cons c text ih =>
    rw [openAfter?] at scanned
    rw [List.cons_append, takeBalanced?]
    split at scanned
    · next opening =>
      rw [if_pos opening, ih scanned, Option.map_map]
      rfl
    next notOpening =>
    rw [if_neg notOpening]
    split at scanned
    · next closing =>
      split at scanned
      · cases scanned
      · next deeper =>
        rw [if_pos closing, if_neg deeper, ih scanned, Option.map_map]
        rfl
    · next notClosing =>
      rw [if_neg notClosing, ih scanned, Option.map_map]
      rfl

/-- A text that closes the outermost brace is not passed over. -/
theorem takeBalanced?_of_closed {depth : Nat} {text : List Char}
    (scanned : openAfter? depth text = none) (rest : List Char) :
    ∃ found, takeBalanced? depth (text ++ rest) = some found ∧ found <+: text := by
  induction text generalizing depth with
  | nil => cases scanned
  | cons c text ih =>
    rw [openAfter?] at scanned
    rw [List.cons_append, takeBalanced?]
    split at scanned
    · next opening =>
      obtain ⟨found, taken, start⟩ := ih scanned
      refine ⟨c :: found, ?_, List.cons_prefix_cons.mpr ⟨rfl, start⟩⟩
      rw [if_pos opening, taken]
      rfl
    next notOpening =>
    rw [if_neg notOpening]
    split at scanned
    · next closing =>
      rw [if_pos closing]
      split at scanned
      · next last =>
        rw [if_pos last]
        exact ⟨[c], rfl, List.cons_prefix_cons.mpr ⟨rfl, List.nil_prefix⟩⟩
      · next deeper =>
        obtain ⟨found, taken, start⟩ := ih scanned
        refine ⟨c :: found, ?_, List.cons_prefix_cons.mpr ⟨rfl, start⟩⟩
        rw [if_neg deeper, taken]
        rfl
    · next notClosing =>
      obtain ⟨found, taken, start⟩ := ih scanned
      refine ⟨c :: found, ?_, List.cons_prefix_cons.mpr ⟨rfl, start⟩⟩
      rw [if_neg notClosing, taken]
      rfl

/-- What is found ends with a brace. -/
theorem brace_mem_of_takeBalanced? {depth : Nat} {text found : List Char}
    (taken : takeBalanced? depth text = some found) : '\x7d' ∈ found := by
  induction text generalizing depth found with
  | nil => cases taken
  | cons c text ih =>
    rw [takeBalanced?] at taken
    split at taken
    · obtain ⟨inner, inner_taken, rfl⟩ := Option.map_eq_some_iff.mp taken
      exact List.mem_cons_of_mem _ (ih inner_taken)
    split at taken
    · next closing =>
      split at taken
      · cases taken
        exact List.mem_singleton.mpr (beq_iff_eq.mp closing).symm
      · obtain ⟨inner, inner_taken, rfl⟩ := Option.map_eq_some_iff.mp taken
        exact List.mem_cons_of_mem _ (ih inner_taken)
    · obtain ⟨inner, inner_taken, rfl⟩ := Option.map_eq_some_iff.mp taken
      exact List.mem_cons_of_mem _ (ih inner_taken)

/-- The block found from the opening brace of an object's text is a text of the object exactly if
the braces inside it close only what was opened inside it. -/
theorem extractObject?_of_spells {before inside after : List Char}
    {members : List (String × Json)} (noBrace : '\x7b' ∉ before)
    (spells : Spells ('\x7b' :: inside ++ ['\x7d']) (.object members)) :
    (extractObject? (before ++ ('\x7b' :: inside ++ ['\x7d']) ++ after)).bind ofText? =
      if openAfter? 1 inside = some 1 then some (.object members) else none := by
  have skipped : (before ++ ('\x7b' :: inside ++ ['\x7d']) ++ after).dropWhile (· != '\x7b') =
      '\x7b' :: (inside ++ '\x7d' :: after) := by
    have all : ∀ c ∈ before, (c != '\x7b') = true := by
      intro c member
      rw [bne_iff_ne]
      rintro rfl
      exact noBrace member
    rw [List.append_assoc, List.dropWhile_append_of_pos all]
    simp only [List.cons_append, List.append_assoc, List.nil_append]
    rfl
  have opened : takeBalanced? 0 ('\x7b' :: (inside ++ '\x7d' :: after)) =
      (takeBalanced? 1 (inside ++ '\x7d' :: after)).map ('\x7b' :: ·) := rfl
  rw [extractObject?, skipped, opened]
  cases scanned : openAfter? 1 inside with
  | none =>
    obtain ⟨found, taken, others, rfl⟩ := takeBalanced?_of_closed scanned ('\x7d' :: after)
    have torn : ofText? ('\x7b' :: found) = none := by
      apply @ofText?_torn _ (others ++ ['\x7d']) members
      · simp only [List.cons_append, List.append_assoc] at spells ⊢
        exact spells
      · exact List.cons_ne_nil _ _
      · exact List.append_ne_nil_of_right_ne_nil _ (List.cons_ne_nil _ _)
    rw [taken, Option.map_some, Option.bind_some, torn]
    rfl
  | some left =>
    have positive := openAfter?_pos Nat.zero_lt_one scanned
    rw [takeBalanced?_of_open scanned, Option.map_map]
    by_cases last : left = 1
    · subst last
      have closed : takeBalanced? 1 ('\x7d' :: after) = some ['\x7d'] := rfl
      have read := ofText?_spells spells blanks_nil
      rw [List.append_nil] at read
      rw [closed, if_pos rfl]
      exact read
    · have deeper : takeBalanced? left ('\x7d' :: after) =
          (takeBalanced? (left - 1) after).map ('\x7d' :: ·) := by
        rw [takeBalanced?]
        exact if_neg (c := left ≤ 1) (by omega)
      rw [deeper, if_neg (by rwa [Option.some.injEq])]
      cases taken : takeBalanced? (left - 1) after with
      | none => rfl
      | some found =>
        have visible : skipBlanks found ≠ [] :=
          Text.dropWhile_ne_nil_of_mem (brace_mem_of_takeBalanced? taken) (by decide)
        have overlong := ofText?_overlong spells visible
        simp only [List.cons_append, List.append_assoc, List.nil_append] at overlong
        exact overlong

end TaskLoop.Json
