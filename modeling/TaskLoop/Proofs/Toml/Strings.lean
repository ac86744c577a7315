import Mathlib.Data.List.Basic
import TaskLoop.Toml.Printer
import TaskLoop.Toml.Reader

/-!
A text written into a settings document reads back as that text, whichever form of string was
chosen for it.
-/

set_option autoImplicit false

namespace TaskLoop.Toml

/-- Characters that stand for another one behind a backslash, and join no lines there. -/
structure Escapes (mark : List Char) (c : Char) : Prop where
  reads : ∀ more, readEscape (mark ++ more) = some (c, more)
  stays : ∀ more, joinLines? (mark ++ more) = none

/-- How a text is spelled between quotes, behind a run of quotes that stand for themselves. Runs of
one or two such quotes, and line feeds, are for strings of several lines. -/
inductive Spells (quote : Char) (escapes long : Bool) : Nat → List Char → List Char → Prop where
  | nil {run : Nat} : Spells quote escapes long run [] []
  | quote {run : Nat} {body text : List Char} : run < (if long then 2 else 0) →
      Spells quote escapes long (run + 1) body text →
      Spells quote escapes long run (quote :: body) (quote :: text)
  | plain {run : Nat} {c : Char} {body text : List Char} : c ≠ quote →
      (c == '\\' && escapes) = false → (isForbidden c = true → c = '\n' ∧ long = true) →
      Spells quote escapes long 0 body text →
      Spells quote escapes long run (c :: body) (c :: text)
  | escaped {run : Nat} {mark : List Char} {c : Char} {body text : List Char} : escapes = true →
      Escapes mark c → Spells quote escapes long 0 body text →
      Spells quote escapes long run ('\\' :: (mark ++ body)) (c :: text)

/-! ### Escapes -/

/-- The escape of a control character has four digits, which are its number. -/
theorem hexNumber?_control : ∀ n < 0x80,
    let digits := (Nat.toDigits 16 n).map Char.toUpper
    (List.replicate (4 - digits.length) '0' ++ digits).length = 4 ∧
      Text.hexNumber? (List.replicate (4 - digits.length) '0' ++ digits) = some n := by
  decide

theorem joinLines?_cons {c : Char} (stays : (c == ' ' || c == '\t') = false) (newline : c ≠ '\n')
    (carriage : c ≠ '\r') (more : List Char) : joinLines? (c :: more) = none := by
  rw [joinLines?, skipBlanks, List.dropWhile_cons, stays, if_neg Bool.false_ne_true, endLine?]
  · rfl
  · intro rest first
    exact newline (List.cons.inj first).1
  · intro rest first
    exact carriage (List.cons.inj first).1

theorem escapes_cons {c mark : Char} (reads : ∀ more, readEscape (mark :: more) = some (c, more))
    (stays : (mark == ' ' || mark == '\t') = false) (newline : mark ≠ '\n')
    (carriage : mark ≠ '\r') : Escapes [mark] c :=
  ⟨reads, joinLines?_cons stays newline carriage⟩

theorem needsEscape_lt {c : Char} (control : needsEscape c = true) : c.toNat < 0x80 := by
  simp only [needsEscape, Bool.or_eq_true, Bool.and_eq_true, decide_eq_true_eq, beq_iff_eq]
    at control
  omega

theorem escapes_control {c : Char} (control : needsEscape c = true) :
    let digits := (Nat.toDigits 16 c.toNat).map Char.toUpper
    Escapes ('u' :: (List.replicate (4 - digits.length) '0' ++ digits)) c := by
  intro digits
  have small := needsEscape_lt control
  obtain ⟨four, number⟩ := hexNumber?_control c.toNat small
  have point : Text.charOf? c.toNat = some c := by
    rw [Text.charOf?, if_pos (by simp only [Bool.or_eq_true, decide_eq_true_eq]; omega),
      Char.ofNat_toNat]
  refine ⟨fun more => ?_, fun _ => joinLines?_cons (by decide) (by decide) (by decide) _⟩
  change readNumeric 4 (List.replicate (4 - digits.length) '0' ++ digits ++ more) = _
  generalize List.replicate (4 - digits.length) '0' ++ digits = word at four number
  rw [readNumeric, if_neg (by rw [List.length_append]; omega), List.take_left' four,
    List.drop_left' four, number]
  simp only [Option.bind_eq_bind, Option.bind_some, point, Option.pure_def]

/-- Control characters are those that may not stand in a document, but for line feeds. -/
theorem isForbidden_of_not_needsEscape {c : Char} (plain : needsEscape c = false)
    (forbidden : isForbidden c = true) : c = '\n' := by
  by_contra other
  simp only [needsEscape, isForbidden, bne_iff_ne, Bool.or_eq_true, Bool.or_eq_false_iff,
    Bool.and_eq_true, Bool.and_eq_false_iff, bne_eq_false_iff_eq, other, or_false] at plain forbidden
  rcases forbidden with ⟨low, tab⟩ | high
  · rcases plain.1 with notLow | isTab
    · rw [low] at notLow
      cases notLow
    · exact tab isTab
  · rw [high] at plain
    cases plain.2

section Writing

variable {long : Bool} {run : Nat} {body text : List Char}

theorem Spells.escape {c : Char} (spelt : Spells '"' true long 0 body text) (notQuote : c ≠ '"') :
    Spells '"' true long run (escape c ++ body) (c :: text) := by
  have short {c mark : Char} (reads : ∀ more, readEscape (mark :: more) = some (c, more))
      (stays : (mark == ' ' || mark == '\t') = false) (newline : mark ≠ '\n')
      (carriage : mark ≠ '\r') : Spells '"' true long run ('\\' :: mark :: body) (c :: text) :=
    .escaped rfl (escapes_cons reads stays newline carriage) spelt
  simp only [Toml.escape, beq_iff_eq]
  split_ifs with b t n f r backslash control
  · subst b
    exact short (fun _ => rfl) (by decide) (by decide) (by decide)
  · subst t
    exact short (fun _ => rfl) (by decide) (by decide) (by decide)
  · subst n
    exact short (fun _ => rfl) (by decide) (by decide) (by decide)
  · subst f
    exact short (fun _ => rfl) (by decide) (by decide) (by decide)
  · subst r
    exact short (fun _ => rfl) (by decide) (by decide) (by decide)
  · subst backslash
    exact short (fun _ => rfl) (by decide) (by decide) (by decide)
  · have spelt : Spells '"' true long run _ _ := .escaped rfl (escapes_control control) spelt
    simpa only [List.append_assoc, List.cons_append, List.nil_append] using spelt
  · refine .plain notQuote ?_ (fun forbidden => absurd ?_ n) spelt
    · rw [beq_eq_false_iff_ne.mpr backslash, Bool.false_and]
    · exact isForbidden_of_not_needsEscape (Bool.eq_false_iff.mpr control) forbidden

/-- With escapes any text can be spelled. -/
theorem spells_escapeAll (long : Bool) (run : Nat) (text : List Char) :
    Spells '"' true long run (escapeAll long run text) text := by
  induction text generalizing run with
  | nil => exact .nil
  | cons c text ih =>
    rw [escapeAll]
    split
    · rename_i isQuote
      obtain rfl := beq_iff_eq.mp isQuote
      by_cases few : run < if long then 2 else 0
      case pos =>
        rw [if_pos few]
        exact .quote few (ih (run + 1))
      case neg =>
        rw [if_neg few]
        exact .escaped rfl
          (escapes_cons (fun _ => rfl) (by decide) (by decide) (by decide)) (ih 0)
    · rename_i notQuote
      split
      · rename_i newline
        simp only [Bool.and_eq_true, beq_iff_eq] at newline
        obtain ⟨rfl, several⟩ := newline
        exact .plain (by decide) rfl (fun _ => ⟨rfl, several⟩) (ih 0)
      · exact (ih 0).escape fun same => notQuote (beq_iff_eq.mpr same)

theorem le_longestRun (quote : Char) (run : Nat) (text : List Char) :
    run ≤ longestRun quote run text := by
  induction text generalizing run with
  | nil => exact Nat.le_refl run
  | cons c text ih =>
    rw [longestRun]
    split
    · exact Nat.le_of_succ_le (ih (run + 1))
    · exact Nat.le_max_left _ _

/-- Without escapes a text spells itself, if it has no control characters and no long run of
quotes. -/
theorem spells_self {quote : Char} (few : longestRun quote run text ≤ (if long then 2 else 0))
    (plain : text.any needsEscape = false) (oneLine : '\n' ∈ text → long = true) :
    Spells quote false long run text text := by
  induction text generalizing run with
  | nil => exact .nil
  | cons c text ih =>
    rw [List.any_cons, Bool.or_eq_false_iff] at plain
    have later (inside : '\n' ∈ text) := oneLine (List.mem_cons_of_mem _ inside)
    rw [longestRun] at few
    by_cases isQuote : c = quote
    case pos =>
      subst isQuote
      rw [if_pos BEq.rfl] at few
      exact .quote (Nat.lt_of_lt_of_le (le_longestRun c (run + 1) text) few)
        (ih few plain.2 later)
    case neg =>
      rw [if_neg (mt beq_iff_eq.mp isQuote)] at few
      refine .plain isQuote (Bool.and_false _) ?_
        (ih (Nat.le_trans (Nat.le_max_right _ _) few) plain.2 later)
      intro forbidden
      obtain rfl := isForbidden_of_not_needsEscape plain.1 forbidden
      exact ⟨rfl, oneLine List.mem_cons_self⟩

end Writing

/-! ### Reading -/

section Reading

variable {quote : Char} {escapes long : Bool} {run fuel : Nat} {body text rest : List Char}

theorem readBasic_spelt (spelt : Spells '"' true false run body text) (enough : body.length < fuel) :
    readBasic fuel (body ++ '"' :: rest) = some (text, rest) := by
  induction spelt generalizing fuel with
  | nil =>
    obtain ⟨fuel, rfl⟩ := Nat.exists_eq_add_one_of_ne_zero (Nat.ne_zero_of_lt enough)
    rfl
  | quote few _ _ => exact absurd few (Nat.not_lt_zero _)
  | @plain _ c body text notQuote notEscape allowed _ ih =>
    obtain ⟨fuel, rfl⟩ := Nat.exists_eq_add_one_of_ne_zero (Nat.ne_zero_of_lt enough)
    rw [Bool.and_true, beq_eq_false_iff_ne] at notEscape
    have fine : ¬ isForbidden c = true := fun forbidden => Bool.false_ne_true (allowed forbidden).2
    rw [List.cons_append, readBasic, if_neg fine, ih (Nat.lt_of_succ_lt_succ enough)]
    · rfl
    · exact notQuote
    · exact notEscape
  | @escaped _ mark c body text _ meaning _ ih =>
    obtain ⟨fuel, rfl⟩ := Nat.exists_eq_add_one_of_ne_zero (Nat.ne_zero_of_lt enough)
    have less : body.length < fuel := by
      rw [List.length_cons, List.length_append] at enough
      omega
    rw [List.cons_append, List.append_assoc]
    simp only [readBasic, meaning.reads, Option.bind_eq_bind, Option.bind_some, ih less]
    rfl

theorem readLiteral_spelt (spelt : Spells '\'' false false run body text) :
    readLiteral (body ++ '\'' :: rest) = some (text, rest) := by
  induction spelt with
  | nil => rfl
  | quote few _ _ => exact absurd few (Nat.not_lt_zero _)
  | @plain _ c body text notQuote _ allowed _ ih =>
    have fine : ¬ isForbidden c = true := fun forbidden => Bool.false_ne_true (allowed forbidden).2
    rw [List.cons_append, readLiteral, if_neg fine, ih]
    · rfl
    · exact notQuote
  | escaped never _ _ => cases never

/-- A spelling is a run of quotes, or goes on with another character behind one. -/
theorem Spells.leading (spelt : Spells quote escapes true run body text) (proper : '\\' ≠ quote)
    (few : run ≤ 2) :
    ∃ lead, run + lead ≤ 2 ∧ (body = List.replicate lead quote ∧ text = List.replicate lead quote ∨
      ∃ c more, c ≠ quote ∧ body = List.replicate lead quote ++ c :: more) := by
  induction spelt with
  | nil => exact ⟨0, few, .inl ⟨rfl, rfl⟩⟩
  | @quote run body text less _ ih =>
    obtain ⟨lead, short, spelt⟩ := ih (by rw [if_pos rfl] at less; omega)
    refine ⟨lead + 1, by omega, ?_⟩
    rcases spelt with ⟨rfl, rfl⟩ | ⟨c, more, other, rfl⟩
    · exact .inl ⟨rfl, rfl⟩
    · exact .inr ⟨c, more, other, rfl⟩
  | plain other _ _ _ _ => exact ⟨0, few, .inr ⟨_, _, other, rfl⟩⟩
  | escaped _ _ _ _ => exact ⟨0, few, .inr ⟨_, _, proper, rfl⟩⟩

theorem takeWhile_quotes {lead : Nat} (ends : ∀ c ∈ rest.head?, c ≠ quote) :
    (List.replicate lead quote ++ rest).takeWhile (· == quote) = List.replicate lead quote := by
  rw [List.takeWhile_append_of_pos fun c member => by
    rw [(List.mem_replicate.mp member).2, BEq.rfl]]
  cases rest with
  | nil => rw [List.takeWhile_nil, List.append_nil]
  | cons c rest =>
    rw [List.takeWhile_cons, beq_eq_false_iff_ne.mpr (ends c rfl), if_neg Bool.false_ne_true,
      List.append_nil]

/-- Up to two quotes and the closing ones end a string of several lines. -/
theorem closeQuotes_closing {lead : Nat} (few : lead ≤ 2) (ends : ∀ c ∈ rest.head?, c ≠ quote) :
    closeQuotes quote (List.replicate lead quote ++ ([quote, quote, quote] ++ rest)) =
      some (List.replicate lead quote, rest) := by
  have joined : List.replicate lead quote ++ ([quote, quote, quote] ++ rest) =
      List.replicate (lead + 3) quote ++ rest := by
    rw [← List.append_assoc, ← List.replicate_append_replicate]
    rfl
  rw [joined, closeQuotes, takeWhile_quotes ends, List.length_replicate, if_neg (by omega),
    Nat.add_sub_cancel, Nat.min_eq_left few]
  exact congrArg (fun left => some (_, left)) (List.drop_left' List.length_replicate)

theorem closeQuotes_none {lead : Nat} {c : Char} (few : lead ≤ 2) (other : c ≠ quote) :
    closeQuotes quote (List.replicate lead quote ++ c :: rest) = none := by
  have ends : ∀ first ∈ (c :: rest).head?, first ≠ quote := by
    rintro first ⟨⟩
    exact other
  rw [closeQuotes, takeWhile_quotes ends, List.length_replicate, if_pos (by omega)]

theorem readLong_step {c : Char} (goesOn : closeQuotes quote (c :: rest) = none)
    (notEscape : (c == '\\' && escapes) = false) (allowed : isForbidden c = true → c = '\n') :
    readLong quote escapes (fuel + 1) (c :: rest) =
      (readLong quote escapes fuel rest).map fun (content, rest) => (c :: content, rest) := by
  have stands : (c == '\n' || (c == '\r' && rest.head? == some '\n') || !isForbidden c) = true := by
    cases forbidden : isForbidden c with
    | false => rw [Bool.not_false, Bool.or_true]
    | true => rw [allowed forbidden, BEq.rfl, Bool.true_or, Bool.true_or]
  rw [readLong.eq_def]
  simp only [goesOn, notEscape, Bool.false_eq_true, ↓reduceIte, stands]

/-- The induction is on the spelling; a run of quotes that ends the content is read at once, with
the closing quotes. -/
theorem readLong_spelt (spelt : Spells quote escapes true run body text) (proper : quote ≠ '\\')
    (allowed : isForbidden quote = false) (few : run ≤ 2) (ends : ∀ c ∈ rest.head?, c ≠ quote)
    (enough : body.length < fuel) :
    readLong quote escapes fuel (body ++ ([quote, quote, quote] ++ rest)) = some (text, rest) := by
  induction spelt generalizing fuel with
  | nil =>
    obtain ⟨fuel, rfl⟩ := Nat.exists_eq_add_one_of_ne_zero (Nat.ne_zero_of_lt enough)
    have closing := closeQuotes_closing (Nat.zero_le 2) ends
    rw [List.replicate_zero, List.nil_append] at closing
    rw [List.nil_append, readLong.eq_def]
    simp only [closing]
  | @quote run body text less spelt ih =>
    obtain ⟨fuel, rfl⟩ := Nat.exists_eq_add_one_of_ne_zero (Nat.ne_zero_of_lt enough)
    rw [if_pos rfl] at less
    obtain ⟨lead, short, alone | ⟨c, more, other, goesOn⟩⟩ := spelt.leading proper.symm less
    · obtain ⟨rfl, rfl⟩ := alone
      have closing := closeQuotes_closing (show lead + 1 ≤ 2 by omega) ends
      rw [← List.replicate_succ, readLong.eq_def]
      simp only [closing]
    · have goes : closeQuotes quote (quote :: (body ++ ([quote, quote, quote] ++ rest))) = none := by
        rw [goesOn, List.append_assoc, List.cons_append, ← List.cons_append, ← List.replicate_succ]
        exact closeQuotes_none (by omega) other
      rw [List.cons_append, readLong_step goes, ih less (Nat.lt_of_succ_lt_succ enough)]
      · rfl
      · rw [beq_eq_false_iff_ne.mpr proper, Bool.false_and]
      · intro forbidden
        rw [allowed] at forbidden
        cases forbidden
  | @plain _ c body text notQuote notEscape stands _ ih =>
    obtain ⟨fuel, rfl⟩ := Nat.exists_eq_add_one_of_ne_zero (Nat.ne_zero_of_lt enough)
    rw [List.cons_append, readLong_step (closeQuotes_none (Nat.zero_le 2) notQuote) notEscape
      fun forbidden => (stands forbidden).1, ih (Nat.zero_le 2) (Nat.lt_of_succ_lt_succ enough)]
    rfl
  | @escaped _ mark c body text escapes meaning _ ih =>
    obtain ⟨fuel, rfl⟩ := Nat.exists_eq_add_one_of_ne_zero (Nat.ne_zero_of_lt enough)
    subst escapes
    have less : body.length < fuel := by
      rw [List.length_cons, List.length_append] at enough
      omega
    have goes : closeQuotes quote ('\\' :: (mark ++ (body ++ ([quote, quote, quote] ++ rest)))) =
        none := closeQuotes_none (Nat.zero_le 2) proper.symm
    rw [List.cons_append, List.append_assoc, readLong.eq_def]
    simp only [goes, BEq.rfl, Bool.and_self, ↓reduceIte, meaning.stays, meaning.reads,
      Option.bind_eq_bind, Option.bind_some, ih (Nat.zero_le 2) less]
    rfl

theorem Spells.dropLineEnd (spelt : Spells quote escapes long run body text) (proper : quote ≠ '\n')
    (other : quote ≠ '\r') (oneLine : '\n' ∉ text) :
    Toml.dropLineEnd (body ++ quote :: rest) = body ++ quote :: rest := by
  have none {c : Char} {more : List Char} (newline : c ≠ '\n') (carriage : c ≠ '\r') :
      Toml.dropLineEnd (c :: more) = c :: more := by
    rw [Toml.dropLineEnd, endLine?]
    · rfl
    · exact fun _ first => newline (List.cons.inj first).1
    · exact fun _ first => carriage (List.cons.inj first).1
  cases spelt with
  | nil => exact none proper other
  | quote => exact none proper other
  | plain _ _ allowed =>
    refine none (fun same => oneLine (same ▸ List.mem_cons_self)) ?_
    rintro rfl
    exact absurd (allowed rfl).1 (by decide)
  | escaped => exact none (by decide) (by decide)

/-- What stands behind the first quote of a string of one line is no opening of several lines. -/
theorem Spells.single (spelt : Spells quote escapes false run body text) (proper : '\\' ≠ quote)
    (ends : ∀ c ∈ rest.head?, c ≠ quote) (more : List Char) :
    body ++ quote :: rest ≠ quote :: quote :: more := by
  intro same
  cases spelt with
  | nil =>
    obtain ⟨-, start⟩ := List.cons.inj same
    exact ends quote (start ▸ rfl) rfl
  | quote few _ => exact absurd few (Nat.not_lt_zero _)
  | plain other _ _ _ => exact other (List.cons.inj same).1
  | escaped _ _ _ => exact proper (List.cons.inj same).1

end Reading

/-! ### Strings -/

/-- Whether the text goes on with no quote. -/
def EndsString (rest : List Char) : Prop := ∀ c ∈ rest.head?, c ≠ '"' ∧ c ≠ '\''

section Forms

variable {text rest : List Char}

theorem readString_basic (ends : EndsString rest) :
    readString ('"' :: escapeAll false 0 text ++ ['"'] ++ rest) =
      some (String.ofList text, rest) := by
  have spelt := spells_escapeAll false 0 text
  have single := spelt.single (by decide) fun c member => (ends c member).1
  rw [List.cons_append, List.cons_append, List.append_assoc, List.singleton_append]
  unfold readString
  dsimp only
  split
  · rename_i first
    exact absurd (List.cons.inj first).2 (single _)
  · rename_i first
    cases first
  · rename_i first
    cases first
    rw [readBasic_spelt spelt (by simp only [List.length_cons, List.length_append]; omega)]
    rfl
  · rename_i first
    cases first
  · rename_i first _
    exact absurd rfl (first _)

theorem readString_literal (ends : EndsString rest) (plain : text.any needsEscape = false)
    (few : longestRun '\'' 0 text = 0) (oneLine : '\n' ∉ text) :
    readString ('\'' :: text ++ ['\''] ++ rest) = some (String.ofList text, rest) := by
  have spelt : Spells '\'' false false 0 text text :=
    spells_self (Nat.le_of_eq few) plain fun inside => absurd inside oneLine
  have single := spelt.single (by decide) fun c member => (ends c member).2
  rw [List.cons_append, List.cons_append, List.append_assoc, List.singleton_append]
  unfold readString
  dsimp only
  split
  · rename_i first
    cases first
  · rename_i first
    exact absurd (List.cons.inj first).2 (single _)
  · rename_i first
    cases first
  · rename_i first
    cases first
    rw [readLiteral_spelt spelt]
    rfl
  · rename_i first
    exact absurd rfl (first _)

/-- A line feed stands before a text of several lines; without one the text begins at once. -/
theorem Spells.opening {quote : Char} {escapes : Bool} {body : List Char}
    (spelt : Spells quote escapes true 0 body text) (proper : quote ≠ '\n') (other : quote ≠ '\r') :
    Toml.dropLineEnd ((if text.contains '\n' then ['\n'] else []) ++
      (body ++ ([quote, quote, quote] ++ rest))) = body ++ ([quote, quote, quote] ++ rest) := by
  split
  · rfl
  · rename_i oneLine
    exact spelt.dropLineEnd proper other (mt List.elem_eq_true_of_mem oneLine)

theorem readString_long (ends : EndsString rest) :
    readString (['"', '"', '"'] ++ (if text.contains '\n' then ['\n'] else []) ++
      escapeAll true 0 text ++ ['"', '"', '"'] ++ rest) = some (String.ofList text, rest) := by
  have spelt := spells_escapeAll true 0 text
  simp only [List.append_assoc]
  rw [List.cons_append, List.cons_append, List.cons_append, List.nil_append, readString]
  rw [spelt.opening (by decide) (by decide), readLong_spelt spelt (by decide) (by decide)
    (Nat.zero_le 2) (fun c member => (ends c member).1)]
  · rfl
  · simp only [List.length_cons, List.length_append]
    omega

theorem readString_longLiteral (ends : EndsString rest) (plain : text.any needsEscape = false)
    (few : longestRun '\'' 0 text ≤ 2) :
    readString (['\'', '\'', '\''] ++ (if text.contains '\n' then ['\n'] else []) ++
      text ++ ['\'', '\'', '\''] ++ rest) = some (String.ofList text, rest) := by
  have spelt : Spells '\'' false true 0 text text := spells_self few plain fun _ => rfl
  simp only [List.append_assoc]
  rw [List.cons_append, List.cons_append, List.cons_append, List.nil_append, readString]
  rw [spelt.opening (by decide) (by decide), readLong_spelt spelt (by decide) (by decide)
    (Nat.zero_le 2) (fun c member => (ends c member).2)]
  · rfl
  · simp only [List.length_cons, List.length_append]
    omega

/-- Any text reads back from the form of string that is chosen for it. -/
theorem readString_stringText (text : List Char) (ends : EndsString rest) :
    readString (stringText text ++ rest) = some (String.ofList text, rest) := by
  rw [stringText]
  generalize opens : (if text.contains '\n' then ['\n'] else []) = opening
  split
  · exact readString_basic ends
  split
  · rename_i short
    simp only [Bool.and_eq_true, Bool.not_eq_true', beq_iff_eq] at short
    obtain ⟨⟨plain, few⟩, oneLine⟩ := short
    exact readString_literal ends plain few fun inside =>
      Bool.false_ne_true (oneLine ▸ List.elem_eq_true_of_mem inside)
  split
  · exact opens ▸ readString_long ends
  split
  · rename_i several
    simp only [Bool.and_eq_true, Bool.not_eq_true', decide_eq_true_eq] at several
    exact opens ▸ readString_longLiteral ends several.1 several.2
  split
  · exact opens ▸ readString_long ends
  · exact readString_basic ends

end Forms

end TaskLoop.Toml
