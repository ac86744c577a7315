import TaskLoop.Proofs.Json.Reals
import TaskLoop.Proofs.Text.Lines
import TaskLoop.Proofs.Toml.Strings

/-!
A value written into a settings document reads back as that value: a number ends where its line
does, and none is taken for a date.
-/

set_option autoImplicit false

namespace TaskLoop.Toml

open TaskLoop.Decimal

/-- What a value is read as. -/
def Scalar.value : Scalar → Toml
  | string value => .string value
  | natural value => .integer value
  | real value => .real value
  | bool value => .bool value

/-- Values that can be read back: integers below 2^128 and finite numbers. -/
def Scalar.Fits : Scalar → Prop
  | string _ | bool _ => True
  | natural value => value < powerOfTwo 128
  | real value => isFinite value = true

/-! ### Tokens -/

/-- A number: characters of scalars, a minus sign at most at the start. -/
structure Token (token : List Char) : Prop where
  scalar : ∀ c ∈ token, isScalar c = true
  unsigned : '-' ∉ token.drop 1

section Tokens

variable {token rest : List Char}

theorem Token.takeWhile (spelt : Token token) :
    (token ++ '\n' :: rest).takeWhile isScalar = token := by
  rw [List.takeWhile_append_of_pos spelt.scalar, List.takeWhile_cons_of_neg (by decide),
    List.append_nil]

/-- Behind a run of digits that begins with the token stands no mark that the token lacks. -/
theorem readMark_behind {count : Nat} {mark : Char} (some : 0 < count) (newline : mark ≠ '\n')
    (digits : ∀ c ∈ (token ++ '\n' :: rest).take count, c.isDigit = true)
    (absent : mark ∉ token.drop 1) : readMark mark ((token ++ '\n' :: rest).drop count) = none := by
  have inside : count ≤ token.length := by
    by_contra short
    have member : '\n' ∈ (token ++ '\n' :: rest).take count := by
      rw [List.take_append, List.take_cons (by omega)]
      exact List.mem_append_right _ List.mem_cons_self
    exact absurd (digits _ member) (by decide)
  rw [List.drop_append_of_le_length inside]
  cases behind : token.drop count with
  | nil => rw [List.nil_append, readMark, beq_eq_false_iff_ne.mpr newline, if_neg Bool.false_ne_true]
  | cons c more =>
    have other : mark ≠ c := by
      rintro rfl
      apply absent
      have member : mark ∈ token.drop count := behind ▸ List.mem_cons_self
      rw [show count = 1 + (count - 1) by omega, ← List.drop_drop] at member
      exact List.mem_of_mem_drop member
    rw [List.cons_append, readMark, beq_eq_false_iff_ne.mpr other, if_neg Bool.false_ne_true]

theorem Token.readDate (spelt : Token token) : readDate (token ++ '\n' :: rest) = none := by
  rw [Toml.readDate]
  dsimp only
  split
  · rfl
  · rename_i digits
    simp only [Bool.or_eq_true, bne_iff_ne, Bool.not_eq_true', not_or, Bool.not_eq_false,
      List.all_eq_true] at digits
    rw [readMark_behind (by decide) (by decide) digits.2 spelt.unsigned]
    rfl

theorem digits_of_readPair {least most value : Nat} {text after : List Char}
    (read : readPair least most text = some (value, after)) :
    (∀ c ∈ text.take 2, c.isDigit = true) ∧ after = text.drop 2 := by
  match text, read with
  | a :: b :: rest, read =>
    rw [readPair] at read
    split at read
    · cases read
    · rename_i digits
      simp only [Bool.or_eq_true, Bool.not_eq_true', not_or, Bool.not_eq_false] at digits
      obtain ⟨-, same⟩ := Option.ite_none_right_eq_some.mp read
      cases same
      refine ⟨?_, rfl⟩
      rw [List.take_succ_cons, List.take_succ_cons, List.take_zero]
      simpa only [List.forall_mem_cons, List.not_mem_nil, false_implies, implies_true, and_true]

theorem Token.readTime (spelt : Token token) : readTime (token ++ '\n' :: rest) = none := by
  rw [Toml.readTime]
  cases pair : readPair 0 23 (token ++ '\n' :: rest) with
  | none => rfl
  | some read =>
    obtain ⟨value, after⟩ := read
    obtain ⟨digits, rfl⟩ := digits_of_readPair pair
    have absent : ':' ∉ token.drop 1 := fun member =>
      absurd (spelt.scalar _ (List.mem_of_mem_drop member)) (by decide)
    have stops := readMark_behind (by decide) (by decide) digits absent
    simp only [Option.bind_eq_bind, Option.bind_some, stops, Option.bind_none]

theorem Token.readDateTime (spelt : Token token) : readDateTime (token ++ '\n' :: rest) = none := by
  rw [Toml.readDateTime, spelt.readDate]
  exact spelt.readTime

/-- A number is read as what its characters say. -/
theorem Token.readScalar (spelt : Token token) {value : Toml} (word : ∃ c ∈ token, c.isDigit = true)
    (reads : ((integer? token).orElse fun _ => real? token) = some value) :
    readScalar (token ++ '\n' :: rest) = some (value, '\n' :: rest) := by
  obtain ⟨c, member, digit⟩ := word
  have other (name : List Char) (letters : name.all (!·.isDigit) = true) : (token == name) = false := by
    rw [beq_eq_false_iff_ne]
    rintro rfl
    have letter := List.all_eq_true.mp letters c member
    rw [digit] at letter
    cases letter
  rw [Toml.readScalar, spelt.readDateTime]
  simp only [spelt.takeWhile, other _ (by decide : ['t', 'r', 'u', 'e'].all (!·.isDigit) = true),
    other _ (by decide : ['f', 'a', 'l', 's', 'e'].all (!·.isDigit) = true), Bool.false_eq_true,
    ↓reduceIte, reads, Option.map_some, List.drop_left]

end Tokens

/-! ### Numbers -/

section Numbers

variable {digits whole fraction : List Char}

theorem digitRun?_digits (all : ∀ c ∈ digits, c.isDigit = true) (some : digits ≠ []) :
    digitRun? Char.isDigit digits = Option.some digits := by
  have alone : Text.splitBy (· == '_') digits = [digits] :=
    Text.splitBy_of_none fun c member => beq_eq_false_iff_ne.mpr fun same =>
      absurd (all c member) (same ▸ by decide)
  have full : (!digits.isEmpty && digits.all Char.isDigit) = true := by
    rw [List.isEmpty_eq_false_iff.mpr some, List.all_eq_true.mpr all]
    rfl
  simp only [digitRun?, alone, List.all_cons, List.all_nil, full, Bool.and_true, ↓reduceIte,
    List.flatten_cons, List.flatten_nil, List.append_nil]

/-- A text with a point is no run of digits. -/
theorem digitRun?_pointed {text : List Char} (pointed : Pointed text whole fraction) :
    digitRun? Char.isDigit text = none := by
  have alone : Text.splitBy (· == '_') text = [text] := by
    rw [pointed.spelt]
    refine Text.splitBy_of_none fun c member => ?_
    rw [beq_eq_false_iff_ne]
    rintro rfl
    rcases List.mem_append.mp member with digit | behind
    · exact absurd (pointed.wholeDigits _ digit) (by decide)
    · rcases List.mem_cons.mp behind with point | digit
      · cases point
      · exact absurd (pointed.fractionDigits _ digit) (by decide)
  have other : text.all Char.isDigit = false := by
    rw [pointed.spelt, List.all_append, List.all_cons]
    exact Bool.and_false _
  simp only [digitRun?, alone, List.all_cons, other, Bool.and_false, Bool.false_and,
    Bool.false_eq_true, ↓reduceIte]

theorem decimal?_digits (all : ∀ c ∈ digits, c.isDigit = true) (some : digits ≠ [])
    (leading : (digits.head? == Option.some '0' && digits.length != 1) = false) :
    decimal? digits = Option.some digits := by
  simp only [decimal?, digitRun?_digits all some, Option.bind_eq_bind, Option.bind_some, leading,
    Bool.false_eq_true, ↓reduceIte]

theorem takeSign_digit {c : Char} {more : List Char} (digit : c.isDigit = true) :
    takeSign (c :: more) = (false, c :: more) := by
  unfold takeSign
  split
  · rename_i first
    cases first
    exact absurd digit (by decide)
  · rename_i first
    cases first
    exact absurd digit (by decide)
  · rfl

/-- Whether no mark of another base than ten stands second. -/
def Unbased (text : List Char) : Prop := ∀ c ∈ text.tail.head?, c ≠ 'x' ∧ c ≠ 'o' ∧ c ≠ 'b'

theorem unbased_of_digits {text : List Char}
    (digits : ∀ c ∈ text.tail.head?, c.isDigit = true ∨ c = '.') : Unbased text := by
  intro c member
  refine ⟨?_, ?_, ?_⟩ <;>
  · rintro rfl
    exact absurd (digits _ member) (by decide)

theorem integer?_of_decimal? {text : List Char} (unbased : Unbased text)
    (unsigned : takeSign text = (false, text)) (read : decimal? text = some digits)
    (fits : ofDigits digits < powerOfTwo 128) :
    integer? text = some (.integer (ofDigits digits)) := by
  rw [integer?]
  · simp only [unsigned, read, Option.map_some, Bool.false_eq_true, ↓reduceIte]
    refine Option.bind_eq_some_iff.mpr ⟨_, rfl, if_pos ?_⟩
    simp only [powerOfTwo, Nat.pow_eq] at fits ⊢
    simp only [Bool.and_eq_true, decide_eq_true_eq]
    omega
  · rintro digits rfl
    exact (unbased _ rfl).1 rfl
  · rintro digits rfl
    exact (unbased _ rfl).2.1 rfl
  · rintro digits rfl
    exact (unbased _ rfl).2.2 rfl

theorem integer?_none {text : List Char} (unbased : Unbased text)
    (read : decimal? (takeSign text).2 = none) : integer? text = none := by
  rw [integer?]
  · simp only [read, Option.map_none, Option.bind_eq_bind, Option.bind_none]
  · rintro digits rfl
    exact (unbased _ rfl).1 rfl
  · rintro digits rfl
    exact (unbased _ rfl).2.1 rfl
  · rintro digits rfl
    exact (unbased _ rfl).2.2 rfl

/-- The digits of a natural number are read as it. -/
theorem integer?_digitsOf {n : Nat} (fits : n < powerOfTwo 128) :
    integer? (digitsOf n) = some (.integer n) := by
  obtain ⟨c, more, spelt, digit⟩ := Json.exists_cons_digitsOf n
  have unsigned : takeSign (digitsOf n) = (false, digitsOf n) := spelt ▸ takeSign_digit digit
  have read := decimal?_digits (@isDigit_digitsOf n) digitsOf_ne_nil (Json.leadingZero_digitsOf n)
  have unbased : Unbased (digitsOf n) := unbased_of_digits fun c member =>
    .inl (isDigit_digitsOf c (List.mem_of_mem_tail (List.mem_of_mem_head? member)))
  have value := integer?_of_decimal? unbased unsigned read
  rw [ofDigits_digitsOf] at value
  exact value fits

/-! #### Real numbers -/

variable {text : List Char} {negative : Bool}

/-- A text behind its sign, if it has one. -/
def signed (negative : Bool) (text : List Char) : List Char :=
  if negative then '-' :: text else text

theorem exists_cons_pointed (pointed : Pointed text whole fraction) :
    ∃ c more, text = c :: more ∧ c.isDigit = true := by
  cases start : whole with
  | nil => exact absurd start pointed.some.1
  | cons c more =>
    refine ⟨c, more ++ '.' :: fraction, ?_, pointed.wholeDigits c (start ▸ List.mem_cons_self)⟩
    rw [pointed.spelt, start, List.cons_append]

theorem mem_pointed (pointed : Pointed text whole fraction) {c : Char} (member : c ∈ text) :
    c.isDigit = true ∨ c = '.' := by
  rw [pointed.spelt, List.mem_append, List.mem_cons] at member
  rcases member with digit | rfl | digit
  · exact .inl (pointed.wholeDigits c digit)
  · exact .inr rfl
  · exact .inl (pointed.fractionDigits c digit)

theorem takeSign_signed (pointed : Pointed text whole fraction) :
    takeSign (signed negative text) = (negative, text) := by
  cases negative with
  | true => rfl
  | false =>
    obtain ⟨c, more, rfl, digit⟩ := exists_cons_pointed pointed
    exact takeSign_digit digit

theorem unbased_signed (pointed : Pointed text whole fraction) : Unbased (signed negative text) := by
  refine unbased_of_digits fun c member => mem_pointed pointed ?_
  have inside := List.mem_of_mem_head? member
  cases negative with
  | true => exact inside
  | false => exact List.mem_of_mem_tail inside

/-- A number with a point is no integer. -/
theorem integer?_pointed (pointed : Pointed text whole fraction) :
    integer? (signed negative text) = none := by
  refine integer?_none (unbased_signed pointed) ?_
  rw [takeSign_signed pointed, decimal?, digitRun?_pointed pointed]
  rfl

theorem real?_pointed (pointed : Pointed text whole fraction)
    (finite : isFinite (ofParts negative whole fraction 0) = true) :
    real? (signed negative text) = some (.real (ofParts negative whole fraction 0)) := by
  obtain ⟨c, more, start, digit⟩ := exists_cons_pointed pointed
  have other (name : List Char) (letters : name.head?.all (!·.isDigit) = true) :
      (text == name) = false := by
    rw [beq_eq_false_iff_ne, start]
    rintro rfl
    rw [List.head?_cons, Option.all_some, digit] at letters
    cases letters
  have noMark : text.takeWhile (fun c => !(c == 'e' || c == 'E')) = text := by
    rw [List.takeWhile_eq_self_iff]
    intro c member
    by_contra mark
    simp only [Bool.not_eq_true', Bool.not_eq_false, Bool.or_eq_true, beq_iff_eq] at mark
    rcases mem_pointed pointed member with digit | rfl
    · rcases mark with rfl | rfl <;> exact absurd digit (by decide)
    · exact absurd mark (by decide)
  have cut : text.takeWhile (· != '.') = whole := by
    rw [pointed.spelt, List.takeWhile_append_of_pos, List.takeWhile_cons_of_neg (by decide),
      List.append_nil]
    intro c member
    exact bne_iff_ne.mpr fun same => pointed.point_not_mem.1 (same ▸ member)
  have behind : text.drop whole.length = '.' :: fraction := by
    rw [pointed.spelt, List.drop_left]
  rw [real?, takeSign_signed pointed]
  simp only [other ['i', 'n', 'f'] rfl, other ['n', 'a', 'n'] rfl, Bool.false_eq_true, ↓reduceIte,
    noMark, List.drop_length, cut, behind, digitRun?_digits pointed.fractionDigits pointed.some.2,
    decimal?_digits pointed.wholeDigits pointed.some.1 pointed.leading, Option.bind_eq_bind,
    Option.bind_some, finite]

/-- The text of a finite number is a sign, if it has one, and a positional text that is read as
that number. -/
theorem realText_finite {x : Float} (finite : isFinite x = true) :
    ∃ negative text whole fraction, Pointed text whole fraction ∧
      realText x = signed negative text ∧ ofParts negative whole fraction 0 = x := by
  obtain ⟨negative, mantissa, exponent, bits⟩ := Json.isFinite_eq_true.mp finite
  obtain ⟨text, whole, fraction, pointed, plain, read⟩ := plainText_finite bits
  refine ⟨negative, text, whole, fraction, pointed, ?_, read⟩
  obtain ⟨inWhole, -⟩ := pointed.point_not_mem
  rw [realText, bits]
  change (if (plainText x).contains '.' then plainText x else plainText x ++ ['.', '0']) = _
  have whether : plainText x = signed negative (if fraction = ['0'] then whole else text) := plain
  rw [whether]
  by_cases nought : fraction = ['0']
  · have bare : ¬ (signed negative whole).contains '.' = true := by
      cases negative with
      | true => simpa [signed] using inWhole
      | false => simpa [signed] using inWhole
    rw [if_pos nought, if_neg bare, pointed.spelt, nought]
    cases negative <;> rfl
  · have point : (signed negative text).contains '.' = true := by
      rw [pointed.spelt]
      cases negative <;> simp [signed]
    rw [if_neg nought, if_pos point]

theorem isScalar_of_digit {c : Char} (digit : c.isDigit = true) : isScalar c = true := by
  simp only [isScalar, Char.isAlphanum, digit, Bool.or_true, Bool.true_or]

theorem token_digitsOf (n : Nat) : Token (digitsOf n) :=
  ⟨fun c member => isScalar_of_digit (isDigit_digitsOf c member), fun member =>
    absurd (isDigit_digitsOf _ (List.mem_of_mem_drop member)) (by decide)⟩

theorem token_signed (pointed : Pointed text whole fraction) : Token (signed negative text) := by
  have scalar : ∀ c ∈ text, isScalar c = true := by
    intro c member
    rcases mem_pointed pointed member with digit | rfl
    · exact isScalar_of_digit digit
    · rfl
  have unsigned : '-' ∉ text := fun member => absurd (mem_pointed pointed member) (by decide)
  cases negative with
  | true => exact ⟨List.forall_mem_cons.mpr ⟨rfl, scalar⟩, unsigned⟩
  | false => exact ⟨scalar, fun member => unsigned (List.mem_of_mem_drop member)⟩

end Numbers

/-! ### Values -/

section Values

variable {fuel : Nat} {rest : List Char}

theorem exists_cons_stringText (text : List Char) :
    ∃ c more, stringText text = c :: more ∧ (c == '"' || c == '\'') = true := by
  rw [stringText]
  split
  · exact ⟨_, _, rfl, rfl⟩
  split
  · exact ⟨_, _, rfl, rfl⟩
  split
  · exact ⟨_, _, rfl, rfl⟩
  split
  · exact ⟨_, _, rfl, rfl⟩
  split <;> exact ⟨_, _, rfl, rfl⟩

/-- A value begins with a quote, or with a character of a number or a name. -/
theorem Scalar.exists_cons_text (scalar : Scalar) (fits : scalar.Fits) :
    ∃ c more, scalar.text = c :: more ∧ ((c == '"' || c == '\'') = true ∨ isScalar c = true) := by
  cases scalar with
  | string value =>
    obtain ⟨c, more, start, quote⟩ := exists_cons_stringText value.toList
    exact ⟨c, more, start, .inl quote⟩
  | natural value =>
    obtain ⟨c, more, start, digit⟩ := Json.exists_cons_digitsOf value
    exact ⟨c, more, start, .inr (isScalar_of_digit digit)⟩
  | real value =>
    obtain ⟨negative, text, whole, fraction, pointed, spelt, -⟩ := realText_finite fits
    obtain ⟨c, more, start, digit⟩ := exists_cons_pointed pointed
    rw [Scalar.text, spelt, start]
    cases negative with
    | true => exact ⟨_, _, rfl, .inr rfl⟩
    | false => exact ⟨_, _, rfl, .inr (isScalar_of_digit digit)⟩
  | bool value => cases value <;> exact ⟨_, _, rfl, .inr rfl⟩

theorem readValue_scalar {c : Char} (scalar : isScalar c = true) :
    readValue (fuel + 1) (c :: rest) = readScalar (c :: rest) := by
  have notQuote : ¬ (c == '"' || c == '\'') = true := by
    rw [Bool.or_eq_true, beq_iff_eq, beq_iff_eq]
    rintro (rfl | rfl) <;> exact absurd scalar (by decide)
  rw [readValue]
  · exact if_neg notQuote
  · rintro rfl
    exact absurd scalar (by decide)
  · rintro rfl
    exact absurd scalar (by decide)

theorem readValue_string {c : Char} (quote : (c == '"' || c == '\'') = true) :
    readValue (fuel + 1) (c :: rest) =
      (readString (c :: rest)).map fun (value, rest) => (.string value, rest) := by
  rw [readValue]
  · exact if_pos quote
  · rintro rfl
    exact absurd quote (by decide)
  · rintro rfl
    exact absurd quote (by decide)

theorem endsString_newline : EndsString ('\n' :: rest) := by
  rintro c ⟨⟩
  exact ⟨by decide, by decide⟩

/-- A number reads back, up to the end of its line. -/
theorem Token.readValue {token : List Char} {value : Toml} (spelt : Token token)
    (digit : ∃ c ∈ token, c.isDigit = true)
    (reads : ((integer? token).orElse fun _ => real? token) = some value) :
    Toml.readValue (fuel + 1) (token ++ '\n' :: rest) = some (value, '\n' :: rest) := by
  have read : Toml.readScalar (token ++ '\n' :: rest) = some (value, '\n' :: rest) :=
    spelt.readScalar digit reads
  obtain ⟨digit, member, -⟩ := digit
  obtain ⟨c, more, rfl⟩ := List.exists_cons_of_ne_nil (List.ne_nil_of_mem member)
  rw [List.cons_append] at read ⊢
  rw [readValue_scalar (spelt.scalar c List.mem_cons_self), read]

/-- A value reads back, up to the end of its line. -/
theorem readValue_text (scalar : Scalar) (fits : scalar.Fits) :
    readValue (fuel + 1) (scalar.text ++ '\n' :: rest) = some (scalar.value, '\n' :: rest) := by
  cases scalar with
  | string value =>
    obtain ⟨c, more, start, quote⟩ := exists_cons_stringText value.toList
    have read := readString_stringText value.toList (@endsString_newline rest)
    rw [start, List.cons_append] at read
    rw [Scalar.text, start, List.cons_append, readValue_string quote, read, Option.map_some,
      String.ofList_toList, Scalar.value]
  | natural value =>
    obtain ⟨c, more, start, digit⟩ := Json.exists_cons_digitsOf value
    refine (token_digitsOf value).readValue ⟨c, start ▸ List.mem_cons_self, digit⟩ ?_
    rw [integer?_digitsOf fits]
    rfl
  | real value =>
    obtain ⟨negative, text, whole, fraction, pointed, spelt, read⟩ := realText_finite fits
    obtain ⟨c, more, start, digit⟩ := exists_cons_pointed pointed
    have member : c ∈ signed negative text := by
      rw [start]
      cases negative with
      | true => exact List.mem_cons_of_mem _ List.mem_cons_self
      | false => exact List.mem_cons_self
    rw [Scalar.text, spelt]
    refine (token_signed pointed).readValue ⟨c, member, digit⟩ ?_
    rw [integer?_pointed pointed, real?_pointed pointed (read ▸ fits), read]
    rfl
  | bool value => cases value <;> rfl

end Values

end TaskLoop.Toml
