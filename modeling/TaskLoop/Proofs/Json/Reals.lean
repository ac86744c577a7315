import TaskLoop.Arithmetic
import TaskLoop.Proofs.Decimal.ReadBack
import TaskLoop.Proofs.Json.ReadBack

/-!
A finite number that was written as JSON reads back as the same number.
-/

set_option autoImplicit false

namespace TaskLoop.Json

open TaskLoop.Decimal

/-- A point with digits, or nothing. -/
inductive FractionText : List Char → List Char → Prop where
  | none : FractionText [] []
  | some {digits : List Char} : (∀ c ∈ digits, c.isDigit = true) → digits ≠ [] →
      FractionText ('.' :: digits) digits

/-- A signed exponent, or nothing. -/
inductive ExponentText : List Char → Int → Prop where
  | none : ExponentText [] 0
  | plus (n : Nat) : ExponentText ('e' :: '+' :: digitsOf n) n
  | minus (n : Nat) : ExponentText ('e' :: '-' :: digitsOf n) (-n)

/-- The text of an unsigned number with a point or an exponent: its digits before the point and
after it, and the exponent. -/
structure RealText (text whole fraction : List Char) (exponent : Int) : Prop where
  digits : ∀ c ∈ whole, c.isDigit = true
  some : whole ≠ []
  leading : (whole.head? == Option.some '0' && whole.length != 1) = false
  parts : ∃ point power, FractionText point fraction ∧ ExponentText power exponent ∧
    point ++ power ≠ [] ∧ text = whole ++ (point ++ power)

section Reading

variable {point power whole fraction rest : List Char} {exponent : Int}

theorem ExponentText.ends (spelt : ExponentText power exponent) (ends : EndsNumber rest) :
    EndsDigits (power ++ rest) ∧ (power ++ rest).head? ≠ some '.' := by
  cases spelt with
  | none => exact ⟨ends.digits, fun first => (ends '.' first).2.1 rfl⟩
  | plus n => exact ⟨endsDigits_cons (by decide), by simp⟩
  | minus n => exact ⟨endsDigits_cons (by decide), by simp⟩

theorem readExponent_spelt (spelt : ExponentText power exponent) (ends : EndsNumber rest) :
    readExponent (power ++ rest) = some (power, rest) := by
  cases spelt with
  | none => exact readExponent_none ends
  | plus n =>
    have run := readDigits_append (@isDigit_digitsOf n) digitsOf_ne_nil ends.digits
    simp only [List.cons_append, readExponent, BEq.rfl, Bool.true_or, ↓reduceIte, run,
      Option.map_some]
  | minus n =>
    have run := readDigits_append (@isDigit_digitsOf n) digitsOf_ne_nil ends.digits
    simp only [List.cons_append, readExponent, BEq.rfl, Bool.true_or, ↓reduceIte, run,
      Option.map_some]

theorem readFraction_spelt (spelt : FractionText point fraction)
    (ends : EndsDigits rest) (noPoint : rest.head? ≠ some '.') :
    readFraction (point ++ rest) = some (point, rest) := by
  cases spelt with
  | none =>
    cases rest with
    | nil => rfl
    | cons c rest =>
      rw [List.nil_append, readFraction.eq_def]
      split
      · rename_i first
        cases first
        exact absurd rfl noPoint
      · rfl
  | some all notEmpty =>
    have run := readDigits_append all notEmpty ends
    simp only [List.cons_append, readFraction, run, Option.map_some]

theorem FractionText.ends {text : List Char} (spelt : FractionText point fraction)
    (ends : EndsDigits text) : EndsDigits (point ++ text) := by
  cases spelt with
  | none => exact ends
  | some _ _ => exact endsDigits_cons (by decide)

theorem readUnsigned_spelt {text : List Char} (spelt : RealText text whole fraction exponent)
    (ends : EndsNumber rest) : readUnsigned (text ++ rest) = some (text, rest) := by
  obtain ⟨point, power, pointed, powered, -, rfl⟩ := spelt.parts
  obtain ⟨endsPower, noPoint⟩ := powered.ends ends
  have run : readDigits (whole ++ (point ++ (power ++ rest))) =
      some (whole, point ++ (power ++ rest)) :=
    readDigits_append spelt.digits spelt.some (pointed.ends endsPower)
  rw [readUnsigned, List.append_assoc, List.append_assoc, run]
  simp only [Option.bind_eq_bind, Option.bind_some, spelt.leading, Bool.false_eq_true, ↓reduceIte,
    readFraction_spelt pointed endsPower noPoint, readExponent_spelt powered ends,
    List.append_assoc]
  rfl

/-- The parts of a spelling are those it was made of. -/
theorem parts_spelt {text : List Char} (spelt : RealText text whole fraction exponent) :
    JsonNumber.parts text = (whole, fraction, exponent) := by
  obtain ⟨point, power, pointed, powered, -, rfl⟩ := spelt.parts
  obtain ⟨endsPower, noPoint⟩ := powered.ends endsNumber_nil
  rw [List.append_nil] at endsPower noPoint
  have run : (whole ++ (point ++ power)).takeWhile Char.isDigit = whole :=
    takeWhile_digits spelt.digits (pointed.ends endsPower)
  have stops : power.dropWhile (fun c => c == '.' || c.isDigit) = power := by
    cases powered <;> rfl
  have left : (point ++ power).dropWhile (fun c => c == '.' || c.isDigit) = power := by
    cases pointed with
    | none => exact stops
    | some all _ =>
      rw [List.cons_append, List.dropWhile_cons, if_pos (by rfl),
        List.dropWhile_append_of_pos fun c member => by simp only [all c member, Bool.or_true],
        stops]
  rw [JsonNumber.parts]
  simp only [run, List.drop_left, left, Prod.mk.injEq, true_and]
  constructor
  · cases pointed with
    | none => cases powered <;> rfl
    | some all _ => exact takeWhile_digits all endsPower
  · cases powered with
    | none => rfl
    | plus n => exact congrArg Nat.cast (ofDigits_digitsOf n)
    | minus n => exact congrArg (fun n : Nat => -(n : Int)) (ofDigits_digitsOf n)

end Reading

/-! ### The text of a number -/

section Shapes

variable {decimal : Scaled}

/-- The positional text of a decimal stands for it. -/
theorem realText_positional (some : decimal.digits ≠ 0) :
    ∃ whole fraction, RealText decimal.positional whole fraction 0 ∧
      (ofDigits (whole ++ fraction) : ℚ) * 10 ^ ((0 : Int) - fraction.length) = decimal.value := by
  obtain ⟨whole, fraction, pointed, value⟩ := pointed_positional some
  refine ⟨whole, fraction, ⟨pointed.wholeDigits, pointed.some.1, pointed.leading, '.' :: fraction, [],
    .some pointed.fractionDigits pointed.some.2, .none, by simp, ?_⟩, ?_⟩
  · rw [List.append_nil, pointed.spelt]
  · rw [zero_sub, value]

/-- The scientific text of a decimal stands for it. -/
theorem realText_scientific (decimal : Scaled) :
    ∃ whole fraction exponent, RealText decimal.scientific whole fraction exponent ∧
      (ofDigits (whole ++ fraction) : ℚ) * 10 ^ (exponent - fraction.length) = decimal.value := by
  obtain ⟨c, rest, spelt, digit⟩ := exists_cons_digitsOf decimal.digits
  have all := @isDigit_digitsOf decimal.digits
  have value := ofDigits_digitsOf decimal.digits
  rw [spelt] at all value
  obtain ⟨leading, leads⟩ :
      ∃ leading, decimal.exponent + ((c :: rest).length : Int) - 1 = leading := ⟨_, rfl⟩
  have power : ExponentText ('e' :: (if leading < 0 then '-' else '+') :: digitsOf leading.natAbs)
      leading := by
    split
    · have spelt := ExponentText.minus leading.natAbs
      rwa [show -(leading.natAbs : Int) = leading by omega] at spelt
    · have spelt := ExponentText.plus leading.natAbs
      rwa [show (leading.natAbs : Int) = leading by omega] at spelt
  have point : FractionText (if (c :: rest).length ≤ 1 then [] else '.' :: rest) rest := by
    split
    · rename_i alone
      cases rest with
      | nil => exact .none
      | cons _ _ => simp only [List.length_cons] at alone; omega
    · rename_i more
      refine .some (fun c member => all c (List.mem_cons_of_mem _ member)) ?_
      rintro rfl
      exact more (Nat.le_refl _)
  refine ⟨[c], rest, leading, ⟨?_, List.cons_ne_nil _ _, ?_, _, _, point, power, ?_, ?_⟩, ?_⟩
  · exact fun other member => List.mem_singleton.mp member ▸ digit
  · exact Bool.and_false _
  · exact List.append_ne_nil_of_right_ne_nil _ (List.cons_ne_nil _ _)
  · rw [Scaled.scientific, spelt, leads]
    simp only [List.take_succ_cons, List.take_zero, List.drop_succ_cons, List.drop_zero,
      List.append_assoc, List.cons_append, List.nil_append]
  · rw [List.singleton_append, value, Scaled.value]
    congr 2
    rw [← leads, List.length_cons]
    push_cast
    ring

/-- Either text of a decimal stands for it. -/
theorem realText_body (some : decimal.digits ≠ 0) (inside : Bool) :
    ∃ whole fraction exponent,
      RealText (if inside then decimal.positional else decimal.scientific) whole fraction exponent ∧
        (ofDigits (whole ++ fraction) : ℚ) * 10 ^ (exponent - fraction.length) = decimal.value := by
  cases inside with
  | true =>
    obtain ⟨whole, fraction, spelt, value⟩ := realText_positional some
    exact ⟨whole, fraction, 0, spelt, value⟩
  | false => exact realText_scientific decimal

theorem RealText.all {text whole fraction : List Char} {exponent : Int}
    (spelt : RealText text whole fraction exponent) : ∀ c ∈ whole ++ fraction, c.isDigit = true := by
  obtain ⟨_, _, point, -⟩ := spelt.parts
  intro c member
  rcases List.mem_append.mp member with digit | digit
  · exact spelt.digits c digit
  · cases point with
    | none => cases digit
    | some all _ => exact all c digit

/-- A text begins with a digit, holds another character than digits, and stands on one line. -/
theorem RealText.chars {text whole fraction : List Char} {exponent : Int}
    (spelt : RealText text whole fraction exponent) :
    (∃ c more, text = c :: more ∧ c.isDigit = true) ∧ text.all Char.isDigit = false ∧
      '\n' ∉ text := by
  obtain ⟨point, power, pointed, powered, notEmpty, rfl⟩ := spelt.parts
  refine ⟨?_, ?_, ?_⟩
  · cases start : whole with
    | nil => exact absurd start spelt.some
    | cons c more => exact ⟨c, _, rfl, spelt.digits c (start ▸ List.mem_cons_self)⟩
  · rw [List.all_append, List.all_append, Bool.and_eq_false_iff, Bool.and_eq_false_iff]
    refine .inr ?_
    cases pointed with
    | none =>
      cases powered with
      | none => exact absurd rfl notEmpty
      | plus _ => exact .inr rfl
      | minus _ => exact .inr rfl
    | some _ _ => exact .inl rfl
  · have plain {digits : List Char} (all : ∀ c ∈ digits, c.isDigit = true) : '\n' ∉ digits :=
      fun member => absurd (all _ member) (by decide)
    rw [List.mem_append, List.mem_append, not_or, not_or]
    refine ⟨plain spelt.digits, ?_, ?_⟩
    · cases pointed with
      | none => exact List.not_mem_nil
      | some all _ => exact List.not_mem_cons_of_ne_of_not_mem (by decide) (plain all)
    · cases powered with
      | none => exact List.not_mem_nil
      | plus n =>
        exact List.not_mem_cons_of_ne_of_not_mem (by decide)
          (List.not_mem_cons_of_ne_of_not_mem (by decide) (plain isDigit_digitsOf))
      | minus n =>
        exact List.not_mem_cons_of_ne_of_not_mem (by decide)
          (List.not_mem_cons_of_ne_of_not_mem (by decide) (plain isDigit_digitsOf))

end Shapes

/-- The text of a finite number is a sign, if it has one, and a spelling whose parts are read as
that number. -/
theorem text?_finite {x : Float} {negative : Bool} {mantissa : Nat} {exponent : Int}
    (finite : Binary.ofFloat x = .finite negative mantissa exponent) :
    ∃ text whole fraction places, text? x = some (if negative then '-' :: text else text) ∧
      RealText text whole fraction places ∧ ofParts negative whole fraction places = x := by
  obtain ⟨representable, -⟩ := toBits_of_finite finite
  rw [text?, finite]
  dsimp only
  by_cases none : mantissa = 0
  · subst none
    exact ⟨['0', '.', '0'], ['0'], ['0'], 0, rfl,
      ⟨isDigit_nought, by decide, by decide, ['.', '0'], [], .some isDigit_nought (by decide), .none,
        by decide, rfl⟩,
      ofParts_zero finite⟩
  · have positive := Nat.pos_of_ne_zero none
    have near := near_shortest representable positive
    have body : (mantissa == 0) = false := beq_eq_false_iff_ne.mpr none
    simp only [body, Bool.false_eq_true, ↓reduceIte]
    obtain ⟨whole, fraction, places, spelt, value⟩ :=
      realText_body (digits_ne_zero near positive) _
    refine ⟨_, whole, fraction, places, rfl, spelt, ?_⟩
    exact ofParts_eq finite positive spelt.all (value ▸ near)

theorem isFinite_eq_true {x : Float} : isFinite x = true ↔
    ∃ negative mantissa exponent, Binary.ofFloat x = .finite negative mantissa exponent := by
  rw [isFinite]
  constructor
  · intro finite
    split at finite
    · rename_i bits
      exact ⟨_, _, _, bits⟩
    · cases finite
  · rintro ⟨negative, mantissa, exponent, bits⟩
    rw [bits]

variable {x : Float}

/-- What is not finite has no text. -/
theorem text?_infinite (infinite : isFinite x = false) : text? x = none := by
  rw [isFinite] at infinite
  rw [text?]
  cases bits : Binary.ofFloat x with
  | finite _ _ _ =>
    rw [bits] at infinite
    cases infinite
  | infinite _ => rfl
  | undefined => rfl

/-- A number is written so that it can be read, be it as null. -/
theorem printable_ofFloat (x : Float) : Printable (.ofFloat x) := by
  by_cases finite : isFinite x = true
  case neg =>
    rw [ofFloat, text?_infinite (Bool.eq_false_iff.mpr finite)]
    trivial
  obtain ⟨negative, mantissa, exponent, bits⟩ := isFinite_eq_true.mp finite
  obtain ⟨text, whole, fraction, places, written, spelt, -⟩ := text?_finite bits
  obtain ⟨⟨c, more, start, digit⟩, -, oneLine⟩ := spelt.chars
  rw [ofFloat, written]
  cases negative with
  | true =>
    refine ⟨List.not_mem_cons_of_ne_of_not_mem (by decide) oneLine, ⟨_, _, rfl, .inr rfl⟩, ?_⟩
    intro rest ends
    simp only [↓reduceIte, List.cons_append, readNumber, readUnsigned_spelt spelt ends,
      Option.map_some]
  | false =>
    refine ⟨oneLine, ⟨c, more, start, .inl digit⟩, ?_⟩
    intro rest ends
    have unsigned : readNumber (text ++ rest) = readUnsigned (text ++ rest) := by
      rw [start, List.cons_append, readNumber_digits digit]
    simp only [Bool.false_eq_true, ↓reduceIte, unsigned, readUnsigned_spelt spelt ends]

/-- The text of a finite number means that number. -/
theorem ofSpelling?_text (finite : isFinite x = true) :
    ∃ text, text? x = some text ∧ JsonNumber.ofSpelling? text = some (.real x) := by
  obtain ⟨negative, mantissa, exponent, bits⟩ := isFinite_eq_true.mp finite
  obtain ⟨text, whole, fraction, places, written, spelt, read⟩ := text?_finite bits
  obtain ⟨⟨c, more, start, digit⟩, other, -⟩ := spelt.chars
  refine ⟨_, written, ?_⟩
  cases negative with
  | true =>
    simp only [↓reduceIte, JsonNumber.ofSpelling?, List.head?_cons, BEq.rfl, List.drop_succ_cons,
      List.drop_zero, parts_spelt spelt, other, Bool.false_eq_true, read, finite]
  | false =>
    have unsigned : (text.head? == some '-') = false := by
      rw [start, List.head?_cons, beq_eq_false_iff_ne]
      intro first
      cases first
      exact absurd digit (by decide)
    simp only [Bool.false_eq_true, ↓reduceIte, JsonNumber.ofSpelling?, unsigned,
      parts_spelt spelt, other, read, finite]

/-- A finite number reads back. -/
theorem float?_ofFloat (finite : isFinite x = true) : float? (.ofFloat x) = some x := by
  obtain ⟨text, written, meaning⟩ := ofSpelling?_text finite
  rw [ofFloat, written, float?, meaning]
  rfl

/-- What is not finite cannot be read back. -/
theorem float?_ofFloat_none (infinite : isFinite x = false) : float? (.ofFloat x) = none := by
  rw [ofFloat, text?_infinite infinite]
  rfl

/-- What is read of a double-precision number, if anything is, is that number. -/
theorem eq_of_float? {y : Float} (read : float? (.ofFloat x) = some y) : y = x := by
  cases finite : isFinite x with
  | true =>
    rw [float?_ofFloat finite] at read
    exact (Option.some.inj read).symm
  | false =>
    rw [float?_ofFloat_none finite] at read
    cases read

/-- A number that is kept as it is: an integer within its bounds, or a finite one. -/
def Kept : JsonNumber → Prop
  | .natural value => value < powerOfTwo 64
  | .negative magnitude => 0 < magnitude ∧ magnitude ≤ powerOfTwo 63
  | .real value => isFinite value = true

/-- What a spelling means is kept. -/
theorem kept_of_ofSpelling? {spelling : List Char} {number : JsonNumber}
    (meaning : JsonNumber.ofSpelling? spelling = some number) : Kept number := by
  have real {x : Float} (meant : (if isFinite x = true then some (JsonNumber.real x) else none) =
      some number) : Kept number := by
    obtain ⟨finite, same⟩ := Option.ite_none_right_eq_some.mp meant
    rw [← Option.some.inj same]
    exact finite
  unfold JsonNumber.ofSpelling? at meaning
  dsimp only at meaning
  generalize (spelling.head? == some '-') = negative at meaning
  generalize (if negative = true then spelling.drop 1 else spelling) = unsigned at meaning
  generalize Decimal.ofParts negative _ _ _ = x at meaning
  split at meaning
  · split at meaning
    · split at meaning
      · exact real meaning
      · rename_i inside
        cases meaning
        simp only [Bool.or_eq_true, beq_iff_eq, decide_eq_true_eq, not_or] at inside
        exact ⟨Nat.pos_of_ne_zero inside.1, Nat.not_lt.mp inside.2⟩
    · split at meaning
      · rename_i inside
        cases meaning
        exact inside
      · exact real meaning
  · exact real meaning

/-- What is read as a number is finite. -/
theorem isFinite_of_float? {json : Json} (read : float? json = some x) : isFinite x = true := by
  cases json with
  | number spelling =>
    obtain ⟨number, meaning, rfl⟩ := Option.map_eq_some_iff.mp read
    have kept := kept_of_ofSpelling? meaning
    cases number with
    | natural value => exact isFinite_nearest false (Nat.le_of_lt kept)
    | negative magnitude =>
      exact isFinite_nearest true (Nat.le_trans kept.2 (by decide))
    | real value => exact kept
  | _ => cases read

end TaskLoop.Json
