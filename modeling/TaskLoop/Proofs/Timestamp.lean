import TaskLoop.Proofs.Decimal.Digits

/-!
The text of a point in time reads back as that point in time, and what is read as one can be
shown.
-/

set_option autoImplicit false

namespace TaskLoop.Timestamp

open TaskLoop.Decimal

/-! ### Earlier and later -/

theorem le_iff {earlier later : Timestamp} :
    earlier.le later = true ↔ earlier.seconds < later.seconds ∨
      earlier.seconds = later.seconds ∧ earlier.nanos ≤ later.nanos := by
  simp [le]

theorem le_refl (time : Timestamp) : time.le time = true := by
  simp [le]

/-- Of two times one comes before the other or with it. -/
theorem le_of_not_le {left right : Timestamp} (after : ¬ left.le right = true) :
    right.le left = true := by
  rw [le_iff] at after ⊢
  omega

theorem le_total (left right : Timestamp) : (left.le right || right.le left) = true := by
  by_cases before : left.le right = true
  · simp [before]
  · simp [le_of_not_le before]

theorem le_antisymm {left right : Timestamp} (before : left.le right = true)
    (after : right.le left = true) : left = right := by
  rw [le_iff] at before after
  obtain ⟨seconds, nanos⟩ := left
  obtain ⟨seconds', nanos'⟩ := right
  simp only at before after
  simp only [mk.injEq]
  omega

theorem le_trans {first second third : Timestamp} (before : first.le second = true)
    (after : second.le third = true) : first.le third = true := by
  rw [le_iff] at before after ⊢
  omega

/-- One time is earlier than another. -/
def Before (earlier later : Timestamp) : Prop := ¬ later.le earlier = true

theorem Before.le {earlier later : Timestamp} (before : earlier.Before later) :
    earlier.le later = true := le_of_not_le before

theorem Before.ne {earlier later : Timestamp} (before : earlier.Before later) :
    earlier ≠ later := by
  rintro rfl
  exact before (le_refl _)

/-! ### The calendar -/

/-- The year within an era of 400 years, counted from March, and what is left of its days. -/
theorem yearOfEra_bounds {dayOfEra fours centuries era year quarter century : Int}
    (least : 0 ≤ dayOfEra) (most : dayOfEra ≤ 146096) (byFours : fours = dayOfEra / 1460)
    (byCenturies : centuries = dayOfEra / 36524) (byEra : era = dayOfEra / 146096)
    (byYear : year = (dayOfEra - fours + centuries - era) / 365)
    (byQuarter : quarter = year / 4) (byCentury : century = year / 100) :
    0 ≤ year ∧ year ≤ 399 ∧ 0 ≤ dayOfEra - (365 * year + quarter - century) ∧
      dayOfEra - (365 * year + quarter - century) ≤ 365 := by
  have whichCentury : centuries = 0 ∨ centuries = 1 ∨ centuries = 2 ∨ centuries = 3 ∨
      centuries = 4 := by
    omega
  have centuries_le : centuries ≤ fours := by omega
  have whichEra : era = 0 ∨ era = 1 := by omega
  have quarter_le : quarter ≤ fours := by omega
  have year_nonneg : 0 ≤ year := by omega
  have year_le : year ≤ 399 := by omega
  have fours_le : fours ≤ quarter + 1 := by omega
  have century_le : century ≤ centuries := by omega
  have le_century : centuries ≤ century + 1 := by omega
  rcases whichCentury with rfl | rfl | rfl | rfl | rfl <;> rcases whichEra with rfl | rfl <;> omega

/-- The day of a year that begins in March, as month and day and back. -/
theorem dayOfYear_eq {dayOfYear month : Int} (least : 0 ≤ dayOfYear) (most : dayOfYear ≤ 365)
    (byMonth : month = (5 * dayOfYear + 2) / 153) :
    0 ≤ month ∧ month ≤ 11 ∧ 0 ≤ dayOfYear - (153 * month + 2) / 5 := by
  omega

/-- The date a number of days after the start of 1970 is that many days after it. -/
theorem Date.days_ofDays (days : Int) : (Date.ofDays days).days = days := by
  simp only [Date.ofDays, Date.days, Int.fdiv_eq_ediv_of_nonneg _ (by decide : (0 : Int) ≤ 146097),
    Int.fdiv_eq_ediv_of_nonneg _ (by decide : (0 : Int) ≤ 400)]
  generalize shifted : days + 719468 = total
  have least : 0 ≤ total - total / 146097 * 146097 := by omega
  have most : total - total / 146097 * 146097 ≤ 146096 := by omega
  generalize dayOfEra_eq : total - total / 146097 * 146097 = dayOfEra at least most ⊢
  obtain ⟨year_nonneg, year_le, dayOfYear_nonneg, dayOfYear_le⟩ :=
    yearOfEra_bounds least most rfl rfl rfl rfl rfl rfl
  generalize (dayOfEra - dayOfEra / 1460 + dayOfEra / 36524 - dayOfEra / 146096) / 365 = year
    at year_nonneg year_le dayOfYear_nonneg dayOfYear_le ⊢
  generalize dayOfYear_def : dayOfEra - (365 * year + year / 4 - year / 100) = dayOfYear
    at dayOfYear_nonneg dayOfYear_le ⊢
  obtain ⟨month_nonneg, month_le, day_nonneg⟩ := dayOfYear_eq dayOfYear_nonneg dayOfYear_le rfl
  generalize (5 * dayOfYear + 2) / 153 = month at month_nonneg month_le day_nonneg ⊢
  have eraBack : (year + total / 146097 * 400) / 400 = total / 146097 := by omega
  by_cases early : month < 10
  · have afterFebruary : ¬ month + 3 ≤ 2 := by omega
    have afterFebruary' : ¬ (month + 3).toNat ≤ 2 := by omega
    have monthBack : ((month + 3).toNat + 9 : Int) % 12 = month := by omega
    simp only [early, afterFebruary, afterFebruary', ↓reduceIte, Int.add_zero, eraBack, monthBack,
      Int.add_sub_cancel]
    omega
  · have inJanuary : month - 9 ≤ 2 := by omega
    have inJanuary' : (month - 9).toNat ≤ 2 := by omega
    have monthBack : ((month - 9).toNat + 9 : Int) % 12 = month := by omega
    simp only [early, inJanuary, inJanuary', ↓reduceIte, Int.add_sub_cancel, eraBack,
      monthBack]
    omega

/-! ### The pieces of the text -/

theorem isBlank_of_isDigit {c : Char} (digit : c.isDigit = true) : Text.isBlank c = false := by
  simp only [Char.isDigit, ge_iff_le, Bool.and_eq_true, decide_eq_true_eq] at digit
  have least : 48 ≤ c.toNat := UInt32.le_iff_toNat_le.mp digit.1
  have most : c.toNat ≤ 57 := UInt32.le_iff_toNat_le.mp digit.2
  simp only [Text.isBlank, Bool.or_eq_false_iff, Bool.and_eq_false_iff, decide_eq_false_iff_not,
    beq_eq_false_iff_ne]
  omega

theorem trimLeft_cons {c : Char} {rest : List Char} (visible : Text.isBlank c = false) :
    Text.trimLeft (c :: rest) = c :: rest := by
  rw [Text.trimLeft, List.dropWhile_cons, visible]
  rfl

theorem trimLeft_digits {digits rest : List Char} (all : ∀ c ∈ digits, c.isDigit = true)
    (some : digits ≠ []) : Text.trimLeft (digits ++ rest) = digits ++ rest := by
  cases digits with
  | nil => exact absurd rfl some
  | cons c digits => exact trimLeft_cons (isBlank_of_isDigit (all c List.mem_cons_self))

/-- A number of exactly the expected width is read, whatever follows. -/
theorem number?_padded {width n : Nat} (fits : n < powerOfTen width) (some : 0 < width)
    (rest : List Char) : number? width (padded width n ++ rest) = .some (n, rest) := by
  have length : (padded width n).length = width := length_padded fits some
  have taken : (padded width n ++ rest).take width = padded width n :=
    List.take_left' length
  have digits : (padded width n).takeWhile Char.isDigit = padded width n := by
    have run := takeWhile_digits (@isDigit_padded width n) endsDigits_nil
    rwa [List.append_nil] at run
  have notEmpty : (padded width n).isEmpty = false := by
    rw [List.isEmpty_eq_false_iff]
    exact padded_ne_nil
  simp only [number?, trimLeft_digits isDigit_padded padded_ne_nil, taken, digits, notEmpty,
    ofDigits_padded, Bool.false_eq_true, ↓reduceIte, List.drop_left]

theorem digits?_padded {width n : Nat} {rest : List Char} (ends : EndsDigits rest) :
    digits? (padded width n ++ rest) = some (n, rest) := by
  have notEmpty : (padded width n).isEmpty = false := by
    rw [List.isEmpty_eq_false_iff]
    exact padded_ne_nil
  simp only [digits?, takeWhile_digits isDigit_padded ends, notEmpty, ofDigits_padded,
    Bool.false_eq_true, ↓reduceIte, List.drop_left]

/-- A year without a sign is read by its four digits. -/
theorem year?_digits {digits rest : List Char} (all : ∀ c ∈ digits, c.isDigit = true)
    (some : digits ≠ []) :
    year? (digits ++ rest) =
      (number? 4 (digits ++ rest)).map fun (year, rest) => ((year : Int), rest) := by
  rw [year?, trimLeft_digits all some]
  obtain - | ⟨c, digits⟩ := digits
  · exact absurd rfl some
  have digit := all c List.mem_cons_self
  split
  · next first => cases first; exact absurd digit (by decide)
  · next first => cases first; exact absurd digit (by decide)
  · rfl

theorem year?_yearText {year : Int} {rest : List Char} (ends : EndsDigits rest) :
    year? (yearText year ++ rest) = some (year, rest) := by
  by_cases plain : 0 ≤ year ∧ year ≤ 9999
  · have fits : year.toNat < powerOfTen 4 := by
      have ten : powerOfTen 4 = 10000 := rfl
      omega
    have back : (year.toNat : Int) = year := by omega
    simp only [yearText, plain, decide_true, Bool.and_self, ↓reduceIte]
    rw [year?_digits isDigit_padded padded_ne_nil, number?_padded fits (by decide)]
    simp only [Option.map_some, back]
  · have signed : (decide (0 ≤ year) && decide (year ≤ 9999)) = false := by
      rw [← Bool.decide_and, decide_eq_false plain]
    simp only [yearText, signed, Bool.false_eq_true, ↓reduceIte]
    by_cases negative : year < 0
    · have back : -(year.natAbs : Int) = year := by omega
      have sign : Text.isBlank '-' = false := by decide
      simp only [negative, ↓reduceIte, List.cons_append, year?, trimLeft_cons sign,
        digits?_padded ends, Option.map_some, back]
    · have back : (year.natAbs : Int) = year := by omega
      have sign : Text.isBlank '+' = false := by decide
      simp only [negative, ↓reduceIte, List.cons_append, year?, trimLeft_cons sign,
        digits?_padded ends, Option.map_some, back]

theorem mark?_cons {mark : Char} {rest : List Char} (visible : Text.isBlank mark = false) :
    mark? mark (mark :: rest) = some rest := by
  simp only [mark?, trimLeft_cons visible, beq_self_eq_true, ↓reduceIte]

theorem fraction?_padded {width n : Nat} {rest : List Char} (fits : n < powerOfTen width)
    (some : 0 < width) (short : width ≤ 9) (ends : EndsDigits rest) :
    fraction? ('.' :: padded width n ++ rest) = .some (n * powerOfTen (9 - width), rest) := by
  have length : (padded width n).length = width := length_padded fits some
  have taken : ((padded width n ++ rest).take 9).takeWhile Char.isDigit = padded width n := by
    rw [List.take_append, List.take_of_length_le (by omega)]
    apply takeWhile_digits isDigit_padded
    intro c member
    rw [List.head?_take] at member
    split at member
    · cases member
    · exact ends c member
  have notEmpty : (padded width n).isEmpty = false := by
    rw [List.isEmpty_eq_false_iff]
    exact padded_ne_nil
  have passed : rest.dropWhile Char.isDigit = rest := by
    cases rest with
    | nil => rfl
    | cons c rest => rw [List.dropWhile_cons, ends c rfl]; rfl
  simp only [List.cons_append, fraction?, taken, notEmpty, ofDigits_padded, length,
    Bool.false_eq_true, ↓reduceIte]
  rw [List.drop_left' length, passed]

theorem fraction?_fractionText (time : Timestamp) :
    fraction? (time.fractionText ++ ['Z']) = some (time.nanos % 1000000000, ['Z']) := by
  have ends : EndsDigits ['Z'] := endsDigits_cons (by decide)
  have three : powerOfTen 3 = 1000 := rfl
  have six : powerOfTen 6 = 1000000 := rfl
  have nine : powerOfTen 9 = 1000000000 := rfl
  have below : time.nanos % 1000000000 < 1000000000 := Nat.mod_lt _ (by decide)
  simp only [fractionText, beq_iff_eq]
  generalize time.nanos % 1000000000 = nanos at below ⊢
  split
  · next none => subst none; rfl
  split
  · next millis =>
    rw [fraction?_padded (by omega) (by decide) (by decide) ends, six]
    congr 2
    omega
  split
  · next micros =>
    rw [fraction?_padded (by omega) (by decide) (by decide) ends, three]
    congr 2
    omega
  · rw [fraction?_padded (by omega) (by decide) (by decide) ends]
    exact congrArg (fun read => some (read, ['Z'])) (Nat.mul_one nanos)

/-! ### The whole text -/

/-- A point in time that clocks show: its year is one that dates are kept for, and only the last
second of a minute may be a leap second. -/
structure Shown (time : Timestamp) : Prop where
  date : time.date.valid = true
  nanos : time.nanos < 1000000000 ∨ time.nanos < 2000000000 ∧ time.secondOfDay % 60 = 59

theorem Date.valid_bounds {date : Date} (valid : date.valid = true) :
    date.month < 100 ∧ date.day < 100 := by
  simp only [Date.valid, Bool.and_eq_true, decide_eq_true_eq] at valid
  have length : monthLength date.year date.month ≤ 31 := by
    unfold monthLength
    repeat' split
    all_goals decide
  omega

/-- A point in time is the start of its day and the seconds since. -/
theorem seconds_eq (time : Timestamp) :
    time.date.days * 86400 + (time.secondOfDay : Int) = time.seconds ∧
      time.secondOfDay < 86400 := by
  rw [date, Date.days_ofDays, secondOfDay, Int.fdiv_eq_ediv_of_nonneg _ (by decide),
    Int.fmod_eq_emod_of_nonneg _ (by decide)]
  omega

/-- The second that is read, a leap second or not, is the second that was written. -/
theorem Shown.clock_eq {time : Timestamp} (shown : time.Shown) :
    time.clockParts.1 < 24 ∧ time.clockParts.2.1 < 60 ∧ time.clockParts.2.2 < 61 ∧
      (time.clockParts.1 * 3600 + time.clockParts.2.1 * 60 +
        if time.clockParts.2.2 == 60 then 59 else time.clockParts.2.2) = time.secondOfDay ∧
      (time.nanos % 1000000000 + if time.clockParts.2.2 == 60 then 1000000000 else 0) =
        time.nanos := by
  have inDay := (seconds_eq time).2
  have nanos := shown.nanos
  simp only [clockParts, beq_iff_eq]
  generalize time.secondOfDay = second at inDay nanos ⊢
  by_cases leap : 1000000000 ≤ time.nanos
  · have isSixty : second % 60 + time.nanos / 1000000000 = 60 := by omega
    simp only [isSixty, ↓reduceIte]
    omega
  · have notSixty : ¬ second % 60 + time.nanos / 1000000000 = 60 := by omega
    simp only [notSixty, ↓reduceIte]
    omega

theorem bind_read {α β : Type} {reader : Option α} {value : α} (read : reader = some value)
    (next : α → Option β) : (reader >>= next) = next value := by
  rw [read]
  rfl

/-- The text of a point in time that clocks show reads back as that point in time. -/
theorem ofText?_text {time : Timestamp} (shown : time.Shown) :
    ofText? time.text = some time := by
  obtain ⟨month_lt, day_lt⟩ := Date.valid_bounds shown.date
  obtain ⟨hour_lt, minute_lt, second_lt, second_eq, nanos_eq⟩ := shown.clock_eq
  obtain ⟨days_eq, -⟩ := seconds_eq time
  have two : powerOfTen 2 = 100 := rfl
  have hyphen : EndsDigits ('-' :: (padded 2 time.date.month ++ ('-' :: (padded 2 time.date.day ++
      ('T' :: (padded 2 time.clockParts.1 ++ (':' :: (padded 2 time.clockParts.2.1 ++
        (':' :: (padded 2 time.clockParts.2.2 ++ (time.fractionText ++ ['Z']))))))))))) :=
    endsDigits_cons (by decide)
  have yearRead := @year?_yearText time.date.year _ hyphen
  have colonMark {rest : List Char} : mark? ':' (':' :: rest) = some rest :=
    mark?_cons (by decide)
  have hyphenMark {rest : List Char} : mark? '-' ('-' :: rest) = some rest :=
    mark?_cons (by decide)
  have month_read := number?_padded (by omega : time.date.month < powerOfTen 2) (by decide)
  have day_read := number?_padded (by omega : time.date.day < powerOfTen 2) (by decide)
  have hour_read := number?_padded (by omega : time.clockParts.1 < powerOfTen 2) (by decide)
  have minute_read := number?_padded (by omega : time.clockParts.2.1 < powerOfTen 2) (by decide)
  have second_read := number?_padded (by omega : time.clockParts.2.2 < powerOfTen 2) (by decide)
  have zulu : offset? (Text.trimLeft ['Z']) = some (0, []) := rfl
  simp only [text, dateText, clockText, List.append_assoc, List.cons_append, ofText?]
  -- One reader after the other; `simp` would work through the readers still to come each time.
  rw [bind_read yearRead]
  dsimp only
  rw [bind_read hyphenMark, bind_read (month_read _)]
  dsimp only
  rw [bind_read hyphenMark, bind_read (day_read _)]
  dsimp only
  change (some _ >>= fun rest => number? 2 rest >>= _) = _
  rw [bind_read rfl, bind_read (hour_read _)]
  dsimp only
  rw [bind_read colonMark, bind_read (minute_read _)]
  dsimp only
  rw [bind_read colonMark, bind_read (second_read _)]
  dsimp only
  rw [bind_read (fraction?_fractionText time)]
  dsimp only
  rw [bind_read zulu]
  have clock : (time.clockParts.1 * 3600 + time.clockParts.2.1 * 60 +
      (if time.clockParts.2.2 == 60 then 59 else time.clockParts.2.2 : Nat) : Int) =
      time.secondOfDay := by
    rw [← second_eq, Int.natCast_add, Int.natCast_add, Int.natCast_mul, Int.natCast_mul]
    rfl
  have blanks : (!(Text.trimLeft []).isEmpty) = false := rfl
  have early : decide (24 ≤ time.clockParts.1) = false := decide_eq_false (by omega)
  have inHour : decide (60 ≤ time.clockParts.2.1) = false := decide_eq_false (by omega)
  have inMinute : decide (61 ≤ time.clockParts.2.2) = false := decide_eq_false (by omega)
  have offset : decide (86400 ≤ (0 : Int).natAbs) = false := rfl
  simp only [blanks, shown.date, early, inHour, inMinute, offset, clock,
    nanos_eq, Int.sub_zero, days_eq, Bool.not_true, Bool.or_self, Bool.false_eq_true, ↓reduceIte]

/-! ### What is read -/

theorem fraction?_lt {text rest : List Char} {nanos : Nat}
    (read : fraction? text = some (nanos, rest)) : nanos < 1000000000 := by
  unfold fraction? at read
  split at read
  · rename_i rest
    dsimp only at read
    split at read
    · cases read
    · cases read
      have few : ((rest.take 9).takeWhile Char.isDigit).length ≤ 9 :=
        Nat.le_trans (List.takeWhile_sublist _).length_le (List.length_take_le 9 rest)
      have all : ∀ c ∈ (rest.take 9).takeWhile Char.isDigit, c.isDigit = true := fun c member =>
        List.all_eq_true.mp List.all_takeWhile c member
      have bound := ofDigits_lt all
      generalize ((rest.take 9).takeWhile Char.isDigit) = digits at few bound ⊢
      calc ofDigits digits * powerOfTen (9 - digits.length)
          < powerOfTen digits.length * powerOfTen (9 - digits.length) :=
            Nat.mul_lt_mul_of_pos_right bound (Nat.pow_pos (by decide))
        _ = 1000000000 := by
            rw [powerOfTen, powerOfTen, Nat.pow_eq, Nat.pow_eq, ← Nat.pow_add,
              Nat.add_sub_cancel' few]
  · cases read
    decide

theorem offset?_signed {text rest : List Char} {offset : Int}
    (read : offset?.signed text = some (offset, rest)) : offset % 60 = 0 := by
  unfold offset?.signed at read
  split at read
  · split at read
    · cases read
    · split at read
      · split at read
        · dsimp only at read
          cases read
          split <;> omega
        · cases read
      · cases read
  · cases read

/-- An offset is a number of minutes. -/
theorem offset?_eq_some {text rest : List Char} {offset : Int}
    (read : offset? text = some (offset, rest)) : offset % 60 = 0 := by
  unfold offset? at read
  split at read
  · cases read
    rfl
  · cases read
    rfl
  · split at read
    · cases read
      rfl
    · exact offset?_signed read
  · exact offset?_signed read

/-- A point in time that is put together of what has been read can be shown. -/
theorem Shown.of_parts {days offset : Int} {hour minute second nanos : Nat}
    (fraction : nanos < 1000000000) (shift : offset % 60 = 0)
    (valid : (Timestamp.mk (days * 86400 + (hour * 3600 + minute * 60 +
        (if second == 60 then 59 else second : Nat)) - offset)
      (nanos + if second == 60 then 1000000000 else 0)).date.valid = true) :
    (Timestamp.mk (days * 86400 + (hour * 3600 + minute * 60 +
        (if second == 60 then 59 else second : Nat)) - offset)
      (nanos + if second == 60 then 1000000000 else 0)).Shown := by
  refine ⟨valid, ?_⟩
  by_cases leap : second = 60
  · right
    simp only [leap, beq_self_eq_true, ↓reduceIte, secondOfDay,
      Int.fmod_eq_emod_of_nonneg _ (by decide : (0 : Int) ≤ 86400)]
    omega
  · left
    have notLeap : (second == 60) = false := beq_eq_false_iff_ne.mpr leap
    simp only [notLeap, Bool.false_eq_true, ↓reduceIte]
    exact fraction

/-- Whatever is read as a point in time is one that clocks show. -/
theorem shown_of_ofText? {text : List Char} {time : Timestamp} (read : ofText? text = some time) :
    time.Shown := by
  obtain ⟨⟨year, _⟩, -, read⟩ := Option.bind_eq_some_iff.mp read
  obtain ⟨_, -, read⟩ := Option.bind_eq_some_iff.mp read
  obtain ⟨⟨month, _⟩, -, read⟩ := Option.bind_eq_some_iff.mp read
  obtain ⟨_, -, read⟩ := Option.bind_eq_some_iff.mp read
  obtain ⟨⟨day, _⟩, -, read⟩ := Option.bind_eq_some_iff.mp read
  dsimp only at read
  split at read
  case h_4 => cases read
  all_goals
    obtain ⟨_, -, read⟩ := Option.bind_eq_some_iff.mp read
    obtain ⟨⟨hour, _⟩, -, read⟩ := Option.bind_eq_some_iff.mp read
    obtain ⟨_, -, read⟩ := Option.bind_eq_some_iff.mp read
    obtain ⟨⟨minute, _⟩, -, read⟩ := Option.bind_eq_some_iff.mp read
    obtain ⟨_, -, read⟩ := Option.bind_eq_some_iff.mp read
    obtain ⟨⟨second, _⟩, -, read⟩ := Option.bind_eq_some_iff.mp read
    obtain ⟨⟨nanos, _⟩, fraction, read⟩ := Option.bind_eq_some_iff.mp read
    obtain ⟨⟨offset, _⟩, shift, read⟩ := Option.bind_eq_some_iff.mp read
    simp only [Option.ite_none_left_eq_some, Option.ite_none_right_eq_some,
      Option.some.injEq] at read
    obtain ⟨-, valid, rfl⟩ := read
    exact .of_parts (fraction?_lt fraction) (offset?_eq_some shift) valid

end TaskLoop.Timestamp
