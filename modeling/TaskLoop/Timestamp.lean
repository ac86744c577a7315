import TaskLoop.Text.Words
import TaskLoop.Decimal.Shortest
import TaskLoop.Decimal.Read

/-!
Points in time in universal time, to the nanosecond, with their calendar dates and their
RFC 3339 texts.
-/

set_option autoImplicit false

namespace TaskLoop

/-- Seconds since the start of 1970 and nanoseconds within the second. A leap second counts as
the second before it with a thousand million nanoseconds more. -/
structure Timestamp where
  seconds : Int
  nanos : Nat
  deriving DecidableEq, Repr, Inhabited

namespace Timestamp

/-- Whether one point in time comes before or with another. -/
def le (earlier later : Timestamp) : Bool :=
  earlier.seconds < later.seconds
    || (earlier.seconds == later.seconds && earlier.nanos ≤ later.nanos)

/-- The whole milliseconds from an earlier point in time to a later one. -/
def millisecondsSince (later earlier : Timestamp) : Nat :=
  ((later.seconds - earlier.seconds) * 1000000000 + later.nanos - earlier.nanos).toNat / 1000000

/-- A calendar date. -/
structure Date where
  year : Int
  month : Nat
  day : Nat
  deriving DecidableEq, Repr

/-- Days since the start of 1970 of a date in the Gregorian calendar. -/
def Date.days (date : Date) : Int :=
  let year := if date.month ≤ 2 then date.year - 1 else date.year
  let era := Int.fdiv year 400
  let yearOfEra := year - era * 400
  let monthFromMarch : Int := (date.month + 9) % 12
  let dayOfYear := (153 * monthFromMarch + 2) / 5 + date.day - 1
  let dayOfEra := yearOfEra * 365 + yearOfEra / 4 - yearOfEra / 100 + dayOfYear
  era * 146097 + dayOfEra - 719468

/-- The date a number of days after the start of 1970. -/
def Date.ofDays (days : Int) : Date :=
  let shifted := days + 719468
  let era := Int.fdiv shifted 146097
  let dayOfEra := shifted - era * 146097
  let yearOfEra := (dayOfEra - dayOfEra / 1460 + dayOfEra / 36524 - dayOfEra / 146096) / 365
  let dayOfYear := dayOfEra - (365 * yearOfEra + yearOfEra / 4 - yearOfEra / 100)
  let monthFromMarch := (5 * dayOfYear + 2) / 153
  let day := dayOfYear - (153 * monthFromMarch + 2) / 5 + 1
  let month := if monthFromMarch < 10 then monthFromMarch + 3 else monthFromMarch - 9
  ⟨yearOfEra + era * 400 + (if month ≤ 2 then 1 else 0), month.toNat, day.toNat⟩

/-- Whether the year has a leap day. -/
def isLeapYear (year : Int) : Bool := year % 4 == 0 && (year % 100 != 0 || year % 400 == 0)

/-- How many days a month has. -/
def monthLength (year : Int) (month : Nat) : Nat :=
  if month == 2 then if isLeapYear year then 29 else 28
  else if [4, 6, 9, 11].contains month then 30 else 31

/-- Whether the date exists and its year is one that dates are kept for. -/
def Date.valid (date : Date) : Bool :=
  -262143 ≤ date.year && date.year ≤ 262142 && 1 ≤ date.month && date.month ≤ 12
    && 1 ≤ date.day && date.day ≤ monthLength date.year date.month

/-- The date of a point in time. -/
def date (time : Timestamp) : Date := Date.ofDays (Int.fdiv time.seconds 86400)

/-- Seconds since midnight. -/
def secondOfDay (time : Timestamp) : Nat := (Int.fmod time.seconds 86400).toNat

/-- A number in at least `width` digits. -/
def padded (width n : Nat) : List Char :=
  let digits := Decimal.digitsOf n
  List.replicate (width - digits.length) '0' ++ digits

/-- Years from 0 to 9999 have four digits, all others a sign and at least four. -/
def yearText (year : Int) : List Char :=
  if 0 ≤ year && year ≤ 9999 then padded 4 year.toNat
  else (if year < 0 then '-' else '+') :: padded 4 year.natAbs

/-- The date with hyphens. -/
def dateText (time : Timestamp) : List Char :=
  let date := time.date
  yearText date.year ++ '-' :: padded 2 date.month ++ '-' :: padded 2 date.day

/-- Hours, minutes and seconds; a leap second is second 60. -/
def clockParts (time : Timestamp) : Nat × Nat × Nat :=
  let second := time.secondOfDay
  (second / 3600, second / 60 % 60, second % 60 + time.nanos / 1000000000)

/-- The time of day with colons. -/
def clockText (time : Timestamp) : List Char :=
  let (hour, minute, second) := time.clockParts
  padded 2 hour ++ ':' :: padded 2 minute ++ ':' :: padded 2 second

/-- The nanoseconds in none, three, six or nine digits, the fewest that are exact. -/
def fractionText (time : Timestamp) : List Char :=
  let nanos := time.nanos % 1000000000
  if nanos == 0 then []
  else if nanos % 1000000 == 0 then '.' :: padded 3 (nanos / 1000000)
  else if nanos % 1000 == 0 then '.' :: padded 6 (nanos / 1000)
  else '.' :: padded 9 nanos

/-- The RFC 3339 text. -/
def text (time : Timestamp) : List Char :=
  time.dateText ++ 'T' :: time.clockText ++ time.fractionText ++ ['Z']

/-- Date and time of day with a blank between them. -/
def plainText (time : Timestamp) : List Char := time.dateText ++ ' ' :: time.clockText

/-- Date and time of day without marks, to the millisecond. -/
def compactText (time : Timestamp) : List Char :=
  let date := time.date
  let (hour, minute, second) := time.clockParts
  yearText date.year ++ padded 2 date.month ++ padded 2 date.day ++ 'T' :: padded 2 hour
    ++ padded 2 minute ++ padded 2 second ++ padded 3 (time.nanos % 1000000000 / 1000000) ++ ['Z']

/-! ### Reading -/

/-- Up to `width` digits after optional blanks, at least one. -/
def number? (width : Nat) (text : List Char) : Option (Nat × List Char) :=
  let digits := ((Text.trimLeft text).take width).takeWhile Char.isDigit
  if digits.isEmpty then none
  else some (Decimal.ofDigits digits, (Text.trimLeft text).drop digits.length)

/-- Any count of digits, at least one. -/
def digits? (text : List Char) : Option (Nat × List Char) :=
  let digits := text.takeWhile Char.isDigit
  if digits.isEmpty then none else some (Decimal.ofDigits digits, text.drop digits.length)

/-- A year: four digits at most, or a sign and any count of digits. -/
def year? (text : List Char) : Option (Int × List Char) :=
  match Text.trimLeft text with
  | '-' :: rest => (digits? rest).map fun (year, rest) => (-(year : Int), rest)
  | '+' :: rest => (digits? rest).map fun (year, rest) => ((year : Int), rest)
  | rest => (number? 4 rest).map fun (year, rest) => ((year : Int), rest)

/-- A mark after optional blanks. -/
def mark? (mark : Char) (text : List Char) : Option (List Char) :=
  match Text.trimLeft text with
  | c :: rest => if c == mark then some rest else none
  | [] => none

/-- The fraction of a second in nanoseconds; digits past the ninth do not count. -/
def fraction? : List Char → Option (Nat × List Char)
  | '.' :: rest =>
    let digits := (rest.take 9).takeWhile Char.isDigit
    if digits.isEmpty then none
    else some (Decimal.ofDigits digits * powerOfTen (9 - digits.length),
      (rest.drop digits.length).dropWhile Char.isDigit)
  | rest => some (0, rest)

/-- The offset from universal time in seconds. -/
def offset? (text : List Char) : Option (Int × List Char) :=
  match text with
  | 'Z' :: rest | 'z' :: rest => some (0, rest)
  | u :: t :: c :: rest =>
    if [u, t, c].map Char.toLower == ['u', 't', 'c'] then some (0, rest) else signed text
  | _ => signed text
where
  /-- A sign, two digits of hours, and two digits of minutes after optional colons or blanks. -/
  signed : List Char → Option (Int × List Char)
    | sign :: h :: h' :: rest =>
      if !(['+', '-', '−'].contains sign && h.isDigit && h'.isDigit) then none
      else
        match rest.dropWhile fun c => c == ':' || Text.isBlank c with
        | m :: m' :: rest =>
          if m.isDigit && m'.isDigit && m < '6' then
            let seconds : Int := Decimal.ofDigits [h, h'] * 3600 + Decimal.ofDigits [m, m'] * 60
            some (if sign == '+' then seconds else -seconds, rest)
          else none
        | _ => none
    | _ => none

/-- Reads a date, a `T` or a blank, a time of day and an offset. -/
def ofText? (text : List Char) : Option Timestamp := do
  let (year, rest) ← year? text
  let (month, rest) ← number? 2 (← mark? '-' rest)
  let (day, rest) ← number? 2 (← mark? '-' rest)
  let rest ← match rest with
    | 'T' :: rest | 't' :: rest | ' ' :: rest => some rest
    | _ => none
  let (hour, rest) ← number? 2 rest
  let (minute, rest) ← number? 2 (← mark? ':' rest)
  let (second, rest) ← number? 2 (← mark? ':' rest)
  let (nanos, rest) ← fraction? rest
  let (offset, rest) ← offset? (Text.trimLeft rest)
  let date : Date := ⟨year, month, day⟩
  if !(Text.trimLeft rest).isEmpty || !date.valid || 24 ≤ hour || 60 ≤ minute || 61 ≤ second
      || 86400 ≤ offset.natAbs then none
  else
    let leap := second == 60
    let ofDay : Int := hour * 3600 + minute * 60 + (if leap then 59 else second)
    let seconds := date.days * 86400 + ofDay - offset
    let time : Timestamp := ⟨seconds, nanos + if leap then 1000000000 else 0⟩
    if time.date.valid then some time else none

end Timestamp

end TaskLoop
