/-!
# Calendar dates

Dates of the proleptic Gregorian calendar in the years 1 to 9999, numbered by days. Day 0 is the
first of January 1970. `Date.dayNumber` and `Date.ofDayNumber?` go between a date and its number.
-/

namespace DeviceRegistry.Calendar

/-- Every fourth year is a leap year, except the centuries that 400 does not divide. -/
def isLeap (year : Nat) : Bool :=
  year % 4 == 0 && (year % 100 != 0 || year % 400 == 0)

/-- The lengths of the twelve months of a year. -/
def monthLengths (year : Nat) : List Nat :=
  [31, if isLeap year then 29 else 28, 31, 30, 31, 30, 31, 31, 30, 31, 30, 31]

/-- The number of days of a month, none for a number that is no month. -/
def daysInMonth (year month : Nat) : Nat :=
  if month = 0 then 0 else (monthLengths year).getD (month - 1) 0

/-- A year, month and day of month. -/
structure Date where
  year : Nat
  month : Nat
  day : Nat
  deriving DecidableEq, Repr, Inhabited

/-- The dates that exist in the years 1 to 9999. -/
def Date.Exists (d : Date) : Prop :=
  1 ≤ d.year ∧ d.year ≤ 9999 ∧ 1 ≤ d.day ∧ d.day ≤ daysInMonth d.year d.month

instance (d : Date) : Decidable d.Exists :=
  inferInstanceAs (Decidable (_ ∧ _ ∧ _ ∧ _))

/-- Why three numbers are no date: one of them is no integer of 32 bits, or no such day exists. -/
inductive DateFault where
  | part
  | day
  deriving DecidableEq, Repr, Inhabited

/-- The integers of 32 bits with a sign. -/
def isDatePart (n : Int) : Bool :=
  decide (-2147483648 ≤ n) && decide (n < 2147483648)

/-- The date with a year, a month and a day of month. -/
def Date.ofParts (year month day : Int) : Except DateFault Date :=
  if !(isDatePart year && isDatePart month && isDatePart day) then .error .part
  else if year < 0 ∨ month < 0 ∨ day < 0 then .error .day
  else
    let date : Date := { year := year.toNat, month := month.toNat, day := day.toNat }
    if date.Exists then .ok date else .error .day

/-- The number of days before the first of January of a year, counted from the year 1. -/
def daysBeforeYear (year : Nat) : Nat :=
  let y := year - 1
  365 * y + y / 4 - y / 100 + y / 400

/-- The day of the year, the first of January being day 1. -/
def Date.dayOfYear (d : Date) : Nat :=
  ((monthLengths d.year).take (d.month - 1)).foldl (· + ·) 0 + d.day

/-- The number of days from the first of January of the year 1 to the first of January 1970. -/
def epochOffset : Nat := 719162

/-- The number of days since the first of January 1970. -/
def Date.dayNumber (d : Date) : Int :=
  ((daysBeforeYear d.year + (d.dayOfYear - 1) : Nat) : Int) - epochOffset

/-- The month and day of month that lie some days after the start of the first month listed. -/
def monthAndDay : List Nat → Nat → Nat → Nat × Nat
  | [], month, days => (month, days + 1)
  | [_], month, days => (month, days + 1)
  | length :: lengths, month, days =>
    if days < length then (month, days + 1) else monthAndDay lengths (month + 1) (days - length)

/-- The date that lies some days after the first of January of the year 1. -/
def Date.ofDaysSinceStart (days : Nat) : Date :=
  let fourCenturies := days / 146097
  let inFourCenturies := days % 146097
  let centuries := min 3 (inFourCenturies / 36524)
  let inCentury := inFourCenturies - 36524 * centuries
  let fourYears := inCentury / 1461
  let inFourYears := inCentury % 1461
  let years := min 3 (inFourYears / 365)
  let inYear := inFourYears - 365 * years
  let year := 400 * fourCenturies + 100 * centuries + 4 * fourYears + years + 1
  let monthDay := monthAndDay (monthLengths year) 1 inYear
  { year := year, month := monthDay.1, day := monthDay.2 }

/-- The date of a day number, none outside the years 1 to 9999. -/
def Date.ofDayNumber? (n : Int) : Option Date :=
  let days := n + epochOffset
  if 0 ≤ days then
    let date := Date.ofDaysSinceStart days.toNat
    if date.year ≤ 9999 then some date else none
  else none

/-- The day of the week, Monday being 1 and Sunday 7. -/
def Date.weekday (d : Date) : Nat :=
  ((d.dayNumber + 3) % 7).toNat + 1

example : (Date.ofParts 2020 2 29).toOption = some ⟨2020, 2, 29⟩ := by decide

example : (Date.ofParts 2023 2 29).toOption = none := by decide

example : (Date.mk 1970 1 1).dayNumber = 0 := by decide

example : (Date.mk 2000 2 29).dayNumber = 11016 ∧ Date.ofDayNumber? 11016 = some ⟨2000, 2, 29⟩ := by
  decide

example : Date.ofDayNumber? (-719162) = some ⟨1, 1, 1⟩ ∧ Date.ofDayNumber? (-719163) = none := by
  decide

example : Date.ofDayNumber? 2932896 = some ⟨9999, 12, 31⟩ ∧ Date.ofDayNumber? 2932897 = none := by
  decide

example : (Date.mk 1970 1 1).weekday = 4 := by decide

end DeviceRegistry.Calendar
