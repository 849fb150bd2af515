import DeviceRegistry.Calendar.Date
import DeviceRegistry.Decimal.Binary64
import DeviceRegistry.Text.Digit

/-!
# Stored timestamps

A point in time is stored to the second in universal time, as `2020-02-29 23:59:59`. The year is
written without leading zeros and every other part in two digits, so the order of the texts is the
order of time from the year 1000 on. A number of milliseconds outside the years 1 to 9999 has no
timestamp, and `Stamp.ofMillis` says how far outside it lies.
-/

namespace DeviceRegistry.Calendar

/-- The number of seconds of a day. -/
def secondsPerDay : Nat := 86400

/-- A date and a second of that day. -/
structure Stamp where
  date : Date
  second : Nat
  deriving DecidableEq, Repr, Inhabited

/-- The stored form of a date without a time of day. -/
def Date.text (d : Date) : String :=
  toString d.year ++ "-" ++ Text.twoDigits d.month ++ "-" ++ Text.twoDigits d.day

/-- The stored form of a timestamp. -/
def Stamp.text (s : Stamp) : String :=
  s.date.text ++ " " ++ Text.twoDigits (s.second / 3600) ++ ":" ++
    Text.twoDigits (s.second / 60 % 60) ++ ":" ++ Text.twoDigits (s.second % 60)

/-- The first second of a date. -/
def Date.midnight (d : Date) : Stamp :=
  { date := d, second := 0 }

/-- The timestamp of a number of seconds since 1970, none outside the years 1 to 9999. -/
def Stamp.ofSeconds? (seconds : Int) : Option Stamp :=
  (Date.ofDayNumber? (seconds / secondsPerDay)).map fun date =>
    { date := date, second := (seconds % secondsPerDay).toNat }

/-- The timestamp of a number of milliseconds since 1970, cut to the second. -/
def Stamp.ofMillis? (millis : Int) : Option Stamp :=
  Stamp.ofSeconds? (millis / 1000)

/-- How far a number of milliseconds lies outside the years of a timestamp: its year may be out of
range, its year may be no integer of 32 bits, or its seconds may exceed 64 bits. -/
inductive StampFault where
  | year
  | calendar
  | clock
  deriving DecidableEq, Repr, Inhabited

/-- The first second of the year -2147481748. -/
def firstCalendarSecond : Int := -67768040609740800

/-- The last second of the year 2147485547. -/
def lastCalendarSecond : Int := 67768036191676799

/-- The least integer of 64 bits with a sign. -/
def firstClockSecond : Int := -9223372036854775808

/-- The number of double precision nearest to the largest integer of 64 bits with a sign. -/
def lastClockSecond : Int := 9223372036854775808

/-- How far outside a number of milliseconds without a timestamp lies; its seconds are counted in
double precision. -/
def Stamp.faultOf (millis : Int) : StampFault :=
  let (num, den) := Decimal.Binary64.nearest millis 1000
  let seconds := num / den
  if seconds < firstClockSecond ∨ lastClockSecond < seconds then .clock
  else if seconds < firstCalendarSecond ∨ lastCalendarSecond < seconds then .calendar
  else .year

/-- The timestamp of a number of milliseconds since 1970, or why there is none. -/
def Stamp.ofMillis (millis : Int) : Except StampFault Stamp :=
  match Stamp.ofMillis? millis with
  | some stamp => .ok stamp
  | none => .error (Stamp.faultOf millis)

example : Stamp.faultOf 253402300800000 = .year := by decide +kernel

example : Stamp.faultOf 100000000000000000000 = .calendar := by decide +kernel

example : Stamp.faultOf 9223372036854775808000 = .calendar := by decide +kernel

example : Stamp.faultOf (-10000000000000000000000) = .clock := by decide +kernel

/-- A point in time on the service's clock, in milliseconds since 1970. -/
structure Instant where
  millis : Int
  deriving DecidableEq, Repr, Inhabited

/-- The timestamp of an instant, none outside the years 1 to 9999. -/
def Instant.stamp? (t : Instant) : Option Stamp :=
  Stamp.ofMillis? t.millis

end DeviceRegistry.Calendar
