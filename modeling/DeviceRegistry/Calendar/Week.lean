import DeviceRegistry.Calendar.Stamp

/-!
# Calendar weeks

Weeks run from Monday to Sunday and belong to the year that holds their Thursday. A production week
is written as the calendar year followed by the week number in two digits.
-/

namespace DeviceRegistry.Calendar

/-- A year has a 53rd week if its first of January is a Thursday, or a Wednesday in a leap year. -/
def weeksInYear (year : Nat) : Nat :=
  let newYear := (Date.mk year 1 1).weekday
  if newYear = 4 ∨ (newYear = 3 ∧ isLeap year) then 53 else 52

/-- The number of the week that holds a date. -/
def Date.week (d : Date) : Nat :=
  let week := (d.dayOfYear + 10 - d.weekday) / 7
  if week = 0 then weeksInYear (d.year - 1)
  else if weeksInYear d.year < week then 1
  else week

/-- The production week of a vehicle that is registered on a date. -/
def Date.productionWeek (d : Date) : String :=
  toString d.year ++ Text.twoDigits d.week

example : (Date.mk 2026 3 2).productionWeek = "202610" := by decide

example : (Date.mk 2027 1 1).week = 53 ∧ (Date.mk 2024 12 31).week = 1 := by decide

end DeviceRegistry.Calendar
