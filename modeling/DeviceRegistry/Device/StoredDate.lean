import DeviceRegistry.Calendar.FactoryDate
import DeviceRegistry.Device.Profile
import DeviceRegistry.Problem.Failure

/-!
# Stored dates

Requests write the two dates of a device in factory form; the store keeps them as the first second
of the day.
-/

namespace DeviceRegistry

open Calendar

/-- The stored form of a factory date; the cause names the field it was given in. -/
def storedDate (value : Option String) (field : String) : Except Rejection String :=
  match value.bind Date.ofFactoryText? with
  | some date => .ok date.midnight.text
  | none => .error (.invalidDate field)

namespace RawProfile

/-- The field of the manufacturing date. -/
def manufacturingField : String := "manufacturingDate"

/-- The field of the record date. -/
def recordField : String := "recordDate"

/-- A raw factory date in stored form. -/
def storedRawDate (value : Option RawText) (field : String) : Except Rejection (Option RawText) :=
  (storedDate (value.map RawText.shown) field).map fun s => some s

/-- A raw factory date in stored form, if one is given. -/
def storedGivenDate (value : Option RawText) (field : String) :
    Except Rejection (Option RawText) :=
  if value.isSome then storedRawDate value field else .ok none

/-- The profile with both dates in stored form. -/
def withStoredDates (p : RawProfile) : Except Rejection RawProfile := do
  let manufacturing ← storedRawDate p.manufacturingDate manufacturingField
  let record ← storedRawDate p.recordDate recordField
  return { p with manufacturingDate := manufacturing, recordDate := record }

/-- The profile with those dates in stored form that are given. -/
def withGivenDates (p : RawProfile) : Except Rejection RawProfile := do
  let manufacturing ← storedGivenDate p.manufacturingDate manufacturingField
  let record ← storedGivenDate p.recordDate recordField
  return { p with manufacturingDate := manufacturing, recordDate := record }

end RawProfile

end DeviceRegistry
