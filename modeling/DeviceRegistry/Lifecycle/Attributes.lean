import DeviceRegistry.Device.Identifier
import DeviceRegistry.Device.Request
import DeviceRegistry.Device.StoredDate
import DeviceRegistry.Lifecycle.Operation

/-!
# Changing attributes

Single columns of a device are given new values by its id. Columns for which nothing is given stay
as they are; neither the state of the device nor its history is looked at.
-/

namespace DeviceRegistry

namespace Attributes

/-- The new values with the dates in stored form. -/
def prepare (r : AttributeUpdate) : Except Rejection RawProfile := do
  let p : RawProfile := r.changes.only attributeColumns
  Identifier.checkImei p.shown.imei
  Identifier.checkSerialNumber p.shown.serialNumber
  Identifier.checkStateName p.shown.state
  require (p != .empty) .invalidPayload
  p.withGivenDates

end Attributes

/-- Changes single columns of a device and returns the number of devices concerned. -/
def updateAttributes (r : AttributeUpdate) (s : Store) : Except Failure (Nat × Store) := do
  let p ← Store.bindProfile (← checked (Attributes.prepare r))
  Store.bindable r.id
  let (rows, s) ← storedOr .updateConflict (s.updateDevice r.id (Change.ofProfile p))
  checked (require (rows != 0) .filterNotFound)
  return (rows, s)

end DeviceRegistry
