import DeviceRegistry.Device.Identifier
import DeviceRegistry.Device.Request
import DeviceRegistry.Device.StoredDate
import DeviceRegistry.Lifecycle.Operation
import DeviceRegistry.Lifecycle.Transition

/-!
# Updating devices

A device is found by all values that it has now and given new ones. It must count as provisioned.
In the integrated mode its vehicle identification number must be the one that is given, and a new
number must not be another device's. The change is stored before the vehicle service hears of it and
stays if the service fails.
-/

namespace DeviceRegistry

namespace Update

/-- Both sides of a request, each complete. -/
def sides (settings : Settings) (r : UpdateRequest) :
    Except Rejection (DeviceData × DeviceData) := do
  match r.current, r.replacement with
  | some current, some replacement =>
    let complete (d : DeviceData) : Bool :=
      updateMandatoryColumns.all fun c => (d.profile.get c).isSome
    require (complete current && complete replacement) .updateFieldsMissing
    let vehicleGiven (d : DeviceData) : Bool :=
      (RawText.filled? d.vehicle.chassisNumber).isSome &&
        (RawText.filled? d.vehicle.productionWeek).isSome
    require (!settings.synchronises || (vehicleGiven current && vehicleGiven replacement))
      .vehicleFieldsMissing
    return (current, replacement)
  | _, _ => throw .updateSideMissing

/-- The values that the device has to have now. -/
def wanted (p : Profile) : List Wanted :=
  updateColumns.filterMap fun c => (p.get c).map fun v => (.text c, .text v)

/-- The new values of the device. -/
def changes (p : Profile) : List Change :=
  updateColumns.map fun c => .text c (p.get c)

/-- A request that passed all checks of its values: the columns that are compared and those that
replace them, both with the dates in stored form, and what is said about the vehicle. -/
structure Prepared where
  current : RawProfile
  replacement : RawProfile
  currentVin : Option RawText
  vehicle : VehicleData
  deriving DecidableEq, Repr, Inhabited

/-- Checks the values of a request. -/
def prepare (settings : Settings) (r : UpdateRequest) : Except Rejection Prepared := do
  let (current, replacement) ← sides settings r
  let old : RawProfile := current.profile.only updateColumns
  let new : RawProfile := replacement.profile.only updateColumns
  Identifier.checkWholeImei new.shown.imei
  Identifier.checkWholeSerialNumber new.shown.serialNumber
  Identifier.checkVin (replacement.vehicle.vin.map RawText.shown)
  return { current := ← old.withStoredDates, replacement := ← new.withStoredDates,
           currentVin := current.vehicle.vin, vehicle := replacement.vehicle }

/-- Checks the numbers of a request in the integrated mode; true if the device gets a new one. -/
def checkVins (settings : Settings) (p : Prepared) (device : Int) (s : Store) :
    Except Failure Bool := do
  if !settings.checksVins then return false
  let old ← Store.bindText? p.currentVin
  checked (require (s.vinMatches device old) .vinMismatch)
  if p.vehicle.vin = p.currentVin then return false
  let new ← Store.bindText? p.vehicle.vin
  checked (require ((s.vinOwners new).all (· == device)) .vinTaken)
  return new.isSome

/-- Stores the new values, and the new number if there is one. -/
def store (p : Prepared) (device : Int) (newVin : Bool) (s : Store) : Except Failure Store := do
  let new ← Store.bindProfile p.replacement
  let (_, s) ← storedOr .updateConflict (s.updateDevice device (changes new))
  if newVin then
    let vin ← Store.bindText? p.vehicle.vin
    storedOr .updateConflict (s.putVin (some device) vin)
  else return s

/-- The local part of an update: the record afterwards, and the number by which the vehicle service
is told about it. -/
def commit (settings : Settings) (p : Prepared) (s : Store) :
    Except Failure ((DeviceRecord × Option String) × Store) := do
  let old ← Store.bindProfile p.current
  match s.deviceWith? (wanted old) with
  | none => throw (.rejected .currentNotFound)
  | some d =>
    let current ← checked d.record.effectiveState
    checked (require (current == .provisioned) .notProvisioned)
    let newVin ← checkVins settings p d.id s
    let changed ← store p d.id newVin s
    let after := (changed.device? d.id).getD d
    let new := p.replacement.shown
    return (({ after.record with vin := changed.vin? d.id },
      changed.vinByIdentifiers? new.imei new.serialNumber), changed)

/-- What the vehicle service is told about the vehicle of an updated device. -/
def vehicleChange (p : Prepared) (vin : String) : VehicleChange :=
  let v := p.vehicle
  { vin := some vin, chassisNumber := v.chassisNumber, productionWeek := v.productionWeek,
    plant := v.plant, modelYear := v.modelYear }

/-- Tells the vehicle service about an updated device. -/
def synchronise (env : Environment) (p : Prepared) (vin : Option String) : Operation Unit := do
  match Text.filled? vin with
  | none => throw (.rejected .updateVinMissing)
  | some vin =>
    match ← Operation.converse (env.network.updateVehicle (vehicleChange p vin)) with
    | .ok true => return ()
    | _ => throw (.rejected .updateNotSynchronised)

end Update

/-- Gives a device new values and returns its record afterwards. -/
def updateDevice (env : Environment) (r : UpdateRequest) : Operation DeviceRecord := do
  match Update.prepare env.settings r with
  | .error cause => throw (.rejected cause)
  | .ok p =>
    let (record, vin) ← Operation.transact (Update.commit env.settings p)
    if env.settings.synchronises then Update.synchronise env p vin
    return record

end DeviceRegistry
