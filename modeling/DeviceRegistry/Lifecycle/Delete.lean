import DeviceRegistry.Device.Identifier
import DeviceRegistry.Lifecycle.Operation

/-!
# Deleting devices

A device that is provisioned and unmarked is deleted by its IMEI, its serial number, or both. Its
last snapshot stays in the history. A device with an associated head unit is kept. The vehicle
service hears of it afterwards and cannot bring the device back.
-/

namespace DeviceRegistry

open Calendar

namespace Delete

/-- Checks the identifiers of a request. -/
def checkIdentifiers (imei serialNumber : Option String) : Check := do
  require (Text.isFilled imei || Text.isFilled serialNumber) .deleteIdentifierMissing
  Identifier.checkWholeImei imei
  Identifier.checkWholeSerialNumber serialNumber

/-- The local part of a deletion: the record of the device before, and its number. -/
def commit (settings : Settings) (now : Instant) (imei serialNumber : Option String) (s : Store) :
    Except Failure ((DeviceRecord × Option String) × Store) := do
  match s.deviceWith? (Store.identifierValues imei serialNumber) with
  | none => throw (.rejected .deleteNotFound)
  | some d =>
    let vin := Text.filled? (s.vin? d.id)
    checked (require (!settings.synchronises || vin.isSome) .deleteVinMissing)
    let (rows, s) ← storedOr .deleteRefused (s.deleteDevice d.id)
    checked (require (rows != 0) .deleteNotProvisioned)
    let stamp ← timestamp now
    return ((d.record, vin), s.appendHistory stamp.text d.record .deactivated)

/-- Tells the vehicle service about a deleted device. -/
def synchronise (env : Environment) (vin : Option String) : Operation Unit := do
  match ← Operation.converse (env.network.deleteVehicle (vin.map .whole)) with
  | .ok true => return ()
  | _ => throw (.rejected .deleteNotSynchronised)

end Delete

/-- Deletes a device and returns its record before. -/
def deleteDevice (env : Environment) (imei serialNumber : Option String) :
    Operation DeviceRecord := do
  match Delete.checkIdentifiers imei serialNumber with
  | .error cause => throw (.rejected cause)
  | .ok () =>
    let (record, vin) ←
      Operation.transact (Delete.commit env.settings env.now imei serialNumber)
    if env.settings.synchronises then Delete.synchronise env vin
    return record

end DeviceRegistry
