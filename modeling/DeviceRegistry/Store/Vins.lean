import DeviceRegistry.Store.Basic
import DeviceRegistry.Text.Filled

/-!
# The table of vehicle identification numbers

A device has at most one number, and every number refers to a device that is stored. Several devices
may have the same number; keeping them apart is not the table's concern.
-/

namespace DeviceRegistry.Store

/-- The vehicle identification number of a device. -/
def vin? (s : Store) (device : Int) : Option String :=
  (s.vins.rows.find? fun v => v.device == device).map (·.vin)

/-- Whether a device has a vehicle identification number. -/
def hasVin (s : Store) (vin : String) : Bool :=
  s.vins.rows.any fun v => v.vin == vin

/-- Whether a device has the given number; nothing has the number null. -/
def vinMatches (s : Store) (device : Int) (vin : Option String) : Bool :=
  s.vins.rows.any fun v => v.device == device && some v.vin == vin

/-- The devices that have a number. -/
def vinOwners (s : Store) (vin : Option String) : List Int :=
  (s.vins.rows.filter fun v => some v.vin == vin).map (·.device)

/-- The number of the first device with a serial number, or else with an IMEI, that has one. -/
def vinByIdentifiers? (s : Store) (imei serialNumber : Option String) : Option String :=
  let among (which : Device → Bool) : Option String :=
    (s.devices.rows.filter which).findSome? fun d => s.vin? d.id
  match Text.filled? serialNumber, Text.filled? imei with
  | some serial, _ => among fun d => d.profile.serialNumber == some serial
  | none, some imei => among fun d => d.profile.imei == some imei
  | none, none => none

/-- Gives a device a number and returns the id of its row. -/
def insertVin (device : Option Int) (vin : Option String) (s : Store) :
    Except Violation (Int × Store) :=
  match vin, device with
  | none, _ => .error (.missing .vins "vin")
  | _, none => .error (.missing .vins "reference_id")
  | some vin, some device =>
    if s.vins.rows.any (·.device == device) then .error (.duplicate .vins "reference_id")
    else if (s.device? device).isNone then .error .reference
    else
      .ok (s.vins.nextId,
        { s with vins := s.vins.append fun id => { id := id, vin := vin, device := device } })

/-- Gives a device a number in place of the one it may have; an id is used up in both cases. -/
def putVin (device : Option Int) (vin : Option String) (s : Store) : Except Violation Store :=
  match vin, device with
  | none, _ => .error (.missing .vins "vin")
  | _, none => .error (.missing .vins "reference_id")
  | some vin, some device =>
    if s.vins.rows.any (·.device == device) then
      .ok { s with vins := (s.vins.mapWhere (·.device == device) ({ · with vin := vin })).skipId }
    else (insertVin (some device) (some vin) s).map (·.2)

end DeviceRegistry.Store
