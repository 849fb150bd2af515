import DeviceRegistry.Store.Basic

/-!
# The table of associated head units

Each association refers to a device that is stored. A device may have several; the latest counts.
-/

namespace DeviceRegistry.Store

/-- The latest association of a device. -/
def association? (s : Store) (device : Int) : Option Association :=
  s.associations.rows.reverse.find? fun a => a.device == device

/-- Associates a head unit with a device and returns the id of the association. -/
def associate (device : Option Int) (headUnit : Option String) (s : Store) :
    Except Violation (Int × Store) :=
  match device with
  | none => .error (.missing .associations "factory_id")
  | some device =>
    if (s.device? device).isNone then .error .reference
    else
      .ok (s.associations.nextId,
        { s with
          associations := s.associations.append fun id =>
            { id := id, device := device, headUnit := headUnit } })

end DeviceRegistry.Store
