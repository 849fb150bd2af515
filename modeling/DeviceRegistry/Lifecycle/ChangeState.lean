import DeviceRegistry.Device.Identifier
import DeviceRegistry.Device.Request
import DeviceRegistry.Lifecycle.Operation
import DeviceRegistry.Lifecycle.Transition

/-!
# Changing the state

A device is moved to another state on request. It is named by its id and IMEI, its id, or its IMEI,
in this order of precedence. The move is judged by the state that the device counts as, and leaves
an entry in the history.
-/

namespace DeviceRegistry

open Calendar

/-- The device that a request names. -/
def StateChange.reference (r : StateChange) : Except Rejection DeviceReference :=
  match r.factoryId, Text.filled? r.imei with
  | some id, some imei => .ok (.idAndImei id imei)
  | some id, none => .ok (.factoryId id)
  | none, some imei => .ok (.imei imei)
  | none, none => .error .referenceMissing

/-- The state that a request asks for. -/
def StateChange.target (r : StateChange) : Except Rejection DeviceState :=
  match r.state with
  | some target => .ok target
  | none => .error .stateMissing

/-- The device of a reference. -/
def Store.resolve (s : Store) (ref : DeviceReference) : Except Failure Device := do
  let found ← match ref with
    | .idAndImei id imei => do
      Store.bindable id
      pure (s.deviceByIdAndImei? id imei)
    | .factoryId id => do
      Store.bindable id
      pure (s.device? id)
    | .imei imei => pure (s.deviceByImei? imei)
  match found with
  | some d => return d
  | none => throw (.rejected (.deviceNotFound ref))

/-- The id of the head unit associated last with a device. -/
def Store.headUnit? (s : Store) (device : Int) : Option String :=
  (s.association? device).bind (·.headUnit)

/-- Moves a device to another state and gives its record afterwards. -/
def changeState (now : Instant) (r : StateChange) (s : Store) :
    Except Failure (DeviceRecord × Store) := do
  let ref ← checked r.reference
  let target ← checked r.target
  checked (Identifier.checkWholeImei r.imei)
  let d ← s.resolve ref
  let current ← checked d.record.effectiveState
  checked (Transition.check d.id current target)
  checked (Transition.checkHeadUnit d.id current target (s.headUnit? d.id))
  let (rows, changed) ← stored (s.updateDevice d.id (Change.ofState target))
  checked (require (rows != 0) (.deviceNotFound (.factoryId d.id)))
  match changed.device? d.id with
  | some d => do
    let stamp ← timestamp now
    return (d.record, changed.appendHistory stamp.text d.record .updated)
  | none => throw (.rejected (.deviceNotFound (.factoryId d.id)))

end DeviceRegistry
