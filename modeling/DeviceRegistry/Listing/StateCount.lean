import DeviceRegistry.Device.State

/-!
# State counts

How many of the listed devices are provisioned, active, stolen and faulty. Devices in any other
state are not counted.
-/

namespace DeviceRegistry

/-- The numbers of devices in the four counted states. -/
structure StateCount where
  provisioned : Int := 0
  active : Int := 0
  stolen : Int := 0
  faulty : Int := 0
  deriving DecidableEq, Repr, Inhabited

namespace StateCount

/-- The counts with some devices of a stored state added. -/
def add (c : StateCount) (state : Option String) (n : Int) : StateCount :=
  match state.bind DeviceState.ofName? with
  | some .provisioned => { c with provisioned := c.provisioned + n }
  | some .active => { c with active := c.active + n }
  | some .stolen => { c with stolen := c.stolen + n }
  | some .faulty => { c with faulty := c.faulty + n }
  | _ => c

/-- The counts of groups of devices, each group with its stored state. -/
def ofGroups (groups : List (Option String × Int)) : StateCount :=
  groups.foldl (fun c g => c.add g.1 g.2) {}

/-- The counts of devices by their stored states. -/
def ofStates (states : List (Option String)) : StateCount :=
  ofGroups (states.map fun s => (s, 1))

end StateCount

end DeviceRegistry
