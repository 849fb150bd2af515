import DeviceRegistry.Device.Record
import DeviceRegistry.Problem.Failure
import DeviceRegistry.Text.Blank
import DeviceRegistry.Text.Filled

/-!
# Transitions

Which state a device is in, and whether it may move to another. A device marked faulty counts as
faulty and one marked stolen as stolen, whatever state is stored. A device becomes active only if
its latest associated head unit has an id that is not blank.
-/

namespace DeviceRegistry

/-- The state of a stored name. -/
def DeviceState.parse (stored : Option String) : Except Rejection DeviceState :=
  match stored.bind DeviceState.ofName? with
  | some state => .ok state
  | none => .error (.unknownState stored)

/-- The state that a device counts as: faulty before stolen before the stored state. -/
def DeviceRecord.effectiveState (r : DeviceRecord) : Except Rejection DeviceState :=
  if r.faulty then .ok .faulty
  else if r.stolen then .ok .stolen
  else DeviceState.parse r.profile.state

namespace Transition

/-- Refuses a move that is not allowed. -/
def check (device : DeviceLabel) (current target : DeviceState) : Check :=
  require (current.allows target) (.transitionRefused device current target)

/-- An id of a head unit that is neither missing nor blank. -/
def isAssociated (headUnit : Option String) : Bool :=
  headUnit.any fun s => !Text.isBlankText s

/-- Refuses to make a device active without a head unit. -/
def checkHeadUnit (device : DeviceLabel) (current target : DeviceState)
    (headUnit : Option String) : Check :=
  if target = .active then
    require (isAssociated headUnit) (.transitionRefused device current target)
  else .ok ()

end Transition

end DeviceRegistry
