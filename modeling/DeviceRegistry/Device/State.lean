/-!
# Device states

The states of a device's life, the moves allowed between them, and the actions that the history
records. A state is stored by its name.
-/

namespace DeviceRegistry

/-- The states of a device. -/
inductive DeviceState where
  | provisioned
  | readyToActivate
  | active
  | stolen
  | faulty
  | deactivated
  | provisionedAlive
  deriving DecidableEq, Repr, Inhabited

namespace DeviceState

/-- All states. -/
def all : List DeviceState :=
  [provisioned, readyToActivate, active, stolen, faulty, deactivated, provisionedAlive]

/-- The stored name of a state. -/
def name : DeviceState → String
  | provisioned => "PROVISIONED"
  | readyToActivate => "READY_TO_ACTIVATE"
  | active => "ACTIVE"
  | stolen => "STOLEN"
  | faulty => "FAULTY"
  | deactivated => "DEACTIVATED"
  | provisionedAlive => "PROVISIONED_ALIVE"

/-- The state of a stored name. -/
def ofName? (s : String) : Option DeviceState :=
  all.find? fun state => state.name == s

/-- The states that a device may move to on request. -/
def targets : DeviceState → List DeviceState
  | provisioned => [stolen, faulty]
  | active => [stolen, faulty]
  | stolen => [active, provisioned]
  | faulty => [stolen, active, provisioned]
  | readyToActivate => []
  | deactivated => []
  | provisionedAlive => []

/-- Whether a device may move from one state to another. -/
def allows (current target : DeviceState) : Bool :=
  current.targets.contains target

theorem mem_all (s : DeviceState) : s ∈ all := by
  cases s <;> decide

theorem ofName?_name (s : DeviceState) : ofName? s.name = some s := by
  cases s <;> decide

/-- Only the name of a state is read as that state. -/
theorem name_of_ofName? {t : String} {s : DeviceState} (h : ofName? t = some s) : s.name = t := by
  simpa using List.find?_some h

end DeviceState

/-- What a history entry records about a device. -/
inductive HistoryAction where
  | provisioned
  | updated
  | deactivated
  deriving DecidableEq, Repr, Inhabited

namespace HistoryAction

/-- All actions. -/
def all : List HistoryAction :=
  [provisioned, updated, deactivated]

/-- The stored name of an action. -/
def name : HistoryAction → String
  | provisioned => "PROVISIONED"
  | updated => "UPDATED"
  | deactivated => "DEACTIVATED"

/-- The action of a stored name. -/
def ofName? (s : String) : Option HistoryAction :=
  all.find? fun action => action.name == s

theorem ofName?_name (a : HistoryAction) : ofName? a.name = some a := by
  cases a <;> decide

end HistoryAction

end DeviceRegistry
