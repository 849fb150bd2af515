import DeviceRegistry.Device.Profile
import DeviceRegistry.Device.State

/-!
# Devices, history entries and their records

A stored device has an id, a profile and two flags, each an integer that counts as set unless it is
zero. A record is what answers show of it: the flags as truth values, and with them the vehicle
identification number and the head unit where a listing knows them. A history entry is a snapshot
of a device at the time of an action.
-/

namespace DeviceRegistry

/-- A row of the device table. -/
structure Device where
  id : Int
  profile : Profile
  stolen : Int := 0
  faulty : Int := 0
  deriving DecidableEq, Repr, Inhabited

/-- A row of the history table. -/
structure HistoryRow where
  id : Int
  factoryId : Int
  profile : Profile
  stolen : Int
  faulty : Int
  action : HistoryAction
  recordedAt : String
  deriving DecidableEq, Repr, Inhabited

/-- What answers show of a device. -/
structure DeviceRecord where
  id : Int
  profile : Profile := { state := some DeviceState.provisioned.name }
  stolen : Bool := false
  faulty : Bool := false
  vin : Option String := none
  headUnit : Option String := none
  deriving DecidableEq, Repr, Inhabited

/-- What answers show of a history entry. -/
structure HistoryEntry where
  id : Int
  factoryId : Int
  profile : Profile := {}
  stolen : Bool := false
  faulty : Bool := false
  action : HistoryAction
  recordedAt : String
  deriving DecidableEq, Repr, Inhabited

/-- The stored form of a flag. -/
def flagValue (b : Bool) : Int :=
  if b then 1 else 0

namespace Device

/-- The value of a flag. -/
def flag (d : Device) : Flag → Int
  | .stolen => d.stolen
  | .faulty => d.faulty

/-- The device with a flag replaced. -/
def setFlag (d : Device) (f : Flag) (v : Int) : Device :=
  match f with
  | .stolen => { d with stolen := v }
  | .faulty => { d with faulty := v }

/-- What a column holds. -/
def cell (d : Device) : Column → Cell
  | .id => .int d.id
  | .text c => .ofText? (d.profile.get c)
  | .flag f => .int (d.flag f)
  | .recordedAt => .null
  | .headUnit => .null

/-- The record of a device on its own. -/
def record (d : Device) : DeviceRecord :=
  { id := d.id, profile := d.profile, stolen := d.stolen != 0, faulty := d.faulty != 0 }

end Device

namespace HistoryRow

/-- What a column holds. -/
def cell (h : HistoryRow) : Column → Cell
  | .id => .int h.id
  | .text c => .ofText? (h.profile.get c)
  | .flag .stolen => .int h.stolen
  | .flag .faulty => .int h.faulty
  | .recordedAt => .text h.recordedAt
  | .headUnit => .null

/-- The entry of a row. -/
def entry (h : HistoryRow) : HistoryEntry :=
  { id := h.id, factoryId := h.factoryId, profile := h.profile, stolen := h.stolen != 0,
    faulty := h.faulty != 0, action := h.action, recordedAt := h.recordedAt }

end HistoryRow

end DeviceRegistry
