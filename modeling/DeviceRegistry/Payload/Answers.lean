import DeviceRegistry.Lifecycle.Command
import DeviceRegistry.Listing.Devices
import DeviceRegistry.Payload.Decoder

/-!
# Payloads of answers

The JSON form of everything that is answered. Every member of an answer is written, null if there
is nothing to say.
-/

namespace DeviceRegistry

/-- The members of a profile. -/
def Profile.members (p : Profile) : List (String × Json) :=
  TextColumn.all.map fun c => (c.name, .ofText? (p.get c))

/-- The form of a device record. -/
def DeviceRecord.toJson (r : DeviceRecord) : Json :=
  .ofMembers (("id", .int r.id) :: r.profile.members ++
    [("stolen", .bool r.stolen), ("faulty", .bool r.faulty), ("vin", .ofText? r.vin),
      ("device_id", .ofText? r.headUnit)])

/-- The form of a history entry. -/
def HistoryEntry.toJson (h : HistoryEntry) : Json :=
  .ofMembers ([("id", .int h.id), ("factory_id", .int h.factoryId)] ++ h.profile.members ++
    [("stolen", .bool h.stolen), ("faulty", .bool h.faulty), ("action", .str h.action.name),
      ("created_timestamp", .str h.recordedAt)])

/-- The form of state counts. -/
def StateCount.toJson (c : StateCount) : Json :=
  .ofMembers [("provisioned", .int c.provisioned), ("active", .int c.active),
    ("stolen", .int c.stolen), ("faulty", .int c.faulty)]

/-- The form of a page of devices. -/
def DevicePage.toJson (p : DevicePage) : Json :=
  .ofMembers [("items", .arr (p.items.map (·.toJson))), ("total", .int p.total),
    ("page", .int p.page), ("size", .int p.size), ("state_count", p.stateCount.toJson),
    ("count", .ofInt? (p.count.map Int.ofNat))]

/-- The form of a page of history entries. -/
def HistoryPage.toJson (p : HistoryPage) : Json :=
  .ofMembers [("items", .arr (p.items.map (·.toJson))), ("total", .int p.total),
    ("page", .int p.page), ("size", .int p.size)]

/-- The form of the result of a creation. -/
def CreateResult.toJson (r : CreateResult) : Json :=
  .ofMembers [("created", .arr (r.created.map (·.toJson))),
    ("failed_vins", .arr (r.failedVins.map .str))]

/-- The form of the answer to a command. -/
def Answer.toJson : Answer → Json
  | .created result => result.toJson
  | .record r => r.toJson
  | .rows n => .int n
  | .id n => .int n

/-- The form of a list of misfits. -/
def Mismatch.report (name : Misfit → String) (ms : List Mismatch) : Json :=
  .arr ((Mismatch.sort ms).map fun m => .arr [.str m.place, .str (name m.misfit)])

end DeviceRegistry
