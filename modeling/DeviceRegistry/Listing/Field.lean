import DeviceRegistry.Device.Column
import DeviceRegistry.Text.Word

/-!
# Fields of a listing

The names by which requests filter and sort, each with its column. A name may be written in any
case; the spelling of the table is the canonical one.
-/

namespace DeviceRegistry

/-- Names with what they stand for, in order. -/
abbrev FieldTable (α : Type) := List (String × α)

namespace FieldTable

variable {α : Type}

/-- The entry of a name: the one spelled just so, or else the first that is the same word. -/
def resolve? (table : FieldTable α) (field : String) : Option (String × α) :=
  (table.find? fun e => e.1 == field).or (table.find? fun e => Text.sameWord e.1 field)

/-- The canonical names. -/
def names (table : FieldTable α) : List String :=
  table.map (·.1)

/-- Whether a name stands for something. -/
def contains (table : FieldTable α) (field : String) : Bool :=
  (table.resolve? field).isSome

end FieldTable

/-- A column that a contains-filter may look into. -/
inductive FilterColumn where
  | text (column : TextColumn)
  | flag (flag : Flag)
  deriving DecidableEq, Repr, Inhabited

/-- The stored name of a filter column. -/
def FilterColumn.name : FilterColumn → String
  | .text c => c.name
  | .flag f => f.name

namespace Listing

/-- The fields of a contains-filter. -/
def containsLikeFields : FieldTable FilterColumn := [
  ("model", .text .model),
  ("imei", .text .imei),
  ("serialNumber", .text .serialNumber),
  ("iccid", .text .iccid),
  ("ssid", .text .ssid),
  ("bssid", .text .bssid),
  ("msisdn", .text .msisdn),
  ("imsi", .text .imsi),
  ("factoryAdmin", .text .factoryAdmin),
  ("state", .text .state),
  ("isStolen", .flag .stolen),
  ("isFaulty", .flag .faulty),
  ("packageSerialNumber", .text .packageSerialNumber)]

/-- The fields of a range filter. -/
def rangeFields : FieldTable TextColumn := [
  ("manufacturingDate", .manufacturingDate),
  ("recordDate", .recordDate),
  ("createdDate", .createdDate)]

/-- The fields that a listing of devices may be sorted by. -/
def detailsSortFields : FieldTable Column := [
  ("id", .id),
  ("imei", .text .imei),
  ("serialNumber", .text .serialNumber),
  ("model", .text .model),
  ("iccid", .text .iccid),
  ("ssid", .text .ssid),
  ("bssid", .text .bssid),
  ("msisdn", .text .msisdn),
  ("imsi", .text .imsi),
  ("factoryAdmin", .text .factoryAdmin),
  ("state", .text .state),
  ("packageSerialNumber", .text .packageSerialNumber),
  ("manufacturingDate", .text .manufacturingDate),
  ("recordDate", .text .recordDate),
  ("createdDate", .text .createdDate)]

/-- The fields that a listing by head unit may be sorted by. -/
def headUnitSortFields : FieldTable Column :=
  detailsSortFields ++ [("deviceId", .headUnit)]

/-- The fields that a listing of history entries may be sorted by. -/
def historySortFields : FieldTable Column := [
  ("state", .text .state),
  ("stateTimestamp", .recordedAt),
  ("manufacturingDate", .text .manufacturingDate),
  ("imei", .text .imei),
  ("serialNumber", .text .serialNumber),
  ("iccid", .text .iccid),
  ("ssid", .text .ssid),
  ("bssid", .text .bssid),
  ("msisdn", .text .msisdn),
  ("imsi", .text .imsi),
  ("factoryAdmin", .text .factoryAdmin),
  ("packageSerialNumber", .text .packageSerialNumber),
  ("recordDate", .text .recordDate)]

/-- The fields of an exact filter, under their stored names. -/
def exactFields : FieldTable TextColumn :=
  [.imei, .serialNumber, .model, .iccid, .ssid, .msisdn, .imsi, .state].map fun c => (c.name, c)

end Listing

end DeviceRegistry
