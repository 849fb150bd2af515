/-!
# Columns of a device

The columns that a stored device has: its texts, its two flags and its id. Listings also sort by
the time of a history entry and by the id of an associated head unit.
-/

namespace DeviceRegistry

/-- The text columns of a device. -/
inductive TextColumn where
  | manufacturingDate
  | model
  | imei
  | serialNumber
  | platformVersion
  | iccid
  | ssid
  | bssid
  | msisdn
  | imsi
  | recordDate
  | factoryAdmin
  | createdDate
  | state
  | packageSerialNumber
  | deviceType
  deriving DecidableEq, Repr, Inhabited

namespace TextColumn

/-- The text columns in the order of the table. -/
def all : List TextColumn :=
  [manufacturingDate, model, imei, serialNumber, platformVersion, iccid, ssid, bssid, msisdn, imsi,
    recordDate, factoryAdmin, createdDate, state, packageSerialNumber, deviceType]

/-- The stored name of a column. -/
def name : TextColumn → String
  | manufacturingDate => "manufacturing_date"
  | model => "model"
  | imei => "imei"
  | serialNumber => "serial_number"
  | platformVersion => "platform_version"
  | iccid => "iccid"
  | ssid => "ssid"
  | bssid => "bssid"
  | msisdn => "msisdn"
  | imsi => "imsi"
  | recordDate => "record_date"
  | factoryAdmin => "factory_admin"
  | createdDate => "created_date"
  | state => "state"
  | packageSerialNumber => "package_serial_number"
  | deviceType => "device_type"

/-- The column of a stored name. -/
def ofName? (s : String) : Option TextColumn :=
  all.find? fun column => column.name == s

/-- The columns that a stored device always fills, in the order of the table. -/
def required : List TextColumn :=
  [manufacturingDate, model, serialNumber, recordDate, createdDate, state]

theorem mem_all (c : TextColumn) : c ∈ all := by
  cases c <;> decide

theorem ofName?_name (c : TextColumn) : ofName? c.name = some c := by
  cases c <;> decide

end TextColumn

/-- The marks that override the state of a device. -/
inductive Flag where
  | stolen
  | faulty
  deriving DecidableEq, Repr, Inhabited

namespace Flag

/-- Both flags in the order of the table. -/
def all : List Flag :=
  [stolen, faulty]

/-- The stored name of a flag. -/
def name : Flag → String
  | stolen => "is_stolen"
  | faulty => "is_faulty"

/-- The flag of a stored name. -/
def ofName? (s : String) : Option Flag :=
  all.find? fun flag => flag.name == s

end Flag

/-- The columns that a listing may filter or sort by. -/
inductive Column where
  | id
  | text (column : TextColumn)
  | flag (flag : Flag)
  | recordedAt
  | headUnit
  deriving DecidableEq, Repr, Inhabited

namespace Column

/-- The stored name of a column. -/
def name : Column → String
  | id => "id"
  | text c => c.name
  | flag f => f.name
  | recordedAt => "created_timestamp"
  | headUnit => "harman_id"

/-- The column of a device with a stored name. -/
def ofDeviceName? (s : String) : Option Column :=
  if s == "id" then some .id
  else
    match TextColumn.ofName? s with
    | some c => some (.text c)
    | none => (Flag.ofName? s).map .flag

end Column

/-- What a column holds in a row. -/
inductive Cell where
  | null
  | int (value : Int)
  | text (value : String)
  deriving DecidableEq, Repr, Inhabited

namespace Cell

/-- A text, or null. -/
def ofText? : Option String → Cell
  | some s => .text s
  | none => .null

/-- The order of cells: null first, then integers, then texts by code points. -/
def le : Cell → Cell → Bool
  | .null, _ => true
  | .int _, .null => false
  | .int m, .int n => decide (m ≤ n)
  | .int _, .text _ => true
  | .text s, .text t => decide (s ≤ t)
  | .text _, _ => false

end Cell

end DeviceRegistry
