import DeviceRegistry.Problem.Failure
import DeviceRegistry.Text.Digit
import DeviceRegistry.Text.Filled

/-!
# Identifiers

The checks of the values that name a device: its IMEI, its serial number, the id of a head unit and
a vehicle identification number. A search asks for at least three characters; a request about one
device gives the whole value. A value that is null or empty passes, except an empty VIN.
-/

namespace DeviceRegistry

namespace Identifier

/-- The least number of characters to search by. -/
def minLength : Nat := 3

/-- The number of characters of a vehicle identification number. -/
def vinLength : Nat := 17

/-- Applies a check to a value that is neither null nor empty. -/
def ifFilled (value : Option String) (check : String → Check) : Check :=
  match Text.filled? value with
  | some s => check s
  | none => .ok ()

/-- An IMEI to search by. -/
def checkImei (imei : Option String) : Check :=
  ifFilled imei fun s => do
    require (minLength ≤ s.length) .imeiTooShort
    require (Text.isNumeric s) .imeiNotNumeric

/-- An IMEI of one device. -/
def checkWholeImei (imei : Option String) : Check :=
  ifFilled imei fun s => require (Text.isNumeric s) .imeiNotNumeric

/-- A serial number to search by. -/
def checkSerialNumber (serialNumber : Option String) : Check :=
  ifFilled serialNumber fun s => do
    require (minLength ≤ s.length) .serialNumberTooShort
    require (Text.isAlphanumeric s) .serialNumberNotAlphanumeric

/-- A serial number of one device. -/
def checkWholeSerialNumber (serialNumber : Option String) : Check :=
  ifFilled serialNumber fun s => require (Text.isAlphanumeric s) .serialNumberNotAlphanumeric

/-- The id of a head unit. -/
def checkDeviceId (deviceId : Option String) : Check :=
  ifFilled deviceId fun s => do
    require (minLength ≤ s.length) .deviceIdTooShort
    require (Text.isAlphanumeric s) .deviceIdNotAlphanumeric

/-- A vehicle identification number; the empty one has the wrong length. -/
def checkVin (vin : Option String) : Check :=
  match vin with
  | some s => require (s.length == vinLength) .vinLength
  | none => .ok ()

/-- The name of a state. -/
def checkStateName (state : Option String) : Check :=
  match state with
  | some s => require (DeviceState.ofName? s).isSome .invalidPayload
  | none => .ok ()

end Identifier

/-- The kinds of values that a details listing may select by. -/
inductive IdentifierKind where
  | imei
  | serialNumber
  | deviceId
  | vin
  | state
  deriving DecidableEq, Repr, Inhabited

/-- The name of a kind of identifier. -/
def IdentifierKind.name : IdentifierKind → String
  | .imei => "imei"
  | .serialNumber => "serial_number"
  | .deviceId => "device_id"
  | .vin => "vin"
  | .state => "state"

/-- The values that a details request gives to select by. -/
structure Selection where
  imei : Option String := none
  serialNumber : Option String := none
  deviceId : Option String := none
  vin : Option String := none
  state : Option String := none
  deriving DecidableEq, Repr, Inhabited

namespace Selection

/-- The values that are given, in the order of the request. -/
def supplied (s : Selection) : List (IdentifierKind × String) :=
  [(.imei, s.imei), (.serialNumber, s.serialNumber), (.deviceId, s.deviceId), (.vin, s.vin),
    (.state, s.state)].filterMap fun (kind, value) =>
      (Text.filled? value).map (kind, ·)

/-- The check of a value of a kind. -/
def check : IdentifierKind × String → Check
  | (.imei, v) => Identifier.checkImei v
  | (.serialNumber, v) => Identifier.checkSerialNumber v
  | (.deviceId, v) => Identifier.checkDeviceId v
  | (.vin, v) => Identifier.checkVin v
  | (.state, _) => .ok ()

/-- The one value that is given, if any; two of them are refused after each has been checked. -/
def single (s : Selection) : Except Rejection (Option (IdentifierKind × String)) := do
  s.supplied.forM check
  match s.supplied with
  | [] => return none
  | [given] => return some given
  | _ => throw (.severalIdentifiers (s.supplied.any fun given => given.1 == .vin))

end Selection

end DeviceRegistry
