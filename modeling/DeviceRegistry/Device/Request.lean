import DeviceRegistry.Device.Profile
import DeviceRegistry.Device.State

/-!
# Requests

What clients send about devices. A profile inside a request leaves null what the client does not
say; which columns count depends on the request. The texts are as the client wrote them and need not
be whole.
-/

namespace DeviceRegistry

/-- What a request says about the vehicle that a device is built into. -/
structure VehicleData where
  vin : Option RawText := none
  chassisNumber : Option RawText := none
  plant : Option RawText := none
  productionWeek : Option RawText := none
  modelYear : Option RawText := none
  deriving DecidableEq, Repr, Inhabited

/-- A device and its vehicle, as one side of a create or update request gives them. -/
structure DeviceData where
  profile : RawProfile := {}
  vehicle : VehicleData := {}
  deriving DecidableEq, Repr, Inhabited

/-- The device as it is now and as it shall be. -/
structure UpdateRequest where
  current : Option DeviceData := none
  replacement : Option DeviceData := none
  deriving DecidableEq, Repr, Inhabited

/-- A state for the device with an id, an IMEI, or both. -/
structure StateChange where
  factoryId : Option Int := none
  imei : Option String := none
  state : Option DeviceState := none
  deriving DecidableEq, Repr, Inhabited

/-- New values for the columns of one device; null leaves a column as it is. -/
structure AttributeUpdate where
  id : Int
  changes : RawProfile := {}
  deriving DecidableEq, Repr, Inhabited

/-- For some columns, the values one of which a device has to have. -/
structure DeviceFilter where
  allowed : TextColumn → List RawText := fun _ => []

/-- The columns that a create request gives. -/
def createColumns : List TextColumn :=
  [.manufacturingDate, .recordDate, .model, .serialNumber, .imei, .platformVersion, .iccid, .ssid,
    .bssid, .msisdn, .imsi, .packageSerialNumber, .deviceType]

/-- The columns that an update has to give on both sides. -/
def updateMandatoryColumns : List TextColumn :=
  [.manufacturingDate, .model, .serialNumber, .recordDate, .factoryAdmin, .imei, .iccid, .ssid,
    .bssid, .msisdn, .imsi, .platformVersion]

/-- The columns that an update compares and replaces. -/
def updateColumns : List TextColumn :=
  updateMandatoryColumns ++ [.packageSerialNumber]

/-- The columns that an attribute update may give. -/
def attributeColumns : List TextColumn :=
  [.manufacturingDate, .model, .imei, .serialNumber, .platformVersion, .iccid, .ssid, .bssid,
    .msisdn, .imsi, .recordDate, .factoryAdmin, .state, .packageSerialNumber, .deviceType]

/-- The columns that an exact filter may give. -/
def filterColumns : List TextColumn :=
  [.imei, .serialNumber, .model, .iccid, .ssid, .msisdn, .imsi, .state]

end DeviceRegistry
