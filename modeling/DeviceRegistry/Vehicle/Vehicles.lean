import DeviceRegistry.Json.Display
import DeviceRegistry.Vehicle.Session

/-!
# Vehicles

The calls on the vehicles of the vehicle service: finding the id of a vehicle by its number,
creating, changing and deleting it. A call that is answered with another status than 200 has not
been carried out; a vehicle that exists already counts as created.
-/

namespace DeviceRegistry

/-- What the vehicle service is told about a new vehicle. -/
structure NewVehicle where
  vin : Option RawText
  chassisNumber : Option RawText := none
  productionWeek : Option RawText := none
  plant : Option RawText := none
  modelYear : Option RawText := none
  model : Option RawText := none
  deriving DecidableEq, Repr, Inhabited

/-- What the vehicle service is told about a vehicle that changed. -/
structure VehicleChange where
  vin : Option RawText
  chassisNumber : Option RawText := none
  productionWeek : Option RawText := none
  plant : Option RawText := none
  modelYear : Option RawText := none
  deriving DecidableEq, Repr, Inhabited

namespace Network

/-- A value names the number of a vehicle; null names the missing number. -/
def namesVin (vin : Option RawText) : Json → Bool
  | .str t => vin == some t
  | .null => vin.isNone
  | _ => false

/-- The id of the first listed vehicle with a number; null if that vehicle has none. -/
def firstWithVin (vin : Option RawText) : List Json → Exchange Json
  | [] => return .null
  | vehicle :: vehicles => do
    if namesVin vin (← member "vin" vehicle) then member "id" vehicle
    else firstWithVin vin vehicles

/-- The vehicles of a reply. A text or an object that is not empty holds no vehicles at all. -/
def listed : Json → Exchange (List Json)
  | .arr vehicles => return vehicles
  | .str t => return t.codes.map fun c => .str (.ofCodes [c])
  | .obj members => return members.map fun m => .str m.1
  | v => if v.isEmpty then return [] else Exchange.reject .notASequence

/-- The number of a vehicle as a query carries it; a missing one is empty. -/
def vinValue : Option RawText → Exchange String
  | some (.whole vin) => return vin
  | some (.broken _) => Exchange.reject .vinNotWhole
  | none => return ""

/-- The id of the vehicle with a number; none if it is not known or has no id. -/
def findVehicle (net : Network) (vin : Option RawText) : Exchange (Option Json) := do
  let session ← net.sessionHeader
  let value ← vinValue vin
  let (status, body) ← net.send
    { endpoint := .vehicles, query := [("vin", value)], session := some session }
  if status ≠ 200 then return none
  let reply ← net.read .vehicles status body
  match ← firstWithVin vin (← listed (← member "representationObjects" reply)) with
  | .null => return none
  | id => return some id

/-- What creating a vehicle sends. -/
def creation (service : VehicleService) (v : NewVehicle) : Json :=
  .ofMembers [("vehiclePost", .arr [.ofMembers [
    ("vin", .ofRawText? v.vin),
    ("vehicleModelId", service.vehicleModelId),
    ("domainId", service.domainId),
    ("chassisNumber", .ofRawText? v.chassisNumber),
    ("productionWeek", .ofRawText? v.productionWeek),
    ("plant", .ofRawText? v.plant),
    ("model", .ofRawText? v.model),
    ("specificAttributes", .ofMembers [("vehicleModelYear", .ofRawText? v.modelYear)])]])]

/-- The first of the results of a reply; no results count as one without members. -/
def firstResult (results : Json) : Exchange Json :=
  if results.isEmpty then return .obj []
  else
    match results with
    | .arr (result :: _) => return result
    | .str t => return .str (.ofCodes (t.codes.take 1))
    | .obj _ => Exchange.reject .noFirstItem
    | _ => Exchange.reject .notASequence

/-- A value equals zero; false does too. -/
def isZero : Json → Bool
  | .num n => n.isZero
  | .bool b => !b
  | _ => false

/-- The reason of a vehicle that exists already. -/
def alreadyExists : String := "Vehicle already exists"

/-- The reason that a result gives. -/
def reason (result : Json) : Json :=
  let first := result.member "reasonMessage"
  if first.isEmpty then result.member "resultMessage" else first

/-- A value is the given text. -/
def isText (s : String) : Json → Bool
  | .str t => t == .whole s
  | _ => false

/-- Creates a vehicle; false if the call was not carried out. -/
def createVehicle (net : Network) (v : NewVehicle) : Exchange Bool := do
  let session ← net.sessionHeader
  let (status, body) ← net.send
    { endpoint := .create, session := some session, body := some (creation net.service v) }
  if status ≠ 200 then return false
  let reply ← net.read .create status body
  let result ← firstResult (← member "actionResult" reply)
  if isZero (← member "code" result) then return true
  if isText alreadyExists (reason result) then return true
  Exchange.fail (.vehicleRefused (net.path .create) (reason result).display)

/-- What changing a vehicle sends. -/
def change (id : Option Json) (v : VehicleChange) : Json :=
  .ofMembers [
    ("id", id.getD .null),
    ("vin", .ofRawText? v.vin),
    ("chassisNumber", .ofRawText? v.chassisNumber),
    ("productionWeek", .ofRawText? v.productionWeek),
    ("plant", .ofRawText? v.plant),
    ("specificAttributes", .ofMembers [("vehicleModelYear", .ofRawText? v.modelYear)])]

/-- Changes a vehicle; false if the call was not carried out. -/
def updateVehicle (net : Network) (v : VehicleChange) : Exchange Bool := do
  let id ← net.findVehicle v.vin
  let session ← net.sessionHeader
  let (status, _) ← net.send
    { endpoint := .update, session := some session, body := some (change id v) }
  return status == 200

/-- Deletes a vehicle; false if it is not known or the call was not carried out. -/
def deleteVehicle (net : Network) (vin : Option RawText) : Exchange Bool := do
  match ← net.findVehicle vin with
  | none => return false
  | some id =>
    let session ← net.sessionHeader
    let (status, _) ← net.send
      { endpoint := .delete, session := some session,
        body := some (.ofMembers [("vehicleIds", .arr [id])]) }
    return status == 200

end Network

end DeviceRegistry
