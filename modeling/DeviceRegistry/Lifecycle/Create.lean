import DeviceRegistry.Calendar.Week
import DeviceRegistry.Device.Identifier
import DeviceRegistry.Device.Request
import DeviceRegistry.Device.StoredDate
import DeviceRegistry.Lifecycle.Operation

/-!
# Creating devices

A batch of devices is created by an actor. All of them are checked before the first is stored; then
each has its turn, with the replies and the time of it, and is stored in a transaction of its own,
with its vehicle identification number and a first entry in the history. In the integrated mode
serial numbers and vehicle identification numbers must be new, and the vehicle is created at the
vehicle service first: a device whose vehicle is not created there is left out and its number
reported.
-/

namespace DeviceRegistry

open Calendar

/-- The devices that were created, and the numbers of those that were left out. -/
structure CreateResult where
  created : List DeviceRecord := []
  failedVins : List RawText := []
  deriving DecidableEq, Repr, Inhabited

/-- A device that is ready to be stored, and what was said about its vehicle. -/
structure PreparedDevice where
  profile : RawProfile
  vehicle : VehicleData
  deriving DecidableEq, Repr, Inhabited

namespace Create

/-- The columns without which a device is not created. -/
def mandatoryColumns : List TextColumn :=
  [.manufacturingDate, .recordDate, .model, .serialNumber]

/-- The plant of a vehicle for which none is given. -/
def defaultPlant : String := "Plant"

/-- Checks a device and makes it ready to be stored. -/
def prepare (actor : String) (data : DeviceData) : Except Rejection PreparedDevice := do
  let p : RawProfile := data.profile.only createColumns
  require (mandatoryColumns.all fun c => (RawText.filled? (p.get c)).isSome) .createFieldsMissing
  Identifier.checkWholeImei p.shown.imei
  Identifier.checkSerialNumber p.shown.serialNumber
  Identifier.checkVin (data.vehicle.vin.map RawText.shown)
  let dated ← p.withStoredDates
  return { profile := { dated with factoryAdmin := some actor }, vehicle := data.vehicle }

/-- Refuses a serial number or a vehicle identification number that is stored already. -/
def checkNew (p : PreparedDevice) (s : Store) : Except Failure Unit := do
  match ← Store.bindText? (RawText.filled? p.profile.serialNumber) with
  | some serial => checked (require (!s.hasSerialNumber serial) .serialNumberTaken)
  | none => pure ()
  match ← Store.bindText? (RawText.filled? p.vehicle.vin) with
  | some vin => checked (require (!s.hasVin vin) .vinTaken)
  | none => pure ()

/-- The value of a field if it is filled, and else one that follows from the date of the present. -/
def filledOr (now : Instant) (otherwise : Date → String) (value : Option RawText) :
    Except Failure RawText :=
  match RawText.filled? value with
  | some given => .ok given
  | none => (timestamp now).map fun stamp => .whole (otherwise stamp.date)

/-- What the vehicle service is told about the vehicle of a device. -/
def newVehicle (now : Instant) (p : PreparedDevice) (vin : RawText) :
    Except Failure NewVehicle := do
  let v := p.vehicle
  let week ← filledOr now Date.productionWeek v.productionWeek
  let year ← filledOr now (fun date => toString date.year) v.modelYear
  return {
    vin := some vin
    chassisNumber := some ((RawText.filled? v.chassisNumber).getD vin)
    productionWeek := some week
    plant := some ((RawText.filled? v.plant).getD defaultPlant)
    modelYear := some year
    model := p.profile.model }

/-- Stores a device with its number and its first history entry. -/
def insert (now : Instant) (p : PreparedDevice) (s : Store) :
    Except Failure (DeviceRecord × Store) := do
  let stamp ← timestamp now
  let profile ← Store.bindProfile p.profile
  let (d, s) ← storedOr .duplicateEntry (s.insertDevice stamp.text profile)
  let vin ← Store.bindText? p.vehicle.vin
  let s ← match Text.filled? vin with
    | some vin => (storedOr .duplicateEntry (s.insertVin (some d.id) (some vin))).map (·.2)
    | none => pure s
  return ({ d.record with vin := vin }, s.appendHistory stamp.text d.record .provisioned)

/-- Creates the vehicle of a device at the vehicle service if that is kept in step; false if the
service does not create it. -/
def createVehicle (env : Environment) (p : PreparedDevice) (vin : RawText) : Operation Bool := do
  let vehicle ← MonadExcept.ofExcept (newVehicle env.now p vin)
  match ← Operation.converse (env.network.createVehicle vehicle) with
  | .ok done => return done
  | .error _ => return false

/-- Creates one device; the result is the number of a device that was left out, or the record. -/
def createOne (env : Environment) (p : PreparedDevice) :
    Operation (Except RawText DeviceRecord) := do
  if env.settings.checksVins then
    Operation.transact fun s => do
      checkNew p s
      return ((), s)
  match RawText.filled? p.vehicle.vin with
  | some vin =>
    if env.settings.synchronises then
      if !(← createVehicle env p vin) then return .error vin
  | none => pure ()
  return .ok (← Operation.transact (insert env.now p))

/-- The result with the outcome of an earlier device in front. -/
def CreateResult.cons (outcome : Except RawText DeviceRecord) (r : CreateResult) : CreateResult :=
  match outcome with
  | .ok d => { r with created := d :: r.created }
  | .error vin => { r with failedVins := vin :: r.failedVins }

/-- Creates devices one after the other, each in the environment of its turn: the time and what the
vehicle service replies may change from one device to the next. -/
def createInTurn : List (Environment × PreparedDevice) → Operation CreateResult
  | [] => return {}
  | (env, p) :: turns => do
    let outcome ← createOne env p
    let rest ← createInTurn turns
    return CreateResult.cons outcome rest

/-- Checks a batch and makes it ready to be stored. -/
def prepareAll (actor : Option String) (records : List DeviceData) :
    Except Rejection (List PreparedDevice) :=
  match Text.filled? actor with
  | none => .error .actorMissing
  | some actor =>
    if records.isEmpty then .error .invalidPayload else records.mapM (prepare actor)

end Create

/-- Creates a batch of devices, each in the environment of its turn. -/
def createDevicesInTurn (actor : Option String) (turns : List (Environment × DeviceData)) :
    Operation CreateResult := do
  match Create.prepareAll actor (turns.map (·.2)) with
  | .ok prepared => Create.createInTurn ((turns.map (·.1)).zip prepared)
  | .error cause => throw (.rejected cause)

/-- Creates a batch of devices in one environment. -/
def createDevices (env : Environment) (actor : Option String) (records : List DeviceData) :
    Operation CreateResult :=
  createDevicesInTurn actor (records.map fun data => (env, data))

end DeviceRegistry
