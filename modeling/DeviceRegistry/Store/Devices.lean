import DeviceRegistry.Store.Basic
import DeviceRegistry.Text.Filled

/-!
# Statements on devices

Inserting, finding, changing and deleting rows of the device table. A new device is provisioned and
unmarked. Deleting takes the vehicle identification number along, and is refused while a head unit
is associated.
-/

namespace DeviceRegistry

/-- A new value for one column. -/
inductive Change where
  | text (column : TextColumn) (value : Option String)
  | flag (flag : Flag) (value : Option Int)
  deriving DecidableEq, Repr, Inhabited

namespace Change

/-- The device with a column changed; a flag cannot be emptied. -/
def apply (d : Device) : Change → Device
  | .text c v => { d with profile := d.profile.set c v }
  | .flag f (some v) => d.setFlag f v
  | .flag _ none => d

/-- Whether a change would empty a flag. -/
def empties (f : Flag) : Change → Bool
  | .flag g none => f == g
  | _ => false

/-- The integer that a change carries. -/
def integer? : Change → Option Int
  | .flag _ v => v
  | .text _ _ => none

/-- The changes that fill the columns a profile fills. -/
def ofProfile (p : Profile) : List Change :=
  TextColumn.all.filterMap fun c => (p.get c).map fun v => .text c (some v)

/-- The changes that take a device to a state: its name, and the flag that goes with it. -/
def ofState (target : DeviceState) : List Change :=
  [.text .state (some target.name),
    .flag .stolen (some (flagValue (target == .stolen))),
    .flag .faulty (some (flagValue (target == .faulty)))]

end Change

/-- The device with several columns changed in order. -/
def Device.change (d : Device) (changes : List Change) : Device :=
  changes.foldl Change.apply d

/-- A value that a column has to have. -/
abbrev Wanted := Column × Cell

/-- A device has the wanted values; nothing has the value null. -/
def Device.has (d : Device) (wanted : List Wanted) : Bool :=
  wanted.all fun (c, v) => v != .null && d.cell c == v

namespace Store

/-- The row that a new device with a profile gets. -/
def newDevice (now : String) (p : Profile) (id : Int) : Device :=
  { id := id
    profile := { p with
      state := some DeviceState.provisioned.name
      createdDate := some ((Text.filled? p.createdDate).getD now) } }

/-- Inserts a device and gives its row. -/
def insertDevice (now : String) (p : Profile) (s : Store) : Except Violation (Device × Store) := do
  let d := newDevice now p s.devices.nextId
  s.accept d
  return (d, { s with devices := s.devices.append (newDevice now p) })

/-- The first device with an IMEI. -/
def deviceByImei? (s : Store) (imei : String) : Option Device :=
  s.firstDevice? fun d => d.profile.imei == some imei

/-- The device with an id if it has an IMEI too. -/
def deviceByIdAndImei? (s : Store) (id : Int) (imei : String) : Option Device :=
  s.firstDevice? fun d => d.id == id && d.profile.imei == some imei

/-- The first device that has all wanted values; none if nothing is wanted. -/
def deviceWith? (s : Store) (wanted : List Wanted) : Option Device :=
  if wanted.isEmpty then none else s.firstDevice? fun d => d.has wanted

/-- The values of an IMEI and a serial number, each of them if filled. -/
def identifierValues (imei serialNumber : Option String) : List Wanted :=
  ((Text.filled? imei).map fun s => (Column.text .imei, Cell.text s)).toList ++
    ((Text.filled? serialNumber).map fun s => (Column.text .serialNumber, Cell.text s)).toList

/-- Whether a device has a serial number. -/
def hasSerialNumber (s : Store) (serialNumber : String) : Bool :=
  s.devices.rows.any fun d => d.profile.serialNumber == some serialNumber

/-- Changes columns of the device with an id and gives the number of rows concerned. -/
def updateDevice (id : Int) (changes : List Change) (s : Store) : Except Violation (Nat × Store) :=
  match s.device? id with
  | none => .ok (0, s)
  | some d => do
    if changes.isEmpty then return (0, s)
    let changed := d.change changes
    match missingColumn? changed, Flag.all.find? fun f => changes.any (Change.empties f) with
    | none, some f => throw (.missing .devices f.name)
    | _, _ =>
      s.accept changed
      return (1, { s with devices := s.devices.mapWhere (·.id == id) fun _ => changed })

/-- Whether a device may be deleted: provisioned, and marked neither stolen nor faulty. -/
def deletable (d : Device) : Bool :=
  d.profile.state == some DeviceState.provisioned.name && d.stolen == 0 && d.faulty == 0

/-- Deletes the device with an id if it may be deleted, and gives the number of rows deleted. -/
def deleteDevice (id : Int) (s : Store) : Except Violation (Nat × Store) :=
  match s.device? id with
  | none => .ok (0, s)
  | some d =>
    if !deletable d then .ok (0, s)
    else if s.associations.rows.any (·.device == id) then .error .reference
    else
      .ok (1, { s with
        devices := s.devices.removeWhere (·.id == id)
        vins := s.vins.removeWhere (·.device == id) })

end Store

end DeviceRegistry
