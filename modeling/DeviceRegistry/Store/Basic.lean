import DeviceRegistry.Device.Record
import DeviceRegistry.Problem.Failure
import DeviceRegistry.Store.Table
import DeviceRegistry.Text.Word

/-!
# The store

The four tables of the service: devices, their history, the vehicle identification numbers of
devices and the head units associated with them. A statement is a function of the store that gives
the changed store or the constraint that it breaks, so a statement that fails changes nothing.
-/

namespace DeviceRegistry

/-- The vehicle identification number of a device. -/
structure VinRow where
  id : Int
  vin : String
  device : Int
  deriving DecidableEq, Repr, Inhabited

/-- A head unit associated with a device. -/
structure Association where
  id : Int
  device : Int
  headUnit : Option String
  deriving DecidableEq, Repr, Inhabited

/-- An index that keeps a column of the devices unique. -/
structure UniqueIndex where
  name : String
  column : Column
  deriving DecidableEq, Repr, Inhabited

/-- The tables, and the unique indexes of the devices, the latest first. -/
structure Store where
  devices : Table Device := {}
  history : Table HistoryRow := {}
  vins : Table VinRow := {}
  associations : Table Association := {}
  uniqueIndexes : List UniqueIndex := []
  deriving DecidableEq, Repr, Inhabited

namespace Store

/-- The largest integer that a statement can take. -/
def maxInteger : Int := 9223372036854775807

/-- Refuses an integer that a statement cannot take. -/
def bindable (n : Int) : Except Failure Unit :=
  if -maxInteger - 1 ≤ n ∧ n ≤ maxInteger then .ok () else .error (.storage .integerOverflow)

/-- A text as a statement takes it. -/
def bindText (t : RawText) : Except Failure String :=
  match t with
  | .whole s => .ok s
  | .broken _ => .error (.storage .brokenText)

/-- A text or null as a statement takes it. -/
def bindText? (value : Option RawText) : Except Failure (Option String) :=
  match value with
  | some t => (bindText t).map some
  | none => .ok none

/-- The text columns as a statement takes them. -/
def bindProfile (p : RawProfile) : Except Failure Profile :=
  if p.isWhole then .ok p.shown else .error (.storage .brokenText)

/-- The device with an id. -/
def device? (s : Store) (id : Int) : Option Device :=
  s.devices.rows.find? fun d => d.id == id

/-- The first device that satisfies a condition. -/
def firstDevice? (s : Store) (which : Device → Bool) : Option Device :=
  s.devices.rows.find? which

/-- Whether another device has the value of a device in a column; nothing has the value null. -/
def shares (s : Store) (c : Column) (d : Device) : Bool :=
  d.cell c != .null && s.devices.rows.any fun e => e.id != d.id && e.cell c == d.cell c

/-- A column that a device would have in common with another one although it is unique. -/
def sharedColumn? (s : Store) (d : Device) : Option Column :=
  (s.uniqueIndexes.map (·.column)).find? fun c => s.shares c d

/-- A required column that a device leaves empty, the first in the order of the table. -/
def missingColumn? (d : Device) : Option TextColumn :=
  TextColumn.required.find? fun c => (d.profile.get c).isNone

/-- Refuses a device that leaves a required column empty or shares a unique one. -/
def accept (s : Store) (d : Device) : Except Violation Unit :=
  match missingColumn? d with
  | some c => .error (.missing .devices c.name)
  | none =>
    match s.sharedColumn? d with
    | some c => .error (.duplicate .devices c.name)
    | none => .ok ()

/-- Keeps a column unique from now on, by an index under a name that none has yet in any case. Two
devices must not have the column in common already. -/
def declareUnique (name : String) (c : Column) (s : Store) : Except StorageFault Store :=
  if s.uniqueIndexes.any fun index => Text.sameWord name index.name then .error (.indexExists name)
  else if s.devices.rows.any (s.shares c) then .error (.violation (.duplicate .devices c.name))
  else .ok { s with uniqueIndexes := { name := name, column := c } :: s.uniqueIndexes }

/-- The numbers of rows of the four tables. -/
def rowCounts (s : Store) : List Nat :=
  [s.devices.rows.length, s.history.rows.length, s.vins.rows.length, s.associations.rows.length]

end Store

end DeviceRegistry
