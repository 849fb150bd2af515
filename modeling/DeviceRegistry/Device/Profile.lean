import DeviceRegistry.Device.Column
import DeviceRegistry.Text.Raw

/-!
# Profiles

The text columns of a device as one value, each of them possibly null. A request gives raw texts for
them, and null means that it says nothing about a column; what is stored is whole. `get` and `set`
reach a column by name, and the columns determine the value (`ext_get`).
-/

namespace DeviceRegistry

/-- A value or null for each text column of a device. -/
structure Columns (α : Type) where
  manufacturingDate : Option α := none
  model : Option α := none
  imei : Option α := none
  serialNumber : Option α := none
  platformVersion : Option α := none
  iccid : Option α := none
  ssid : Option α := none
  bssid : Option α := none
  msisdn : Option α := none
  imsi : Option α := none
  recordDate : Option α := none
  factoryAdmin : Option α := none
  createdDate : Option α := none
  state : Option α := none
  packageSerialNumber : Option α := none
  deviceType : Option α := none
  deriving DecidableEq, Repr, Inhabited

/-- The text columns of a stored device. -/
abbrev Profile := Columns String

/-- The text columns as a request gives them. -/
abbrev RawProfile := Columns RawText

namespace Columns

variable {α β : Type}

/-- Null for every column. -/
def empty : Columns α := {}

/-- The value of a column. -/
def get (p : Columns α) : TextColumn → Option α
  | .manufacturingDate => p.manufacturingDate
  | .model => p.model
  | .imei => p.imei
  | .serialNumber => p.serialNumber
  | .platformVersion => p.platformVersion
  | .iccid => p.iccid
  | .ssid => p.ssid
  | .bssid => p.bssid
  | .msisdn => p.msisdn
  | .imsi => p.imsi
  | .recordDate => p.recordDate
  | .factoryAdmin => p.factoryAdmin
  | .createdDate => p.createdDate
  | .state => p.state
  | .packageSerialNumber => p.packageSerialNumber
  | .deviceType => p.deviceType

/-- The columns with one replaced. -/
def set (p : Columns α) (c : TextColumn) (v : Option α) : Columns α :=
  match c with
  | .manufacturingDate => { p with manufacturingDate := v }
  | .model => { p with model := v }
  | .imei => { p with imei := v }
  | .serialNumber => { p with serialNumber := v }
  | .platformVersion => { p with platformVersion := v }
  | .iccid => { p with iccid := v }
  | .ssid => { p with ssid := v }
  | .bssid => { p with bssid := v }
  | .msisdn => { p with msisdn := v }
  | .imsi => { p with imsi := v }
  | .recordDate => { p with recordDate := v }
  | .factoryAdmin => { p with factoryAdmin := v }
  | .createdDate => { p with createdDate := v }
  | .state => { p with state := v }
  | .packageSerialNumber => { p with packageSerialNumber := v }
  | .deviceType => { p with deviceType := v }

@[simp] theorem get_set_self (p : Columns α) (c : TextColumn) (v : Option α) :
    (p.set c v).get c = v := by
  cases c <;> rfl

@[simp] theorem get_set_of_ne (p : Columns α) {c d : TextColumn} (v : Option α) (h : d ≠ c) :
    (p.set c v).get d = p.get d := by
  cases c <;> cases d <;> first | rfl | exact absurd rfl h

/-- Equal columns make equal values. -/
theorem ext_get {p q : Columns α} (h : ∀ c, p.get c = q.get c) : p = q := by
  cases p
  cases q
  simp only [mk.injEq]
  exact ⟨h .manufacturingDate, h .model, h .imei, h .serialNumber, h .platformVersion, h .iccid,
    h .ssid, h .bssid, h .msisdn, h .imsi, h .recordDate, h .factoryAdmin, h .createdDate,
    h .state, h .packageSerialNumber, h .deviceType⟩

/-- The value whose columns are given one by one. -/
def ofColumns (f : TextColumn → Option α) : Columns α :=
  { manufacturingDate := f .manufacturingDate
    model := f .model
    imei := f .imei
    serialNumber := f .serialNumber
    platformVersion := f .platformVersion
    iccid := f .iccid
    ssid := f .ssid
    bssid := f .bssid
    msisdn := f .msisdn
    imsi := f .imsi
    recordDate := f .recordDate
    factoryAdmin := f .factoryAdmin
    createdDate := f .createdDate
    state := f .state
    packageSerialNumber := f .packageSerialNumber
    deviceType := f .deviceType }

@[simp] theorem get_ofColumns (f : TextColumn → Option α) (c : TextColumn) :
    (ofColumns f).get c = f c := by
  cases c <;> rfl

/-- The value with all columns but the listed ones null. -/
def only (columns : List TextColumn) (p : Columns α) : Columns α :=
  ofColumns fun c => if columns.contains c then p.get c else none

/-- A function applied to every column that is not null. -/
def map (f : α → β) (p : Columns α) : Columns β :=
  ofColumns fun c => (p.get c).map f

@[simp] theorem get_map (f : α → β) (p : Columns α) (c : TextColumn) :
    (p.map f).get c = (p.get c).map f := by
  simp [map]

end Columns

namespace RawProfile

/-- The texts as they are shown. -/
def shown (p : RawProfile) : Profile :=
  p.map RawText.shown

/-- Every text is whole. -/
def isWhole (p : RawProfile) : Bool :=
  TextColumn.all.all fun c => (p.get c).all RawText.isWhole

end RawProfile

end DeviceRegistry
