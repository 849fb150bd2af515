import DeviceRegistry.Device.Identifier
import DeviceRegistry.Device.Request
import DeviceRegistry.Listing.Query
import DeviceRegistry.Listing.StateCount
import DeviceRegistry.Store.Associations
import DeviceRegistry.Store.Vins

/-!
# Listings

The reading side of the service: devices by a query, the history of an IMEI, devices by one
identifier together with their vehicle and head unit, and devices by exact values. A listing never
changes the store.
-/

namespace DeviceRegistry

/-- A page of devices. The count is given instead of the devices if no details are asked for. -/
structure DevicePage where
  items : List DeviceRecord := []
  total : Nat
  page : Nat
  size : Nat
  stateCount : StateCount
  count : Option Nat := none
  deriving DecidableEq, Repr, Inhabited

/-- A page of history entries. -/
structure HistoryPage where
  items : List HistoryEntry := []
  total : Nat
  page : Nat
  size : Nat
  deriving DecidableEq, Repr, Inhabited

/-- What a page and a sorting are asked for with. -/
structure PageRequest where
  page : Option String := none
  size : Option String := none
  sortBy : Option String := none
  order : Option String := none
  deriving DecidableEq, Repr, Inhabited

namespace Listing

/-! ## By a query -/

/-- The devices that meet all conditions of a query. -/
def matching (q : Query) (s : Store) : List Device :=
  s.devices.rows.filter (·.meets q.conditions)

/-- Refuses a query with filters that nothing matches. -/
def checkFound (q : Query) (found : List Device) : Check := do
  require (!found.isEmpty || q.contains.isEmpty)
    (.noMatch .containsLike (q.contains.map (·.value)))
  require (!found.isEmpty || q.ranges.isEmpty) (.noMatch .range (q.ranges.map (·.value)))

/-- The page of devices that a query asks for. -/
def page (q : Query) (found : List Device) : DevicePage :=
  let shown := q.details && !found.isEmpty
  { items :=
      if shown then (slice q.page q.size (q.sorting.sort Device.cell found)).map (·.record) else []
    total := found.length
    page := q.page
    size := q.size
    stateCount := StateCount.ofStates (found.map (·.profile.state))
    count := if shown then none else some found.length }

/-- The largest number of conditions of a statement. -/
def maxConditions : Nat := 999

/-- Refuses conditions beyond the limits of a statement: too many of them, or a pattern too large
that is to be matched with a device. -/
def checkConditions (conditions : List Condition) (s : Store) : Except Failure Unit :=
  if maxConditions < conditions.length then .error (.storage (.limit .conditions))
  else if s.devices.rows.any (·.meetsOverlong conditions) then .error (.storage (.limit .pattern))
  else .ok ()

/-- Devices by a query. -/
def devices (params : Params) (s : Store) : Except Failure DevicePage := do
  let q ← Query.ofRequest params
  checkConditions q.conditions s
  let found := matching q s
  checked (checkFound q found)
  return page q found

/-! ## The history of an IMEI -/

/-- The history entries of an IMEI. -/
def history (imei : Option String) (r : PageRequest) (s : Store) : Except Failure HistoryPage := do
  match Text.filled? imei with
  | none => throw (.rejected .historyImeiMissing)
  | some wanted =>
    checked (Identifier.checkImei imei)
    checked (checkHistorySorting r.sortBy r.order)
    let page ← resolvePage r.page
    let size ← resolveSize r.size
    let found := s.history.rows.filter fun h => h.profile.imei == some wanted
    checked (require (!found.isEmpty) (.historyNotFound wanted))
    let sorting := Sorting.ofRequest historySortFields r.sortBy r.order
    return { items := (slice page size (sorting.sort HistoryRow.cell found)).map (·.entry),
             total := found.length, page := page, size := size }

/-! ## By one identifier -/

/-- A device with its vehicle, and with a head unit if it was selected by one. -/
structure DetailRow where
  device : Device
  vin : Option String
  headUnit : Option String
  deriving DecidableEq, Repr, Inhabited

/-- What a column of a detail row holds. -/
def DetailRow.cell (r : DetailRow) : Column → Cell
  | .headUnit => .ofText? r.headUnit
  | c => r.device.cell c

/-- The record of a detail row. -/
def DetailRow.record (r : DetailRow) : DeviceRecord :=
  { r.device.record with vin := r.vin, headUnit := r.headUnit }

/-- Every device with its vehicle. -/
def deviceRows (s : Store) : List DetailRow :=
  s.devices.rows.map fun d => { device := d, vin := s.vin? d.id, headUnit := none }

/-- Every device with its vehicle, once for each associated head unit. -/
def headUnitRows (s : Store) : List DetailRow :=
  s.devices.rows.flatMap fun d =>
    (s.associations.rows.filter fun a => a.device == d.id).map fun a =>
      { device := d, vin := s.vin? d.id, headUnit := a.headUnit }

/-- Whether a row has an identifier. -/
def DetailRow.hasIdentifier (r : DetailRow) : IdentifierKind × String → Bool
  | (.imei, v) => r.device.profile.imei == some v
  | (.serialNumber, v) => r.device.profile.serialNumber == some v
  | (.deviceId, v) => r.headUnit == some v
  | (.vin, v) => r.vin == some v
  | (.state, v) => r.device.profile.state == some v

/-- The rows that an identifier selects; all devices if there is none. -/
def detailRows (given : Option (IdentifierKind × String)) (s : Store) : List DetailRow :=
  match given with
  | none => deviceRows s
  | some (.deviceId, v) => (headUnitRows s).filter (·.hasIdentifier (.deviceId, v))
  | some identifier => (deviceRows s).filter (·.hasIdentifier identifier)

/-- Whether a selection is by head unit. -/
def byHeadUnit (given : Option (IdentifierKind × String)) : Bool :=
  given.any fun g => g.1 == .deviceId

/-- Devices by at most one identifier. -/
def details (selection : Selection) (r : PageRequest) (s : Store) : Except Failure DevicePage := do
  let given ← checked selection.single
  checked (checkDetailsSorting (byHeadUnit given) r.sortBy r.order)
  let page ← resolvePage r.page
  let size ← resolveSize r.size
  let found := detailRows given s
  checked (require (given.isNone || !found.isEmpty) .detailsNotFound)
  let sorting := Sorting.ofRequest (sortFieldsFor (byHeadUnit given)) r.sortBy r.order
  return { items := (slice page size (sorting.sort DetailRow.cell found)).map (·.record),
           total := found.length, page := page, size := size,
           stateCount := StateCount.ofStates (found.map (·.device.profile.state)) }

/-! ## By exact values -/

/-- The columns that a filter restricts. -/
def restricted (f : DeviceFilter) : List TextColumn :=
  filterColumns.filter fun c => !(f.allowed c).isEmpty

/-- The values of a restricted column, one of which a device has to have. -/
abbrev Allowed := TextColumn × List String

/-- The largest number of values in a statement. -/
def maxValues : Nat := 32766

/-- The restricted columns with their values, as a statement takes them. -/
def bindAllowed (f : DeviceFilter) : Except Failure (List Allowed) := do
  let columns := restricted f
  if maxValues < (columns.flatMap f.allowed).length then throw (.storage (.limit .values))
  columns.mapM fun c => return (c, ← (f.allowed c).mapM Store.bindText)

/-- Whether a device has one of the allowed values in every restricted column. -/
def satisfies (allowed : List Allowed) (d : Device) : Bool :=
  allowed.all fun (c, values) => (d.profile.get c).any values.contains

/-- Devices by exact values. -/
def exactly (f : DeviceFilter) (s : Store) : Except Failure (List DeviceRecord) := do
  checked ((f.allowed .imei).forM fun v => Identifier.checkImei (some v.shown))
  checked ((f.allowed .serialNumber).forM fun v => Identifier.checkSerialNumber (some v.shown))
  checked (require (!(restricted f).isEmpty) .filterEmpty)
  let allowed ← bindAllowed f
  let found := s.devices.rows.filter (satisfies allowed)
  checked (require (!found.isEmpty) .filterNotFound)
  return found.map (·.record)

end Listing

end DeviceRegistry
