import DeviceRegistry.Device.State

/-!
# Kinds of problems

Every request that the service refuses gets a problem: its kind, a code, a message and for some
kinds a detail. The kinds form a family: `lineage` lists a kind and the wider kinds that it belongs
to, nearest first. Each kind has a code of its own, used where no other one is given, and the HTTP
status of its answers.
-/

namespace DeviceRegistry

/-- The kinds of problems. -/
inductive ProblemKind where
  | service
  | validation
  | missingAttribute
  | invalidIdentifier
  | invalidDate
  | pageParameter
  | sizeParameter
  | invalidSort
  | businessRule
  | notFound
  | noMatch
  | invalidFilter
  | deviceState
  | invalidState
  | invalidTransition
  | delete
  | update
  | vehicleSync
  | vehicleSyncDelete
  | vehicleSyncUpdate
  deriving DecidableEq, Repr, Inhabited

namespace ProblemKind

/-- All kinds. -/
def all : List ProblemKind :=
  [service, validation, missingAttribute, invalidIdentifier, invalidDate, pageParameter,
    sizeParameter, invalidSort, businessRule, notFound, noMatch, invalidFilter, deviceState,
    invalidState, invalidTransition, delete, update, vehicleSync, vehicleSyncDelete,
    vehicleSyncUpdate]

/-- A kind and the wider kinds that it belongs to. -/
def lineage : ProblemKind → List ProblemKind
  | service => [service]
  | validation => [validation, service]
  | missingAttribute => [missingAttribute, validation, service]
  | invalidIdentifier => [invalidIdentifier, validation, service]
  | invalidDate => [invalidDate, validation, service]
  | pageParameter => [pageParameter, validation, service]
  | sizeParameter => [sizeParameter, validation, service]
  | invalidSort => [invalidSort, validation, service]
  | businessRule => [businessRule, validation, service]
  | notFound => [notFound, service]
  | noMatch => [noMatch, notFound, service]
  | invalidFilter => [invalidFilter, validation, notFound, service]
  | deviceState => [deviceState, service]
  | invalidState => [invalidState, deviceState, service]
  | invalidTransition => [invalidTransition, deviceState, service]
  | delete => [delete, service]
  | update => [update, service]
  | vehicleSync => [vehicleSync, service]
  | vehicleSyncDelete => [vehicleSyncDelete, delete, vehicleSync, service]
  | vehicleSyncUpdate => [vehicleSyncUpdate, update, vehicleSync, service]

/-- The code of a problem that has none of its own. -/
def defaultCode : ProblemKind → String
  | service => "dfd-777"
  | validation => "dfd-032"
  | missingAttribute => "dfd-042"
  | invalidIdentifier => "dfd-006"
  | invalidDate => "dfd-063"
  | pageParameter => "dfd-015"
  | sizeParameter => "dfd-016"
  | invalidSort => "dfd-021"
  | businessRule => "dfd-032"
  | notFound => "dfd-037"
  | noMatch => "dfd-00067"
  | invalidFilter => "dfd-023"
  | deviceState => "dfd-036"
  | invalidState => "dfd-036"
  | invalidTransition => "dfd-036"
  | delete => "dfd-046"
  | update => "dfd-00069"
  | vehicleSync => "dfd-054"
  | vehicleSyncDelete => "dfd-057"
  | vehicleSyncUpdate => "dfd-058"

/-- The HTTP status of the answers. -/
def status : ProblemKind → Nat
  | service => 500
  | validation => 400
  | missingAttribute => 400
  | invalidIdentifier => 400
  | invalidDate => 400
  | pageParameter => 400
  | sizeParameter => 400
  | invalidSort => 400
  | businessRule => 400
  | notFound => 404
  | noMatch => 404
  | invalidFilter => 404
  | deviceState => 400
  | invalidState => 400
  | invalidTransition => 400
  | delete => 412
  | update => 500
  | vehicleSync => 502
  | vehicleSyncDelete => 502
  | vehicleSyncUpdate => 502

end ProblemKind

/-- Which filters of a listing matched nothing. -/
inductive FilterFamily where
  | containsLike
  | range
  deriving DecidableEq, Repr, Inhabited

/-- The name of a filter family. -/
def FilterFamily.name : FilterFamily → String
  | .containsLike => "contains_like"
  | .range => "range"

/-- How a problem names a device: by its id, by another name, or not at all. -/
inductive DeviceLabel where
  | id (id : Int)
  | name (text : String)
  | unnamed
  deriving DecidableEq, Repr, Inhabited

instance : Coe Int DeviceLabel := ⟨.id⟩

/-- The words of a label. -/
def DeviceLabel.text : DeviceLabel → String
  | .id n => toString n
  | .name s => s
  | .unnamed => "None"

/-- What a problem says beside its message. -/
inductive Detail where
  | none
  | general (message : String)
  | filters (family : FilterFamily)
  | transition (device : DeviceLabel) (current target : Option DeviceState)
  | exchange (endpoint : String) (status : Option Int)
  deriving DecidableEq, Repr, Inhabited

/-- A problem as it is reported. -/
structure Problem where
  kind : ProblemKind
  code : String
  message : String
  detail : Detail
  deriving DecidableEq, Repr, Inhabited

namespace Problem

/-- The general message of a broken rule that has none of its own. -/
def generalMessage : String := "Validation failed"

/-- A problem with the kind's own code if the given one is empty. -/
def report (kind : ProblemKind) (code message : String) (detail : Detail) : Problem :=
  { kind := kind, code := if code.isEmpty then kind.defaultCode else code, message := message,
    detail := detail }

/-- A problem without a detail. -/
def plain (kind : ProblemKind) (code message : String) : Problem :=
  report kind code message .none

/-- The HTTP status of the answer. -/
def status (p : Problem) : Nat :=
  p.kind.status

end Problem

end DeviceRegistry
