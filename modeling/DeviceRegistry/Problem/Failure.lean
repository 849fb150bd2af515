import DeviceRegistry.Problem.Rejection

/-!
# Failures

How an operation ends without a result. A rejection is reported to the client in its own words. The
other failures are of the machinery: the storage refuses a statement, a number is written with too
many digits, the clock has left the years of a timestamp, or the dialogue with the vehicle service
breaks off.
-/

namespace DeviceRegistry

/-- The tables of the storage. -/
inductive TableName where
  | devices
  | history
  | vins
  | associations
  deriving DecidableEq, Repr, Inhabited

/-- The stored name of a table. -/
def TableName.name : TableName → String
  | .devices => "device_factory_data"
  | .history => "device_factory_data_history"
  | .vins => "vin_details"
  | .associations => "device_association"

/-- The constraints that a statement may break. -/
inductive Violation where
  | missing (table : TableName) (column : String)
  | duplicate (table : TableName) (column : String)
  | reference
  deriving DecidableEq, Repr, Inhabited

/-- The words of a broken constraint. -/
def Violation.message : Violation → String
  | .missing table column => "NOT NULL constraint failed: " ++ table.name ++ "." ++ column
  | .duplicate table column => "UNIQUE constraint failed: " ++ table.name ++ "." ++ column
  | .reference => "FOREIGN KEY constraint failed"

/-- The limits that the storage sets to a statement. -/
inductive StatementLimit where
  | conditions
  | pattern
  | values
  deriving DecidableEq, Repr, Inhabited

/-- The words of an exceeded limit. -/
def StatementLimit.message : StatementLimit → String
  | .conditions => "Expression tree is too large (maximum depth 1000)"
  | .pattern => "LIKE or GLOB pattern too complex"
  | .values => "too many SQL variables"

/-- Why the storage refuses a statement: it breaks a constraint, exceeds a limit or makes an index
under a name that is taken, or one of its values is an integer too large or a text that is not
whole. -/
inductive StorageFault where
  | violation (constraint : Violation)
  | limit (exceeded : StatementLimit)
  | indexExists (index : String)
  | integerOverflow
  | brokenText
  deriving DecidableEq, Repr, Inhabited

/-- How an operation fails. -/
inductive Failure where
  | rejected (cause : Rejection)
  | storage (fault : StorageFault)
  | tooManyDigits
  | clockOutOfYears
  | exchange (fault : ExchangeFault)
  deriving DecidableEq, Repr, Inhabited

/-- A refusal as a failure. -/
def checked {α : Type} (r : Except Rejection α) : Except Failure α :=
  r.mapError .rejected

/-- A broken constraint as a failure. -/
def stored {α : Type} (r : Except Violation α) : Except Failure α :=
  r.mapError fun v => .storage (.violation v)

/-- A broken constraint as a refusal for a cause. -/
def storedOr {α : Type} (cause : Rejection) (r : Except Violation α) : Except Failure α :=
  r.mapError fun _ => .rejected cause

/-- A check of a request value. -/
abbrev Check := Except Rejection Unit

/-- Refuses unless a condition holds. -/
def require (condition : Bool) (cause : Rejection) : Check :=
  if condition then .ok () else .error cause

theorem checked_eq_ok {α : Type} {r : Except Rejection α} {a : α} :
    checked r = .ok a ↔ r = .ok a := by
  cases r with
  | error e => exact ⟨nofun, nofun⟩
  | ok b => exact ⟨fun h => congrArg _ (Except.ok.inj h), fun h => congrArg _ (Except.ok.inj h)⟩

theorem stored_eq_ok {α : Type} {r : Except Violation α} {a : α} :
    stored r = .ok a ↔ r = .ok a := by
  cases r with
  | error e => exact ⟨nofun, nofun⟩
  | ok b => exact ⟨fun h => congrArg _ (Except.ok.inj h), fun h => congrArg _ (Except.ok.inj h)⟩

theorem storedOr_eq_ok {α : Type} {cause : Rejection} {r : Except Violation α} {a : α} :
    storedOr cause r = .ok a ↔ r = .ok a := by
  cases r with
  | error e => exact ⟨nofun, nofun⟩
  | ok b => exact ⟨fun h => congrArg _ (Except.ok.inj h), fun h => congrArg _ (Except.ok.inj h)⟩

theorem require_eq_ok {condition : Bool} {cause : Rejection} :
    require condition cause = .ok () ↔ condition = true := by
  unfold require
  split <;> simp_all

end DeviceRegistry
