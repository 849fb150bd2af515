import DeviceRegistry.Store.Associations
import DeviceRegistry.Store.Devices
import DeviceRegistry.Store.History
import DeviceRegistry.Store.Vins
import DeviceRegistry.Vehicle.Vehicles

/-!
# Operations

An operation changes the registry: the store, and the link to the vehicle service. What it does to
the store comes in transactions, each of which happens completely or not at all; a dialogue with the
vehicle service happens between transactions and never undoes one.
-/

namespace DeviceRegistry

open Calendar

/-- The store and the link to the vehicle service. -/
structure Registry where
  store : Store := {}
  link : Link := {}
  deriving Inhabited

/-- What is given while an operation runs: the settings, the replies and the time. A batch is given
one for each of its records. -/
structure Environment where
  settings : Settings
  script : Script
  now : Instant

/-- The vehicle service of an environment. -/
def Environment.network (env : Environment) : Network :=
  { service := env.settings.vehicleService, script := env.script, now := env.now }

/-- The timestamp of the present, which has to lie in the years of a timestamp. -/
def timestamp (now : Instant) : Except Failure Stamp :=
  match now.stamp? with
  | some stamp => .ok stamp
  | none => .error .clockOutOfYears

/-- A change of the registry that gives a result or fails; a failure keeps what happened before. -/
abbrev Operation := ExceptT Failure (StateM Registry)

namespace Operation

/-- A transaction: on a failure the store stays as it was. -/
def transact {α : Type} (f : Store → Except Failure (α × Store)) : Operation α := do
  match f (← get).store with
  | .ok (a, store) =>
    modify fun r => { r with store := store }
    return a
  | .error failure => throw failure

/-- A dialogue with the vehicle service. An expected failure is a result; a fault ends the
operation. -/
def converse {α : Type} (dialogue : Exchange α) : Operation (Except SyncFailure α) := do
  let (outcome, link) := (dialogue.run (← get).link).run
  modify fun r => { r with link := link }
  match outcome with
  | .ok a => return .ok a
  | .error (.sync cause) => return .error cause
  | .error (.fault fault) => throw (.exchange fault)

end Operation

end DeviceRegistry
