import DeviceRegistry.Decimal.Binary64
import DeviceRegistry.Vehicle.Network

/-!
# Sessions

Every request but the login carries the id of a session. The session of the last login serves until
its time is up; then the next request logs in again. A login that fails leaves the session as it
was. The clock counts seconds in double precision, so the age of a session is rounded twice.
-/

namespace DeviceRegistry

open Calendar Decimal

/-- The seconds of a point in time, as the clock holds them: a quotient. -/
def clockSeconds (t : Instant) : Int × Nat :=
  Binary64.nearest t.millis 1000

/-- The age of a session in seconds, as the clock's times give it: a quotient. -/
def Session.age (session : Session) (now : Instant) : Int × Nat :=
  let t := clockSeconds now
  let since := clockSeconds session.since
  Binary64.nearest (t.1 * since.2 - since.1 * t.2) (t.2 * since.2)

/-- A quotient is less than a number. -/
def isBelow (quotient : Int × Nat) : Json.Number → Bool
  | .int n => decide (quotient.1 < n * quotient.2)
  | .decimal negative digits exponent =>
    match Binary64.ofDecimal? digits exponent with
    | some x =>
      let size : Int := x.ratio.1
      decide (quotient.1 * x.ratio.2 < (if negative then -size else size) * quotient.2)
    | none => !negative
  | .infinite negative => !negative
  | .undefined => false

example : isBelow (1, 2) (.decimal false 5 (-1)) = false := by decide +kernel

/-- A session is younger than a number of seconds. -/
def Session.serves (session : Session) (now : Instant) (seconds : Json.Number) : Bool :=
  isBelow (session.age now) seconds

namespace Network

/-- The id of the open session while its time is not up. -/
def openSession? (net : Network) : Exchange (Option Json) := do
  match (← get).session, net.service.sessionSeconds with
  | some session, some seconds =>
    return if session.serves net.now seconds then some session.id else none
  | some _, none => Exchange.reject .lifetimeNotNumber
  | none, _ => return none

/-- What a login sends. -/
def credentials (service : VehicleService) : Json :=
  .ofMembers [("userName", service.username), ("password", service.password),
    ("domain", service.domain)]

/-- The id of the open session, or of a new one. -/
def login (net : Network) : Exchange Json := do
  match ← net.openSession? with
  | some id => return id
  | none =>
    let (status, body) ← net.send { endpoint := .login, body := some (credentials net.service) }
    if status ≠ 200 then Exchange.fail (.loginRefused (net.path .login) status)
    let id ← member "sessionId" (← net.read .login status body)
    if id.isEmpty then Exchange.fail (.noSession (net.path .login))
    modify fun link => { link with session := some { id := id, since := net.now } }
    return id

/-- The id of the session as a request carries it: a text of ASCII characters. -/
def sessionHeader (net : Network) : Exchange String := do
  match ← net.login with
  | .str t =>
    match t.string?.filter fun s => s.toList.all (·.toNat < 0x80) with
    | some s => return s
    | none => Exchange.reject .sessionNotAscii
  | _ => Exchange.reject .sessionNotText

end Network

end DeviceRegistry
