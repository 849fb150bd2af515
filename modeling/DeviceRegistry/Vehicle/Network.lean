import DeviceRegistry.Calendar.Stamp
import DeviceRegistry.Json.Encoding
import DeviceRegistry.Settings
import DeviceRegistry.Vehicle.Failure

/-!
# The wire to the vehicle service

What the vehicle service is sent and what it replies. How it replies is given by call, and may be
anything: any status, any body, or no reply at all. It may change with time: the commands of a run
and the records of a batch come each with replies of their own. A link holds the session that was
opened last and every request sent so far.
-/

namespace DeviceRegistry

open Calendar

/-- The body of a reply: a value, or a text that may be one. -/
inductive ReplyBody where
  | json (value : Json)
  | text (content : String)
  deriving Inhabited

/-- The value of a body, if it is one. -/
def ReplyBody.value : ReplyBody → Except Json.DecodeError Json
  | .json v => .ok v
  | .text s => Json.decode s

/-- What comes back of a request. -/
inductive Reply where
  | answer (status : Int) (body : ReplyBody)
  | broken (text : String)
  deriving Inhabited

/-- The reply to a call that is not known. -/
def Reply.notFound : Reply := .answer 404 (.text "")

/-- How the vehicle service replies to each call at one time. -/
abbrev Script := Endpoint → Reply

/-- The vehicle service that knows none of the calls. -/
def Script.silent : Script := fun _ => .notFound

/-- A request to the vehicle service. -/
structure VehicleRequest where
  endpoint : Endpoint
  query : List (String × String) := []
  session : Option String := none
  body : Option Json := none
  deriving Inhabited

/-- An open session: its id, as the login gave it, and the time of the login. -/
structure Session where
  id : Json
  since : Instant
  deriving Inhabited

/-- The session opened last, and the requests sent so far. -/
structure Link where
  session : Option Session := none
  sent : List VehicleRequest := []
  deriving Inhabited

/-- The vehicle service as it is while an operation runs. -/
structure Network where
  service : VehicleService
  script : Script
  now : Instant

/-- A dialogue with the vehicle service. -/
abbrev Exchange := ExceptT ExchangeFailure (StateM Link)

namespace Exchange

/-- Ends the dialogue with an expected failure. -/
def fail {α : Type} (cause : SyncFailure) : Exchange α :=
  throw (.sync cause)

/-- Breaks the dialogue off. -/
def reject {α : Type} (fault : ExchangeFault) : Exchange α :=
  throw (.fault fault)

end Exchange

namespace Network

/-- The path of a call as a failure names it. -/
def path (net : Network) (e : Endpoint) : String :=
  ((net.service.path? e).map (·.shown)).getD ""

/-- Breaks off over a target or a query to which nothing can be sent. -/
def checkTarget (net : Network) (r : VehicleRequest) : Exchange Unit := do
  match net.service.path? r.endpoint with
  | none => Exchange.reject .pathNotText
  | some path => (Http.targetFault? path).forM fun fault => Exchange.reject (.target fault)
  let query := r.query.map fun (name, value) => (RawText.whole name, RawText.whole value)
  (Http.queryFault? query).forM fun fault => Exchange.reject (.target fault)

/-- How the vehicle service replies to a call; one that it does not know is not found. -/
def replyTo (net : Network) (e : Endpoint) : Reply :=
  match net.service.taken? e with
  | some taken => net.script taken
  | none => Reply.notFound

/-- A request as it is sent: one without a query has that of its path. -/
def withQuery (net : Network) (r : VehicleRequest) : VehicleRequest :=
  if r.query.isEmpty then { r with query := Http.queryPairs (net.path r.endpoint) } else r

/-- Breaks off over a value that cannot be sent. -/
def checkValue (v : Json) : Exchange Unit := do
  if !v.isFinite then Exchange.reject .bodyNotFinite
  if !v.isWhole then Exchange.reject .bodyNotWhole

/-- Sends a request and gives the status and body of the reply. -/
def send (net : Network) (r : VehicleRequest) : Exchange (Int × ReplyBody) := do
  net.checkTarget r
  r.body.forM checkValue
  modify fun link => { link with sent := link.sent ++ [net.withQuery r] }
  match net.replyTo r.endpoint with
  | .answer status body =>
    if let .json v := body then checkValue v
    return (status, body)
  | .broken text => Exchange.fail (.transport (net.path r.endpoint) text)

/-- The value of the body of a reply. -/
def read (net : Network) (e : Endpoint) (status : Int) (body : ReplyBody) : Exchange Json :=
  match body.value with
  | .ok v => return v
  | .error (.unread .tooDeep) => Exchange.reject .replyTooDeep
  | .error _ => Exchange.fail (.unreadable (net.path e) status)

/-- The value of a member of a reply that has to be an object. -/
def member (name : String) (v : Json) : Exchange Json :=
  match v with
  | .obj _ => return v.member name
  | _ => Exchange.reject .notAnObject

end Network

end DeviceRegistry
