import DeviceRegistry.Http.Target
import DeviceRegistry.Json.Encoding
import DeviceRegistry.Json.Writer
import DeviceRegistry.Payload.Answers
import DeviceRegistry.Text.Word

/-!
# Requests and responses

What comes in over HTTP and what goes out. A body arrives as a value or as a text that may be one,
and counts as a value only if its content type says so. A refused request is answered with its code
and message and the status of its kind; a failure of the machinery is answered with nothing but the
status 500, and so is one whose response cannot be sent. A request itself cannot be sent if its
target or its query cannot, if a header is not ASCII, or if its body cannot be written.
-/

namespace DeviceRegistry.Http

/-- The body of a request. -/
inductive Body where
  | absent
  | json (value : Json)
  | text (content : RawText)
  deriving Inhabited

/-- A request. -/
structure Request where
  method : String
  target : RawText
  query : List (RawText × RawText) := []
  headers : List (String × String) := []
  body : Body := .absent
  deriving Inhabited

/-- The value of the first header with a name, in any case. -/
def Request.header? (r : Request) (name : String) : Option String :=
  (r.headers.find? fun h => Text.sameWord name h.1).map (·.2)

/-- Why a request cannot be sent. -/
inductive RequestFault where
  | target (fault : TargetFault)
  | headerNotAscii
  | bodyNotFinite
  | bodyNotWhole
  deriving DecidableEq, Repr, Inhabited

/-- A text of ASCII characters alone. -/
def isAscii (s : String) : Bool :=
  s.toList.all (·.toNat < 0x80)

/-- Why a body cannot be sent, if it cannot. -/
def Body.fault? : Body → Option RequestFault
  | .absent => none
  | .json v =>
    if !v.isFinite then some .bodyNotFinite
    else if !v.isWhole then some .bodyNotWhole
    else none
  | .text t => if t.isWhole then none else some .bodyNotWhole

/-- Why a request cannot be sent, if it cannot. -/
def Request.fault? (r : Request) : Option RequestFault :=
  match targetFault? r.target with
  | some fault => some (.target fault)
  | none =>
    if !r.headers.all fun h => isAscii h.1 && isAscii h.2 then some .headerNotAscii
    else
      match queryFault? r.query with
      | some fault => some (.target fault)
      | none => r.body.fault?

/-- The query values by name; of two under one name the later counts. -/
def Request.params (r : Request) : Params :=
  Params.ofPairs (r.query.map fun (name, value) => (name.shown, some value.shown))

/-- The query value with a name. -/
def Request.value? (r : Request) (name : String) : Option String :=
  r.params.named? name

/-- A response. -/
structure Response where
  status : Nat
  body : Json
  deriving Inhabited

namespace Response

/-- A successful response. -/
def ok (members : List (String × Json)) : Response :=
  { status := 200, body := .ofMembers members }

/-- A response without a body. -/
def bare (status : Nat) : Response :=
  { status := status, body := .str "" }

/-- A response of the routing. -/
def detail (status : Nat) (text : String) : Response :=
  { status := status, body := .ofMembers [("detail", .str text)] }

/-- The response to a refused request. -/
def ofProblem (p : Problem) : Response :=
  { status := p.status, body := .ofMembers [("code", .str p.code), ("message", .str p.message)] }

/-- The response to a failure of the machinery. -/
def internalError : Response :=
  { status := 500, body := .str "Internal Server Error" }

/-- The response to a failure. -/
def ofFailure : Failure → Response
  | .rejected cause => ofProblem cause.problem
  | _ => internalError

/-- The name of a misfit in a body; what is no object might also have given its attributes. -/
def misfitName : Misfit → String
  | .notObject => "model_attributes_type"
  | m => m.name

/-- The response to a body that does not fit: the misfits with their places. The values that do not
fit are sent along, so all of them have to be such that they can be sent. -/
def unprocessable (ms : List Mismatch) : Response :=
  if ms.all (·.value.isSendable) then
    { status := 422
      body := Mismatch.report misfitName (ms.map fun m => { m with path := "body" :: m.path }) }
  else internalError

/-- The response to a request without a body. -/
def bodyMissing : Response :=
  unprocessable [{ path := [], misfit := .missing, value := .null }]

/-- The response to a body that is no value. -/
def bodyMalformed : Response :=
  { status := 422, body := .arr [.arr [.str "body", .str "json_invalid"]] }

/-- The response to a body that is given up while it is read. -/
def bodyGivenUp : Response :=
  detail 400 "There was an error parsing the body"

end Response

/-- The kinds of content that are read as values. -/
def isValueSubtype (subtype : String) : Bool :=
  subtype == "json" || "+json".toList.isSuffixOf subtype.toList

/-- Whether a content type announces a value: it does if it names an application type of such a
kind, whatever parameters follow. -/
def announcesValue (contentType : String) : Bool :=
  match Text.split '/' (Text.lower (Text.trim ((Text.split ';' contentType).headD ""))) with
  | [main, subtype] => main == "application" && isValueSubtype subtype
  | _ => false

/-- The value that a text denotes as a body. -/
def decodeBody (content : String) : Except Response Json :=
  match Json.decode content with
  | .ok v => .ok v
  | .error (.unread .malformed) => .error .bodyMalformed
  | .error _ => .error .bodyGivenUp

/-- The value of the body. One that is missing or empty has none; a content that does not count as a
value is a text. -/
def Request.value (r : Request) : Except Response Json :=
  let announced := (r.header? "content-type").any announcesValue
  match r.body with
  | .absent => .error .bodyMissing
  | .json .null => .error .bodyMissing
  | .json v => .ok (if announced then v else .str v.write)
  | .text t =>
    if t.isEmpty then .error .bodyMissing
    else if announced then decodeBody t.shown
    else .ok (.str t)

/-- Reads the body of a request. -/
def Request.decode {α : Type} (d : Decoder α) (r : Request) : Except Response α := do
  let v ← r.value
  match d v with
  | .ok a => return a
  | .error ms => throw (.unprocessable ms)

end DeviceRegistry.Http
