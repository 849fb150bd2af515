import DeviceRegistry.Http.Message
import DeviceRegistry.Payload.Requests

/-!
# Routes

The resources of the service and what each method does to them. A path may end in one line end. A
path that differs from one of a resource only by the slashes at its end is redirected there. The
pages that describe the service can only be fetched.
-/

namespace DeviceRegistry.Http

/-- The resources of the service. -/
inductive Resource where
  | devices
  | state
  | attributes
  | states
  | details
  | filter
  | health
  | description
  | reference
  | referenceLogin
  | handbook
  deriving DecidableEq, Repr, Inhabited

namespace Resource

/-- All resources. -/
def all : List Resource :=
  [devices, state, attributes, states, details, filter, health, description, reference,
    referenceLogin, handbook]

/-- The path of a resource. -/
def path : Resource → String
  | devices => "/api/devices/"
  | state => "/api/devices/state"
  | attributes => "/api/devices/attributes"
  | states => "/api/devices/states"
  | details => "/api/devices/details"
  | filter => "/api/devices/filter"
  | health => "/api/health"
  | description => "/openapi.json"
  | reference => "/docs"
  | referenceLogin => "/docs/oauth2-redirect"
  | handbook => "/redoc"

/-- The pages that describe the service. -/
def isPage : Resource → Bool
  | description | reference | referenceLogin | handbook => true
  | _ => false

/-- The resource at a path, which may end in one line end. -/
def ofPath? (path : String) : Option Resource :=
  all.find? fun r => r.path == path || r.path ++ "\n" == path

/-- A path with all slashes at its end taken away, or with one added if there is none. -/
def otherSlash (path : String) : String :=
  match path.toList.reverse with
  | '/' :: cs => String.ofList (cs.dropWhile (· == '/')).reverse
  | _ => path ++ "/"

end Resource

/-- A message, and what is said beside it. -/
def said (message : String) (members : List (String × Json)) : Response :=
  .ok (("message", .str message) :: members)

/-- Carries out a command and words its answer. -/
def execute (env : Environment) (c : Command) (respond : Answer → Response) (r : Registry) :
    Response × Registry :=
  match r.step env c with
  | (.ok answer, r) => (respond answer, r)
  | (.error failure, r) => (.ofFailure failure, r)

/-- Reads the body, carries out the command it stands for and words the answer. -/
def executeBody {α : Type} (env : Environment) (req : Request) (d : Decoder α) (c : α → Command)
    (respond : Answer → Response) (r : Registry) : Response × Registry :=
  match req.decode d with
  | .ok a => execute env (c a) respond r
  | .error response => (response, r)

/-- Words the result of a listing. -/
def answer {α : Type} (message : String) (toJson : α → Json) (result : Except Failure α) :
    Response :=
  match result with
  | .ok a => said message [("data", toJson a)]
  | .error failure => .ofFailure failure

/-- A message with the answer to a command as its data. -/
def withData (message : String) (a : Answer) : Response :=
  said message [("data", a.toJson)]

/-- What a listing is asked for with in a query. -/
def Request.pageRequest (req : Request) : PageRequest :=
  { page := req.value? "page", size := req.value? "size", sortBy := req.value? "sortby",
    order := req.value? "sortingorder" }

/-- The identifiers of a query. -/
def Request.selection (req : Request) : Selection :=
  { imei := req.value? "imei", serialNumber := req.value? "serialnumber",
    deviceId := req.value? "deviceid", vin := req.value? "vin", state := req.value? "state" }

/-- What is answered about the service itself. -/
def health : Response :=
  .ok [("status", .str "healthy"), ("version", .str Settings.serviceVersion),
    ("app", .str Settings.serviceName)]

/-- The exact filter of a body, applied. -/
def filtered (req : Request) (s : Store) : Response :=
  match req.decode Payload.deviceFilter with
  | .ok f =>
    answer "Device details retrieved successfully" (fun rs => .arr (rs.map (·.toJson)))
      (Listing.exactly f s)
  | .error response => response

/-- The response to a request for a resource, and the registry afterwards. -/
def handle (env : Environment) (resource : Resource) (req : Request) (r : Registry) :
    Response × Registry :=
  match resource, req.method with
  | .devices, "POST" =>
    executeBody env req Payload.newDevices (.create (req.header? "user-id"))
      (withData "Device factory data created successfully.") r
  | .devices, "GET" =>
    (answer "Device factory data retrieved successfully." (·.toJson)
      (Listing.devices req.params r.store), r)
  | .devices, "PUT" =>
    executeBody env req Payload.updateRequest .update (withData "Device updated successfully.") r
  | .devices, "DELETE" =>
    execute env (.delete (req.value? "imei") (req.value? "serialnumber"))
      (fun _ => said "Device deleted successfully." []) r
  | .state, "PATCH" =>
    executeBody env req Payload.stateChange .changeState
      (withData "Device states changed successfully.") r
  | .attributes, "PATCH" =>
    executeBody env req Payload.attributeUpdate .attributes
      (fun a => said "Device updated successfully." [("updated", a.toJson)]) r
  | .states, "GET" =>
    (answer "Device states retrieved successfully." (·.toJson)
      (Listing.history (req.value? "imei") req.pageRequest r.store), r)
  | .details, "GET" =>
    (answer "Device details retrieved successfully" (·.toJson)
      (Listing.details req.selection req.pageRequest r.store), r)
  | .filter, "POST" => (filtered req r.store, r)
  | .health, "GET" => (health, r)
  | page, method =>
    if page.isPage && (method == "GET" || method == "HEAD") then (.bare 200, r)
    else (.detail 405 "Method Not Allowed", r)

/-- The response to a request at a path, and the registry afterwards. -/
def route (env : Environment) (path : String) (req : Request) (r : Registry) :
    Response × Registry :=
  match Resource.ofPath? path with
  | some resource => handle env resource req r
  | none =>
    if (Resource.ofPath? (Resource.otherSlash path)).isSome then (.bare 307, r)
    else (.detail 404 "Not Found", r)

/-- A response as it is sent: one with a body that cannot be sent becomes a failure, and one to a
request for the head has no body. -/
def Response.sent (method : String) (response : Response) : Response :=
  let sendable := if response.body.isSendable then response else .internalError
  if method == "HEAD" then .bare sendable.status else sendable

/-- The response to a request, and the registry afterwards. -/
def respond (env : Environment) (req : Request) (r : Registry) : Response × Registry :=
  let req := { req with method := Text.upper req.method }
  let (response, r) := route env (resolvePath req.target.shown) req r
  (response.sent req.method, r)

end DeviceRegistry.Http
