import DeviceRegistry.Http.Target
import DeviceRegistry.Json.Basic

/-!
# Settings

How the service is set up: how devices are created, and how the vehicle service is reached. The
vehicle service keeps its own list of vehicles; devices are created in step with it only in the
integrated mode, and only if the exchange is switched on. What the vehicle service is told about its
user is passed on as it is set. A setting of another kind than its use needs shows when it is used.
-/

namespace DeviceRegistry

/-- How devices are created. -/
inductive CreationType where
  | standard
  | guestUser
  | vehicleIntegrated
  deriving DecidableEq, Repr, Inhabited

namespace CreationType

/-- All creation types. -/
def all : List CreationType :=
  [standard, guestUser, vehicleIntegrated]

/-- The configured name of a creation type. -/
def name : CreationType → String
  | standard => "default"
  | guestUser => "guestUser"
  | vehicleIntegrated => "swmIntegration"

/-- The creation type of a configured name. -/
def ofName? (s : String) : Option CreationType :=
  all.find? fun kind => kind.name == s

end CreationType

/-- The calls of the vehicle service. -/
inductive Endpoint where
  | login
  | vehicles
  | create
  | update
  | delete
  deriving DecidableEq, Repr, Inhabited

namespace Endpoint

/-- All calls. -/
def all : List Endpoint :=
  [login, vehicles, create, update, delete]

/-- The method of a call. -/
def method : Endpoint → String
  | login => "POST"
  | vehicles => "GET"
  | create => "POST"
  | update => "PUT"
  | delete => "PUT"

end Endpoint

/-- How the vehicle service is reached; a path that is no text and a time that is no number are
none. -/
structure VehicleService where
  enabled : Bool := false
  username : Json := .str ""
  password : Json := .str ""
  domain : Json := .str ""
  domainId : Json := .str ""
  vehicleModelId : Json := .str ""
  loginPath : Option RawText := some "/api/v1/login"
  vehiclesPath : Option RawText := some "/api/v1/vehicles"
  createPath : Option RawText := some "/api/v1/vehicles/create"
  updatePath : Option RawText := some "/api/v1/vehicles/update"
  deletePath : Option RawText := some "/api/v1/vehicles/delete"
  sessionSeconds : Option Json.Number := some (.int 1800)
  deriving Repr, Inhabited

namespace VehicleService

/-- The path of a call. -/
def path? (v : VehicleService) : Endpoint → Option RawText
  | .login => v.loginPath
  | .vehicles => v.vehiclesPath
  | .create => v.createPath
  | .update => v.updatePath
  | .delete => v.deletePath

/-- The call that the vehicle service takes a call for: the last one of its method whose path is
exactly the one that is asked for. -/
def taken? (v : VehicleService) (e : Endpoint) : Option Endpoint := do
  let asked := Http.resolvePath (← v.path? e).shown
  Endpoint.all.reverse.find? fun other =>
    other.method == e.method && v.path? other == some (.whole asked)

example : Endpoint.all.map (taken? {}) = Endpoint.all.map some := by decide +kernel

end VehicleService

/-- The setup of the service. -/
structure Settings where
  creationType : CreationType := .standard
  vehicleService : VehicleService := {}
  deriving Repr, Inhabited

namespace Settings

/-- The name of the service. -/
def serviceName : String := "Device Factory Management"

/-- The version of the service. -/
def serviceVersion : String := "1.1.0"

/-- Vehicle identification numbers are checked in the integrated mode only. -/
def checksVins (s : Settings) : Bool :=
  s.creationType == .vehicleIntegrated

/-- The vehicle service is kept in step in the integrated mode if it is switched on. -/
def synchronises (s : Settings) : Bool :=
  s.checksVins && s.vehicleService.enabled

end Settings

end DeviceRegistry
