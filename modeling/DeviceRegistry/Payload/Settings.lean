import DeviceRegistry.Payload.Decoder
import DeviceRegistry.Settings
import DeviceRegistry.Text.Word

/-!
# Payloads of settings

A setting is known by its name in any case, and its misfits are reported under the name itself.
Every setting may be left out, and what is no setting is refused. The settings that say how devices
are created and how the vehicle service is reached are kept, the others only have to fit.
-/

namespace DeviceRegistry.Payload

open Decoder
open Json (Members)

/-- The creation type of the settings. -/
def creationType : Decoder CreationType
  | .str t =>
    match t.string?.bind CreationType.ofName? with
    | some kind => .fit kind
    | none => .misfit .notAllowed (.str t)
  | v => .misfit .notText v

/-- A value of a type, made into one of another. -/
def mapped {α β : Type} (f : α → β) (d : Decoder α) : Decoder β :=
  fun v => f <$> d v

/-- A value of a type, of which nothing is kept. -/
def discarded {α : Type} (d : Decoder α) : Decoder Unit :=
  mapped (fun _ => ()) d

/-- A text that is passed on. -/
def passedOn : Decoder Json :=
  mapped (fun (s : String) => .str s) text

/-- A path. -/
def path : Decoder (Option RawText) :=
  mapped (fun (s : String) => some (.whole s)) text

/-- A number of seconds. -/
def seconds : Decoder (Option Json.Number) :=
  mapped (fun n => some (.int n)) integer

/-- How the vehicle service is reached; what is not given stays as it is by default. -/
def vehicleService (ms : Members) : Decoded VehicleService :=
  let base : VehicleService := {}
  VehicleService.mk
    <$> field "SWM_INTEGRATION_ENABLED" (.fit base.enabled) truth ms
    <*> field "SWM_USERNAME" (.fit base.username) passedOn ms
    <*> field "SWM_PASSWORD" (.fit base.password) passedOn ms
    <*> field "SWM_DOMAIN" (.fit base.domain) passedOn ms
    <*> field "SWM_DOMAIN_ID" (.fit base.domainId) passedOn ms
    <*> field "SWM_VEHICLE_MODEL_ID" (.fit base.vehicleModelId) passedOn ms
    <*> field "SWM_LOGIN_API" (.fit base.loginPath) path ms
    <*> field "SWM_VEHICLES_API" (.fit base.vehiclesPath) path ms
    <*> field "SWM_CREATE_API" (.fit base.createPath) path ms
    <*> field "SWM_UPDATE_API" (.fit base.updatePath) path ms
    <*> field "SWM_DELETE_API" (.fit base.deletePath) path ms
    <*> field "SWM_SESSION_TTL" (.fit base.sessionSeconds) seconds ms

/-- The settings that only have to fit. -/
def plainSettings : List (String × Decoder Unit) := [
  ("APP_NAME", discarded text), ("APP_VERSION", discarded text), ("DEBUG", discarded truth),
  ("API_HOST", discarded text), ("API_PORT", discarded integer),
  ("API_WORKERS", discarded integer), ("SQLITE_DB_PATH", discarded text),
  ("LOGS_DIR", discarded text), ("SWM_BASE_URL", discarded text), ("SWM_TIMEOUT", number),
  ("DEFAULT_PAGE", discarded integer), ("DEFAULT_PAGE_SIZE", discarded integer),
  ("MIN_PAGE_SIZE", discarded integer), ("MAX_PAGE_SIZE", discarded integer)]

/-- The names of all settings. -/
def settingNames : List String :=
  ["DEVICE_CREATION_TYPE", "SWM_INTEGRATION_ENABLED", "SWM_USERNAME", "SWM_PASSWORD", "SWM_DOMAIN",
    "SWM_DOMAIN_ID", "SWM_VEHICLE_MODEL_ID", "SWM_LOGIN_API", "SWM_VEHICLES_API", "SWM_CREATE_API",
    "SWM_UPDATE_API", "SWM_DELETE_API", "SWM_SESSION_TTL"] ++ plainSettings.map (·.1)

/-- Whether a member names a setting. -/
def namesSetting (setting : String) (name : RawText) : Bool :=
  name.string?.any (Text.sameWord setting)

/-- The value given for a setting: under its very name, or else the first under its name in another
case. -/
def given? (setting : String) (ms : Members) : Option Json :=
  match ms.lookup (.whole setting) with
  | some v => some v
  | none => (ms.find? fun m => namesSetting setting m.1).map (·.2)

/-- The settings under their very names, and after them the members that name none. -/
def bySetting (ms : Members) : Members :=
  settingNames.filterMap (fun setting => (given? setting ms).map fun v => (.whole setting, v)) ++
    ms.filter fun m => !settingNames.any fun setting => namesSetting setting m.1

/-- The settings. -/
def settings : Decoder Settings :=
  object fun given =>
    let ms := bySetting given
    let plain := plainSettings.foldl
      (fun checked (name, d) => (fun _ _ => ()) <$> checked <*> field name (.fit ()) d ms) (.fit ())
    (fun kind service _ _ => ({ creationType := kind, vehicleService := service } : Settings))
      <$> field "DEVICE_CREATION_TYPE" (.fit .standard) creationType ms
      <*> vehicleService ms
      <*> plain
      <*> noOthers settingNames ms

end DeviceRegistry.Payload
