import DeviceRegistry.Problem.Kind
import DeviceRegistry.Text.Quoted
import DeviceRegistry.Vehicle.Failure

/-!
# Rejections

Each cause for which the service refuses a request. `Rejection.problem` words them: it fixes the
kind, the code and the message of every cause.
-/

namespace DeviceRegistry

/-- How a request refers to one device. -/
inductive DeviceReference where
  | idAndImei (id : Int) (imei : String)
  | factoryId (id : Int)
  | imei (imei : String)
  deriving DecidableEq, Repr, Inhabited

/-- The causes of a refusal. -/
inductive Rejection where
  -- identifiers
  | imeiTooShort
  | imeiNotNumeric
  | serialNumberTooShort
  | serialNumberNotAlphanumeric
  | deviceIdTooShort
  | deviceIdNotAlphanumeric
  | vinLength
  | severalIdentifiers (withVin : Bool)
  -- payloads
  | invalidPayload
  | invalidDate (field : String)
  -- listing parameters
  | sortField
  | sortingOrder
  | detailsFlag
  | containsLikeFields
  | containsLikeValue
  | rangeFields
  | rangeValue
  | historySortField (allowed : List String)
  | detailsSortField (allowed : List String)
  | order
  | pageNotUnsigned
  | pageZero
  | pageOutOfRange
  | sizeOutOfRange
  -- listings
  | noMatch (family : FilterFamily) (values : List String)
  | historyImeiMissing
  | historyNotFound (imei : String)
  | detailsNotFound
  | filterEmpty
  | filterNotFound
  -- states
  | referenceMissing
  | stateMissing
  | deviceNotFound (reference : DeviceReference)
  | unknownState (stored : Option String)
  | transitionRefused (device : DeviceLabel) (current target : DeviceState)
  -- create
  | actorMissing
  | createFieldsMissing
  | serialNumberTaken
  | vinTaken
  | duplicateEntry
  -- update
  | updateSideMissing
  | updateFieldsMissing
  | vehicleFieldsMissing
  | currentNotFound
  | notProvisioned
  | vinMismatch
  | updateConflict
  | updateVinMissing
  | updateNotSynchronised
  -- delete
  | deleteIdentifierMissing
  | deleteNotFound
  | deleteVinMissing
  | deleteRefused
  | deleteNotProvisioned
  | deleteNotSynchronised
  -- vehicle service
  | vehicle (cause : SyncFailure)
  deriving DecidableEq, Repr, Inhabited

/-- The words of a reference. -/
def DeviceReference.text : DeviceReference → String
  | .idAndImei n s => "factory id :" ++ toString n ++ " and imei :" ++ s
  | .factoryId n => "factory id :" ++ toString n
  | .imei s => "imei :" ++ s

/-- The problem that an expected failure of the vehicle service is. -/
def SyncFailure.problem : SyncFailure → Problem
  | .transport endpoint text =>
    .report .vehicleSync "" ("SWM request failed: " ++ text) (.exchange endpoint none)
  | .loginRefused endpoint status =>
    .report .vehicleSync "" ("SWM login failed with status " ++ toString status)
      (.exchange endpoint (some status))
  | .unreadable endpoint status =>
    .report .vehicleSync "dfd-053" "Unable to parse SWM response" (.exchange endpoint (some status))
  | .noSession endpoint =>
    .report .vehicleSync "dfd-051" "SWM session id is null" (.exchange endpoint none)
  | .vehicleRefused endpoint message =>
    .report .vehicleSync "dfd-052" ("SWM vehicle creation failed: " ++ message)
      (.exchange endpoint none)

namespace Rejection

/-- The words for the fields that a listing may be sorted by. -/
def sortMessage (allowed : List String) : String :=
  "Incorrect sortby field value. Use one of the following values: " ++ "|".intercalate allowed

/-- The kind, code and words of a cause. -/
def problem : Rejection → Problem
  | imeiTooShort =>
    .plain .invalidIdentifier "dfd-010" "IMEI value have to be minimum 3 digits for search"
  | imeiNotNumeric => .plain .invalidIdentifier "dfd-011" "IMEI must be numeric"
  | serialNumberTooShort =>
    .plain .invalidIdentifier "dfd-012"
      "Serial number value must to be minimum 3 characters for search"
  | serialNumberNotAlphanumeric =>
    .plain .invalidIdentifier "dfd-013" "Serial number must be alphanumeric"
  | deviceIdTooShort =>
    .plain .invalidIdentifier "dfd-026"
      "Invalid device id, length must be atleast of 3 characters"
  | deviceIdNotAlphanumeric =>
    .plain .invalidIdentifier "dfd-027" "Device Id must be alphanumeric"
  | vinLength =>
    .plain .invalidIdentifier "dfd-020" "Invalid VIN, length must be of 17 characters"
  | severalIdentifiers true =>
    .plain .validation "dfd-018"
      ("Please provide any one of imei , SerialNumber , DeviceId or vin " ++
        "and perform the search again")
  | severalIdentifiers false =>
    .plain .validation "dfd-019"
      ("Please provide any one of imei , SerialNumber , DeviceId or State " ++
        "and perform the search again")
  | invalidPayload => .plain .validation "dfd-060" "Invalid payload data"
  | invalidDate field =>
    .plain .invalidDate ""
      ("Invalid date format passed for " ++ field ++ ". Valid format is yyyy/MM/dd")
  | sortField =>
    .plain .invalidFilter "dfd-021"
      "sortby field and value should be of same length and allowed fields."
  | sortingOrder =>
    .plain .invalidFilter "dfd-022"
      "sortingorder field is mandatory.If non empty then should have asc/desc type."
  | detailsFlag =>
    .plain .invalidFilter "dfd-009"
      "isdetailsrequired field is mandatory and should have Boolean type."
  | containsLikeFields =>
    .plain .invalidFilter "dfd-023"
      "containslikefields is mandatory.If non empty then should be allowed one."
  | containsLikeValue => .plain .invalidFilter "dfd-023" "Invalid containslikevalue is passed"
  | rangeFields =>
    .plain .invalidFilter "dfd-024"
      "rangefields and rangevalues should be of same length and allowed."
  | rangeValue =>
    .plain .invalidFilter "dfd-025"
      "rangevalues is not in proper format.It should be separated by underscore(_)"
  | historySortField allowed => .plain .invalidSort "dfd-028" (sortMessage allowed)
  | detailsSortField allowed => .plain .invalidSort "dfd-030" (sortMessage allowed)
  | order =>
    .plain .invalidSort "dfd-031" "orderby field should have either asc or desc type"
  | pageNotUnsigned => .plain .pageParameter "dfd-015" "Page should be unsigned number"
  | pageZero => .plain .pageParameter "dfd-014" "Page should be greater than zero"
  | pageOutOfRange => .plain .pageParameter "dfd-015" "Page is out of range"
  | sizeOutOfRange => .plain .sizeParameter "" "Page size must be between 1 and 5000"
  | noMatch .containsLike values =>
    .report .noMatch ""
      ("No device is present with containing values: " ++ Text.quotedList values)
      (.filters .containsLike)
  | noMatch .range values =>
    .report .noMatch "" ("No device is present with range values: " ++ Text.quotedList values)
      (.filters .range)
  | historyImeiMissing => .plain .validation "dfd-006" "Invalid IMEI"
  | historyNotFound imei => .plain .notFound "dfd-033" ("Device not found for imei: " ++ imei)
  | detailsNotFound => .plain .notFound "dfd-048" "No data found for the given input"
  | filterEmpty =>
    .report .businessRule "dfd-00068" "Invalid device filter data" (.general Problem.generalMessage)
  | filterNotFound =>
    .plain .notFound "dfd-00067" "Factory data not found for given filter"
  | referenceMissing =>
    .plain .missingAttribute "dfd-038" "Either of factory id or imei is mandatory"
  | stateMissing => .plain .missingAttribute "dfd-039" "State is mandatory"
  | deviceNotFound reference =>
    .plain .notFound "" ("DeviceInfo Factory Data not found for " ++ reference.text)
  | unknownState stored =>
    .plain .invalidState "" (stored.getD "None" ++ " is not a valid existing state")
  | transitionRefused device current target =>
    .report .invalidTransition ""
      ("Device State Transition for factoryid :" ++ device.text ++ " ,from " ++
        current.name ++ " to " ++ target.name ++ " is not allowed")
      (.transition device (some current) (some target))
  | actorMissing =>
    .plain .missingAttribute "dfd-059" "Missing 'user-id' in http request header"
  | createFieldsMissing =>
    .plain .missingAttribute "dfd-062" "Invalid payload data. Contains null values for fields."
  | serialNumberTaken =>
    .report .businessRule "dfd-049" "Device already exists for serial number."
      (.general "PreCondition failed")
  | vinTaken =>
    .report .businessRule "dfd-047" "Device already exists for VIN."
      (.general "PreCondition failed")
  | duplicateEntry =>
    .plain .validation "dfd-061"
      ("One or more of the input factory data is already present in the DB. " ++
        "Duplicate entry.")
  | updateSideMissing =>
    .plain .validation "dfd-041" "Request object (deviceUpdateRequest) is null"
  | updateFieldsMissing =>
    .plain .missingAttribute ""
      ("One or more than one required attribute(s) value is missing either in " ++
        "\"currentValue\" or \"replaceWith\" input json")
  | vehicleFieldsMissing =>
    .plain .missingAttribute "" "Chassis number and production week is mandatory"
  | currentNotFound =>
    .plain .notFound "dfd-043" "No data is found in inventory for the passed current value"
  | notProvisioned =>
    .plain .invalidState "" "Device is not in valid state to perform the action"
  | vinMismatch =>
    .report .businessRule "dfd-048" "No data found for the given input"
      (.general "Resource not found")
  | updateConflict => .plain .update "" "Failed to update device, please contact admin."
  | updateVinMissing => .plain .update "" "Cannot update device due vin does not exist in db!"
  | updateNotSynchronised =>
    .report .vehicleSyncUpdate "" "Cannot update device due to swm internal server error"
      (.exchange "" none)
  | deleteIdentifierMissing =>
    .plain .missingAttribute "dfd-001" "Either Serial number or IMEI is mandatory"
  | deleteNotFound =>
    .plain .notFound "dfd-002" "No data is found in inventory for the requested inputs"
  | deleteVinMissing =>
    .plain .delete "" "Cannot delete device due to vin does not exist in db"
  | deleteRefused =>
    .plain .delete "" "Cannot delete the device. Device has historical data."
  | deleteNotProvisioned =>
    .plain .invalidState ""
      ("factory data can't be deleted as the device is not in : " ++
        DeviceState.provisioned.name ++ " state")
  | deleteNotSynchronised =>
    .report .vehicleSyncDelete "" "Cannot delete device due to swm internal server error"
      (.exchange "" none)
  | vehicle cause => cause.problem

end Rejection

end DeviceRegistry
