import DeviceRegistry.Device.Record
import DeviceRegistry.Device.Request
import DeviceRegistry.Payload.Decoder

/-!
# Payloads of requests

The readers of every kind of request, and of the records that are handed in as rows or as they were
answered.
-/

namespace DeviceRegistry.Payload

open Decoder
open Json (Members)

/-- The texts of a profile that a payload may give, each of them possibly null. -/
def profile {α : Type} (d : Decoder α) (columns : List TextColumn) (ms : Members) :
    Decoded (Columns α) :=
  columns.foldl (fun p c => Columns.set <$> p <*> pure c <*> optional c.name d ms) (.fit {})

/-- The vehicle of a payload. -/
def vehicle (ms : Members) : Decoded VehicleData :=
  VehicleData.mk <$> optional "vin" rawText ms <*> optional "chassis_number" rawText ms
    <*> optional "plant" rawText ms <*> optional "production_week" rawText ms
    <*> optional "vehicle_model_year" rawText ms

/-- A device to create. -/
def newDevice : Decoder DeviceData :=
  object fun ms => DeviceData.mk <$> profile rawText createColumns ms <*> vehicle ms

/-- A batch of devices to create. -/
def newDevices : Decoder (List DeviceData) :=
  list newDevice

/-- One side of an update; the friendly name is read and not kept. -/
def deviceData : Decoder DeviceData :=
  object fun ms =>
    (fun p v _ => DeviceData.mk p v) <$> profile rawText updateColumns ms <*> vehicle ms
      <*> optional "friendly_name" text ms

/-- An update. -/
def updateRequest : Decoder UpdateRequest :=
  object fun ms =>
    UpdateRequest.mk <$> optional "current_value" deviceData ms
      <*> optional "replace_with" deviceData ms

/-- A change of state. -/
def stateChange : Decoder StateChange :=
  object fun ms =>
    StateChange.mk <$> optional "factory_id" integer ms <*> optional "imei" text ms
      <*> optional "state" (choice DeviceState.ofName?) ms

/-- New values for single columns. -/
def attributeUpdate : Decoder AttributeUpdate :=
  object fun ms =>
    AttributeUpdate.mk <$> needed "id" integer ms <*> profile rawText attributeColumns ms

/-- The lists of allowed values, by column. -/
def allowedValues (ms : Members) : Decoded (List (TextColumn × List RawText)) :=
  filterColumns.foldr
    (fun c rest =>
      (fun values rest => (c, values.getD []) :: rest) <$> optional c.name (list rawText) ms
        <*> rest)
    (.fit [])

/-- An exact filter. -/
def deviceFilter : Decoder DeviceFilter :=
  object fun ms =>
    (fun lists => { allowed := fun c => (lists.lookup c).getD [] }) <$> allowedValues ms

/-! ## Records -/

/-- The columns of a profile beside the state. -/
def plainColumns : List TextColumn :=
  TextColumn.all.filter (· != .state)

/-- The profile of a record, whose state is never null. -/
def recordProfile (ms : Members) : Decoded Profile :=
  (fun p state => { p with state := some state }) <$> profile text plainColumns ms
    <*> field "state" (.fit DeviceState.provisioned.name) text ms

/-- A record as it is answered. -/
def deviceRecord : Decoder DeviceRecord :=
  object fun ms =>
    DeviceRecord.mk <$> needed "id" integer ms <*> recordProfile ms
      <*> field "stolen" (.fit false) truth ms <*> field "faulty" (.fit false) truth ms
      <*> optional "vin" text ms <*> optional "device_id" text ms

/-- The flag of a row, set by any value that is not empty. -/
def rowFlag (f : Flag) (ms : Members) : Bool :=
  !((ms.lookup (.whole f.name)).getD .null).isEmpty

/-- The head unit of a row, under its stored name before its answered one. -/
def rowHeadUnit (ms : Members) : Decoded (Option String) :=
  match ms.lookup (.whole "harman_id") with
  | some v => Decoded.inside "device_id" (nullable text v)
  | none => optional "device_id" text ms

/-- The record of a row of the device table. -/
def deviceRow : Decoder DeviceRecord :=
  object fun ms =>
    DeviceRecord.mk <$> needed "id" integer ms <*> recordProfile ms
      <*> pure (rowFlag .stolen ms) <*> pure (rowFlag .faulty ms)
      <*> optional "vin" text ms <*> rowHeadUnit ms

/-- The entry of a row of the history table. -/
def historyRow : Decoder HistoryEntry :=
  object fun ms =>
    HistoryEntry.mk <$> needed "id" integer ms <*> needed "factory_id" integer ms
      <*> profile text TextColumn.all ms
      <*> pure (rowFlag .stolen ms) <*> pure (rowFlag .faulty ms)
      <*> needed "action" (choice HistoryAction.ofName?) ms
      <*> needed "created_timestamp" text ms

end DeviceRegistry.Payload
