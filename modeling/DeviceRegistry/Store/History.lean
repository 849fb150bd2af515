import DeviceRegistry.Store.Basic

/-!
# The history table

Entries are only ever appended: a snapshot of a device, what was done to it, and when.
-/

namespace DeviceRegistry.Store

/-- Appends the snapshot of a record. -/
def appendHistory (now : String) (r : DeviceRecord) (action : HistoryAction) (s : Store) : Store :=
  { s with
    history := s.history.append fun id =>
      { id := id, factoryId := r.id, profile := r.profile, stolen := flagValue r.stolen,
        faulty := flagValue r.faulty, action := action, recordedAt := now } }

end DeviceRegistry.Store
