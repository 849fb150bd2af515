import DeviceRegistry.Proofs.History.Trail
import Mathlib.Data.List.Forall2

/-!
# What the history accounts for

Entries are added to the history and never changed or taken back. A step adds one for each device
that it stores, one if it moves a device and one if it deletes a device, even where the vehicle
service fails afterwards; other steps add none. An entry has the columns that its device has after
the step, or had before it if the step deletes the device.
-/

namespace DeviceRegistry

/-! ## Entries and devices -/

/-- The eighteen columns that an entry keeps of a device: its texts and its flags. -/
def snapshotColumns : List Column :=
  TextColumn.all.map .text ++ Flag.all.map .flag

/-- An entry says what was done to a device and has its columns. -/
structure HistoryRow.Depicts (h : HistoryRow) (action : HistoryAction) (d : Device) : Prop where
  device : h.factoryId = d.id
  action : h.action = action
  columns : ∀ c ∈ snapshotColumns, h.cell c = d.cell c

namespace Store

/-- A snapshot depicts a device that shows a state: its flags come back from their truth values. -/
theorem depicts_snapshot {d : Device} {state : DeviceState} (h : d.Shows state) (s : Store)
    (now : String) (action : HistoryAction) :
    (s.snapshot now d.record action).Depicts action d := by
  refine ⟨rfl, rfl, fun c hc => ?_⟩
  rcases List.mem_append.mp hc with hc | hc
  · obtain ⟨column, -, rfl⟩ := List.mem_map.mp hc
    rfl
  · obtain ⟨flag, -, rfl⟩ := List.mem_map.mp hc
    have hshows := shows_snapshot h s now action
    cases flag with
    | stolen => exact congrArg Cell.int (hshows.stolen.trans h.stolen.symm)
    | faulty => exact congrArg Cell.int (hshows.faulty.trans h.faulty.symm)

/-- Devices were added to a store under new ids, and for each of them an entry that depicts it. -/
structure Grows (s s' : Store) (stored : List Device) (entries : List HistoryRow) : Prop where
  devices : s'.devices.rows = s.devices.rows ++ stored
  history : s'.history.rows = s.history.rows ++ entries
  given : s.devices.lastId ≤ s'.devices.lastId
  new : ∀ d ∈ stored, s.devices.lastId < d.id
  depicted : List.Forall₂ (fun h d => h.Depicts .provisioned d) entries stored

theorem grows_refl (s : Store) : s.Grows s [] [] where
  devices := (List.append_nil _).symm
  history := (List.append_nil _).symm
  given := Int.le_refl _
  new := by simp
  depicted := .nil

theorem grows_created (s : Store) (now : String) (p : Profile) (vin : Option String) :
    let d := newDevice now p s.devices.nextId
    s.Grows (s.created now p vin) [d] [s.snapshot now d.record .provisioned] := by
  intro d
  have hnext : d.id = s.devices.lastId + 1 := rfl
  refine ⟨rfl, rfl, ?_, ?_, .cons (depicts_snapshot (Device.shows_newDevice _ _ _) _ _ _) .nil⟩
  · show s.devices.lastId ≤ s.devices.lastId + 1
    omega
  · intro e he
    rw [List.mem_singleton.mp he]
    omega

theorem Grows.trans {s₁ s₂ s₃ : Store} {stored more : List Device}
    {entries others : List HistoryRow} (h : s₁.Grows s₂ stored entries)
    (h' : s₂.Grows s₃ more others) : s₁.Grows s₃ (stored ++ more) (entries ++ others) := by
  refine ⟨?_, ?_, Int.le_trans h.given h'.given, ?_, List.rel_append h.depicted h'.depicted⟩
  · rw [h'.devices, h.devices, List.append_assoc]
  · rw [h'.history, h.history, List.append_assoc]
  · intro d hd
    rcases List.mem_append.mp hd with hd | hd
    · exact h.new d hd
    · have hgiven := h.given
      have hnew := h'.new d hd
      omega

end Store

/-- A batch adds devices with their entries, also if it is not completed; if it is, these are the
devices that it answers. -/
theorem Create.grows_createInTurn (turns : List (Environment × PreparedDevice)) (r : Registry) :
    ∃ stored entries, r.store.Grows (outcome (createInTurn turns) r).2.store stored entries ∧
      ∀ result, (outcome (createInTurn turns) r).1 = .ok result →
        result.created.map (·.id) = stored.map (·.id) := by
  induction turns generalizing r with
  | nil =>
    refine ⟨[], [], Store.grows_refl r.store, fun result h => ?_⟩
    cases h
    rfl
  | cons turn turns ih =>
    obtain ⟨env, p⟩ := turn
    have hleaves := leaves_createOne env p r
    rw [outcome_createInTurn_cons]
    generalize outcome (createOne env p) r = made at hleaves
    obtain ⟨result, r'⟩ := made
    simp only at hleaves
    obtain ⟨stored, entries, hgrows, hanswer⟩ := ih r'
    cases hleaves with
    | @inserted d inserted =>
      obtain ⟨stamp, profile, vin, -, -, -, -, hs, rfl⟩ := Create.insert_eq_ok inserted
      have hfirst := Store.grows_created r.store stamp.text profile (Text.filled? vin)
      rw [← hs] at hfirst
      refine ⟨_, _, hfirst.trans hgrows, fun result h => ?_⟩
      obtain ⟨rest, hrest, rfl⟩ := map_eq_ok.mp h
      exact congrArg _ (hanswer rest hrest)
    | leftOut same =>
      rw [show r'.store = r.store from same] at hgrows
      refine ⟨stored, entries, hgrows, fun result h => ?_⟩
      obtain ⟨rest, hrest, rfl⟩ := map_eq_ok.mp h
      exact hanswer rest hrest
    | failed same =>
      -- The rest of the batch is not reached, so what the induction says of it does not matter.
      rw [show r'.store = r.store from same]
      exact ⟨[], [], Store.grows_refl r.store, nofun⟩

/-! ## What a step enters -/

/-- The local part of a deletion is completed. -/
def Delete.commits (env : Environment) (imei serialNumber : Option String) (s : Store) : Bool :=
  match checkIdentifiers imei serialNumber with
  | .ok () => (commit env.settings env.now imei serialNumber s).toOption.isSome
  | .error _ => false

theorem Delete.commits_iff {env : Environment} {imei serialNumber : Option String} {s : Store} :
    commits env imei serialNumber s = true ↔
      checkIdentifiers imei serialNumber = .ok () ∧
        ∃ x, commit env.settings env.now imei serialNumber s = .ok x := by
  unfold commits
  cases checkIdentifiers imei serialNumber with
  | error cause => exact ⟨nofun, fun ⟨h, _⟩ => nomatch h⟩
  | ok _ => simp only [Option.isSome_iff_exists, toOption_eq_some, true_and]

/-- The history tells about commands of this kind. -/
def Command.isRecorded : Command → Bool
  | .create .. | .changeState .. | .delete .. => true
  | .update .. | .attributes .. | .associate .. => false

/-- The devices and their order are the same, though maybe not their columns. -/
def Store.KeepsDevices (s s' : Store) : Prop :=
  s'.devices.rows.map (·.id) = s.devices.rows.map (·.id)

theorem Store.KeepsDevices.length_eq {s s' : Store} (h : s.KeepsDevices s') :
    s'.devices.rows.length = s.devices.rows.length := by
  have hlength := congrArg List.length h
  rwa [List.length_map, List.length_map] at hlength

/-- The entries that a step adds to the history. A batch adds one for each device that it stores,
a move one about the device that it answers, a deletion one about the device that it removes; each
depicts its device as it is found by its id after the step, or before the deletion. A move that is
refused, a deletion that is not completed and the other commands add none. -/
inductive Enters (env : Environment) (r : Registry) (answer : Except Failure Answer)
    (r' : Registry) : Command → List HistoryRow → Prop
  | created {actor : Option String} {records : List DeviceData} {stored : List Device}
      {entries : List HistoryRow} (rows : r'.store.devices.rows = r.store.devices.rows ++ stored)
      (new : ∀ d ∈ stored, r.store.devices.lastId < d.id)
      (found : ∀ d ∈ stored, r'.store.device? d.id = some d)
      (depicted : List.Forall₂ (fun h d => h.Depicts .provisioned d) entries stored)
      (answered : ∀ result, answer = .ok (.created result) →
        result.created.map (·.id) = stored.map (·.id)) :
      Enters env r answer r' (.create actor records) entries
  | moved {q : StateChange} {record : DeviceRecord} {d : Device} {h : HistoryRow}
      (answered : answer = .ok (.record record)) (kept : r.store.KeepsDevices r'.store)
      (found : r'.store.device? record.id = some d) (depicted : h.Depicts .updated d) :
      Enters env r answer r' (.changeState q) [h]
  | refused {q : StateChange} {e : Failure} (answered : answer = .error e) (same : r' = r) :
      Enters env r answer r' (.changeState q) []
  | deleted {imei serialNumber : Option String} {d : Device} {h : HistoryRow}
      (completed : Delete.commits env imei serialNumber r.store = true)
      (found : r.store.device? d.id = some d)
      (rows : r'.store.devices.rows = r.store.devices.rows.filter fun e => e.id != d.id)
      (depicted : h.Depicts .deactivated d) :
      Enters env r answer r' (.delete imei serialNumber) [h]
  | kept {imei serialNumber : Option String}
      (incomplete : Delete.commits env imei serialNumber r.store = false)
      (same : r'.store = r.store) : Enters env r answer r' (.delete imei serialNumber) []
  | silent {c : Command} (unrecorded : c.isRecorded = false)
      (kept : r.store.KeepsDevices r'.store) : Enters env r answer r' c []

theorem Effect.silent {env : Environment} {s s' : Store} {c : Command} (h : Effect env s c s')
    (hc : c.isRecorded = false) : s'.history = s.history ∧ s.KeepsDevices s' := by
  cases h with
  | created => cases hc
  | moved => cases hc
  | deleted => cases hc
  | @replaced q p d vin ready stored effective renumbers =>
    cases vin with
    | none => exact ⟨rfl, Store.ids_withDevice s _⟩
    | some vin => exact ⟨rfl, Store.ids_withDevice s _⟩
  | changed ready stored named => exact ⟨rfl, Store.ids_withDevice s _⟩
  | associated stored => exact ⟨rfl, rfl⟩

namespace Registry

variable {env : Environment} {r : Registry}

/-- A step adds entries to the history and leaves those that are there. -/
def Adds (env : Environment) (c : Command) (r : Registry) : Prop :=
  ∃ entries, (r.step env c).2.store.history.rows = r.store.history.rows ++ entries ∧
    Enters env r (r.step env c).1 (r.step env c).2 c entries

theorem adds_of_silent (hn : r.store.Numbered) {c : Command} (hc : c.isRecorded = false) :
    r.Adds env c := by
  have hcommit := step_commit env (c := c) r fun actor records h => by
    rw [h] at hc
    cases hc
  rcases hcommit with hsame | hcommit
  · rw [Adds, hsame]
    exact ⟨[], (List.append_nil _).symm, .silent hc (by rw [hsame]; rfl)⟩
  · obtain ⟨hhistory, hkept⟩ := (hcommit.effect hn).silent hc
    rw [Adds, hhistory]
    exact ⟨[], (List.append_nil _).symm, .silent hc hkept⟩

theorem adds_create (hn : r.store.Numbered) (actor : Option String) (records : List DeviceData) :
    r.Adds env (.create actor records) := by
  have hafter : (r.step env (.create actor records)).2.store.Numbered :=
    numbered_after [(env, .create actor records)] hn
  obtain ⟨stored, entries, hgrows, hanswer⟩ : ∃ stored entries,
      r.store.Grows (r.step env (.create actor records)).2.store stored entries ∧
        ∀ result, (r.step env (.create actor records)).1 = .ok (.created result) →
          result.created.map (·.id) = stored.map (·.id) := by
    rw [step_create, batch_eq]
    split
    · exact ⟨[], [], Store.grows_refl r.store, nofun⟩
    · rename_i ps hps
      obtain ⟨stored, entries, hgrows, hanswer⟩ := Create.grows_createInTurn _ r
      refine ⟨stored, entries, hgrows, fun result h => ?_⟩
      obtain ⟨_, hresult, hcreated⟩ := map_eq_ok.mp h
      cases hcreated
      exact hanswer result hresult
  refine ⟨entries, hgrows.history, .created hgrows.devices hgrows.new ?_ hgrows.depicted hanswer⟩
  intro d hd
  refine Store.device?_of_mem hafter ?_
  rw [hgrows.devices]
  exact List.mem_append_right _ hd

theorem adds_changeState (hn : r.store.Numbered) (q : StateChange) :
    r.Adds env (.changeState q) := by
  unfold Adds
  rw [step_changeState]
  cases hchange : changeState env.now q r.store with
  | error e => exact ⟨[], (List.append_nil _).symm, .refused rfl rfl⟩
  | ok x =>
    obtain ⟨record, s⟩ := x
    obtain ⟨d, -, target, stamp, hmem, -, -, -, -, rfl, rfl, -⟩ := changeState_eq_ok hn hchange
    have hd := Store.device?_of_mem hn hmem
    -- The snapshot is taken of the moved device, which is also the one that is found afterwards.
    have hdepicts := Store.depicts_snapshot (Device.shows_moved target d) r.store stamp.text
      .updated
    exact ⟨[_], Store.history_appendHistory, .moved rfl (Store.ids_withDevice r.store _)
      (Store.device?_withDevice_self (d := d.moved target) hd) hdepicts⟩

theorem adds_delete (hn : r.store.Numbered) (imei serialNumber : Option String) :
    r.Adds env (.delete imei serialNumber) := by
  have hstore := store_step_delete env r imei serialNumber
  unfold Adds
  cases hcommits : Delete.commits env imei serialNumber r.store with
  | true =>
    obtain ⟨ready, x, committed⟩ := Delete.commits_iff.mp hcommits
    obtain ⟨found, d, stamp, hwith, hd, hdeletable, -, -, -, -, hs, -⟩ :=
      Delete.commit_eq_ok committed
    obtain rfl : found = d := hn.eq_of_device? (Store.mem_of_deviceWith? hwith).1 hd
    rw [ready] at hstore
    simp only [committed] at hstore
    rw [hs] at hstore
    -- A device that may be deleted shows a state, so its flags survive the snapshot.
    have hdepicts := Store.depicts_snapshot (Device.shows_of_deletable hdeletable) r.store
      stamp.text .deactivated
    refine ⟨[_], ?_, .deleted hcommits hd ?_ hdepicts⟩
    · rw [hstore]
      exact Store.history_appendHistory
    · rw [hstore]
      rfl
  | false =>
    have hsame : (r.step env (.delete imei serialNumber)).2.store = r.store := by
      rw [hstore]
      cases ready : Delete.checkIdentifiers imei serialNumber with
      | error cause => rfl
      | ok _ =>
        cases committed : Delete.commit env.settings env.now imei serialNumber r.store with
        | error e => simp only
        | ok x =>
          rw [Delete.commits_iff.mpr ⟨ready, x, committed⟩] at hcommits
          cases hcommits
    rw [hsame]
    exact ⟨[], (List.append_nil _).symm, .kept hcommits hsame⟩

/-- Every step adds to the history what it has to. -/
theorem adds (hn : r.store.Numbered) (env : Environment) (c : Command) : r.Adds env c := by
  cases c with
  | create actor records => exact adds_create hn actor records
  | changeState q => exact adds_changeState hn q
  | delete imei serialNumber => exact adds_delete hn imei serialNumber
  | update q => exact adds_of_silent hn rfl
  | attributes q => exact adds_of_silent hn rfl
  | associate device headUnit => exact adds_of_silent hn rfl

end Registry

end DeviceRegistry
