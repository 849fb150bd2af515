import DeviceRegistry.Proofs.Device.Identifiers
import DeviceRegistry.Proofs.History.Chronicle

/-!
# Deletions

A deletion looks for the first device with the given identifiers and removes it if it may go. In
which state a device is, is told twice: by a condition on the stored columns and by the state that
its record counts as; the two agree on every row. So, in any store with its devices in order and
whatever their columns hold, a deletion succeeds exactly if it names a device that counts as
provisioned and has no associations, and is refused for the first condition that does not hold.
-/

namespace DeviceRegistry

namespace Delete

variable {imei serialNumber : Option String} {s : Store} {d : Device} {cause : Rejection}

/-! ## The device that is meant -/

/-- A device has each of the identifiers that are given; one that is empty is not given. -/
structure Matches (imei serialNumber : Option String) (d : Device) : Prop where
  imei : ∀ value, Text.filled? imei = some value → d.profile.imei = some value
  serialNumber : ∀ value, Text.filled? serialNumber = some value →
    d.profile.serialNumber = some value

/-- The device that a request means: of those that match it, the one with the least id. -/
structure Means (s : Store) (imei serialNumber : Option String) (d : Device) : Prop where
  stored : d ∈ s.devices.rows
  hit : Matches imei serialNumber d
  least : ∀ e ∈ s.devices.rows, Matches imei serialNumber e → d.id ≤ e.id

/-- A request gives an identifier, a numeric IMEI if any, and an alphanumeric serial number if
any. -/
structure WellFormed (imei serialNumber : Option String) : Prop where
  named : Text.isFilled imei = true ∨ Text.isFilled serialNumber = true
  numeric : Identifier.IsNumeric imei
  alphanumeric : Identifier.IsAlphanumeric serialNumber

theorem has_iff_matches :
    d.has (Store.identifierValues imei serialNumber) = true ↔ Matches imei serialNumber d := by
  have hcell : ∀ (c : TextColumn) (value : Option String),
      d.has ((Text.filled? value).map fun v => (Column.text c, Cell.text v)).toList = true ↔
        ∀ v, Text.filled? value = some v → d.profile.get c = some v := by
    intro c value
    cases Text.filled? value with
    | none => simp [Device.has]
    | some v =>
      have hread : Cell.ofText? (d.profile.get c) = .text v ↔ d.profile.get c = some v := by
        generalize d.profile.get c = stored
        cases stored <;> simp [Cell.ofText?]
      simpa [Device.has, Device.cell] using hread
  unfold Store.identifierValues
  rw [Device.has, List.all_append, Bool.and_eq_true]
  exact ⟨fun ⟨hi, hs⟩ => ⟨(hcell .imei _).mp hi, (hcell .serialNumber _).mp hs⟩,
    fun ⟨hi, hs⟩ => ⟨(hcell .imei _).mpr hi, (hcell .serialNumber _).mpr hs⟩⟩

section

variable (ordered : s.devices.rows.Pairwise fun d e => d.id < e.id)

include ordered

theorem find?_has_eq_some :
    (s.devices.rows.find? fun d => d.has (Store.identifierValues imei serialNumber)) = some d ↔
      Means s imei serialNumber d := by
  rw [Table.find?_eq_some_of_increasing ordered]
  simp only [has_iff_matches]
  exact ⟨fun ⟨stored, hit, least⟩ => ⟨stored, hit, least⟩,
    fun ⟨stored, hit, least⟩ => ⟨stored, hit, least⟩⟩

theorem exists_means (hd : d ∈ s.devices.rows) (hit : Matches imei serialNumber d) :
    ∃ e, Means s imei serialNumber e := by
  obtain ⟨e, he⟩ := Table.exists_find? (p := fun d => d.has (Store.identifierValues imei
    serialNumber)) hd (has_iff_matches.mpr hit)
  exact ⟨e, (find?_has_eq_some ordered).mp he⟩

theorem deviceWith?_eq_some (h : WellFormed imei serialNumber) :
    s.deviceWith? (Store.identifierValues imei serialNumber) = some d ↔
      Means s imei serialNumber d := by
  have hgiven : (Store.identifierValues imei serialNumber).isEmpty = false := by
    unfold Store.identifierValues
    rcases h.named with h | h <;> obtain ⟨v, hv⟩ := Option.isSome_iff_exists.mp h <;> simp [hv]
  unfold Store.deviceWith? Store.firstDevice?
  rw [hgiven, if_neg Bool.false_ne_true]
  exact find?_has_eq_some ordered

theorem Means.device? (h : Means s imei serialNumber d) : s.device? d.id = some d :=
  (Table.find?_eq_some_of_increasing ordered).mpr ⟨h.stored, by simp, fun _ _ he =>
    Int.le_of_eq (beq_iff_eq.mp he).symm⟩

end

/-! ## Accepted and refused requests -/

/-- A deletion is accepted: it means a stored device, which counts as provisioned and with which no
head unit is associated. -/
structure Accepts (s : Store) (imei serialNumber : Option String) (d : Device) : Prop where
  wellFormed : WellFormed imei serialNumber
  means : Means s imei serialNumber d
  provisioned : d.record.effectiveState = .ok .provisioned
  free : ∀ a ∈ s.associations.rows, a.device ≠ d.id

/-- A deletion is refused for a cause: the first of the conditions that does not hold. A device that
does not count as provisioned is refused for its state, whether it has associations or not. -/
inductive Refuses (s : Store) (imei serialNumber : Option String) : Rejection → Prop
  | unnamed (unnamed : Text.isFilled imei = false ∧ Text.isFilled serialNumber = false) :
      Refuses s imei serialNumber .deleteIdentifierMissing
  | imeiMalformed (named : Text.isFilled imei = true ∨ Text.isFilled serialNumber = true)
      (malformed : ¬Identifier.IsNumeric imei) : Refuses s imei serialNumber .imeiNotNumeric
  | serialNumberMalformed (named : Text.isFilled imei = true ∨ Text.isFilled serialNumber = true)
      (numeric : Identifier.IsNumeric imei) (malformed : ¬Identifier.IsAlphanumeric serialNumber) :
      Refuses s imei serialNumber .serialNumberNotAlphanumeric
  | unknown (wellFormed : WellFormed imei serialNumber)
      (unknown : ∀ d ∈ s.devices.rows, ¬Matches imei serialNumber d) :
      Refuses s imei serialNumber .deleteNotFound
  | notProvisioned {d : Device} (wellFormed : WellFormed imei serialNumber)
      (means : Means s imei serialNumber d)
      (notProvisioned : d.record.effectiveState ≠ .ok .provisioned) :
      Refuses s imei serialNumber .deleteNotProvisioned
  | associated {d : Device} {a : Association} (wellFormed : WellFormed imei serialNumber)
      (means : Means s imei serialNumber d)
      (provisioned : d.record.effectiveState = .ok .provisioned)
      (stored : a ∈ s.associations.rows) (associated : a.device = d.id) :
      Refuses s imei serialNumber .deleteRefused

theorem checkIdentifiers_eq (imei serialNumber : Option String) :
    checkIdentifiers imei serialNumber =
      if Text.isFilled imei = true ∨ Text.isFilled serialNumber = true then
        if Identifier.IsNumeric imei then
          if Identifier.IsAlphanumeric serialNumber then .ok ()
          else .error .serialNumberNotAlphanumeric
        else .error .imeiNotNumeric
      else .error .deleteIdentifierMissing := by
  unfold checkIdentifiers require
  rw [Identifier.checkWholeImei_eq, Identifier.checkWholeSerialNumber_eq]
  simp only [Bool.or_eq_true]
  split <;> split <;> split <;> rfl

theorem WellFormed.checkIdentifiers (h : WellFormed imei serialNumber) :
    Delete.checkIdentifiers imei serialNumber = .ok () := by
  rw [checkIdentifiers_eq, if_pos h.named, if_pos h.numeric, if_pos h.alphanumeric]

theorem accepts_or_refuses (ordered : s.devices.rows.Pairwise fun d e => d.id < e.id) :
    (∃ d, Accepts s imei serialNumber d) ∨ ∃ cause, Refuses s imei serialNumber cause := by
  by_cases hnamed : Text.isFilled imei = true ∨ Text.isFilled serialNumber = true
  swap
  · rw [not_or, Bool.not_eq_true, Bool.not_eq_true] at hnamed
    exact .inr ⟨_, .unnamed hnamed⟩
  by_cases hnumeric : Identifier.IsNumeric imei
  swap
  · exact .inr ⟨_, .imeiMalformed hnamed hnumeric⟩
  by_cases halphanumeric : Identifier.IsAlphanumeric serialNumber
  swap
  · exact .inr ⟨_, .serialNumberMalformed hnamed hnumeric halphanumeric⟩
  have hformed : WellFormed imei serialNumber := ⟨hnamed, hnumeric, halphanumeric⟩
  by_cases hknown : ∃ d ∈ s.devices.rows, Matches imei serialNumber d
  swap
  · exact .inr ⟨_, .unknown hformed fun d hd hit => hknown ⟨d, hd, hit⟩⟩
  obtain ⟨d, hd, hit⟩ := hknown
  obtain ⟨d, hmeans⟩ := exists_means ordered hd hit
  by_cases hprovisioned : d.record.effectiveState = .ok .provisioned
  swap
  · exact .inr ⟨_, .notProvisioned hformed hmeans hprovisioned⟩
  by_cases hfree : ∀ a ∈ s.associations.rows, a.device ≠ d.id
  · exact .inl ⟨d, hformed, hmeans, hprovisioned, hfree⟩
  · simp only [not_forall, ne_eq, not_not] at hfree
    obtain ⟨a, ha, hdevice⟩ := hfree
    exact .inr ⟨_, .associated hformed hmeans hprovisioned ha hdevice⟩

/-- What is done about a device that is meant, while the vehicle service is not kept in step: the
device may go, or not. -/
theorem commit_of_means {settings : Settings} (off : settings.synchronises = false)
    (ordered : s.devices.rows.Pairwise fun d e => d.id < e.id)
    (wellFormed : WellFormed imei serialNumber) (means : Means s imei serialNumber d)
    (now : Calendar.Instant) :
    commit settings now imei serialNumber s =
      if d.record.effectiveState = .ok .provisioned then
        if s.associations.rows.any (·.device == d.id) then .error (.rejected .deleteRefused)
        else
          (timestamp now).map fun stamp =>
            ((d.record, Text.filled? (s.vin? d.id)), s.deleted stamp.text d)
      else .error (.rejected .deleteNotProvisioned) := by
  have hfound := means.device? ordered
  unfold commit
  rw [(deviceWith?_eq_some ordered wellFormed).mpr means]
  simp only [off, Store.deleteDevice, hfound]
  by_cases hprovisioned : d.record.effectiveState = .ok .provisioned
  · rw [if_pos hprovisioned, Device.deletable_iff.mpr hprovisioned]
    cases s.associations.rows.any (·.device == d.id) with
    | true => rfl
    | false => cases timestamp now <;> rfl
  · have hdeletable : Store.deletable d = false :=
      Bool.eq_false_iff.mpr fun h => hprovisioned (Device.deletable_iff.mp h)
    rw [if_neg hprovisioned, hdeletable]
    rfl

end Delete

section

variable {env : Environment} {r : Registry} {imei serialNumber : Option String} {d : Device}
  {cause : Rejection}

theorem step_delete_of_accepts (off : env.settings.synchronises = false)
    (ordered : r.store.devices.rows.Pairwise fun d e => d.id < e.id)
    (h : Delete.Accepts r.store imei serialNumber d) :
    r.step env (.delete imei serialNumber) =
      match timestamp env.now with
      | .ok stamp => (.ok (.record d.record), { r with store := r.store.deleted stamp.text d })
      | .error e => (.error e, r) := by
  have hfree : r.store.associations.rows.any (·.device == d.id) = false :=
    List.any_eq_false.mpr fun a ha => by simpa using h.free a ha
  rw [step_delete, h.wellFormed.checkIdentifiers]
  simp only [Delete.commit_of_means off ordered h.wellFormed h.means, if_pos h.provisioned, hfree,
    Bool.false_eq_true, if_false]
  cases timestamp env.now with
  | error e => rfl
  | ok stamp =>
    show afterwards _ _ _ _ = _
    unfold afterwards
    rw [off]
    rfl

theorem step_delete_of_refuses (off : env.settings.synchronises = false)
    (ordered : r.store.devices.rows.Pairwise fun d e => d.id < e.id)
    (h : Delete.Refuses r.store imei serialNumber cause) :
    r.step env (.delete imei serialNumber) = (.error (.rejected cause), r) := by
  have committed : ∀ {e}, Delete.WellFormed imei serialNumber →
      Delete.commit env.settings env.now imei serialNumber r.store = .error e →
      r.step env (.delete imei serialNumber) = (.error e, r) := by
    intro e wellFormed he
    rw [step_delete, wellFormed.checkIdentifiers]
    simp only [he]
  have checked : Delete.checkIdentifiers imei serialNumber = .error cause →
      r.step env (.delete imei serialNumber) = (.error (.rejected cause), r) := by
    intro hcheck
    rw [step_delete, hcheck]
  cases h with
  | unnamed unnamed =>
    refine checked ?_
    rw [Delete.checkIdentifiers_eq, if_neg (by simp [unnamed])]
  | imeiMalformed named malformed =>
    refine checked ?_
    rw [Delete.checkIdentifiers_eq, if_pos named, if_neg malformed]
  | serialNumberMalformed named numeric malformed =>
    refine checked ?_
    rw [Delete.checkIdentifiers_eq, if_pos named, if_pos numeric, if_neg malformed]
  | unknown wellFormed unknown =>
    refine committed wellFormed ?_
    have hnone : r.store.deviceWith? (Store.identifierValues imei serialNumber) = none :=
      Option.eq_none_iff_forall_ne_some.mpr fun d hd =>
        have means := (Delete.deviceWith?_eq_some ordered wellFormed).mp hd
        unknown d means.stored means.hit
    unfold Delete.commit
    rw [hnone]
    rfl
  | notProvisioned wellFormed means notProvisioned =>
    refine committed wellFormed ?_
    rw [Delete.commit_of_means off ordered wellFormed means, if_neg notProvisioned]
  | @associated d a wellFormed means provisioned stored associated =>
    refine committed wellFormed ?_
    have hany : r.store.associations.rows.any (·.device == d.id) = true :=
      List.any_eq_true.mpr ⟨a, stored, by simpa using associated⟩
    rw [Delete.commit_of_means off ordered wellFormed means, if_pos provisioned, hany]
    rfl

end

/-! ## What a deletion leaves -/

/-- A store after a deletion: one device and its number are gone, the history has one more entry,
about the device as it was, and everything else is as it was. -/
structure Store.Deletes (s s' : Store) (d : Device) (now : String) : Prop where
  devices : s'.devices.rows = s.devices.rows.filter fun e => e.id ≠ d.id
  vins : s'.vins.rows = s.vins.rows.filter fun v => v.device ≠ d.id
  history : ∃ h, s'.history.rows = s.history.rows ++ [h] ∧ h.Depicts .deactivated d ∧
    h.recordedAt = now
  devicesGiven : s'.devices.lastId = s.devices.lastId
  vinsGiven : s'.vins.lastId = s.vins.lastId
  associations : s'.associations = s.associations
  uniqueIndexes : s'.uniqueIndexes = s.uniqueIndexes

/-- The entry keeps the columns of the device: one that counts as provisioned has no marks. -/
theorem Store.deletes_deleted (s : Store) (now : String) {d : Device}
    (provisioned : d.record.effectiveState = .ok .provisioned) :
    s.Deletes (s.deleted now d) d now where
  devices := List.filter_congr fun e _ => by by_cases he : e.id = d.id <;> simp [he]
  vins := List.filter_congr fun v _ => by by_cases hv : v.device = d.id <;> simp [hv]
  history := ⟨_, history_appendHistory,
    depicts_snapshot (Device.shows_of_deletable (Device.deletable_iff.mpr provisioned)) s now
      .deactivated, rfl⟩
  devicesGiven := rfl
  vinsGiven := rfl
  associations := rfl
  uniqueIndexes := rfl

/-- How a deletion is answered, and what it leaves. An accepted one is answered with the record of
the device before; nothing changes if the request is refused, or if the clock has left the years of
a timestamp. -/
inductive Delete.Settles (env : Environment) (imei serialNumber : Option String) (r : Registry) :
    Except Failure Answer → Registry → Prop
  | deleted {d : Device} {stamp : Calendar.Stamp} {s : Store}
      (accepted : Accepts r.store imei serialNumber d) (clock : env.now.stamp? = some stamp)
      (deletes : r.store.Deletes s d stamp.text) :
      Settles env imei serialNumber r (.ok (.record d.record)) { r with store := s }
  | refused {cause : Rejection} (refused : Refuses r.store imei serialNumber cause) :
      Settles env imei serialNumber r (.error (.rejected cause)) r
  | untimed {d : Device} (accepted : Accepts r.store imei serialNumber d)
      (clock : env.now.stamp? = none) :
      Settles env imei serialNumber r (.error .clockOutOfYears) r

namespace Registry

/-- While the vehicle service is not kept in step, every deletion is settled by the conditions that
it has to meet, with the first that it does not meet as the cause of a refusal. If the clock can be
read it succeeds exactly if it is accepted. The condition on the stored columns and the state that
the record counts as agree on every device; and a device that does not exist, one that does not
count as provisioned and one with an association are reported as problems of three kinds. -/
theorem delete_settled {env : Environment} (off : env.settings.synchronises = false) {r : Registry}
    (ordered : r.store.devices.rows.Pairwise fun d e => d.id < e.id)
    (imei serialNumber : Option String) :
    (∀ d : Device,
      Store.deletable d = true ↔ d.record.effectiveState = .ok .provisioned) ∧
    (∀ stamp, env.now.stamp? = some stamp →
      ((∃ record, (r.step env (.delete imei serialNumber)).1 = .ok (.record record)) ↔
        ∃ d, Delete.Accepts r.store imei serialNumber d)) ∧
    Delete.Settles env imei serialNumber r (r.step env (.delete imei serialNumber)).1
      (r.step env (.delete imei serialNumber)).2 ∧
    (Rejection.deleteNotFound.problem.kind = .notFound ∧
      Rejection.deleteNotFound.problem.code = "dfd-002" ∧
      Rejection.deleteNotProvisioned.problem.kind = .invalidState ∧
      Rejection.deleteRefused.problem.kind = .delete) := by
  refine ⟨fun d => Device.deletable_iff, fun stamp clock => ⟨?_, ?_⟩, ?_, rfl, by decide, rfl, rfl⟩
  · rintro ⟨record, hrecord⟩
    obtain accepted | ⟨cause, refused⟩ := Delete.accepts_or_refuses ordered
    · exact accepted
    · rw [step_delete_of_refuses off ordered refused] at hrecord
      cases hrecord
  · rintro ⟨d, accepted⟩
    rw [step_delete_of_accepts off ordered accepted, timestamp_eq_ok.mpr clock]
    exact ⟨_, rfl⟩
  · obtain ⟨d, accepted⟩ | ⟨cause, refused⟩ := Delete.accepts_or_refuses ordered
    · rw [step_delete_of_accepts off ordered accepted, timestamp]
      cases clock : env.now.stamp? with
      | none => exact .untimed accepted clock
      | some stamp =>
        exact .deleted accepted clock (r.store.deletes_deleted stamp.text accepted.provisioned)
    · rw [step_delete_of_refuses off ordered refused]
      exact .refused refused

/-- Two devices have one IMEI. The first is marked stolen by a number other than one; with its
serial number the second is meant, and deleted with its number. -/
theorem delete_settled_second :
    let now := Sample.environment
    let profile : String → Profile := fun serial =>
      { imei := some "123", serialNumber := some serial, state := some "PROVISIONED" }
    let first : Device := { id := 3, profile := profile "S12", stolen := 5 }
    let second : Device := { id := 7, profile := profile "S34" }
    let r : Registry := { store := {
      devices := { rows := [first, second], lastId := 9 }
      vins := { rows := [{ id := 1, vin := "VIN00000000000001", device := 7 }], lastId := 1 }
      associations := { rows := [{ id := 1, device := 3, headUnit := none }], lastId := 1 } } }
    now.settings.synchronises = false ∧
      (r.store.devices.rows.Pairwise fun d e => d.id < e.id) ∧
      (∃ d, Delete.Accepts r.store "123" "S34" d) ∧
      (r.step now (.delete "123" "S34")).2.store.rowCounts = [1, 1, 0, 1] ∧
      Delete.Settles now "123" "S34" r (r.step now (.delete "123" "S34")).1
        (r.step now (.delete "123" "S34")).2 ∧
      (r.step now (.delete "123" none)).1 = .error (.rejected .deleteNotProvisioned) ∧
      Delete.Settles now "123" none r (r.step now (.delete "123" none)).1
        (r.step now (.delete "123" none)).2 := by
  intro now profile first second r
  have off : now.settings.synchronises = false := by decide
  have ordered : r.store.devices.rows.Pairwise fun d e => d.id < e.id := by decide
  obtain ⟨-, hsecond, hsettled, -⟩ := delete_settled off ordered "123" "S34"
  obtain ⟨-, -, hrefused, -⟩ := delete_settled off ordered "123" none
  obtain ⟨stamp, clock⟩ : ∃ stamp, now.now.stamp? = some stamp :=
    Option.isSome_iff_exists.mp (by decide +kernel)
  have hanswer : (r.step now (.delete "123" "S34")).1 = .ok (.record second.record) := by
    decide +kernel
  exact ⟨off, ordered, (hsecond stamp clock).mp ⟨_, hanswer⟩, by decide +kernel, hsettled,
    by decide +kernel, hrefused⟩

end Registry

end DeviceRegistry
