import DeviceRegistry.Proofs.Device.States
import DeviceRegistry.Proofs.Lifecycle.Effects

/-!
# Devices that were active

A device becomes active only while the head unit associated with it last has an id. Associations are
never taken back, and a device that one refers to is never deleted. So a device that was active once
stays stored for the rest of the run, together with such an association; whatever state it is moved
to later, each deletion that finds it is refused and changes nothing.
-/

namespace DeviceRegistry

namespace Store

/-- A device is stored, and a head unit with an id is associated with it. -/
structure Equipped (s : Store) (device : Int) : Prop where
  stored : ∃ d ∈ s.devices.rows, d.id = device
  associated : ∃ a ∈ s.associations.rows,
    a.device = device ∧ Transition.isAssociated a.headUnit = true

variable {s : Store}

theorem exists_association {device : Int}
    (h : Transition.isAssociated (s.headUnit? device) = true) :
    ∃ a ∈ s.associations.rows, a.device = device ∧ Transition.isAssociated a.headUnit = true := by
  unfold headUnit? association? at h
  cases ha : s.associations.rows.reverse.find? fun a => a.device == device with
  | none =>
    rw [ha] at h
    cases h
  | some a =>
    rw [ha] at h
    exact ⟨a, List.mem_reverse.mp (List.mem_of_find?_eq_some ha), by simpa using List.find?_some ha,
      h⟩

theorem Equipped.any_association {device : Int} (h : s.Equipped device) :
    s.associations.rows.any (·.device == device) = true := by
  obtain ⟨a, ha, hdevice, -⟩ := h.associated
  exact List.any_eq_true.mpr ⟨a, ha, by simpa using hdevice⟩

theorem associations_replaced (s : Store) (d : Device) (vin : Option String) :
    (s.replaced d vin).associations = s.associations := by
  cases vin <;> rfl

end Store

/-- An equipped device stays equipped: no transaction takes an association back, and the one that
deletes a device does not find a device with an association. -/
theorem Effect.equipped {env : Environment} {s s' : Store} {c : Command} {x : Int}
    (h : Effect env s c s') (hx : s.Equipped x) : s'.Equipped x := by
  obtain ⟨⟨d, hd, hid⟩, a, ha, hunit⟩ := hx
  cases h with
  | created ready member fresh bound accepted =>
    exact ⟨⟨d, Table.mem_append.mpr (.inl hd), hid⟩, a, ha, hunit⟩
  | moved stored effective allowed headUnit =>
    exact ⟨Store.exists_id_withDevice.mpr ⟨d, hd, hid⟩, a, ha, hunit⟩
  | @replaced q p e vin ready stored effective renumbers =>
    refine ⟨?_, a, by rwa [Store.associations_replaced], hunit⟩
    rw [Store.devices_replaced]
    exact Store.exists_id_withDevice.mpr ⟨d, hd, hid⟩
  | @deleted imei serialNumber e now stored deletable free =>
    -- Nothing is associated with the device that is deleted, so it is another one.
    have hne : d.id ≠ e.id := by
      intro hde
      have hany := Store.Equipped.any_association ⟨⟨d, hd, rfl⟩, a, ha, hid ▸ hunit⟩
      rw [hde, free] at hany
      cases hany
    exact ⟨⟨d, Store.mem_withoutDevice.mpr ⟨hd, hne⟩, hid⟩, a, ha, hunit⟩
  | changed ready stored named =>
    exact ⟨Store.exists_id_withDevice.mpr ⟨d, hd, hid⟩, a, ha, hunit⟩
  | associated stored => exact ⟨⟨d, hd, hid⟩, a, Table.mem_append.mpr (.inl ha), hunit⟩

theorem equipped_of_changeState {now : Calendar.Instant} {q : StateChange} {s s' : Store}
    {r : DeviceRecord} (hn : s.Numbered) (h : changeState now q s = .ok (r, s'))
    (hq : q.state = some .active) : s.Equipped r.id := by
  obtain ⟨d, current, target, stamp, hmem, -, -, hunit, -, -, rfl, htarget⟩ :=
    changeState_eq_ok hn h
  obtain rfl : target = .active := Option.some.inj (htarget.symm.trans hq)
  exact ⟨⟨d, hmem, rfl⟩, Store.exists_association (hunit rfl)⟩

namespace Registry

theorem equipped_after {r : Registry} (hn : r.store.Numbered) {x : Int}
    (hx : r.store.Equipped x) (run : List (Environment × Command)) :
    (r.after run).store.Equipped x :=
  (store_after_effects (P := fun s => s.Equipped x) (A := fun _ => True)
    (fun _ _ _ _ _ h hs => h.equipped hs) (fun _ _ => trivial) hn hx).2

end Registry

/-! ## Deletions -/

namespace Delete

/-- Why a device with an association is not deleted. -/
def refusal (settings : Settings) (s : Store) (d : Device) : Rejection :=
  if settings.synchronises && (Text.filled? (s.vin? d.id)).isNone then .deleteVinMissing
  else if Store.deletable d then .deleteRefused
  else .deleteNotProvisioned

/-- The local part of a deletion ends at a device with an association. -/
theorem commit_of_associated {settings : Settings} {now : Calendar.Instant}
    {imei serialNumber : Option String} {s : Store} {d : Device} (hn : s.Numbered)
    (chosen : s.deviceWith? (Store.identifierValues imei serialNumber) = some d)
    (associated : s.associations.rows.any (·.device == d.id) = true) :
    commit settings now imei serialNumber s = .error (.rejected (refusal settings s d)) := by
  have hd := Store.device?_of_mem hn (Store.mem_of_deviceWith? chosen).1
  unfold commit refusal
  rw [chosen]
  simp only [Store.deleteDevice, hd, associated]
  cases settings.synchronises <;> cases Text.filled? (s.vin? d.id) <;>
    cases Store.deletable d <;> rfl

/-- If the device counts as provisioned, this is refused as a deletion. -/
theorem kind_refusal {settings : Settings} {s : Store} {d : Device}
    (h : d.record.effectiveState = .ok .provisioned) :
    (refusal settings s d).problem.kind = .delete := by
  unfold refusal
  rw [Device.deletable_iff.mpr h]
  split <;> rfl

end Delete

namespace Registry

/-- A device that was moved to the active state keeps an association with a head unit that has an
id, in every later store of the run. It is never deleted, whatever happens to it: a deletion that
finds it is refused, for a provisioned device as a deletion, and leaves everything as it was. -/
theorem activated_stays (link : Link) (earlier later : List (Environment × Command))
    {env : Environment} {q : StateChange} {record : DeviceRecord}
    (moved : ((after { link := link } earlier).step env (.changeState q)).1 = .ok (.record record))
    (target : q.state = some .active) :
    let r := after { link := link } (earlier ++ (env, .changeState q) :: later)
    r.store.Equipped record.id ∧
      ∀ now imei serialNumber d, Delete.checkIdentifiers imei serialNumber = .ok () →
        r.store.deviceWith? (Store.identifierValues imei serialNumber) = some d →
        d.id = record.id →
        ∃ cause, r.step now (.delete imei serialNumber) = (.error (.rejected cause), r) ∧
          (d.record.effectiveState = .ok .provisioned → cause.problem.kind = .delete) := by
  have hn : (after { link := link } earlier).store.Numbered :=
    numbered_after earlier Store.numbered_empty
  have hequipped : (after { link := link } earlier).store.Equipped record.id := by
    rw [step_changeState] at moved
    cases hchange : changeState env.now q (after { link := link } earlier).store with
    | error e =>
      rw [hchange] at moved
      cases moved
    | ok x =>
      rw [hchange] at moved
      obtain rfl : x.1 = record := by simpa using moved
      exact equipped_of_changeState hn hchange target
  intro r
  have hlater : r = (after { link := link } earlier).after ((env, .changeState q) :: later) :=
    after_append _ _ _
  have hr : r.store.Equipped record.id := by
    rw [hlater]
    exact equipped_after hn hequipped _
  have hrn : r.store.Numbered := by
    rw [hlater]
    exact numbered_after _ hn
  refine ⟨hr, ?_⟩
  intro now imei serialNumber d ready chosen hid
  refine ⟨Delete.refusal now.settings r.store d, ?_, Delete.kind_refusal⟩
  rw [step_delete, ready]
  simp only [Delete.commit_of_associated hrn chosen (hid ▸ hr.any_association)]

/-- A device that was active, was stolen and found again, and counts as provisioned. -/
theorem activated_stays_when_provisioned :
    let now := Sample.environment
    let earlier := [
      (now, Command.create "admin" [Sample.device "S12" "123" "VIN00000000000001"]),
      (now, Command.changeState { factoryId := some 1, state := some .stolen }),
      (now, Command.associate (some 1) (some "H1"))]
    let q : StateChange := { factoryId := some 1, state := some .active }
    let later := [
      (now, Command.changeState { factoryId := some 1, state := some .stolen }),
      (now, Command.changeState { factoryId := some 1, state := some .provisioned })]
    let r := after {} (earlier ++ (now, .changeState q) :: later)
    q.state = some .active ∧ Delete.checkIdentifiers "123" none = .ok () ∧
      ∃ record d, ((after {} earlier).step now (.changeState q)).1 = .ok (.record record) ∧
        r.store.deviceWith? (Store.identifierValues "123" none) = some d ∧ d.id = record.id ∧
        d.record.effectiveState = .ok .provisioned ∧ r.store.Equipped record.id ∧
        ∃ cause, r.step now (.delete "123" none) = (.error (.rejected cause), r) ∧
          cause.problem.kind = .delete := by
  intro now earlier q later r
  have hanswer : (((after {} earlier).step now (.changeState q)).1.toOption.bind fun
      | .record record => some record.id
      | _ => none) = some 1 := by
    decide +kernel
  have hfound : ((r.store.deviceWith? (Store.identifierValues "123" none)).map fun d =>
      (d.id, Store.deletable d)) = some (1, true) := by
    decide +kernel
  have ready : Delete.checkIdentifiers "123" none = .ok () := by decide +kernel
  obtain ⟨answer, hok, hrecord⟩ := Option.bind_eq_some_iff.mp hanswer
  obtain ⟨d, chosen, hd⟩ := Option.map_eq_some_iff.mp hfound
  obtain ⟨hid, hdeletable⟩ := Prod.mk.inj hd
  have effective := Device.deletable_iff.mp hdeletable
  cases answer with
  | record record =>
    have moved := toOption_eq_some.mp hok
    have hid : d.id = record.id := hid.trans (Option.some.inj hrecord).symm
    obtain ⟨hequipped, hrefused⟩ := activated_stays {} earlier later moved rfl
    obtain ⟨cause, hstep, hkind⟩ := hrefused now "123" none d ready chosen hid
    exact ⟨rfl, ready, record, d, moved, chosen, hid, effective, hequipped, cause, hstep,
      hkind effective⟩
  | created => cases hrecord
  | rows => cases hrecord
  | id => cases hrecord

end Registry

end DeviceRegistry
