import DeviceRegistry.Lifecycle.Command
import DeviceRegistry.Proofs.Store.Statements

/-!
# What a transaction leaves

Each command has one kind of transaction. If it succeeds, the store it leaves is written down in
full: `created`, `moved`, `replaced`, `deleted`, or a device in a changed version; and with it what
the transaction had checked before.
-/

namespace DeviceRegistry

theorem timestamp_eq_ok {now : Calendar.Instant} {stamp : Calendar.Stamp} :
    timestamp now = .ok stamp ↔ now.stamp? = some stamp := by
  unfold timestamp
  cases now.stamp? with
  | none => exact ⟨nofun, nofun⟩
  | some t => rw [Except.ok.injEq, Option.some.injEq]

/-! ## Texts as a statement takes them -/

namespace Store

theorem bindProfile_eq_ok {raw : RawProfile} {p : Profile} (h : bindProfile raw = .ok p) :
    p = raw.shown := by
  unfold bindProfile at h
  split at h
  · exact (Except.ok.inj h).symm
  · cases h

theorem bindText?_eq_some {value : Option RawText} {s : String}
    (h : bindText? value = .ok (some s)) : value = some (.whole s) := by
  unfold bindText? at h
  cases value with
  | none => cases h
  | some t =>
    cases t with
    | whole t => cases h; rfl
    | broken codes => cases h

theorem bindText?_eq_none {value : Option RawText} (h : bindText? value = .ok none) :
    value = none := by
  unfold bindText? at h
  cases value with
  | none => rfl
  | some t => cases t <;> cases h

theorem bindText?_eq_ok {value : Option RawText} {bound : Option String}
    (h : bindText? value = .ok bound) : value = bound.map .whole := by
  cases bound with
  | none => exact bindText?_eq_none h
  | some s => exact bindText?_eq_some h

/-! ## Finding the device -/

theorem mem_of_deviceWith? {s : Store} {wanted : List Wanted} {d : Device}
    (h : s.deviceWith? wanted = some d) : d ∈ s.devices.rows ∧ d.has wanted = true := by
  unfold deviceWith? firstDevice? at h
  split at h
  · cases h
  · exact ⟨List.mem_of_find?_eq_some h, List.find?_some (p := fun d => Device.has d wanted) h⟩

theorem eq_some_of_found {ref : DeviceReference} {found : Option Device} {d : Device}
    (h : (match found with
      | some d => pure d
      | none => throw (.rejected (.deviceNotFound ref)) : Except Failure Device) = .ok d) :
    found = some d := by
  cases found with
  | none => cases h
  | some e =>
    cases h
    rfl

theorem mem_of_resolve {s : Store} {ref : DeviceReference} {d : Device}
    (h : s.resolve ref = .ok d) : d ∈ s.devices.rows := by
  unfold resolve at h
  cases ref with
  | idAndImei id imei =>
    obtain ⟨_, _, h⟩ := bind_eq_ok.mp h
    exact List.mem_of_find?_eq_some (eq_some_of_found h)
  | factoryId id =>
    obtain ⟨_, _, h⟩ := bind_eq_ok.mp h
    exact List.mem_of_find?_eq_some (eq_some_of_found h)
  | imei imei => exact List.mem_of_find?_eq_some (eq_some_of_found h)

/-- The id of a stored device finds a device, its own one if ids are not given twice. -/
theorem exists_device? {s : Store} {d : Device} (hd : d ∈ s.devices.rows) :
    ∃ e, s.device? d.id = some e :=
  Table.exists_find? hd (by simp)

/-! ## Creating -/

/-- The store with a new device, its number if it has one, and its first history entry. -/
def created (s : Store) (now : String) (p : Profile) (vin : Option String) : Store :=
  let d := newDevice now p s.devices.nextId
  let vins : Table VinRow :=
    match vin with
    | some vin => s.vins.append fun id => { id := id, vin := vin, device := d.id }
    | none => s.vins
  { s with devices := s.devices.append (newDevice now p), vins := vins }.appendHistory now d.record
    .provisioned

theorem vin?_created {s : Store} {now : String} {p : Profile} {vin : Option String} {x : Int}
    (hx : x ≠ s.devices.nextId) : (s.created now p vin).vin? x = s.vin? x := by
  cases vin with
  | none => rfl
  | some vin =>
    have hnew : ((newDevice now p s.devices.nextId).id == x) = false := by
      simpa using fun h => hx h.symm
    unfold created vin? appendHistory
    simp only [Table.rows_append, List.find?_append, List.find?_singleton, hnew]
    simp

theorem insertDevice_eq_ok {s s' : Store} {now : String} {p : Profile} {d : Device}
    (h : s.insertDevice now p = .ok (d, s')) :
    s.accept (newDevice now p s.devices.nextId) = .ok () ∧
      d = newDevice now p s.devices.nextId ∧
      s' = { s with devices := s.devices.append (newDevice now p) } := by
  unfold insertDevice at h
  obtain ⟨_, ha, h⟩ := bind_eq_ok.mp h
  cases h
  exact ⟨ha, rfl, rfl⟩

end Store

theorem Create.insert_eq_ok {now : Calendar.Instant} {p : PreparedDevice} {s s' : Store}
    {r : DeviceRecord} (h : Create.insert now p s = .ok (r, s')) :
    ∃ stamp profile vin, timestamp now = .ok stamp ∧ Store.bindProfile p.profile = .ok profile ∧
      Store.bindText? p.vehicle.vin = .ok vin ∧
      s.accept (Store.newDevice stamp.text profile s.devices.nextId) = .ok () ∧
      s' = s.created stamp.text profile (Text.filled? vin) ∧
      r = { (Store.newDevice stamp.text profile s.devices.nextId).record with vin := vin } := by
  unfold Create.insert at h
  simp only [bind_eq_ok, storedOr_eq_ok] at h
  obtain ⟨stamp, hstamp, profile, hprofile, ⟨d, s₁⟩, hinsert, vin, hvin, h⟩ := h
  obtain ⟨haccept, rfl, rfl⟩ := Store.insertDevice_eq_ok hinsert
  refine ⟨stamp, profile, vin, hstamp, hprofile, hvin, haccept, ?_⟩
  unfold Store.created
  cases hfilled : Text.filled? vin with
  | none =>
    rw [hfilled] at h
    cases h
    exact ⟨rfl, rfl⟩
  | some v =>
    simp only [hfilled, bind_eq_ok] at h
    obtain ⟨s₂, hput, h⟩ := h
    cases h
    generalize hrow : Store.insertVin _ _ _ = row at hput
    cases row with
    | error e => cases hput
    | ok x =>
      cases hput
      obtain ⟨-, hx⟩ := Store.insertVin_eq_ok hrow
      exact ⟨congrArg _ hx, rfl⟩

/-! ## Changing the state -/

/-- The store with a device moved to a state and an entry about it in the history. -/
def Store.moved (s : Store) (now : String) (d : Device) (target : DeviceState) : Store :=
  (s.withDevice (d.moved target)).appendHistory now (d.moved target).record .updated

theorem StateChange.target_eq_ok {q : StateChange} {target : DeviceState} :
    q.target = .ok target ↔ q.state = some target := by
  unfold StateChange.target
  cases q.state with
  | none => exact ⟨nofun, nofun⟩
  | some t => exact ⟨fun h => congrArg _ (Except.ok.inj h), fun h => congrArg _ (Option.some.inj h)⟩

theorem changeState_eq_ok {now : Calendar.Instant} {q : StateChange} {s s' : Store}
    {r : DeviceRecord} (hn : s.Numbered) (h : changeState now q s = .ok (r, s')) :
    ∃ d current target stamp, d ∈ s.devices.rows ∧ d.record.effectiveState = .ok current ∧
      current.allows target = true ∧
      (target = .active → Transition.isAssociated (s.headUnit? d.id) = true) ∧
      timestamp now = .ok stamp ∧ s' = s.moved stamp.text d target ∧
      r = (d.moved target).record ∧ q.state = some target := by
  unfold changeState at h
  simp only [bind_eq_ok, checked_eq_ok, stored_eq_ok] at h
  obtain ⟨ref, _, target, htarget, _, _, d, hresolved, current, hcurrent, _, hallowed, _, hunit,
    ⟨n, s₁⟩, hupdate, _, _, h⟩ := h
  have hmem := Store.mem_of_resolve hresolved
  have hd := Store.device?_of_mem hn hmem
  have hactive : target = .active → Transition.isAssociated (s.headUnit? d.id) = true := by
    intro hactive
    rw [Transition.checkHeadUnit, if_pos hactive] at hunit
    exact require_eq_ok.mp hunit
  obtain ⟨_, _, hnone⟩ | ⟨_, e, he, _, rfl⟩ := Store.updateDevice_eq_ok hupdate
  · rw [hd] at hnone
    exact absurd hnone (by simp [Change.ofState])
  · obtain rfl : e = d := Option.some.inj (he.symm.trans hd)
    have hfind : (s.withDevice (e.moved target)).device? e.id = some (e.moved target) :=
      Store.device?_withDevice_self (d := e.moved target) hd
    rw [show e.change (Change.ofState target) = e.moved target from rfl, hfind] at h
    simp only [bind_eq_ok] at h
    obtain ⟨stamp, hstamp, h⟩ := h
    cases h
    exact ⟨e, current, target, stamp, hmem, hcurrent, require_eq_ok.mp hallowed, hactive, hstamp,
      rfl, rfl, StateChange.target_eq_ok.mp htarget⟩

/-! ## Updating -/

namespace Update

theorem change_changes (d : Device) (p : Profile) :
    d.change (changes p) = d.taking updateColumns p :=
  d.change_texts updateColumns p

/-- What the checks of the numbers find, and the number that the device gets: none outside the
integrated mode; in it the device has the number that is given for it, and a new one is given and is
nobody else's, or it keeps the one it has. -/
inductive Renumbers (settings : Settings) (p : Prepared) (device : Int) (s : Store) :
    Option String → Prop
  | unchecked (off : settings.checksVins = false) : Renumbers settings p device s none
  | kept {old : String} (on : settings.checksVins = true) (given : p.currentVin = some (.whole old))
      (owned : s.vinMatches device (some old) = true)
      (same : p.vehicle.vin = none ∨ p.vehicle.vin = p.currentVin) :
      Renumbers settings p device s none
  | changed {old new : String} (on : settings.checksVins = true)
      (given : p.currentVin = some (.whole old))
      (owned : s.vinMatches device (some old) = true) (wanted : p.vehicle.vin = some (.whole new))
      (free : ∀ v ∈ s.vins.rows, v.vin = new → v.device = device) :
      Renumbers settings p device s (some new)

theorem vinMatches_none (s : Store) (device : Int) : s.vinMatches device none = false := by
  simp [Store.vinMatches]

theorem checkVins_eq_ok {settings : Settings} {p : Prepared} {device : Int} {s : Store} {b : Bool}
    (h : checkVins settings p device s = .ok b) :
    ∃ vin, Renumbers settings p device s vin ∧ b = vin.isSome := by
  unfold checkVins at h
  cases hon : settings.checksVins with
  | false =>
    rw [hon] at h
    cases h
    exact ⟨none, .unchecked hon, rfl⟩
  | true =>
    simp only [hon, Bool.not_true, Bool.false_eq_true, if_false, bind_eq_ok, checked_eq_ok] at h
    obtain ⟨old?, hold, _, hmatch, h⟩ := h
    have howned := require_eq_ok.mp hmatch
    cases old? with
    | none =>
      rw [vinMatches_none] at howned
      cases howned
    | some old =>
      have hgiven := Store.bindText?_eq_some hold
      split at h
      · rename_i hsame
        cases h
        exact ⟨none, .kept hon hgiven howned (.inr hsame), rfl⟩
      · simp only [bind_eq_ok, checked_eq_ok] at h
        obtain ⟨new?, hnew, _, hfree, h⟩ := h
        cases h
        cases new? with
        | none =>
          exact ⟨none, .kept hon hgiven howned (.inl (Store.bindText?_eq_none hnew)), rfl⟩
        | some new =>
          have hall := require_eq_ok.mp hfree
          refine ⟨some new, .changed hon hgiven howned (Store.bindText?_eq_some hnew) ?_, rfl⟩
          intro v hv hvin
          simp only [Store.vinOwners, List.all_map, List.all_filter, List.all_eq_true] at hall
          simpa [hvin] using hall v hv

end Update

/-- The store with a device in a new version, and with a new number for it if there is one. -/
def Store.replaced (s : Store) (d : Device) (vin : Option String) : Store :=
  match vin with
  | some vin => (s.withDevice d).withVin d.id vin
  | none => s.withDevice d

theorem Update.Renumbers.exists_vin {settings : Settings} {p : Prepared} {device : Int} {s : Store}
    {vin : String} (h : Renumbers settings p device s (some vin)) :
    s.vins.rows.any (·.device == device) = true := by
  cases h with
  | changed on given owned wanted free =>
    obtain ⟨v, hv, hdevice⟩ := List.any_eq_true.mp owned
    exact List.any_eq_true.mpr ⟨v, hv, (Bool.and_eq_true _ _ ▸ hdevice).1⟩

theorem Update.store_eq_ok {p : Prepared} {device : Int} {s s' : Store} {d : Device}
    {vin : Option String} {settings : Settings} (hd : s.device? device = some d)
    (hvin : Renumbers settings p device s vin) (h : store p device vin.isSome s = .ok s') :
    s' = s.replaced (d.taking updateColumns p.replacement.shown) vin := by
  have hid : d.id = device := (Store.mem_of_device? hd).2
  unfold store at h
  simp only [bind_eq_ok, storedOr_eq_ok] at h
  obtain ⟨new, hnew, ⟨n, s₁⟩, hupdate, h⟩ := h
  obtain rfl := Store.bindProfile_eq_ok hnew
  obtain ⟨_, _, hnone⟩ | ⟨_, e, he, _, rfl⟩ := Store.updateDevice_eq_ok hupdate
  · rw [hd] at hnone
    exact absurd hnone (by simp [changes, updateColumns, updateMandatoryColumns])
  · obtain rfl : e = d := Option.some.inj (he.symm.trans hd)
    rw [change_changes] at h
    unfold Store.replaced
    cases hvin with
    | unchecked off => exact (Except.ok.inj h).symm
    | kept on given owned same => exact (Except.ok.inj h).symm
    | changed on given owned wanted free =>
      have hany := Renumbers.exists_vin (.changed on given owned wanted free)
      simp only [Option.isSome_some, if_true, wanted, Store.bindText?, Store.bindText, Except.map,
        bind_eq_ok, storedOr_eq_ok] at h
      obtain ⟨_, hv, h⟩ := h
      cases hv
      rw [Store.putVin_of_any (s := s.withDevice (e.taking updateColumns p.replacement.shown))
        hany] at h
      rw [Device.id_taking, hid]
      exact (Except.ok.inj h).symm

theorem Store.device?_replaced {s : Store} {d old : Device} (vin : Option String)
    (h : s.device? d.id = some old) : (s.replaced d vin).device? d.id = some d := by
  cases vin with
  | none => exact device?_withDevice_self h
  | some vin => exact device?_withDevice_self h

theorem Store.devices_replaced (s : Store) (d : Device) (vin : Option String) :
    (s.replaced d vin).devices = (s.withDevice d).devices := by
  cases vin <;> rfl

theorem Store.vin?_replaced_of_ne {s : Store} {d : Device} {vin : Option String} {x : Int}
    (hx : x ≠ d.id) : (s.replaced d vin).vin? x = s.vin? x := by
  cases vin with
  | none => rfl
  | some vin => exact vin?_withVin_of_ne hx

theorem Update.commit_eq_ok {settings : Settings} {p : Prepared} {s s' : Store}
    {r : DeviceRecord} {sent : Option String} (h : commit settings p s = .ok ((r, sent), s')) :
    ∃ found d vin, s.deviceWith? (wanted p.current.shown) = some found ∧
      s.device? found.id = some d ∧ found.record.effectiveState = .ok .provisioned ∧
      Renumbers settings p found.id s vin ∧
      s' = s.replaced (d.taking updateColumns p.replacement.shown) vin ∧
      r = { (d.taking updateColumns p.replacement.shown).record with vin := s'.vin? found.id } ∧
      sent = s'.vinByIdentifiers? p.replacement.shown.imei p.replacement.shown.serialNumber := by
  unfold commit at h
  simp only [bind_eq_ok] at h
  obtain ⟨old, hold, h⟩ := h
  obtain rfl := Store.bindProfile_eq_ok hold
  cases hwith : s.deviceWith? (wanted p.current.shown) with
  | none =>
    rw [hwith] at h
    cases h
  | some found =>
    simp only [hwith, bind_eq_ok, checked_eq_ok] at h
    obtain ⟨current, hcurrent, _, hprovisioned, newVin, hvins, changed, hstore, h⟩ := h
    cases h
    obtain rfl : current = .provisioned := by simpa using require_eq_ok.mp hprovisioned
    obtain ⟨d, hd⟩ := Store.exists_device? (Store.mem_of_deviceWith? hwith).1
    obtain ⟨vin, hrenumbers, rfl⟩ := checkVins_eq_ok hvins
    have hchanged := Update.store_eq_ok hd hrenumbers hstore
    refine ⟨found, d, vin, rfl, hd, hcurrent, hrenumbers, hchanged, ?_, rfl⟩
    have hid : d.id = found.id := (Store.mem_of_device? hd).2
    have hafter : s'.device? found.id = some (d.taking updateColumns p.replacement.shown) := by
      rw [hchanged, ← hid]
      exact Store.device?_replaced (d := d.taking updateColumns p.replacement.shown) vin
        (hid ▸ hd)
    rw [hafter]
    rfl

/-! ## Deleting -/

/-- The store without a device and with a last entry about it in the history. -/
def Store.deleted (s : Store) (now : String) (d : Device) : Store :=
  (s.withoutDevice d.id).appendHistory now d.record .deactivated

theorem Delete.commit_eq_ok {settings : Settings} {now : Calendar.Instant}
    {imei serialNumber : Option String} {s s' : Store} {r : DeviceRecord} {vin : Option String}
    (h : commit settings now imei serialNumber s = .ok ((r, vin), s')) :
    ∃ found d stamp, s.deviceWith? (Store.identifierValues imei serialNumber) = some found ∧
      s.device? found.id = some d ∧ Store.deletable d = true ∧
      s.associations.rows.any (·.device == found.id) = false ∧
      vin = Text.filled? (s.vin? found.id) ∧
      (settings.synchronises = true → vin.isSome = true) ∧
      timestamp now = .ok stamp ∧ s' = s.deleted stamp.text found ∧ r = found.record := by
  unfold commit at h
  cases hwith : s.deviceWith? (Store.identifierValues imei serialNumber) with
  | none =>
    rw [hwith] at h
    cases h
  | some found =>
    simp only [hwith, bind_eq_ok, checked_eq_ok, storedOr_eq_ok] at h
    obtain ⟨_, hgiven, ⟨n, s₁⟩, hdelete, _, hrows, stamp, hstamp, h⟩ := h
    cases h
    obtain ⟨rfl, rfl⟩ | ⟨-, d, hd, hdeletable, hfree, rfl⟩ := Store.deleteDevice_eq_ok hdelete
    · exact absurd (require_eq_ok.mp hrows) (by simp)
    · refine ⟨found, d, stamp, rfl, hd, hdeletable, hfree, rfl, ?_, hstamp, rfl, rfl⟩
      intro hsync
      simpa [hsync] using require_eq_ok.mp hgiven

/-! ## Changing attributes -/

theorem Attributes.prepare_state {q : AttributeUpdate} {p : RawProfile}
    (h : prepare q = .ok p) :
    p.state = q.changes.state ∧ Identifier.checkStateName p.shown.state = .ok () := by
  unfold prepare at h
  simp only [bind_eq_ok] at h
  obtain ⟨_, _, _, _, _, hstate, _, _, h⟩ := h
  unfold RawProfile.withGivenDates at h
  simp only [bind_eq_ok] at h
  obtain ⟨m, _, r, _, h⟩ := h
  cases h
  exact ⟨rfl, hstate⟩

theorem Attributes.state_shown {q : AttributeUpdate} {p : RawProfile} (h : prepare q = .ok p) :
    p.shown.state = q.changes.state.map RawText.shown := by
  have hp : p.shown.get .state = p.state.map RawText.shown := Columns.get_map _ _ _
  rw [(prepare_state h).1] at hp
  exact hp

theorem Attributes.state_taking {q : AttributeUpdate} {p : RawProfile} (h : prepare q = .ok p)
    (d : Device) :
    (d.taking (Device.filledColumns p.shown) p.shown).profile.state =
      match q.changes.state with
      | some t => some t.shown
      | none => d.profile.state := by
  have htaking := Device.get_taking (Device.filledColumns p.shown) p.shown d .state
  have hp : p.shown.get .state = q.changes.state.map RawText.shown := state_shown h
  simp only [Device.mem_filledColumns, hp] at htaking
  show (d.taking (Device.filledColumns p.shown) p.shown).profile.get .state = _
  rw [htaking]
  cases q.changes.state with
  | none => rfl
  | some t => rfl

theorem updateAttributes_eq_ok {q : AttributeUpdate} {s s' : Store} {n : Nat}
    (h : updateAttributes q s = .ok (n, s')) :
    ∃ p d, Attributes.prepare q = .ok p ∧ s.device? q.id = some d ∧ n = 1 ∧
      s' = s.withDevice (d.taking (Device.filledColumns p.shown) p.shown) := by
  unfold updateAttributes at h
  simp only [bind_eq_ok, checked_eq_ok, storedOr_eq_ok] at h
  obtain ⟨p, hprepare, bound, hbound, _, _, ⟨m, s₁⟩, hupdate, _, hrows, h⟩ := h
  cases h
  obtain rfl := Store.bindProfile_eq_ok hbound
  obtain ⟨rfl, -, -⟩ | ⟨rfl, d, hd, -, rfl⟩ := Store.updateDevice_eq_ok hupdate
  · exact absurd (require_eq_ok.mp hrows) (by simp)
  · exact ⟨p, d, hprepare, hd, rfl, by rw [Device.change_ofProfile]⟩

/-! ## Associating -/

/-- The store with a head unit associated with a device. -/
def Store.associated (s : Store) (device : Int) (headUnit : Option String) : Store :=
  { s with
    associations := s.associations.append fun id =>
      { id := id, device := device, headUnit := headUnit } }

theorem associate_eq_ok {device : Option Int} {headUnit : Option String} {s s' : Store} {id : Int}
    (h : associate device headUnit s = .ok (id, s')) :
    ∃ x, device = some x ∧ (s.device? x).isSome = true ∧ s' = s.associated x headUnit := by
  unfold associate at h
  cases device with
  | none => exact Store.associate_eq_ok (stored_eq_ok.mp h)
  | some x =>
    simp only [bind_eq_ok, stored_eq_ok] at h
    obtain ⟨_, _, h⟩ := h
    exact Store.associate_eq_ok h

end DeviceRegistry
