import DeviceRegistry.Proofs.Lifecycle.Replacements

/-!
# Reversals

An update is undone by the update with its sides exchanged. The new version of the device is found by
what it was given, because no other device has it, and it counts as provisioned as before. What it was
given instead was stored before, so it can be stored again; no other device shares a unique column
with the old version, because none did; and in the integrated mode nobody else has the old number,
because a number belongs to one device. So the tables are as they were before the first update.
-/

namespace DeviceRegistry

/-! ## Versions -/

namespace Device.Takes

variable {c r : DeviceData} {x e : Device}

theorem holds (h : x.Takes r e) (hs : (r.profile.among updateColumns).Storable) :
    e.Holds updateColumns r.profile := by
  obtain rfl := takes_iff.mp h
  exact holds_taking hs

/-- The state that a device counts as is not among the columns that an update replaces. -/
theorem effectiveState_eq (h : x.Takes r e) :
    e.record.effectiveState = x.record.effectiveState := by
  have hstate : e.profile.state = x.profile.state := h.others .state (by decide)
  unfold DeviceRecord.effectiveState record
  simp only [h.stolen, h.faulty, hstate]

/-- What a device had is what it takes back, if all of it is given. -/
theorem reversed (h : x.Takes r e) (hx : x.Holds updateColumns c.profile) (hc : c.Complete)
    (package : c.profile.packageSerialNumber.isSome = true ∨
      x.profile.packageSerialNumber = none) : e.Takes c x := by
  refine ⟨h.id.symm, h.stolen.symm, h.faulty.symm, fun column hcolumn => ?_,
    fun column hcolumn => (h.others column hcolumn).symm⟩
  cases hgiven : c.profile.get column with
  | some t =>
    obtain ⟨v, hv, hstored⟩ := hx column hcolumn t hgiven
    rw [Option.bind_some, hv, hstored]
  | none =>
    -- Only the serial number of the package may be left out.
    rcases List.mem_append.mp hcolumn with hmandatory | hpackage
    · exact absurd hgiven (Option.isSome_iff_ne_none.mp (hc.given column hmandatory))
    · obtain rfl := List.mem_singleton.mp hpackage
      rcases package with hsome | hnone
      · rw [show c.profile.packageSerialNumber = none from hgiven] at hsome
        cases hsome
      · exact hnone

end Device.Takes

namespace Store

variable {s : Store} {d e : Device} {vin : Option String}

theorem mem_replaced {a : Device} (h : a ∈ (s.replaced d vin).devices.rows) :
    a = d ∨ a ∈ s.devices.rows ∧ a.id ≠ d.id := by
  rw [devices_replaced] at h
  exact (mem_withDevice.mp h).imp_left And.left

theorem unshared_replaced (h : e.id = d.id) : (s.replaced d vin).Unshared e ↔ s.Unshared e := by
  rw [← unshared_withDevice (s := s) h]
  unfold Unshared
  rw [devices_replaced]
  cases vin <;> rfl

theorem devices_replaced_replaced {w : Option String} (hn : s.Numbered) (he : e ∈ s.devices.rows)
    (h : e.id = d.id) : ((s.replaced d vin).replaced e w).devices = s.devices := by
  rw [devices_replaced]
  have hfirst : ((s.replaced d vin).withDevice e).devices =
      ((s.withDevice d).withDevice e).devices := by
    unfold withDevice
    rw [devices_replaced]
    rfl
  rw [hfirst, withDevice_withDevice h, withDevice_of_mem hn he]

end Store

/-! ## The reversal -/

/-- The numbers of a reversal agree: the device has the number that it was given, and its old one is
nobody else's, because no number belongs to two devices. -/
theorem Store.Grants.reversed {settings : Settings} {c r : DeviceData} {s : Store} {x e : Device}
    (owned : s.Owned) (on : settings.checksVins = true) (hid : e.id = x.id)
    (grants : settings.checksVins = true → s.Grants x.id c.vehicle.vin r.vehicle.vin)
    (given : r.vehicle.vin.isSome = true) :
    (s.replaced e (Update.newVin? settings c r)).Grants e.id r.vehicle.vin c.vehicle.vin := by
  obtain ⟨⟨old, hold, hvin⟩, ⟨new, hnew⟩, -⟩ := grants on
  have replaces : s.Replaces settings c r x e (s.replaced e (Update.newVin? settings c r)) :=
    replaces_replaced owned.vinsHeld hid grants
  obtain ⟨vin, rfl⟩ : ∃ vin, new = some vin := by
    rw [hnew, Option.isSome_map] at given
    exact Option.isSome_iff_exists.mp given
  refine ⟨⟨vin, hnew, ?_⟩, ⟨some old, hold⟩, fun _ w hw y _ hy => ?_⟩
  · rw [hid, replaces.number, Update.givenVin?, if_pos on, hnew]
    rfl
  · by_contra hne
    rw [vin?_replaced_of_ne hne] at hy
    obtain rfl : old = w := by simpa [hold] using hw
    exact hne ((owned.eq_of_vin? hy hvin).trans hid.symm)

theorem Update.Accepts.reversed {settings settings' : Settings} {c r : DeviceData} {s : Store}
    {x e : Device} (hs : s.Regular) (accepted : Accepts settings s c r x e) (hc : c.Complete)
    (mode : settings'.checksVins = settings.checksVins)
    (alone : ∀ y ∈ s.devices.rows, y.id ≠ x.id → ¬y.Holds updateColumns r.profile)
    (package : c.profile.packageSerialNumber.isSome = true ∨
      x.profile.packageSerialNumber = none)
    (owned : settings.checksVins = true → s.Owned ∧ r.vehicle.vin.isSome = true) :
    Accepts settings' (s.replaced e (newVin? settings c r)) r c e x := by
  have takes := accepted.takes
  have stored := accepted.means.stored
  have replaced : e ∈ (s.replaced e (newVin? settings c r)).devices.rows := by
    rw [Store.devices_replaced]
    exact Store.mem_withDevice.mpr (.inl ⟨rfl, x, stored, takes.id.symm⟩)
  refine
    { means := ⟨replaced, takes.holds accepted.storable, fun y hy holds => ?_⟩
      provisioned := takes.effectiveState_eq.trans accepted.provisioned
      takes := takes.reversed accepted.means.holds hc package
      unshared := (Store.unshared_replaced takes.id.symm).mpr (hs.distinct x stored)
      storable := accepted.means.holds.storable
      grants := fun on => ?_ }
  · rcases Store.mem_replaced hy with rfl | ⟨hold, hne⟩
    · exact Int.le_refl _
    · exact absurd holds (alone y hold (takes.id ▸ hne))
  · rw [mode] at on
    obtain ⟨owned, given⟩ := owned on
    exact Store.Grants.reversed owned on takes.id accepted.grants given

/-- After an update and its reversal the numbers are the ones before: in the integrated mode the
device has its old one again, and otherwise none was given. -/
theorem Store.Replaces.vins_reversed {settings settings' : Settings} {c r : DeviceData}
    {s s₁ s₂ : Store} {x e : Device} (there : s.Replaces settings c r x e s₁)
    (back : s₁.Replaces settings' r c e x s₂) (hv : s.VinsHeld) (hid : e.id = x.id)
    (mode : settings'.checksVins = settings.checksVins)
    (had : settings.checksVins = true →
      ∃ old, c.vehicle.vin = some (.whole old) ∧ s.vin? x.id = some old) :
    s₂.vins.rows = s.vins.rows := by
  rw [back.vins, there.vins, List.map_map]
  refine (List.map_congr_left fun v hvmem => ?_).trans s.vins.rows.map_id
  by_cases hdevice : v.device = x.id
  · cases on : settings.checksVins with
    | false =>
      have hnone : ∀ d, Update.givenVin? settings d = none := fun d => if_neg (by simp [on])
      have hnone' : ∀ d, Update.givenVin? settings' d = none := fun d => if_neg (by simp [mode, on])
      simp only [Function.comp_apply, hid, if_pos hdevice, hnone, hnone', Option.getD_none, id_eq]
    | true =>
      obtain ⟨old, hold, hvin⟩ := had on
      have hgiven : Update.givenVin? settings' c = some old := by
        rw [Update.givenVin?, if_pos (mode.trans on), hold]
        rfl
      have hown : v.vin = old := by
        rw [hv.vin?_eq_some.mpr ⟨v, hvmem, hdevice, rfl⟩] at hvin
        exact Option.some.inj hvin
      simp only [Function.comp_apply, hid, if_pos hdevice, hgiven, Option.getD_some, ← hown, id_eq]
  · simp [hdevice, hid]

namespace Store

/-- The tables of a store have the rows of another one, and its devices their counter. -/
structure Restores (s s' : Store) : Prop where
  devices : s'.devices = s.devices
  vins : s'.vins.rows = s.vins.rows
  history : s'.history = s.history
  associations : s'.associations = s.associations
  uniqueIndexes : s'.uniqueIndexes = s.uniqueIndexes

theorem Restores.vin?_eq {s s' : Store} (h : s.Restores s') (x : Int) : s'.vin? x = s.vin? x := by
  unfold vin?
  rw [h.vins]

theorem restores_of_accepts {settings settings' : Settings} {s : Store} (hs : s.Regular)
    (mode : settings'.checksVins = settings.checksVins) {c r : DeviceData} {x e : Device}
    (accepted : Update.Accepts settings s c r x e)
    (regular : (s.replaced e (Update.newVin? settings c r)).Regular)
    (reversed : Update.Accepts settings' (s.replaced e (Update.newVin? settings c r)) r c e x) :
    s.Restores ((s.replaced e (Update.newVin? settings c r)).replaced x
      (Update.newVin? settings' r c)) := by
  have hid := accepted.takes.id
  have there := replaces_replaced hs.linked.vins hid accepted.grants
  have back := replaces_replaced regular.linked.vins hid.symm reversed.grants
  exact
    { devices := devices_replaced_replaced hs.numbered accepted.means.stored hid.symm
      vins := there.vins_reversed back hs.linked.vins hid mode
        fun on => (accepted.grants on).owned
      history := back.history.trans there.history
      associations := back.associations.trans there.associations
      uniqueIndexes := back.uniqueIndexes.trans there.uniqueIndexes }

end Store

namespace Registry

theorem owned_after_blank (indexes : List UniqueIndex) (link : Link)
    {run : List (Environment × Command)} (hrun : ∀ e ∈ run, e.1.settings.checksVins = true) :
    (after { store := .blank indexes, link := link } run).store.Owned :=
  (store_after_effects (P := Store.Owned) (A := fun e => e.1.settings.checksVins = true)
    (fun _ _ _ he hn h hs => h.owned he hn hs) hrun (Store.regular_blank indexes).numbered
    (Store.owned_empty.congr rfl fun _ h => h)).2

theorem accepts_of_step {g : Registry} {env : Environment} (hs : g.store.Regular)
    (off : env.settings.synchronises = false) {c r : DeviceData} {x : Device}
    {record : DeviceRecord}
    (succeeds : (g.step env (.update { current := c, replacement := r })).1 = .ok (.record record))
    (hx : x ∈ g.store.devices.rows) (hid : record.id = x.id) :
    UpdateRequest.Passes { current := c, replacement := r } c r ∧
      ∃ e, Update.Accepts env.settings g.store c r x e := by
  obtain ⟨c', r', x', e, passes, accepted⟩ := (settles_update hs off).isOk_iff.mp ⟨record, succeeds⟩
  obtain rfl : c = c' := Option.some.inj passes.current
  obtain rfl : r = r' := Option.some.inj passes.replacement
  have hrecord : record.id = e.id := by
    have hanswer := succeeds.symm.trans
      (congrArg Prod.fst (step_update_of_accepts hs off passes accepted))
    rw [Answer.record.inj (Except.ok.inj hanswer)]
    rfl
  obtain rfl : x' = x := hs.numbered.devices.eq_of_id accepted.means.stored hx
    (accepted.takes.id.symm.trans (hrecord.symm.trans hid))
  exact ⟨passes, e, accepted⟩

/-- An update that succeeded is undone by the one with its sides exchanged, if no other device had
what it gives, the old values fit too, and they say all that the device had: its package and, in the
integrated mode, its new number. The reversal succeeds with the same device, and all the rows of all
tables are the ones before. -/
theorem update_undone (indexes : List UniqueIndex) (link : Link) {kind : CreationType}
    {run : List (Environment × Command)} (hrun : ∀ e ∈ run, e.1.settings.creationType = kind)
    {env env' : Environment} (henv : env.settings.creationType = kind)
    (henv' : env'.settings.creationType = kind) (off : env.settings.synchronises = false)
    (off' : env'.settings.synchronises = false) {c r : DeviceData} {x : Device}
    {record : DeviceRecord} :
    let g := after { store := .blank indexes, link := link } run
    let there := g.step env (.update { current := c, replacement := r })
    let back := there.2.step env' (.update { current := r, replacement := c })
    there.1 = .ok (.record record) → x ∈ g.store.devices.rows → record.id = x.id →
    (∀ y ∈ g.store.devices.rows, y.id ≠ x.id → ¬y.Holds updateColumns r.profile) → c.Fits →
    (c.profile.packageSerialNumber.isSome = true ∨ x.profile.packageSerialNumber = none) →
    (kind = .vehicleIntegrated → r.vehicle.vin.isSome = true) →
    back.1 = .ok (.record { x.record with vin := g.store.vin? x.id }) ∧
      g.store.Restores back.2.store := by
  intro g there back succeeds hx hid alone fits package number
  have hs : g.store.Regular := regular_after indexes link run
  have hs₁ : there.2.store.Regular := by
    have hafter := regular_after indexes link
      (run ++ [(env, .update { current := c, replacement := r })])
    rw [after_concat] at hafter
    exact hafter
  have mode : env'.settings.checksVins = env.settings.checksVins := by
    unfold Settings.checksVins
    rw [henv, henv']
  obtain ⟨passes, e, accepted⟩ := accepts_of_step hs off succeeds hx hid
  have hthere := step_update_of_accepts hs off passes accepted
  have hleft : there.2 = { g with
      store := g.store.replaced e (Update.newVin? env.settings c r) } := congrArg Prod.snd hthere
  have owned : env.settings.checksVins = true →
      g.store.Owned ∧ r.vehicle.vin.isSome = true := by
    intro on
    have hkind : kind = .vehicleIntegrated := henv.symm.trans (Settings.checksVins_eq_true.mp on)
    refine ⟨owned_after_blank indexes link fun e he => ?_, number hkind⟩
    exact Settings.checksVins_eq_true.mpr ((hrun e he).trans hkind)
  have reversed := accepted.reversed hs fits.toComplete mode alone package owned
  have hback : back = there.2.step env' (.update { current := r, replacement := c }) := rfl
  rw [hleft] at hs₁ hback
  rw [step_update_of_accepts hs₁ off' ⟨rfl, rfl, passes.fits.toComplete, fits⟩ reversed] at hback
  have restores := Store.restores_of_accepts hs mode accepted hs₁ reversed
  rw [hback]
  refine ⟨?_, restores⟩
  rw [accepted.takes.id, restores.vin?_eq]

/-- A device gets new identifiers and a new number, and its old ones back. -/
theorem update_undone_new_number :
    let env : Environment :=
      { Sample.environment with settings := { creationType := .vehicleIntegrated } }
    let run := [(env, Command.create "admin" [Sample.device "S12" "123" "VIN00000000000001",
      Sample.device "S34" "456" "VIN00000000000002"])]
    let c := Sample.device "S34" "456" "VIN00000000000002"
    let r := Sample.device "S56" "789" "VIN00000000000003"
    let g := after { store := .blank [{ name := "serials", column := .text .serialNumber }] } run
    let there := g.step env (.update { current := c, replacement := r })
    let back := there.2.step env (.update { current := r, replacement := c })
    ∃ x record, there.1 = .ok (.record record) ∧ x ∈ g.store.devices.rows ∧ record.id = x.id ∧
      back.1 = .ok (.record { x.record with vin := g.store.vin? x.id }) ∧
      g.store.Restores back.2.store := by
  intro env run c r g there back
  have kind : env.settings.creationType = .vehicleIntegrated := rfl
  have off : env.settings.synchronises = false := rfl
  have hrun : ∀ e ∈ run, e.1.settings.creationType = .vehicleIntegrated := by
    simp [run, env]
  obtain ⟨record, succeeds, hrecord⟩ : ∃ record : DeviceRecord,
      there.1 = .ok (.record record) ∧ record.id = 2 :=
    exists_record_of_recordId? (by decide +kernel)
  obtain ⟨x, hx⟩ : ∃ x, g.store.device? 2 = some x :=
    Option.isSome_iff_exists.mp (by decide +kernel)
  obtain ⟨hmem, hid⟩ := Store.mem_of_device? hx
  have hserials : ∀ y ∈ g.store.devices.rows, y.profile.serialNumber ≠ some "S56" := by
    decide +kernel
  have hpackages : ∀ y ∈ g.store.devices.rows, y.profile.packageSerialNumber = none := by
    decide +kernel
  have alone : ∀ y ∈ g.store.devices.rows, y.id ≠ x.id → ¬y.Holds updateColumns r.profile := by
    intro y hy _ holds
    obtain ⟨serial, hserial, hstored⟩ := holds .serialNumber (by decide) (.whole "S56") rfl
    obtain rfl : "S56" = serial := Option.some.inj hserial
    exact hserials y hy hstored
  have fits : c.Fits := (Update.passes_of_prepare (c := c) (r := c) off (by decide +kernel)).fits
  have hrecord : record.id = x.id := hrecord.trans hid.symm
  have hundone := update_undone [{ name := "serials", column := .text .serialNumber }] {} hrun
    kind kind off off (c := c) (r := r) succeeds hmem hrecord alone fits (.inr (hpackages x hmem))
    fun _ => rfl
  refine ⟨x, record, succeeds, hmem, hrecord, ?_⟩
  dsimp only [back, there, g]
  exact hundone

end Registry

end DeviceRegistry
