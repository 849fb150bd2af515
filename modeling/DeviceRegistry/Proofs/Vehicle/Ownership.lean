import DeviceRegistry.Proofs.Lifecycle.Batches
import DeviceRegistry.Proofs.Store.References

/-!
# Who owns a number

In the integrated mode every vehicle identification number belongs to one stored device, every
device has at most one, and each of them has its full length. The numbers stand in the order of
their devices. Creating a device and updating one are the only transactions that give a number, and
both look for it first.
-/

namespace DeviceRegistry

/-! ## What requests say about numbers -/

theorem Identifier.length_of_checkVin {vin : String} (h : checkVin (some vin) = .ok ()) :
    vin.length = vinLength := by
  simpa [checkVin, require_eq_ok] using h

theorem Create.checkVin_of_prepareAll {actor : Option String} {records : List DeviceData}
    {ps : List PreparedDevice} (h : prepareAll actor records = .ok ps) {p : PreparedDevice}
    (hp : p ∈ ps) : Identifier.checkVin (p.vehicle.vin.map RawText.shown) = .ok () := by
  obtain ⟨name, data, -, hdata⟩ := exists_prepare_of_mem h hp
  unfold prepare at hdata
  simp only [bind_eq_ok] at hdata
  obtain ⟨_, _, _, _, _, _, _, hvin, _, _, hdata⟩ := hdata
  cases hdata
  exact hvin

theorem Create.length_of_filled {actor : Option String} {records : List DeviceData}
    {ps : List PreparedDevice} {p : PreparedDevice} {vin : Option String}
    (ready : prepareAll actor records = .ok ps) (member : p ∈ ps)
    (bound : Store.bindText? p.vehicle.vin = .ok vin) {v : String}
    (hv : Text.filled? vin = some v) : v.length = Identifier.vinLength := by
  obtain ⟨rfl, -⟩ := Text.filled?_eq_some.mp hv
  have hcheck := checkVin_of_prepareAll ready member
  rw [Store.bindText?_eq_some bound] at hcheck
  exact Identifier.length_of_checkVin hcheck

theorem Update.checkVin_of_prepare {settings : Settings} {q : UpdateRequest} {p : Prepared}
    (h : prepare settings q = .ok p) :
    Identifier.checkVin (p.vehicle.vin.map RawText.shown) = .ok () := by
  unfold prepare at h
  simp only [bind_eq_ok] at h
  obtain ⟨sides, _, _, _, _, _, _, hvin, _, _, _, _, h⟩ := h
  cases h
  exact hvin

theorem Create.ne_of_checkNew {p : PreparedDevice} {s : Store} (h : checkNew p s = .ok ())
    {vin : String} (hvin : p.vehicle.vin = some (.whole vin)) (hfilled : vin.isEmpty = false) :
    ∀ v ∈ s.vins.rows, v.vin ≠ vin := by
  have hraw : RawText.filled? p.vehicle.vin = some (.whole vin) := by
    simp [RawText.filled?, hvin, hfilled]
  have hfree : checked (require (!s.hasVin vin) .vinTaken) = .ok () →
      ∀ v ∈ s.vins.rows, v.vin ≠ vin := by
    intro h
    simpa [Store.hasVin] using require_eq_ok.mp (checked_eq_ok.mp h)
  unfold checkNew at h
  rw [hraw] at h
  obtain ⟨serial, _, h⟩ := bind_eq_ok.mp h
  cases serial with
  | none => exact hfree h
  | some serial =>
    obtain ⟨_, _, h⟩ := bind_eq_ok.mp h
    exact hfree h

namespace Store

/-! ## Ownership -/

/-- Every number belongs to one stored device, and every device has at most one. -/
structure Owned (s : Store) : Prop where
  ordered : s.vins.rows.Pairwise fun v w => v.device < w.device
  stored : ∀ v ∈ s.vins.rows, ∃ d ∈ s.devices.rows, d.id = v.device
  whole : ∀ v ∈ s.vins.rows, v.vin.length = Identifier.vinLength
  unique : ∀ v ∈ s.vins.rows, ∀ w ∈ s.vins.rows, v.vin = w.vin → v.device = w.device

theorem owned_empty : ({} : Store).Owned :=
  ⟨List.Pairwise.nil, by simp, by simp, by simp⟩

variable {s : Store}

namespace Owned

/-- The part of it that holds in every mode. -/
theorem vinsHeld (h : s.Owned) : s.VinsHeld :=
  ⟨h.ordered, h.stored⟩

theorem eq_of_vin? (h : s.Owned) {x y : Int} {vin : String} (hx : s.vin? x = some vin)
    (hy : s.vin? y = some vin) : x = y := by
  obtain ⟨v, hv, rfl, hvin⟩ := mem_of_vin? hx
  obtain ⟨w, hw, rfl, hvin'⟩ := mem_of_vin? hy
  exact h.unique v hv w hw (hvin.trans hvin'.symm)

theorem filled_of_vin? (h : s.Owned) {x : Int} {vin : String} (hx : s.vin? x = some vin) :
    vin.isEmpty = false := by
  obtain ⟨v, hv, -, rfl⟩ := mem_of_vin? hx
  have hlength := h.whole v hv
  cases hempty : v.vin.isEmpty with
  | false => rfl
  | true =>
    rw [String.isEmpty_iff.mp hempty] at hlength
    exact absurd hlength (by decide)

/-- Only the numbers and the ids of the devices matter. -/
theorem congr {s' : Store} (h : s.Owned) (hv : s'.vins.rows = s.vins.rows)
    (hd : ∀ x, (∃ d ∈ s.devices.rows, d.id = x) → ∃ d ∈ s'.devices.rows, d.id = x) :
    s'.Owned := by
  have hheld := h.vinsHeld.congr hv hd
  refine ⟨hheld.ordered, hheld.stored, ?_, ?_⟩ <;> rw [hv]
  · exact h.whole
  · exact h.unique

theorem withDevice (h : s.Owned) (d : Device) : (s.withDevice d).Owned :=
  h.congr rfl fun _ => exists_id_withDevice.mpr

theorem withVin (h : s.Owned) {device : Int} {vin : String}
    (hlength : vin.length = Identifier.vinLength)
    (hfree : ∀ v ∈ s.vins.rows, v.vin = vin → v.device = device) :
    (s.withVin device vin).Owned := by
  have hrow : ∀ v ∈ (s.withVin device vin).vins.rows, ∃ a ∈ s.vins.rows, v.device = a.device ∧
      ((v.device = device ∧ v.vin = vin) ∨ v.vin = a.vin) := by
    intro v hv
    obtain ⟨a, ha, rfl⟩ := mem_withVin.mp hv
    refine ⟨a, ha, ?_⟩
    by_cases hd : a.device = device
    · simp [hd]
    · simp [hd]
  have hheld := h.vinsHeld.withVin device vin
  refine ⟨hheld.ordered, hheld.stored, ?_, ?_⟩
  · intro v hv
    obtain ⟨a, ha, -, ⟨-, hvin⟩ | hvin⟩ := hrow v hv
    · rw [hvin]
      exact hlength
    · rw [hvin]
      exact h.whole a ha
  · intro v hv w hw hvw
    obtain ⟨a, ha, hda, ⟨hd, hvin⟩ | hvin⟩ := hrow v hv <;>
      obtain ⟨b, hb, hdb, ⟨hd', hvin'⟩ | hvin'⟩ := hrow w hw
    · rw [hd, hd']
    · rw [hd, hdb, hfree b hb (by rw [← hvin', ← hvw, hvin])]
    · rw [hd', hda, hfree a ha (by rw [← hvin, hvw, hvin'])]
    · rw [hda, hdb]
      exact h.unique a ha b hb (by rw [← hvin, hvw, hvin'])

theorem withoutDevice (h : s.Owned) (id : Int) : (s.withoutDevice id).Owned := by
  have hrow : ∀ v ∈ (s.withoutDevice id).vins.rows, v ∈ s.vins.rows :=
    fun v hv => (Table.mem_removeWhere.mp hv).1
  have hheld := h.vinsHeld.withoutDevice id
  refine ⟨hheld.ordered, hheld.stored, fun v hv => h.whole v (hrow v hv), ?_⟩
  exact fun v hv w hw => h.unique v (hrow v hv) w (hrow w hw)

theorem created (h : s.Owned) (hn : s.Numbered) (now : String) (p : Profile) {vin : Option String}
    (hlength : ∀ v, vin = some v → v.length = Identifier.vinLength)
    (hfree : ∀ v, vin = some v → ∀ w ∈ s.vins.rows, w.vin ≠ v) :
    (s.created now p vin).Owned := by
  have hheld := h.vinsHeld.created hn now p vin
  cases vin with
  | none => exact ⟨hheld.ordered, hheld.stored, h.whole, h.unique⟩
  | some vin =>
    have hmem : ∀ v ∈ (s.created now p (some vin)).vins.rows,
        v ∈ s.vins.rows ∨ v = { id := s.vins.nextId, vin := vin, device := s.devices.nextId } :=
      fun v hv => Table.mem_append.mp hv
    refine ⟨hheld.ordered, hheld.stored, ?_, ?_⟩
    · intro v hv
      rcases hmem v hv with hv | rfl
      · exact h.whole v hv
      · exact hlength vin rfl
    · intro v hv w hw hvw
      rcases hmem v hv with hv | rfl <;> rcases hmem w hw with hw | rfl
      · exact h.unique v hv w hw hvw
      · exact absurd hvw (hfree vin rfl v hv)
      · exact absurd hvw.symm (hfree vin rfl w hw)
      · rfl

end Owned

end Store

/-- In the integrated mode every transaction keeps the numbers owned. -/
theorem Effect.owned {env : Environment} {s s' : Store} {c : Command}
    (hon : env.settings.checksVins = true) (hn : s.Numbered) (h : Effect env s c s')
    (hs : s.Owned) : s'.Owned := by
  cases h with
  | @created actor records ps p now vin ready member fresh bound accepted =>
    refine hs.created hn now p.profile.shown
      (fun v hv => Create.length_of_filled ready member bound hv) ?_
    intro v hv
    obtain ⟨rfl, hfilled⟩ := Text.filled?_eq_some.mp hv
    exact Create.ne_of_checkNew (fresh hon) (Store.bindText?_eq_some bound) hfilled
  | moved stored effective allowed headUnit => exact (hs.withDevice _).congr rfl fun _ h => h
  | replaced ready stored effective renumbers =>
    cases renumbers with
    | unchecked off => exact hs.withDevice _
    | kept on given owned same => exact hs.withDevice _
    | changed on given owned wanted free =>
      have hcheck := Update.checkVin_of_prepare ready
      rw [wanted] at hcheck
      exact (hs.withDevice _).withVin (Identifier.length_of_checkVin hcheck) free
  | deleted stored deletable free => exact (hs.withoutDevice _).congr rfl fun _ h => h
  | changed ready stored named => exact hs.withDevice _
  | associated stored => exact hs.congr rfl fun _ h => h

theorem Registry.owned_after {run : List (Environment × Command)}
    (hrun : ∀ e ∈ run, e.1.settings.checksVins = true) (link : Link) :
    (after { link := link } run).store.Numbered ∧ (after { link := link } run).store.Owned :=
  store_after_effects (A := fun e => e.1.settings.checksVins = true)
    (fun _ _ _ he hn h hs => h.owned he hn hs) hrun Store.numbered_empty Store.owned_empty

theorem Settings.checksVins_eq_true {settings : Settings} :
    settings.checksVins = true ↔ settings.creationType = .vehicleIntegrated := by
  simp [checksVins]

/-- Where every operation runs in the integrated mode, no vehicle identification number belongs to
two devices. -/
theorem Registry.vin_unique_after (link : Link) {run : List (Environment × Command)}
    (hrun : ∀ e ∈ run, e.1.settings.creationType = .vehicleIntegrated) :
    let s := (after { link := link } run).store
    (∀ v ∈ s.vins.rows, ∀ w ∈ s.vins.rows, v.vin = w.vin → v.device = w.device) ∧
      ∀ d ∈ s.devices.rows, ∀ e ∈ s.devices.rows, ∀ vin,
        s.vin? d.id = some vin → s.vin? e.id = some vin → d = e := by
  intro s
  obtain ⟨hn, howned⟩ :=
    owned_after (fun e he => Settings.checksVins_eq_true.mpr (hrun e he)) link
  refine ⟨howned.unique, ?_⟩
  intro d hd e he vin hdvin hevin
  exact hn.devices.eq_of_id hd he (howned.eq_of_vin? hdvin hevin)

/-- A number that is given twice in a batch, two numbers that change places, and one that is used
again after its device was deleted. -/
theorem Registry.vin_unique_after_exchange :
    let env := Sample.synchronised
    let run := [
      (env, Command.create "admin" [Sample.device "S12" "123" "VIN00000000000001",
        Sample.device "S34" "456" "VIN00000000000002",
        Sample.device "S56" "789" "VIN00000000000001"]),
      (env, Command.update { current := Sample.device "S12" "123" "VIN00000000000001",
                             replacement := Sample.device "S12" "123" "VIN00000000000003" }),
      (env, Command.update { current := Sample.device "S34" "456" "VIN00000000000002",
                             replacement := Sample.device "S34" "456" "VIN00000000000001" }),
      (env, Command.update { current := Sample.device "S12" "123" "VIN00000000000003",
                             replacement := Sample.device "S12" "123" "VIN00000000000002" }),
      (env, Command.delete "456" none),
      (env, Command.create "admin" [Sample.device "S78" "789" "VIN00000000000001"])]
    (∀ e ∈ run, e.1.settings.creationType = .vehicleIntegrated) ∧
      (after {} run).store.vins.rows.map (fun v => (v.device, v.vin)) =
        [(1, "VIN00000000000002"), (3, "VIN00000000000001")] ∧
      ∀ v ∈ (after {} run).store.vins.rows, ∀ w ∈ (after {} run).store.vins.rows,
        v.vin = w.vin → v.device = w.device := by
  intro env run
  have hrun : ∀ e ∈ run, e.1.settings.creationType = .vehicleIntegrated := by
    simp [run, env, Sample.synchronised]
  have hrows : (after {} run).store.vins.rows.map (fun v => (v.device, v.vin)) =
      [(1, "VIN00000000000002"), (3, "VIN00000000000001")] := by
    decide +kernel
  exact ⟨hrun, hrows, (vin_unique_after {} hrun).1⟩

end DeviceRegistry
