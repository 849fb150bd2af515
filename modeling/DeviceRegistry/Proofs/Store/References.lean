import DeviceRegistry.Proofs.Lifecycle.Effects

/-!
# References between tables

Numbers and associations refer to devices. In every mode a device has at most one number, and the
numbers stand in the order of their devices; no number and no association is left behind when its
device goes, the one because it goes as well and the other because it keeps its device. So a number
is used exactly if a stored device has it.
-/

namespace DeviceRegistry

namespace Store

variable {s : Store}

/-! ## Numbers and their devices -/

/-- The numbers stand in the order of their devices, which are stored. -/
structure VinsHeld (s : Store) : Prop where
  ordered : s.vins.rows.Pairwise fun v w => v.device < w.device
  stored : ∀ v ∈ s.vins.rows, ∃ d ∈ s.devices.rows, d.id = v.device

theorem mem_of_vin? {x : Int} {vin : String} (h : s.vin? x = some vin) :
    ∃ v ∈ s.vins.rows, v.device = x ∧ v.vin = vin := by
  unfold vin? at h
  obtain ⟨v, hv, rfl⟩ := Option.map_eq_some_iff.mp h
  exact ⟨v, List.mem_of_find?_eq_some hv, by simpa using List.find?_some hv, rfl⟩

theorem exists_vin? {v : VinRow} (hv : v ∈ s.vins.rows) : ∃ vin, s.vin? v.device = some vin := by
  obtain ⟨w, hw⟩ := Table.exists_find? (p := fun w => w.device == v.device) hv (by simp)
  exact ⟨w.vin, by rw [vin?, hw, Option.map_some]⟩

namespace VinsHeld

theorem eq_of_device (h : s.VinsHeld) {v w : VinRow} (hv : v ∈ s.vins.rows)
    (hw : w ∈ s.vins.rows) (hd : v.device = w.device) : v = w :=
  Table.eq_of_increasing h.ordered hv hw hd

theorem nodup (h : s.VinsHeld) : (s.vins.rows.map (·.device)).Nodup :=
  Table.nodup_of_increasing h.ordered

theorem vin?_eq_some (h : s.VinsHeld) {x : Int} {vin : String} :
    s.vin? x = some vin ↔ ∃ v ∈ s.vins.rows, v.device = x ∧ v.vin = vin := by
  constructor
  · exact mem_of_vin?
  · rintro ⟨v, hv, rfl, rfl⟩
    obtain ⟨vin, hvin⟩ := exists_vin? hv
    obtain ⟨w, hw, hdevice, rfl⟩ := mem_of_vin? hvin
    rw [hvin, h.eq_of_device hw hv hdevice]

theorem hasVin_iff (h : s.VinsHeld) {vin : String} :
    s.hasVin vin = true ↔ ∃ d ∈ s.devices.rows, s.vin? d.id = some vin := by
  simp only [hasVin, List.any_eq_true, beq_iff_eq]
  constructor
  · rintro ⟨v, hv, rfl⟩
    obtain ⟨d, hd, hid⟩ := h.stored v hv
    exact ⟨d, hd, h.vin?_eq_some.mpr ⟨v, hv, hid.symm, rfl⟩⟩
  · rintro ⟨d, -, hvin⟩
    obtain ⟨v, hv, -, hv'⟩ := mem_of_vin? hvin
    exact ⟨v, hv, hv'⟩

theorem vin?_eq_none (h : s.VinsHeld) {f : Int} (hf : ¬∃ d ∈ s.devices.rows, d.id = f) :
    s.vin? f = none := by
  cases hvin : s.vin? f with
  | none => rfl
  | some vin =>
    obtain ⟨v, hv, rfl, -⟩ := mem_of_vin? hvin
    exact absurd (h.stored v hv) hf

/-- Only the numbers and the ids of the devices matter. -/
theorem congr {s' : Store} (h : s.VinsHeld) (hv : s'.vins.rows = s.vins.rows)
    (hd : ∀ x, (∃ d ∈ s.devices.rows, d.id = x) → ∃ d ∈ s'.devices.rows, d.id = x) :
    s'.VinsHeld := by
  refine ⟨?_, ?_⟩ <;> rw [hv]
  · exact h.ordered
  · exact fun v hv => hd v.device (h.stored v hv)

theorem withDevice (h : s.VinsHeld) (d : Device) : (s.withDevice d).VinsHeld :=
  h.congr rfl fun _ => exists_id_withDevice.mpr

theorem withVin (h : s.VinsHeld) (device : Int) (vin : String) :
    (s.withVin device vin).VinsHeld := by
  constructor
  · show (List.map _ s.vins.rows).Pairwise _
    rw [List.pairwise_map]
    refine h.ordered.imp ?_
    intro v w hvw
    simp only [apply_ite VinRow.device, ite_self]
    exact hvw
  · intro v hv
    obtain ⟨a, ha, rfl⟩ := mem_withVin.mp hv
    simp only [apply_ite VinRow.device, ite_self]
    exact h.stored a ha

theorem withoutDevice (h : s.VinsHeld) (id : Int) : (s.withoutDevice id).VinsHeld := by
  refine ⟨h.ordered.sublist List.filter_sublist, fun v hv => ?_⟩
  obtain ⟨hv, hid⟩ := Table.mem_removeWhere.mp hv
  obtain ⟨d, hd, hdv⟩ := h.stored v hv
  exact ⟨d, mem_withoutDevice.mpr ⟨hd, by simpa [hdv] using hid⟩, hdv⟩

theorem created (h : s.VinsHeld) (hn : s.Numbered) (now : String) (p : Profile)
    (vin : Option String) : (s.created now p vin).VinsHeld := by
  have hdevices : ∀ x, (∃ d ∈ s.devices.rows, d.id = x) →
      ∃ d ∈ (s.created now p vin).devices.rows, d.id = x := by
    rintro x ⟨d, hd, hid⟩
    exact ⟨d, Table.mem_append.mpr (.inl hd), hid⟩
  cases vin with
  | none => exact h.congr rfl hdevices
  | some vin =>
    let new : VinRow := { id := s.vins.nextId, vin := vin, device := s.devices.nextId }
    have hrows : (s.created now p (some vin)).vins.rows = s.vins.rows ++ [new] := rfl
    refine ⟨?_, ?_⟩ <;> rw [hrows]
    · refine List.pairwise_append.mpr ⟨h.ordered, List.pairwise_singleton _ _, ?_⟩
      intro v hv w hw
      rw [List.mem_singleton.mp hw]
      obtain ⟨d, hd, hid⟩ := h.stored v hv
      have hgiven := (hn.devices.given d hd).2
      have hnext : new.device = s.devices.lastId + 1 := rfl
      omega
    · intro v hv
      rcases List.mem_append.mp hv with hv | hv
      · exact hdevices v.device (h.stored v hv)
      · rw [List.mem_singleton.mp hv]
        exact ⟨newDevice now p s.devices.nextId, Table.mem_append.mpr (.inr rfl), rfl⟩

end VinsHeld

/-! ## All references -/

/-- All references are to stored devices, and each device has at most one number. -/
structure Linked (s : Store) : Prop where
  vins : s.VinsHeld
  associations : ∀ a ∈ s.associations.rows, ∃ d ∈ s.devices.rows, d.id = a.device

theorem linked_empty : ({} : Store).Linked :=
  ⟨⟨List.Pairwise.nil, by simp⟩, by simp⟩

namespace Linked

/-- References stay good while the devices that they are to stay stored. -/
theorem of_vins {s' : Store} (h : s.Linked) (hv : s'.VinsHeld)
    (ha : s'.associations = s.associations)
    (hd : ∀ x, (∃ d ∈ s.devices.rows, d.id = x) → ∃ d ∈ s'.devices.rows, d.id = x) :
    s'.Linked :=
  ⟨hv, by rw [ha]; exact fun a ha => hd a.device (h.associations a ha)⟩

theorem withDevice (h : s.Linked) (d : Device) : (s.withDevice d).Linked :=
  h.of_vins (h.vins.withDevice d) rfl fun _ => exists_id_withDevice.mpr

theorem created (h : s.Linked) (hn : s.Numbered) (now : String) (p : Profile)
    (vin : Option String) : (s.created now p vin).Linked :=
  h.of_vins (h.vins.created hn now p vin) rfl
    fun _ ⟨d, hd, hid⟩ => ⟨d, Table.mem_append.mpr (.inl hd), hid⟩

/-- A device that no association refers to may go. -/
theorem withoutDevice (h : s.Linked) {id : Int}
    (free : s.associations.rows.any (·.device == id) = false) : (s.withoutDevice id).Linked := by
  refine ⟨h.vins.withoutDevice id, fun a ha => ?_⟩
  obtain ⟨d, hd, hda⟩ := h.associations a ha
  have hne : a.device ≠ id := by simpa using List.any_eq_false.mp free a ha
  exact ⟨d, mem_withoutDevice.mpr ⟨hd, by rw [hda]; exact hne⟩, hda⟩

theorem associated (h : s.Linked) {device : Int} (stored : (s.device? device).isSome = true)
    (headUnit : Option String) : (s.associated device headUnit).Linked := by
  refine ⟨h.vins.congr rfl fun _ h => h, fun a ha => ?_⟩
  rcases Table.mem_append.mp ha with ha | rfl
  · exact h.associations a ha
  · obtain ⟨d, hd⟩ := Option.isSome_iff_exists.mp stored
    exact ⟨d, mem_of_device? hd⟩

end Linked

end Store

theorem Effect.linked {env : Environment} {s s' : Store} {c : Command} (hn : s.Numbered)
    (h : Effect env s c s') (hs : s.Linked) : s'.Linked := by
  cases h with
  | created ready member fresh bound accepted => exact hs.created hn _ _ _
  | @moved q d current target now stored effective allowed headUnit =>
    have hdevice := hs.withDevice (d.moved target)
    exact hdevice.of_vins (hdevice.vins.congr rfl fun _ h => h) rfl fun _ h => h
  | @replaced q p d vin ready stored effective renumbers =>
    have hdevice := hs.withDevice (d.taking updateColumns p.replacement.shown)
    cases vin with
    | none => exact hdevice
    | some vin => exact hdevice.of_vins (hdevice.vins.withVin _ vin) rfl fun _ h => h
  | deleted stored deletable free =>
    have hdevice := hs.withoutDevice free
    exact hdevice.of_vins (hdevice.vins.congr rfl fun _ h => h) rfl fun _ h => h
  | changed ready stored named => exact hs.withDevice _
  | associated stored => exact hs.associated stored _

theorem Registry.linked_after (link : Link) (run : List (Environment × Command)) :
    (after { link := link } run).store.Linked :=
  (store_after_effects (P := Store.Linked) (A := fun _ => True)
    (fun _ _ _ _ hn h hs => h.linked hn hs) (fun _ _ => trivial) Store.numbered_empty
    Store.linked_empty).2

end DeviceRegistry
