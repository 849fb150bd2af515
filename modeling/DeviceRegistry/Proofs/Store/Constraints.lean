import DeviceRegistry.Proofs.Store.WellFormed

/-!
# Constraints of the device table

The device table refuses a row that leaves a required column empty or has a unique one in common
with another row. No command makes a unique index, and none empties a required column: a new device
was accepted, an update gives all the columns that it replaces, and the other changes only fill
columns. So after every run the devices are complete, and a change that keeps them so is accepted.
-/

namespace DeviceRegistry

namespace Device

/-- Every required column is filled. -/
def Complete (d : Device) : Prop :=
  ∀ c ∈ TextColumn.required, (d.profile.get c).isSome = true

variable {d : Device}

theorem complete_iff : d.Complete ↔ Store.missingColumn? d = none := by
  unfold Complete Store.missingColumn?
  simp only [List.find?_eq_none, Option.isSome_iff_ne_none, Option.isNone_iff_eq_none]

theorem Complete.moved (h : d.Complete) (target : DeviceState) : (d.moved target).Complete := by
  intro c hc
  cases c with
  | state => rfl
  | _ => exact h _ hc

/-- Columns may be taken from another profile if it fills the required ones among them. -/
theorem Complete.taking (h : d.Complete) {columns : List TextColumn} {p : Profile}
    (hp : ∀ c ∈ columns, c ∈ TextColumn.required → (p.get c).isSome = true) :
    (d.taking columns p).Complete := by
  intro c hc
  rw [get_taking]
  split
  · exact hp c ‹_› hc
  · exact h c hc

end Device

namespace Store

variable {s : Store} {d : Device}

theorem complete_of_accept (h : s.accept d = .ok ()) : d.Complete := by
  rw [Device.complete_iff]
  unfold accept at h
  split at h
  · cases h
  · assumption

theorem accept_of_complete (hs : s.uniqueIndexes = []) (hd : d.Complete) : s.accept d = .ok () := by
  unfold accept sharedColumn?
  rw [Device.complete_iff.mp hd, hs]
  rfl

theorem updateDevice_of_accept {id : Int} {changes : List Change} (hd : s.device? id = some d)
    (hchanges : changes ≠ []) (hflags : ∀ f, changes.any (Change.empties f) = false)
    (haccept : s.accept (d.change changes) = .ok ()) :
    s.updateDevice id changes = .ok (1, s.withDevice (d.change changes)) := by
  obtain rfl : d.id = id := (mem_of_device? hd).2
  unfold updateDevice withDevice
  simp only [hd, List.isEmpty_iff, hchanges, if_false, hflags, haccept, Device.id_change]
  cases missingColumn? (d.change changes) <;> rfl

end Store

/-! ## After a run -/

theorem Update.isSome_of_prepare {settings : Settings} {q : UpdateRequest} {p : Prepared}
    (h : prepare settings q = .ok p) {c : TextColumn} (hc : c ∈ updateMandatoryColumns) :
    (p.replacement.shown.get c).isSome = true := by
  unfold prepare at h
  simp only [bind_eq_ok] at h
  obtain ⟨⟨current, replacement⟩, hsides, _, _, _, _, _, _, old, _, dated, hdates, h⟩ := h
  cases h
  obtain ⟨hdated, hmanufactured, hrecorded⟩ := RawProfile.dated_of_withStoredDates hdates
  rw [RawProfile.isSome_shown]
  by_cases hm : c = .manufacturingDate
  · exact hm ▸ hmanufactured
  · by_cases hr : c = .recordDate
    · exact hr ▸ hrecorded
    · rw [show dated.get c = _ from hdated.others c hm hr]
      exact isSome_of_sides hsides hc

theorem mem_updateMandatoryColumns {c : TextColumn} (h : c ∈ updateColumns)
    (hc : c ∈ TextColumn.required) : c ∈ updateMandatoryColumns := by
  cases c <;> revert h hc <;> decide

namespace Effect

variable {env : Environment} {s s' : Store} {c : Command}

theorem uniqueIndexes_eq (h : Effect env s c s') : s'.uniqueIndexes = s.uniqueIndexes := by
  cases h with
  | @replaced q p d vin => cases vin <;> rfl
  | _ => rfl

theorem complete (h : Effect env s c s') (hs : ∀ d ∈ s.devices.rows, d.Complete) :
    ∀ d ∈ s'.devices.rows, d.Complete := by
  have changed : ∀ {d : Device}, d.Complete → ∀ e ∈ (s.withDevice d).devices.rows, e.Complete := by
    intro d hd e he
    rcases Store.mem_withDevice.mp he with ⟨rfl, _⟩ | ⟨he, _⟩
    · exact hd
    · exact hs e he
  cases h with
  | created ready member fresh bound accepted =>
    intro e he
    rcases Table.mem_append.mp he with he | rfl
    · exact hs e he
    · exact Store.complete_of_accept accepted
  | moved stored effective allowed headUnit => exact changed ((hs _ stored).moved _)
  | @replaced q p d vin ready stored effective renumbers =>
    rw [Store.devices_replaced]
    exact changed ((hs d stored).taking fun c hc hrequired =>
      Update.isSome_of_prepare ready (mem_updateMandatoryColumns hc hrequired))
  | deleted stored deletable free => exact fun e he => hs e (Store.mem_withoutDevice.mp he).1
  | changed ready stored named =>
    exact changed ((hs _ stored).taking fun c hc _ => Device.mem_filledColumns.mp hc)
  | associated stored => exact hs

end Effect

namespace Registry

variable (link : Link) (run : List (Environment × Command))

theorem uniqueIndexes_after : (after { link := link } run).store.uniqueIndexes = [] :=
  (store_after_effects (P := fun s => s.uniqueIndexes = []) (A := fun _ => True)
    (fun _ _ _ _ _ h hs => h.uniqueIndexes_eq.trans hs) (fun _ _ => trivial)
    Store.numbered_empty rfl).2

theorem complete_after : ∀ d ∈ (after { link := link } run).store.devices.rows, d.Complete :=
  (store_after_effects (P := fun s => ∀ d ∈ s.devices.rows, d.Complete) (A := fun _ => True)
    (fun _ _ _ _ _ h hs => h.complete hs) (fun _ _ => trivial)
    Store.numbered_empty (by simp)).2

end Registry

end DeviceRegistry
