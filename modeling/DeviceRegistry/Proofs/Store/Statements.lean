import DeviceRegistry.Proofs.Store.Tables
import DeviceRegistry.Store.Associations
import DeviceRegistry.Store.Devices
import DeviceRegistry.Store.History
import DeviceRegistry.Store.Vins

/-!
# What a statement leaves

A statement that succeeds is described by the store it leaves: `withDevice` after a change of a
device, `withoutDevice` after a deletion, `withVin` after a new number. Each description comes with
the rows it has and with the lookups it answers, so nothing below unfolds a statement again.
-/

namespace DeviceRegistry

theorem bind_eq_ok {ε α β : Type} {x : Except ε α} {f : α → Except ε β} {b : β} :
    (x >>= f) = .ok b ↔ ∃ a, x = .ok a ∧ f a = .ok b := by
  cases x with
  | error e => exact ⟨nofun, fun ⟨_, h, _⟩ => nomatch h⟩
  | ok a => exact ⟨fun h => ⟨a, rfl, h⟩, fun ⟨_, h, hb⟩ => Except.ok.inj h ▸ hb⟩

theorem bind_eq_error {ε α β : Type} {x : Except ε α} {f : α → Except ε β} {e : ε} :
    (x >>= f) = .error e ↔ x = .error e ∨ ∃ a, x = .ok a ∧ f a = .error e := by
  cases x with
  | error e' => exact ⟨fun h => .inl (Except.error.inj h ▸ rfl), fun
      | .inl h => Except.error.inj h ▸ rfl
      | .inr ⟨_, h, _⟩ => nomatch h⟩
  | ok a => exact ⟨fun h => .inr ⟨a, rfl, h⟩, fun
      | .inl h => nomatch h
      | .inr ⟨_, h, he⟩ => Except.ok.inj h ▸ he⟩

theorem map_eq_ok {ε α β : Type} {x : Except ε α} {f : α → β} {b : β} :
    x.map f = .ok b ↔ ∃ a, x = .ok a ∧ f a = b := by
  cases x with
  | error e => exact ⟨nofun, fun ⟨_, h, _⟩ => nomatch h⟩
  | ok a => exact ⟨fun h => ⟨a, rfl, Except.ok.inj h⟩, fun ⟨_, h, hb⟩ =>
      congrArg _ (Except.ok.inj h ▸ hb)⟩

theorem toOption_eq_some {ε α : Type} {x : Except ε α} {a : α} :
    x.toOption = some a ↔ x = .ok a := by
  cases x with
  | error e => exact ⟨nofun, nofun⟩
  | ok b => exact ⟨fun h => congrArg _ (Option.some.inj h), fun h => congrArg _ (Except.ok.inj h)⟩

/-! ## Changes of one device -/

namespace Device

@[simp] theorem id_apply (d : Device) (c : Change) : (Change.apply d c).id = d.id := by
  cases c with
  | text => rfl
  | flag f v => cases v <;> cases f <;> rfl

@[simp] theorem id_change (d : Device) (changes : List Change) : (d.change changes).id = d.id := by
  induction changes generalizing d with
  | nil => rfl
  | cons c changes ih => exact (ih _).trans (id_apply d c)

/-- The device with some columns taken from another profile. -/
def taking (columns : List TextColumn) (p : Profile) (d : Device) : Device :=
  { d with profile := .ofColumns fun c => if c ∈ columns then p.get c else d.profile.get c }

@[simp] theorem id_taking (columns : List TextColumn) (p : Profile) (d : Device) :
    (d.taking columns p).id = d.id := rfl

@[simp] theorem get_taking (columns : List TextColumn) (p : Profile) (d : Device)
    (c : TextColumn) :
    (d.taking columns p).profile.get c = if c ∈ columns then p.get c else d.profile.get c := by
  simp [taking]

/-- Changing columns one after the other takes them all. -/
theorem change_texts (d : Device) (columns : List TextColumn) (p : Profile) :
    d.change (columns.map fun c => .text c (p.get c)) = d.taking columns p := by
  induction columns generalizing d with
  | nil =>
    have same : (Columns.ofColumns fun c => d.profile.get c) = d.profile :=
      Columns.ext_get fun c => by simp
    simp [change, taking, same]
  | cons c columns ih =>
    have first : d.change ((c :: columns).map fun c => .text c (p.get c)) =
        (Change.apply d (.text c (p.get c))).change (columns.map fun c => .text c (p.get c)) := rfl
    rw [first, ih]
    simp only [taking, Change.apply, mk.injEq, true_and, and_true]
    refine Columns.ext_get fun e => ?_
    rw [Columns.get_ofColumns, Columns.get_ofColumns]
    by_cases he : e ∈ columns
    · simp [he]
    · by_cases hc : e = c
      · simp [hc]
      · simp [he, hc]

/-- The columns that a profile fills. -/
def filledColumns (p : Profile) : List TextColumn :=
  TextColumn.all.filter fun c => (p.get c).isSome

theorem mem_filledColumns {p : Profile} {c : TextColumn} :
    c ∈ filledColumns p ↔ (p.get c).isSome = true := by
  simp [filledColumns, TextColumn.mem_all]

theorem change_ofProfile (d : Device) (p : Profile) :
    d.change (Change.ofProfile p) = d.taking (filledColumns p) p := by
  rw [← change_texts]
  congr 1
  unfold Change.ofProfile filledColumns
  generalize TextColumn.all = columns
  induction columns with
  | nil => rfl
  | cons c columns ih =>
    cases hc : p.get c with
    | none => simpa [hc] using ih
    | some v => simpa [hc] using ih

/-- The device after it was moved to a state. -/
def moved (target : DeviceState) (d : Device) : Device :=
  d.change (Change.ofState target)

@[simp] theorem id_moved (target : DeviceState) (d : Device) : (d.moved target).id = d.id := rfl

@[simp] theorem state_moved (target : DeviceState) (d : Device) :
    (d.moved target).profile.state = some target.name := rfl

@[simp] theorem stolen_moved (target : DeviceState) (d : Device) :
    (d.moved target).stolen = flagValue (target == .stolen) := rfl

@[simp] theorem faulty_moved (target : DeviceState) (d : Device) :
    (d.moved target).faulty = flagValue (target == .faulty) := rfl

end Device

namespace Store

variable {s s' : Store}

/-! ## A device in a changed version -/

/-- The store with a device in place of the one with its id. -/
def withDevice (s : Store) (d : Device) : Store :=
  { s with devices := s.devices.mapWhere (·.id == d.id) fun _ => d }

theorem mem_withDevice {d e : Device} :
    e ∈ (s.withDevice d).devices.rows ↔
      (e = d ∧ ∃ a ∈ s.devices.rows, a.id = d.id) ∨ (e ∈ s.devices.rows ∧ e.id ≠ d.id) := by
  unfold withDevice
  rw [Table.mem_mapWhere]
  constructor
  · rintro ⟨a, ha, rfl⟩
    by_cases hid : a.id = d.id
    · exact .inl ⟨by simp [hid], a, ha, hid⟩
    · exact .inr (by simp [hid, ha])
  · rintro (⟨rfl, a, ha, hid⟩ | ⟨he, hid⟩)
    · exact ⟨a, ha, by simp [hid]⟩
    · exact ⟨e, he, by simp [hid]⟩

theorem ids_withDevice (s : Store) (d : Device) :
    (s.withDevice d).devices.rows.map (·.id) = s.devices.rows.map (·.id) := by
  show (s.devices.rows.map _).map _ = _
  rw [List.map_map]
  refine List.map_congr_left fun e _ => ?_
  by_cases he : e.id = d.id <;> simp [he]

theorem exists_id_withDevice {e : Device} {id : Int} :
    (∃ d ∈ (s.withDevice e).devices.rows, d.id = id) ↔ ∃ d ∈ s.devices.rows, d.id = id := by
  rw [← List.mem_map, ids_withDevice, List.mem_map]

theorem device?_withDevice_self {d old : Device} (h : s.device? d.id = some old) :
    (s.withDevice d).device? d.id = some d := by
  have hp : (fun a : Device => (if (a.id == d.id) = true then d else a).id == d.id) =
      fun a => a.id == d.id := by
    funext a
    by_cases ha : a.id = d.id <;> simp [ha]
  unfold device? at h ⊢
  unfold withDevice Table.mapWhere
  rw [List.find?_map]
  simp only [Function.comp_def, hp, h]
  simp [show old.id = d.id by simpa using List.find?_some h]

/-- A change that succeeds concerns no row, or leaves the changed device in place of the old one. -/
theorem updateDevice_eq_ok {id : Int} {changes : List Change} {n : Nat}
    (h : s.updateDevice id changes = .ok (n, s')) :
    (n = 0 ∧ s' = s ∧ (s.device? id = none ∨ changes = [])) ∨
      (n = 1 ∧ ∃ d, s.device? id = some d ∧ s.accept (d.change changes) = .ok () ∧
        s' = s.withDevice (d.change changes)) := by
  unfold updateDevice at h
  cases hd : s.device? id with
  | none =>
    rw [hd] at h
    cases h
    exact .inl ⟨rfl, rfl, .inl rfl⟩
  | some d =>
    simp only [hd] at h
    have hid : id = d.id := (mem_of_device? hd).2.symm
    by_cases hc : changes = []
    · subst hc
      cases h
      exact .inl ⟨rfl, rfl, .inr rfl⟩
    · rw [if_neg (by simpa using hc)] at h
      have accepted : s.accept (d.change changes) = .ok () ∧
          s' = s.withDevice (d.change changes) ∧ n = 1 := by
        subst hid
        split at h
        · cases h
        · obtain ⟨_, ha, hs⟩ := bind_eq_ok.mp h
          cases hs
          exact ⟨ha, by simp [withDevice], rfl⟩
      exact .inr ⟨accepted.2.2, d, rfl, accepted.1, accepted.2.1⟩

theorem Numbered.withDevice {d : Device} (h : s.Numbered) : (s.withDevice d).Numbered :=
  { h with devices := h.devices.mapWhere fun a _ hid => (by simpa using hid : a.id = d.id).symm }

/-! ## A device less -/

/-- The store without a device and its number. -/
def withoutDevice (s : Store) (id : Int) : Store :=
  { s with
    devices := s.devices.removeWhere (·.id == id)
    vins := s.vins.removeWhere (·.device == id) }

theorem mem_withoutDevice {id : Int} {d : Device} :
    d ∈ (s.withoutDevice id).devices.rows ↔ d ∈ s.devices.rows ∧ d.id ≠ id := by
  simp [withoutDevice, Table.mem_removeWhere]

theorem deleteDevice_eq_ok {id : Int} {n : Nat} (h : s.deleteDevice id = .ok (n, s')) :
    (n = 0 ∧ s' = s) ∨
      (n = 1 ∧ ∃ d, s.device? id = some d ∧ deletable d = true ∧
        s.associations.rows.any (·.device == id) = false ∧ s' = s.withoutDevice id) := by
  unfold deleteDevice at h
  cases hd : s.device? id with
  | none =>
    rw [hd] at h
    cases h
    exact .inl ⟨rfl, rfl⟩
  | some d =>
    simp only [hd] at h
    split at h
    · cases h
      exact .inl ⟨rfl, rfl⟩
    · split at h
      · cases h
      · cases h
        exact .inr ⟨rfl, d, rfl, by simp_all, by simp_all, rfl⟩

theorem vin?_withoutDevice_of_ne {id x : Int} (hx : x ≠ id) :
    (s.withoutDevice id).vin? x = s.vin? x := by
  unfold vin? withoutDevice Table.removeWhere
  rw [List.find?_filter]
  congr 2
  funext v
  by_cases hv : v.device = x
  · simp [hv, hx]
  · simp [hv]

theorem Numbered.withoutDevice {id : Int} (h : s.Numbered) : (s.withoutDevice id).Numbered :=
  { h with devices := h.devices.removeWhere _, vins := h.vins.removeWhere _ }

/-! ## A new number -/

/-- The store with a new number in place of that of a device; an id is used up. -/
def withVin (s : Store) (device : Int) (vin : String) : Store :=
  { s with vins := (s.vins.mapWhere (·.device == device) ({ · with vin := vin })).skipId }

theorem mem_withVin {device : Int} {vin : String} {v : VinRow} :
    v ∈ (s.withVin device vin).vins.rows ↔
      ∃ a ∈ s.vins.rows, (if a.device == device then { a with vin := vin } else a) = v := by
  unfold withVin
  rw [Table.rows_skipId, Table.mem_mapWhere]

theorem vin?_withVin {device : Int} {vin : String} (x : Int) :
    (s.withVin device vin).vin? x =
      (s.vin? x).map fun old => if x = device then vin else old := by
  have hp : (fun v : VinRow =>
      (if (v.device == device) = true then { v with vin := vin } else v).device == x) =
      fun v => v.device == x := by
    funext v
    by_cases hv : v.device = device <;> simp [hv]
  unfold vin? withVin Table.mapWhere
  rw [Table.rows_skipId, List.find?_map]
  simp only [Function.comp_def, hp]
  cases hf : s.vins.rows.find? fun v => v.device == x with
  | none => rfl
  | some v =>
    have hv : v.device = x := by simpa using List.find?_some hf
    by_cases hx : x = device
    · simp [hv, hx]
    · simp [hv, hx]

theorem vin?_withVin_of_ne {device x : Int} {vin : String} (hx : x ≠ device) :
    (s.withVin device vin).vin? x = s.vin? x := by
  rw [vin?_withVin]
  simp [hx]

theorem putVin_of_any {device : Int} {vin : String}
    (h : s.vins.rows.any (·.device == device) = true) :
    s.putVin (some device) (some vin) = .ok (s.withVin device vin) := by
  simp [putVin, h, withVin]

theorem Numbered.withVin {device : Int} {vin : String} (h : s.Numbered) :
    (s.withVin device vin).Numbered :=
  { h with vins := Table.Numbered.skipId (h.vins.mapWhere fun _ _ _ => rfl) }

theorem insertVin_eq_ok {device id : Int} {vin : String}
    (h : s.insertVin (some device) (some vin) = .ok (id, s')) :
    s.vins.rows.any (·.device == device) = false ∧
      s' = { s with
        vins := s.vins.append fun id => { id := id, vin := vin, device := device } } := by
  unfold insertVin at h
  split at h
  · cases h
  · cases h
  · rename_i v d hv hd
    cases hv
    cases hd
    split at h
    · cases h
    · split at h
      · cases h
      · cases h
        exact ⟨by simp_all, rfl⟩

/-! ## Head units -/

theorem associate_eq_ok {device : Option Int} {headUnit : Option String} {id : Int}
    (h : s.associate device headUnit = .ok (id, s')) :
    ∃ x, device = some x ∧ (s.device? x).isSome = true ∧
      s' = { s with
        associations := s.associations.append fun id =>
          { id := id, device := x, headUnit := headUnit } } := by
  unfold associate at h
  split at h
  · cases h
  · rename_i x
    split at h
    · cases h
    · cases h
      exact ⟨x, rfl, by simp_all [Option.isSome_iff_ne_none], rfl⟩

/-! ## History -/

/-- The entry that the history gets about a record. -/
def snapshot (s : Store) (now : String) (r : DeviceRecord) (action : HistoryAction) : HistoryRow :=
  { id := s.history.nextId, factoryId := r.id, profile := r.profile, stolen := flagValue r.stolen,
    faulty := flagValue r.faulty, action := action, recordedAt := now }

theorem history_appendHistory {now : String} {r : DeviceRecord} {action : HistoryAction} :
    (s.appendHistory now r action).history.rows = s.history.rows ++ [s.snapshot now r action] :=
  Table.rows_append _ _

theorem Numbered.appendHistory {now : String} {r : DeviceRecord} {action : HistoryAction}
    (h : s.Numbered) : (s.appendHistory now r action).Numbered :=
  { h with
    history := h.history.append (f := fun id =>
      { id := id, factoryId := r.id, profile := r.profile, stolen := flagValue r.stolen,
        faulty := flagValue r.faulty, action := action, recordedAt := now }) rfl }

end Store

end DeviceRegistry
