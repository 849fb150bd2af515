import DeviceRegistry.Proofs.Store.Constraints
import DeviceRegistry.Proofs.Vehicle.Ownership

/-!
# Unique indexes

Indexes may keep columns of the device table unique. `Unshared` says what they ask of a device, and
together with its required columns that is all the table asks (`accept_iff`). A stored device never
shares a unique column with another one: every transaction that writes a device had it accepted. What
a changed version must not share depends on the other devices only, so the version before a change
may always come back.
-/

namespace DeviceRegistry

namespace Store

variable {s s' : Store} {d e : Device}

/-- The store without rows, with some unique indexes. -/
def blank (indexes : List UniqueIndex) : Store :=
  { uniqueIndexes := indexes }

/-- No other device has in a unique column what a device has in it. -/
def Unshared (s : Store) (d : Device) : Prop :=
  ∀ index ∈ s.uniqueIndexes, ∀ e ∈ s.devices.rows, e.id ≠ d.id →
    d.cell index.column ≠ .null → e.cell index.column ≠ d.cell index.column

theorem unshared_iff : s.Unshared d ↔ s.sharedColumn? d = none := by
  unfold Unshared sharedColumn? shares
  simp only [List.find?_eq_none, List.forall_mem_map, Bool.not_eq_true, Bool.and_eq_false_imp,
    bne_iff_ne, List.any_eq_false, beq_eq_false_iff_ne]
  exact ⟨fun h index hindex hnull e he hne => h index hindex e he hne hnull,
    fun h index hindex e he hne hnull => h index hindex hnull e he hne⟩

theorem accept_iff : s.accept d = .ok () ↔ d.Complete ∧ s.Unshared d := by
  rw [Device.complete_iff, unshared_iff]
  unfold accept
  cases missingColumn? d with
  | some c => exact ⟨nofun, fun h => nomatch h.1⟩
  | none =>
    cases s.sharedColumn? d with
    | some c => exact ⟨nofun, fun h => nomatch h.2⟩
    | none => exact iff_of_true rfl ⟨rfl, rfl⟩

/-! ## Versions of one device -/

theorem unshared_withDevice (h : e.id = d.id) : (s.withDevice d).Unshared e ↔ s.Unshared e := by
  have hrows : ∀ a : Device, a.id ≠ e.id →
      (a ∈ (s.withDevice d).devices.rows ↔ a ∈ s.devices.rows) := by
    intro a ha
    rw [h] at ha
    rw [mem_withDevice]
    exact ⟨fun hmem => hmem.elim (fun h => absurd (congrArg _ h.1) ha) And.left,
      fun hmem => .inr ⟨hmem, ha⟩⟩
  constructor
  · exact fun hs index hindex a ha hne => hs index hindex a ((hrows a hne).mpr ha) hne
  · exact fun hs index hindex a ha hne => hs index hindex a ((hrows a hne).mp ha) hne

theorem accept_withDevice (h : e.id = d.id) :
    (s.withDevice d).accept e = .ok () ↔ s.accept e = .ok () := by
  rw [accept_iff, accept_iff, unshared_withDevice h]

theorem withDevice_withDevice (h : e.id = d.id) :
    (s.withDevice d).withDevice e = s.withDevice e := by
  unfold withDevice Table.mapWhere
  simp only [List.map_map, h]
  congr 2
  refine List.map_congr_left fun a _ => ?_
  by_cases ha : a.id = d.id <;> simp [ha]

theorem withDevice_of_mem (hn : s.Numbered) (hd : d ∈ s.devices.rows) : s.withDevice d = s := by
  have hrows : (s.devices.rows.map fun a => if (a.id == d.id) = true then d else a) =
      s.devices.rows := by
    refine (List.map_congr_left fun a ha => ?_).trans s.devices.rows.map_id
    by_cases hid : a.id = d.id
    · rw [if_pos (beq_iff_eq.mpr hid), hn.devices.eq_of_id ha hd hid]
      rfl
    · rw [if_neg (by simpa using hid)]
      rfl
  unfold withDevice Table.mapWhere
  rw [hrows]

/-- A change of columns of a stored device is carried out exactly if its new version is accepted. -/
theorem updateDevice_eq_ok_iff {id : Int} {changes : List Change} {n : Nat}
    (hd : s.device? id = some d) (hchanges : changes ≠ [])
    (hflags : ∀ f, changes.any (Change.empties f) = false) :
    s.updateDevice id changes = .ok (n, s') ↔
      s.accept (d.change changes) = .ok () ∧ n = 1 ∧ s' = s.withDevice (d.change changes) := by
  constructor
  · intro h
    obtain ⟨-, -, hnone⟩ | ⟨rfl, e, he, haccept, rfl⟩ := updateDevice_eq_ok h
    · rw [hd] at hnone
      exact absurd hnone (by simpa using hchanges)
    · obtain rfl : e = d := Option.some.inj (he.symm.trans hd)
      exact ⟨haccept, rfl, rfl⟩
  · rintro ⟨haccept, rfl, rfl⟩
    exact updateDevice_of_accept hd hchanges hflags haccept

/-! ## What the indexes keep -/

/-- No stored device shares a unique column with another one. -/
def Distinct (s : Store) : Prop :=
  ∀ d ∈ s.devices.rows, s.Unshared d

namespace Distinct

theorem withDevice (h : s.Distinct) (hd : s.Unshared d) : (s.withDevice d).Distinct := by
  intro a ha index hindex b hb hne hnull
  obtain ⟨rfl, -⟩ | ⟨hold, had⟩ := mem_withDevice.mp ha <;>
    obtain ⟨rfl, -⟩ | ⟨hother, -⟩ := mem_withDevice.mp hb
  · exact absurd rfl hne
  · exact hd index hindex b hother hne hnull
  · intro heq
    exact hd index hindex a hold had (heq ▸ hnull) heq.symm
  · exact h a hold index hindex b hother hne hnull

theorem append (h : s.Distinct) {row : Int → Device} (hd : s.Unshared (row s.devices.nextId)) :
    Distinct { s with devices := s.devices.append row } := by
  intro a ha index hindex b hb hne hnull
  obtain hold | rfl := Table.mem_append.mp ha <;> obtain hother | rfl := Table.mem_append.mp hb
  · exact h a hold index hindex b hother hne hnull
  · intro heq
    exact hd index hindex a hold (Ne.symm hne) (heq ▸ hnull) heq.symm
  · exact hd index hindex b hother hne hnull
  · exact absurd rfl hne

/-- Only the devices and the indexes matter. -/
theorem congr (h : s.Distinct) (hd : s'.devices = s.devices)
    (hi : s'.uniqueIndexes = s.uniqueIndexes) : s'.Distinct := by
  unfold Distinct Unshared
  rw [hd, hi]
  exact h

end Distinct

/-- The devices of a store are those that one statement on a device leaves. -/
structure Updates (s s' : Store) : Prop where
  statement : ∃ id changes n s₁, s.updateDevice id changes = .ok (n, s₁) ∧
    s'.devices = s₁.devices ∧ s'.uniqueIndexes = s₁.uniqueIndexes

theorem Distinct.updates (h : s.Distinct) (hupdates : s.Updates s') : s'.Distinct := by
  obtain ⟨id, changes, n, s₁, hupdate, hdevices, hindexes⟩ := hupdates.statement
  have hdistinct : s₁.Distinct := by
    obtain ⟨-, rfl, -⟩ | ⟨-, d, -, haccept, rfl⟩ := updateDevice_eq_ok hupdate
    · exact h
    · exact h.withDevice (accept_iff.mp haccept).2
  exact hdistinct.congr hdevices hindexes

end Store

/-! ## What the commands keep -/

section

variable {s s' : Store}

theorem changeState_updates {now : Calendar.Instant} {q : StateChange} {r : DeviceRecord}
    (h : changeState now q s = .ok (r, s')) : s.Updates s' := by
  unfold changeState at h
  simp only [bind_eq_ok, stored_eq_ok] at h
  obtain ⟨_, _, _, _, _, _, d, _, _, _, _, _, _, _, ⟨n, s₁⟩, hupdate, _, _, h⟩ := h
  refine ⟨_, _, n, s₁, hupdate, ?_⟩
  cases hd : s₁.device? d.id with
  | none =>
    rw [hd] at h
    cases h
  | some e =>
    simp only [hd, bind_eq_ok] at h
    obtain ⟨_, _, h⟩ := h
    cases h
    exact ⟨rfl, rfl⟩

theorem Store.devices_putVin {device : Option Int} {vin : Option String}
    (h : s.putVin device vin = .ok s') :
    s'.devices = s.devices ∧ s'.uniqueIndexes = s.uniqueIndexes := by
  unfold putVin at h
  split at h
  · cases h
  · cases h
  · split at h
    · cases h
      exact ⟨rfl, rfl⟩
    · obtain ⟨⟨id, s₁⟩, hinsert, rfl⟩ := map_eq_ok.mp h
      obtain ⟨-, rfl⟩ := insertVin_eq_ok hinsert
      exact ⟨rfl, rfl⟩

theorem Update.commit_updates {settings : Settings} {p : Prepared}
    {x : DeviceRecord × Option String} (h : commit settings p s = .ok (x, s')) : s.Updates s' := by
  unfold commit at h
  simp only [bind_eq_ok] at h
  obtain ⟨old, _, h⟩ := h
  cases hwith : s.deviceWith? (wanted old) with
  | none =>
    rw [hwith] at h
    cases h
  | some d =>
    simp only [hwith, bind_eq_ok] at h
    obtain ⟨_, _, _, _, newVin, _, changed, hstore, h⟩ := h
    cases h
    unfold store at hstore
    simp only [bind_eq_ok, storedOr_eq_ok] at hstore
    obtain ⟨_, _, ⟨n, s₁⟩, hupdate, hstore⟩ := hstore
    refine ⟨_, _, n, s₁, hupdate, ?_⟩
    cases newVin with
    | false =>
      cases hstore
      exact ⟨rfl, rfl⟩
    | true =>
      simp only [if_true, bind_eq_ok, storedOr_eq_ok] at hstore
      obtain ⟨_, _, hput⟩ := hstore
      exact Store.devices_putVin hput

theorem updateAttributes_updates {q : AttributeUpdate} {n : Nat}
    (h : updateAttributes q s = .ok (n, s')) : s.Updates s' := by
  unfold updateAttributes at h
  simp only [bind_eq_ok, storedOr_eq_ok] at h
  obtain ⟨_, _, _, _, _, _, ⟨m, s₁⟩, hupdate, _, _, h⟩ := h
  cases h
  exact ⟨_, _, m, _, hupdate, rfl, rfl⟩

/-- Every transaction keeps the unique columns of the devices distinct. -/
theorem Commit.distinct {env : Environment} {c : Command} (h : Commit env s s' c)
    (hs : s.Distinct) : s'.Distinct := by
  cases h with
  | create ready member fresh inserted =>
    obtain ⟨stamp, profile, vin, _, _, _, haccept, rfl, _⟩ := Create.insert_eq_ok inserted
    exact (hs.append (Store.accept_iff.mp haccept).2).congr rfl rfl
  | changeState moved => exact hs.updates (changeState_updates moved)
  | update ready replaced => exact hs.updates (Update.commit_updates replaced)
  | delete ready deleted =>
    obtain ⟨found, d, stamp, _, _, _, _, _, _, _, rfl, _⟩ := Delete.commit_eq_ok deleted
    intro a ha index hindex b hb
    exact hs a (Store.mem_withoutDevice.mp ha).1 index hindex b (Store.mem_withoutDevice.mp hb).1
  | attributes changed => exact hs.updates (updateAttributes_updates changed)
  | associate associated =>
    obtain ⟨x, _, _, rfl⟩ := associate_eq_ok associated
    exact hs.congr rfl rfl

end

/-! ## After a run -/

namespace Store

variable {s : Store}

/-- What holds of a store that a run leaves from empty tables. -/
structure Regular (s : Store) : Prop where
  numbered : s.Numbered
  linked : s.Linked
  complete : ∀ d ∈ s.devices.rows, d.Complete
  distinct : s.Distinct

theorem regular_blank (indexes : List UniqueIndex) : (blank indexes).Regular :=
  ⟨⟨Table.numbered_empty _, Table.numbered_empty _, Table.numbered_empty _,
    Table.numbered_empty _⟩, ⟨⟨List.Pairwise.nil, by simp [blank]⟩, by simp [blank]⟩,
    by simp [blank], by simp [Distinct, blank]⟩

theorem Regular.accept (h : s.Regular) {d : Device} (hd : d ∈ s.devices.rows) :
    s.accept d = .ok () :=
  accept_iff.mpr ⟨h.complete d hd, h.distinct d hd⟩

end Store

theorem Commit.regular {env : Environment} {s s' : Store} {c : Command} (h : Commit env s s' c)
    (hs : s.Regular) : s'.Regular :=
  have effect := h.effect hs.numbered
  ⟨effect.numbered hs.numbered, effect.linked hs.numbered hs.linked, effect.complete hs.complete,
    h.distinct hs.distinct⟩

theorem Registry.regular_after (indexes : List UniqueIndex) (link : Link)
    (run : List (Environment × Command)) :
    (after { store := .blank indexes, link := link } run).store.Regular :=
  store_after (A := fun _ => True) (fun _ _ _ _ h hs => h.regular hs) (fun _ _ => trivial)
    (Store.regular_blank indexes)

end DeviceRegistry
