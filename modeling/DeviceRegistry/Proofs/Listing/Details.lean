import DeviceRegistry.Proofs.Listing.Pages
import DeviceRegistry.Proofs.Listing.Refusals
import DeviceRegistry.Proofs.Listing.StateCounts
import DeviceRegistry.Proofs.Store.References

/-!
# Details by one identifier

The details are rows of a join. A device stands in it once for each of its numbers, or once without
a number, and by head unit once for each of its associations. Since no device has two numbers, the
numbers never show it twice (`detailRows_eq_filter_joined`). Two associations with one head unit do:
a device is shown as often as it has them (`Registry.details_once_iff`).
-/

namespace DeviceRegistry

/-! ## Joins -/

section

variable {α β : Type}

/-- Each row with each of its partners, or once with none if it has none. -/
def leftJoin (partners : α → List β) (rows : List α) : List (α × Option β) :=
  rows.flatMap fun a =>
    match partners a with
    | [] => [(a, none)]
    | b :: bs => (b :: bs).map fun b => (a, some b)

/-- Each row with each of its partners. -/
def innerJoin (partners : α → List β) (rows : List α) : List (α × β) :=
  rows.flatMap fun a => (partners a).map fun b => (a, b)

theorem leftJoin_eq_map {partners : α → List β} (h : ∀ a, (partners a).length ≤ 1)
    (rows : List α) : leftJoin partners rows = rows.map fun a => (a, (partners a).head?) := by
  unfold leftJoin
  rw [← List.flatMap_singleton' (rows.map _), List.flatMap_map]
  congr 1
  funext a
  match hpartners : partners a, h a with
  | [], _ => rfl
  | [b], _ => rfl

theorem count_flatMap_replicate [DecidableEq α] {rows : List α} (hrows : rows.Nodup) (n : α → Nat)
    (a : α) : (rows.flatMap fun b => List.replicate (n b) b).count a =
      if a ∈ rows then n a else 0 := by
  induction rows with
  | nil => simp
  | cons b rows ih =>
    obtain ⟨hb, hrows⟩ := List.nodup_cons.mp hrows
    rw [List.flatMap_cons, List.count_append, List.count_replicate, ih hrows]
    by_cases hab : b = a
    · subst hab
      simp [hb]
    · simp [hab, Ne.symm hab]

theorem flatMap_replicate_eq_filter {rows : List α} {n : α → Nat} (h : ∀ a ∈ rows, n a ≤ 1) :
    (rows.flatMap fun a => List.replicate (n a) a) = rows.filter fun a => 0 < n a := by
  induction rows with
  | nil => rfl
  | cons a rows ih =>
    obtain ⟨ha, hrows⟩ := List.forall_mem_cons.mp h
    rw [List.flatMap_cons, List.filter_cons, ih hrows]
    rcases Nat.le_one_iff_eq_zero_or_eq_one.mp ha with ha | ha <;> simp [ha]

end

namespace Listing

/-- The devices, each with its number if it has one. -/
def withVins (s : Store) : List (Device × Option VinRow) :=
  leftJoin (fun d => s.vins.rows.filter fun v => v.device == d.id) s.devices.rows

/-- The devices with their numbers, and by head unit also with their associations. -/
def joined (byHeadUnit : Bool) (s : Store) : List DetailRow :=
  if byHeadUnit then
    (innerJoin (fun p => s.associations.rows.filter fun a => a.device == p.1.id) (withVins s)).map
      fun (p, a) => { device := p.1, vin := p.2.map (·.vin), headUnit := a.headUnit }
  else (withVins s).map fun p => { device := p.1, vin := p.2.map (·.vin), headUnit := none }

/-- A row is selected if it has the identifier, should one be given. -/
def DetailRow.isSelected (given : Option (IdentifierKind × String)) (row : DetailRow) : Bool :=
  given.all row.hasIdentifier

end Listing

open Listing

namespace Store.VinsHeld

variable {s : Store}

theorem length_filter_le_one (h : s.VinsHeld) (x : Int) :
    (s.vins.rows.filter fun v => v.device == x).length ≤ 1 := by
  have hcount := List.nodup_iff_count_le_one.mp h.nodup x
  rwa [List.count_eq_countP, List.countP_map, List.countP_eq_length_filter] at hcount

theorem withVins_eq (h : s.VinsHeld) :
    withVins s = s.devices.rows.map fun d =>
      (d, s.vins.rows.find? fun v => v.device == d.id) := by
  rw [withVins, leftJoin_eq_map fun d : Device => h.length_filter_le_one d.id]
  simp only [List.head?_filter]

theorem joined_devices (h : s.VinsHeld) : joined false s = deviceRows s := by
  rw [joined, if_neg (by decide), h.withVins_eq, List.map_map]
  rfl

theorem joined_headUnits (h : s.VinsHeld) : joined true s = headUnitRows s := by
  rw [joined, if_pos rfl, h.withVins_eq, innerJoin, List.flatMap_map, List.map_flatMap]
  simp only [List.map_map]
  rfl

theorem detailRows_eq_filter_joined (h : s.VinsHeld) (given : Option (IdentifierKind × String)) :
    detailRows given s = (joined (byHeadUnit given) s).filter (·.isSelected given) := by
  match given with
  | none =>
    show deviceRows s = (joined false s).filter fun _ => true
    rw [h.joined_devices, List.filter_true]
  | some (.deviceId, v) =>
    show _ = (joined true s).filter _
    rw [h.joined_headUnits]
    rfl
  | some (.imei, v) | some (.serialNumber, v) | some (.vin, v) | some (.state, v) =>
    show _ = (joined false s).filter _
    rw [h.joined_devices]
    rfl

end Store.VinsHeld

/-! ## The devices of an identifier -/

/-- A device has an identifier: in its profile, by an association, or by a number. -/
def Device.HasIdentifier (s : Store) (d : Device) : IdentifierKind × String → Prop
  | (.imei, v) => d.profile.imei = some v
  | (.serialNumber, v) => d.profile.serialNumber = some v
  | (.deviceId, v) => ∃ a ∈ s.associations.rows, a.device = d.id ∧ a.headUnit = some v
  | (.vin, v) => ∃ w ∈ s.vins.rows, w.device = d.id ∧ w.vin = v
  | (.state, v) => d.profile.state = some v

instance (s : Store) (d : Device) (identifier : IdentifierKind × String) :
    Decidable (d.HasIdentifier s identifier) :=
  match identifier with
  | (.imei, _) | (.serialNumber, _) | (.state, _) => inferInstanceAs (Decidable (_ = _))
  | (.deviceId, _) | (.vin, _) => inferInstanceAs (Decidable (∃ a ∈ _, _ ∧ _))

/-- A device is found by an identifier if it has it, and without one it is found anyway. -/
def Device.FoundBy (s : Store) (given : Option (IdentifierKind × String)) (d : Device) : Prop :=
  ∀ identifier ∈ given, d.HasIdentifier s identifier

instance (s : Store) (given : Option (IdentifierKind × String)) (d : Device) :
    Decidable (d.FoundBy s given) :=
  inferInstanceAs (Decidable (∀ identifier ∈ given, d.HasIdentifier s identifier))

/-- No device has two associations with a head unit. -/
def Store.OnceEach (s : Store) (headUnit : String) : Prop :=
  ((s.associations.rows.filter (·.headUnit == some headUnit)).map (·.device)).Nodup

instance (s : Store) (headUnit : String) : Decidable (s.OnceEach headUnit) :=
  inferInstanceAs (Decidable (List.Nodup _))

namespace Listing

/-- The devices that an identifier finds. -/
def found (given : Option (IdentifierKind × String)) (s : Store) : List Device :=
  s.devices.rows.filter fun d => d.FoundBy s given

/-- How many rows of the details are about a device: by head unit as many as it has associations
with it. -/
def times (given : Option (IdentifierKind × String)) (s : Store) (d : Device) : Nat :=
  match given with
  | some (.deviceId, v) =>
    s.associations.rows.countP fun a => a.device == d.id && a.headUnit == some v
  | _ => if d.FoundBy s given then 1 else 0

section

variable {s : Store} {given : Option (IdentifierKind × String)}

theorem byHeadUnit_eq_true : byHeadUnit given = true ↔ ∃ v, given = some (.deviceId, v) := by
  constructor
  · intro h
    obtain ⟨⟨kind, v⟩, rfl, hkind⟩ := (Option.any_eq_true _ _).mp h
    obtain rfl : kind = .deviceId := eq_of_beq hkind
    exact ⟨v, rfl⟩
  · rintro ⟨v, rfl⟩
    rfl

theorem times_of_not_byHeadUnit (h : byHeadUnit given = false) (d : Device) :
    times given s d = if d.FoundBy s given then 1 else 0 := by
  match given, h with
  | none, _ | some (.imei, v), _ | some (.serialNumber, v), _ | some (.vin, v), _
  | some (.state, v), _ => rfl

theorem times_le_one (h : byHeadUnit given = false) (d : Device) : times given s d ≤ 1 := by
  rw [times_of_not_byHeadUnit h]
  split <;> decide

theorem times_pos_iff {d : Device} : 0 < times given s d ↔ d.FoundBy s given := by
  cases h : byHeadUnit given with
  | false =>
    rw [times_of_not_byHeadUnit h]
    split <;> simp_all
  | true =>
    obtain ⟨v, rfl⟩ := byHeadUnit_eq_true.mp h
    simp [times, List.countP_pos_iff, Device.FoundBy, Device.HasIdentifier]

/-- Every row is about one device: without head units the rows are about the devices that are
found. -/
theorem map_device_of_not_byHeadUnit (hs : s.VinsHeld) (h : byHeadUnit given = false) :
    (detailRows given s).map (·.device) = found given s := by
  have hrows : detailRows given s = (deviceRows s).filter (·.isSelected given) := by
    rw [hs.detailRows_eq_filter_joined, h, hs.joined_devices]
  rw [hrows, deviceRows, List.filter_map, List.map_map]
  refine (List.map_id _).trans (List.filter_congr fun d _ => ?_)
  rw [Bool.eq_iff_iff, decide_eq_true_eq]
  match given, h with
  | some (.vin, v), _ =>
    simp [DetailRow.isSelected, DetailRow.hasIdentifier, Device.FoundBy, Device.HasIdentifier,
      hs.vin?_eq_some]
  | none, _ | some (.imei, v), _ | some (.serialNumber, v), _ | some (.state, v), _ =>
    simp [DetailRow.isSelected, DetailRow.hasIdentifier, Device.FoundBy, Device.HasIdentifier]

theorem map_device_headUnitRows (s : Store) (v : String) :
    ((headUnitRows s).filter (·.hasIdentifier (.deviceId, v))).map (·.device) =
      s.devices.rows.flatMap fun d => List.replicate (times (some (.deviceId, v)) s d) d := by
  rw [headUnitRows, List.filter_flatMap, List.map_flatMap]
  refine List.flatMap_congr fun d _ => ?_
  rw [List.filter_map, List.map_map, List.filter_filter, times, List.countP_eq_length_filter]
  refine List.map_const'.trans (congrArg (fun l => List.replicate (List.length l) d) ?_)
  exact List.filter_congr fun a _ => Bool.and_comm _ _

theorem map_device_detailRows (hs : s.VinsHeld) :
    (detailRows given s).map (·.device) =
      s.devices.rows.flatMap fun d => List.replicate (times given s d) d := by
  cases h : byHeadUnit given with
  | false =>
    rw [map_device_of_not_byHeadUnit hs h, flatMap_replicate_eq_filter fun d _ => times_le_one h d]
    simp only [times_pos_iff]
    rfl
  | true =>
    obtain ⟨v, rfl⟩ := byHeadUnit_eq_true.mp h
    exact map_device_headUnitRows s v

theorem times_le_one_iff (hs : s.Linked) :
    (∀ d ∈ s.devices.rows, times given s d ≤ 1) ↔
      ∀ v, given = some (.deviceId, v) → s.OnceEach v := by
  cases h : byHeadUnit given with
  | false =>
    refine iff_of_true (fun d _ => times_le_one h d) ?_
    rintro v rfl
    cases h
  | true =>
    obtain ⟨v, rfl⟩ := byHeadUnit_eq_true.mp h
    have hcount : ∀ x, ((s.associations.rows.filter (·.headUnit == some v)).map
        (·.device)).count x = s.associations.rows.countP fun a =>
          a.device == x && a.headUnit == some v := by
      intro x
      rw [List.count_eq_countP, List.countP_map, List.countP_filter]
      rfl
    simp only [Option.some.injEq, Prod.mk.injEq, true_and, forall_eq', Store.OnceEach,
      List.nodup_iff_count_le_one, hcount]
    refine ⟨fun hdevices x => ?_, fun hall d _ => hall d.id⟩
    -- What two associations are with is the id of a device, since they refer to one.
    by_contra! hmany
    obtain ⟨a, ha, hax⟩ := List.countP_pos_iff.mp (Nat.zero_lt_of_lt hmany)
    obtain ⟨d, hd, hda⟩ := hs.associations a ha
    obtain rfl : a.device = x := eq_of_beq ((Bool.and_eq_true _ _).mp hax).1
    exact (hdevices d hd).not_gt (by rwa [times, hda])

end

/-! ## Records -/

/-- The records of the details, in the order that is asked for. -/
def detailRecords (given : Option (IdentifierKind × String)) (r : PageRequest) (s : Store) :
    List DeviceRecord :=
  ((Sorting.ofRequest (sortFieldsFor (byHeadUnit given)) r.sortBy r.order).sort DetailRow.cell
    (detailRows given s)).map (·.record)

/-- Records show some devices, each once: no two records have one id, their ids are those of the
devices, and so are their number and the numbers of them in each state. -/
structure ShowsOnce (devices : List Device) (records : List DeviceRecord) : Prop where
  distinct : (records.map (·.id)).Nodup
  shown : ∀ id, id ∈ records.map (·.id) ↔ id ∈ devices.map (·.id)
  total : records.length = devices.length
  counts : ∀ state : DeviceState, records.countP (·.profile.state == some state.name) =
    devices.countP (·.profile.state == some state.name)

/-- The totals of a page are those of some records. -/
structure Totals (records : List DeviceRecord) (page : DevicePage) : Prop where
  total : page.total = records.length
  counts : ∀ state ∈ StateCount.counted,
    page.stateCount.number state = records.countP (·.profile.state == some state.name)

section

variable {s : Store} {given : Option (IdentifierKind × String)} {r : PageRequest}

/-- What records show of their devices is what the devices of the rows show, in another order. -/
theorem map_detailRecords_perm {β : Type} {shows : DeviceRecord → β} {of : Device → β}
    (h : ∀ row : DetailRow, shows row.record = of row.device) :
    ((detailRecords given r s).map shows).Perm
      (((detailRows given s).map (·.device)).map of) := by
  rw [detailRecords, List.map_map, List.map_map]
  refine ((Sorting.lists_sort _ DetailRow.cell _).same.map _).trans (List.Perm.of_eq ?_)
  exact List.map_congr_left fun row _ => h row

theorem count_detailRecords (hn : s.Numbered) (hs : s.VinsHeld) {d : Device}
    (hd : d ∈ s.devices.rows) :
    ((detailRecords given r s).map (·.id)).count d.id = times given s d := by
  have hnodup : s.devices.rows.Nodup := hn.devices.nodup_ids.of_map
  have hrows := count_flatMap_replicate hnodup (times given s) d
  rw [if_pos hd, ← map_device_detailRows hs] at hrows
  have hids : ((detailRecords given r s).map (·.id)).Perm
      (((detailRows given s).map (·.device)).map (·.id)) := map_detailRecords_perm fun _ => rfl
  rw [hids.count_eq, ← hrows, List.count_eq_countP, List.countP_map, List.count_eq_countP]
  refine List.countP_congr fun e he => ?_
  obtain ⟨row, hrow, rfl⟩ := List.mem_map.mp he
  simp only [Function.comp_apply, beq_iff_eq]
  refine ⟨fun hid => ?_, fun heq => heq ▸ rfl⟩
  exact hn.devices.eq_of_id (device_mem_of_mem_detailRows hrow) hd hid

theorem exists_found_of_mem (hs : s.VinsHeld) {record : DeviceRecord}
    (h : record ∈ detailRecords given r s) : ∃ d ∈ found given s, d.id = record.id := by
  have hid : record.id ∈ (((detailRows given s).map (·.device)).map (·.id)) :=
    (map_detailRecords_perm fun _ => rfl).subset (List.mem_map_of_mem h)
  rw [map_device_detailRows hs] at hid
  obtain ⟨d, hd, hid⟩ := List.mem_map.mp hid
  obtain ⟨e, he, hde⟩ := List.mem_flatMap.mp hd
  obtain ⟨hpos, rfl⟩ := List.mem_replicate.mp hde
  exact ⟨d, List.mem_filter.mpr ⟨he, by simpa using times_pos_iff.mp (by omega)⟩, hid⟩

/-- The records show the devices that are found once each exactly if no device has two rows. -/
theorem showsOnce_iff (hn : s.Numbered) (hs : s.VinsHeld) :
    ShowsOnce (found given s) (detailRecords given r s) ↔
      ∀ d ∈ s.devices.rows, times given s d ≤ 1 := by
  constructor
  · intro h d hd
    rw [← count_detailRecords hn hs hd]
    exact List.nodup_iff_count_le_one.mp h.distinct d.id
  · intro h
    -- One row for each device at most: the rows are about the devices that are found.
    have hfound : (detailRows given s).map (·.device) = found given s := by
      rw [map_device_detailRows hs, flatMap_replicate_eq_filter h]
      simp only [times_pos_iff]
      rfl
    have hids : ((detailRecords given r s).map (·.id)).Perm ((found given s).map (·.id)) :=
      hfound ▸ map_detailRecords_perm fun _ => rfl
    have hstates : ((detailRecords given r s).map (·.profile.state)).Perm
        ((found given s).map (·.profile.state)) :=
      hfound ▸ map_detailRecords_perm fun _ => rfl
    refine ⟨?_, fun id => hids.mem_iff, ?_, fun state => ?_⟩
    · refine hids.nodup_iff.mpr (hn.devices.nodup_ids.sublist ?_)
      exact List.filter_sublist.map _
    · simpa using hids.length_eq
    · have hcount := hstates.countP_eq (· == some state.name)
      rw [List.countP_map, List.countP_map] at hcount
      exact hcount

end

/-! ## Pages -/

/-- A page of the details. -/
def detailsPage (given : Option (IdentifierKind × String)) (r : PageRequest) (k size : Nat)
    (s : Store) : DevicePage :=
  { items := slice k size (detailRecords given r s)
    total := (detailRows given s).length
    page := k
    size := size
    stateCount := StateCount.ofStates ((detailRows given s).map (·.device.profile.state)) }

section

variable {selection : Selection} {given : Option (IdentifierKind × String)} {r : PageRequest}
  {s : Store}

theorem require_details_found (given : Option (IdentifierKind × String)) (rows : List DetailRow) :
    require (given.isNone || !rows.isEmpty) .detailsNotFound =
      if given.isSome ∧ rows = [] then .error .detailsNotFound else .ok () := by
  cases given <;> cases rows <;> rfl

/-- A request that asks for a page of admissible details is answered with it, or refused if nothing
has the identifier. -/
theorem details_eq (hadmits : AdmissibleDetails selection given r) {k size : Nat}
    {other : PageRequest} (hasks : r.AsksPage size k other) :
    details selection other s =
      if given.isSome ∧ detailRows given s = [] then .error (.rejected .detailsNotFound)
      else .ok (detailsPage given r k size s) := by
  unfold details
  rw [hadmits.single, hasks.page, hasks.size, hasks.sortBy, hasks.order]
  show (checked (checkDetailsSorting (byHeadUnit given) r.sortBy r.order) >>= _) = _
  rw [hadmits.sorting]
  show (checked (require (given.isNone || !(detailRows given s).isEmpty) .detailsNotFound) >>= _) =
    _
  rw [require_details_found, detailsPage, detailRecords, slice_map]
  split <;> rfl

theorem detailRows_eq_nil (hs : s.VinsHeld) : detailRows given s = [] ↔ found given s = [] := by
  have hrows : detailRows given s = [] ↔ ∀ d ∈ s.devices.rows, times given s d = 0 := by
    rw [← List.map_eq_nil_iff (f := (·.device)), map_device_detailRows hs, List.flatMap_eq_nil_iff]
    simp only [List.replicate_eq_nil_iff]
  simp only [hrows, found, List.filter_eq_nil_iff, decide_eq_true_eq, ← times_pos_iff,
    Nat.not_lt, Nat.le_zero]

/-- The pages of admissible details that find anything, or are of all devices. -/
theorem pages_details (hadmits : AdmissibleDetails selection given r)
    (hfound : given.isSome → detailRows given s ≠ []) {size : Nat} (hlow : minSize ≤ size)
    (hhigh : size ≤ maxSize) :
    Pages (r.AsksPage size) (fun other => details selection other s) DevicePage.items size
      (detailRecords given r s) fun k => detailsPage given r k size s := by
  refine ⟨fun k other hasks => ?_, fun k hpos hoffset => ?_, cutsInto_slices hlow _⟩
  · rw [details_eq hadmits hasks, if_neg fun h => hfound h.1 h.2]
  · exact ⟨_, r.asksPage_with hlow hhigh hpos hoffset⟩

theorem totals_detailsPage (k size : Nat) :
    Totals (detailRecords given r s) (detailsPage given r k size s) := by
  constructor
  · simp [detailsPage, detailRecords, (Sorting.lists_sort _ _ _).same.length_eq]
  · intro state hs
    have hstates : ((detailRecords given r s).map (·.profile.state)).Perm
        (((detailRows given s).map (·.device)).map (·.profile.state)) :=
      map_detailRecords_perm fun _ => rfl
    have hcount := hstates.countP_eq (· == some state.name)
    rw [detailsPage, StateCount.number_ofStates _ hs, List.count_eq_countP]
    rw [List.countP_map, List.map_map] at hcount
    exact congrArg _ hcount.symm

end

end Listing

open Listing in
/-- After every run, the details of an identifier are what it selects from the join of the tables.
Their records show every device as often as there are rows about it, which is more than once exactly
if the device has several associations with the head unit that is given: otherwise they show the
devices with the identifier, each once. The pages of each size make up the records, with their
totals, unless an identifier is given that nothing has: then every request for a page is refused. -/
theorem Registry.details_once_iff (link : Link) (run : List (Environment × Command))
    {selection : Selection} {given : Option (IdentifierKind × String)} {r : PageRequest}
    (hadmits : AdmissibleDetails selection given r) :
    let s := (after { link := link } run).store
    detailRows given s = (joined (byHeadUnit given) s).filter (·.isSelected given) ∧
    ∃ records : List DeviceRecord,
      (∀ record ∈ records, ∃ d ∈ found given s, d.id = record.id) ∧
      (∀ d ∈ s.devices.rows, (records.map (·.id)).count d.id = times given s d) ∧
      (ShowsOnce (found given s) records ↔ ∀ v, given = some (.deviceId, v) → s.OnceEach v) ∧
      ((given.isSome → found given s ≠ []) → ∀ size, minSize ≤ size → size ≤ maxSize → ∃ answers,
        Pages (r.AsksPage size) (fun other => details selection other s) DevicePage.items size
          records answers ∧
        ∀ k, Totals records (answers k)) ∧
      (given.isSome → found given s = [] → ∀ size k other, r.AsksPage size k other →
        details selection other s = .error (.rejected .detailsNotFound)) := by
  intro s
  have hlinked : s.Linked := linked_after link run
  have hn : s.Numbered := numbered_after run Store.numbered_empty
  refine ⟨hlinked.vins.detailRows_eq_filter_joined given, detailRecords given r s,
    fun record => exists_found_of_mem hlinked.vins,
    fun d => count_detailRecords hn hlinked.vins,
    (showsOnce_iff hn hlinked.vins).trans (times_le_one_iff hlinked),
    fun hfound size hlow hhigh => ?_, fun hgiven hnone size k other hasks => ?_⟩
  · refine ⟨_, pages_details hadmits (fun hgiven hrows => ?_) hlow hhigh,
      fun k => totals_detailsPage k size⟩
    exact hfound hgiven ((detailRows_eq_nil hlinked.vins).mp hrows)
  · rw [details_eq hadmits hasks, if_pos ⟨hgiven, (detailRows_eq_nil hlinked.vins).mpr hnone⟩]

open Listing in
/-- Two devices that are associated with one head unit, on pages of one. -/
theorem Registry.details_once_two_devices :
    let run := [
      (Sample.environment, Command.create "admin" [Sample.device "S12" "123" "VIN00000000000001",
        Sample.device "S34" "456" "VIN00000000000002"]),
      (Sample.environment, Command.associate (some 1) (some "HU7")),
      (Sample.environment, Command.associate (some 2) (some "HU7"))]
    let s := (after {} run).store
    let selection : Selection := { deviceId := some "HU7" }
    let given := some (IdentifierKind.deviceId, "HU7")
    AdmissibleDetails selection given {} ∧ (found given s).map (·.id) = [1, 2] ∧
      ∃ (records : List DeviceRecord) (answers : Nat → DevicePage),
        ShowsOnce (found given s) records ∧
        Pages (PageRequest.AsksPage {} 1) (fun other => details selection other s) DevicePage.items
          1 records answers := by
  intro run s selection given
  have hadmits : AdmissibleDetails selection given {} := ⟨by decide +kernel, by decide +kernel⟩
  have htwo : (found given s).map (·.id) = [1, 2] := by decide +kernel
  have honce : s.OnceEach "HU7" := by decide +kernel
  obtain ⟨-, records, -, -, hshows, hpages, -⟩ := details_once_iff {} run hadmits
  obtain ⟨answers, hanswers, -⟩ :=
    hpages (fun _ hnone => by rw [hnone] at htwo; cases htwo) 1 (by decide) (by decide)
  refine ⟨hadmits, htwo, records, answers, hshows.mpr ?_, hanswers⟩
  intro v hv
  obtain ⟨-, rfl⟩ := Prod.mk.inj (Option.some.inj hv)
  exact honce

open Listing in
/-- A device that is associated with one head unit twice is shown and counted twice. -/
theorem Registry.details_twice :
    let run := [
      (Sample.environment, Command.create "admin" [Sample.device "S12" "123" "VIN00000000000001"]),
      (Sample.environment, Command.associate (some 1) (some "HU7")),
      (Sample.environment, Command.associate (some 1) (some "HU7"))]
    let s := (after {} run).store
    (found (some (.deviceId, "HU7")) s).map (·.id) = [1] ∧
      ∃ page, details { deviceId := some "HU7" } {} s = .ok page ∧
        page.items.map (·.id) = [1, 1] ∧ page.total = 2 ∧ page.stateCount.provisioned = 2 := by
  intro run s
  let given := some (IdentifierKind.deviceId, "HU7")
  have hadmits : AdmissibleDetails { deviceId := some "HU7" } given {} :=
    ⟨by decide +kernel, by decide +kernel⟩
  have htwo : (detailRows given s).length = 2 := by decide +kernel
  have hcount : (StateCount.ofStates
      ((detailRows given s).map (·.device.profile.state))).provisioned = 2 := by
    decide +kernel
  have hids : ((detailRows given s).map (·.device)).map (·.id) = List.replicate 2 1 := by
    decide +kernel
  have hfound : (found given s).map (·.id) = [1] := by decide +kernel
  clear_value s
  refine ⟨hfound, detailsPage given {} 1 20 s, ?_, ?_, htwo, hcount⟩
  · have hasks : PageRequest.AsksPage {} 20 1 {} := ⟨rfl, rfl, rfl, rfl⟩
    rw [details_eq hadmits hasks, if_neg]
    rintro ⟨-, hnone⟩
    rw [hnone] at htwo
    cases htwo
  · have hrecords : (detailRecords given {} s).map (·.id) = List.replicate 2 1 :=
      List.perm_replicate.mp (hids ▸ map_detailRecords_perm fun _ => rfl)
    rw [detailsPage, ← slice_map, hrecords]
    rfl

end DeviceRegistry
