import DeviceRegistry.Proofs.Device.States
import DeviceRegistry.Proofs.Listing.Queries

/-!
# What state counts count

A state count adds up stored states. Where every device shows a state, it counts the devices by the
states that they count as, and so do the counts of the two listings that have them.
-/

namespace DeviceRegistry

/-- A device counts as being in a state. -/
def Device.countsAs (d : Device) (state : DeviceState) : Bool :=
  match d.record.effectiveState with
  | .ok current => current == state
  | .error _ => false

theorem Device.Shows.countsAs {d : Device} {current : DeviceState} (h : d.Shows current)
    (state : DeviceState) : d.countsAs state = (current == state) := by
  rw [Device.countsAs, h.effectiveState]

namespace StateCount

/-- The states that are counted. -/
def counted : List DeviceState :=
  [.provisioned, .active, .stolen, .faulty]

/-- The number of devices in a state; none in a state that is not counted. -/
def number (c : StateCount) : DeviceState → Int
  | .provisioned => c.provisioned
  | .active => c.active
  | .stolen => c.stolen
  | .faulty => c.faulty
  | .readyToActivate => 0
  | .deactivated => 0
  | .provisionedAlive => 0

/-- The numbers are those of some devices by the states that they count as. -/
def Counts (c : StateCount) (devices : List Device) : Prop :=
  ∀ state ∈ counted, c.number state = devices.countP (·.countsAs state)

theorem number_add (c : StateCount) (stored : Option String) (n : Int) {state : DeviceState}
    (hs : state ∈ counted) :
    (c.add stored n).number state =
      c.number state + if stored = some state.name then n else 0 := by
  unfold add
  cases hstored : stored.bind DeviceState.ofName? with
  | none =>
    have hne : stored ≠ some state.name := by
      rintro rfl
      rw [Option.bind_some, DeviceState.ofName?_name] at hstored
      cases hstored
    simp [hne]
  | some other =>
    obtain ⟨t, rfl, ht⟩ := Option.bind_eq_some_iff.mp hstored
    obtain rfl := DeviceState.name_of_ofName? ht
    simp only [Option.some.injEq, DeviceState.name_inj]
    cases other <;> cases state <;> simp_all [number, counted]

theorem number_ofStates (states : List (Option String)) {state : DeviceState}
    (hs : state ∈ counted) : (ofStates states).number state = states.count (some state.name) := by
  have key : ∀ c : StateCount,
      ((states.map fun s => (s, (1 : Int))).foldl (fun c g => c.add g.1 g.2) c).number state =
        c.number state + states.count (some state.name) := by
    induction states with
    | nil => simp
    | cons stored states ih =>
      intro c
      rw [List.map_cons, List.foldl_cons, ih, number_add c stored 1 hs, List.count_cons]
      by_cases h : stored = some state.name
      · simp only [h, if_true, beq_self_eq_true]
        omega
      · simp [h]
  have hzero : (({} : StateCount).number state) = 0 := by
    cases state <;> rfl
  rw [ofStates, ofGroups, key, hzero, Int.zero_add]

/-- Stored states count devices by the states that they count as if every device shows one. -/
theorem counts_of_shows {devices : List Device} (h : ∀ d ∈ devices, ∃ state, d.Shows state) :
    (ofStates (devices.map (·.profile.state))).Counts devices := by
  intro state hs
  rw [number_ofStates _ hs, List.count_eq_countP, List.countP_map]
  congr 1
  refine List.countP_congr ?_
  intro d hd
  obtain ⟨current, hshows⟩ := h d hd
  rw [hshows.countsAs]
  simp only [Function.comp_apply, hshows.name, beq_iff_eq, Option.some.injEq, DeviceState.name_inj]

end StateCount

namespace Listing

variable {s : Store} {page : DevicePage}

theorem details_eq_ok {selection : Selection} {r : PageRequest}
    (h : details selection r s = .ok page) :
    ∃ given, selection.single = .ok given ∧ page.total = (detailRows given s).length ∧
      page.stateCount =
        StateCount.ofStates (((detailRows given s).map (·.device)).map (·.profile.state)) := by
  unfold details at h
  simp only [bind_eq_ok, checked_eq_ok] at h
  obtain ⟨given, hgiven, _, _, _, _, _, _, _, _, h⟩ := h
  cases h
  exact ⟨given, hgiven, rfl, by rw [List.map_map]; rfl⟩

theorem device_mem_of_mem_detailRows {given : Option (IdentifierKind × String)} {row : DetailRow}
    (h : row ∈ detailRows given s) : row.device ∈ s.devices.rows := by
  have hdevices : row ∈ deviceRows s → row.device ∈ s.devices.rows := by
    intro h
    obtain ⟨d, hd, rfl⟩ := List.mem_map.mp h
    exact hd
  have hheadUnits : row ∈ headUnitRows s → row.device ∈ s.devices.rows := by
    intro h
    obtain ⟨d, hd, h⟩ := List.mem_flatMap.mp h
    obtain ⟨a, _, rfl⟩ := List.mem_map.mp h
    exact hd
  unfold detailRows at h
  split at h
  · exact hdevices h
  · exact hheadUnits (List.mem_filter.mp h).1
  · exact hdevices (List.mem_filter.mp h).1

theorem counts_of_devices (hs : ∀ d ∈ s.devices.rows, ∃ state, d.Shows state) {params : Params}
    (h : devices params s = .ok page) :
    ∃ q, Query.ofRequest params = .ok q ∧ page.stateCount.Counts (matching q s) := by
  obtain ⟨q, hq, -, -, rfl⟩ := devices_eq_ok.mp h
  refine ⟨q, hq, StateCount.counts_of_shows ?_⟩
  intro d hd
  exact hs d (List.mem_filter.mp hd).1

theorem counts_of_details (hs : ∀ d ∈ s.devices.rows, ∃ state, d.Shows state)
    {selection : Selection} {r : PageRequest} (h : details selection r s = .ok page) :
    ∃ given, selection.single = .ok given ∧
      page.stateCount.Counts ((detailRows given s).map (·.device)) := by
  obtain ⟨given, hgiven, -, hcount⟩ := details_eq_ok h
  refine ⟨given, hgiven, hcount ▸ StateCount.counts_of_shows ?_⟩
  intro d hd
  obtain ⟨row, hrow, rfl⟩ := List.mem_map.mp hd
  exact hs _ (device_mem_of_mem_detailRows hrow)

end Listing

end DeviceRegistry
