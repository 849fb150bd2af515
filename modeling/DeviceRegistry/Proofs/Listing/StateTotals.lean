import DeviceRegistry.Proofs.History.AuditTrail
import DeviceRegistry.Proofs.Listing.StateCounts

/-!
# State counts add up

A state count has a number for four of the seven states and drops the devices in the others. No move
leads to one of these: a device starts provisioned, and whatever a move allows is counted. So unless
a change of attributes gives a device its state, every device of a run is in a counted state, and
the numbers of a listing add up to its total.
-/

namespace DeviceRegistry

namespace StateCount

/-- All devices that are counted. -/
def total (c : StateCount) : Int :=
  c.provisioned + c.active + c.stolen + c.faulty

/-- A stored state is one of those that are counted. -/
def isCounted (stored : Option String) : Bool :=
  counted.any fun state => stored == some state.name

theorem isCounted_name {state : DeviceState} (h : state ∈ counted) :
    isCounted (some state.name) = true :=
  List.any_eq_true.mpr ⟨state, h, beq_self_eq_true _⟩

theorem total_add (c : StateCount) (stored : Option String) (n : Int) :
    (c.add stored n).total = c.total + if isCounted stored then n else 0 := by
  unfold add
  cases hstored : stored.bind DeviceState.ofName? with
  | none =>
    have hnot : isCounted stored = false := by
      refine Bool.eq_false_iff.mpr fun h => ?_
      obtain ⟨state, -, hname⟩ := List.any_eq_true.mp h
      rw [beq_iff_eq.mp hname, Option.bind_some, DeviceState.ofName?_name] at hstored
      cases hstored
    simp [hnot]
  | some state =>
    obtain ⟨name, rfl, hname⟩ := Option.bind_eq_some_iff.mp hstored
    obtain rfl := DeviceState.name_of_ofName? hname
    have hcounted : isCounted (some state.name) = decide (state ∈ counted) := by
      cases state <;> decide
    rw [hcounted]
    cases state <;> simp [total, counted] <;> omega

/-- A state count counts the states that are counted and drops the others. -/
theorem total_ofStates (states : List (Option String)) :
    (ofStates states).total = states.countP isCounted := by
  have key : ∀ c : StateCount,
      ((states.map fun s => (s, (1 : Int))).foldl (fun c g => c.add g.1 g.2) c).total =
        c.total + states.countP isCounted := by
    induction states with
    | nil => simp
    | cons stored states ih =>
      intro c
      rw [List.map_cons, List.foldl_cons, ih, total_add, List.countP_cons]
      cases isCounted stored with
      | false => simp
      | true =>
        simp only [if_true, Int.natCast_add]
        omega
  rw [ofStates, ofGroups, key]
  exact Int.zero_add _

theorem total_eq_length {states : List (Option String)}
    (h : ∀ stored ∈ states, isCounted stored = true) : (ofStates states).total = states.length := by
  rw [total_ofStates, List.countP_eq_length.mpr h]

end StateCount

/-! ## States of devices -/

theorem DeviceState.mem_counted_of_allows {current target : DeviceState}
    (h : current.allows target = true) : target ∈ StateCount.counted := by
  revert h
  cases current <;> cases target <;> decide

/-- At every point of its trail a device is in a state that is counted. -/
theorem Trail.mem_counted {rows : List HistoryRow} {current : DeviceState}
    (h : Trail rows (some current)) : current ∈ StateCount.counted := by
  cases h with
  | provisioned action shows' => decide
  | moved earlier action allowed shows' => exact DeviceState.mem_counted_of_allows allowed

theorem Store.Audited.exists_counted {s : Store} (h : s.Audited) {d : Device}
    (hd : d ∈ s.devices.rows) :
    ∃ state ∈ StateCount.counted, d.profile.state = some state.name := by
  obtain ⟨state, hshows, htrail⟩ := h.stored d hd
  exact ⟨state, htrail.mem_counted, hshows.name⟩

namespace Listing

variable {s : Store} {page : DevicePage}

theorem total_devices (hs : ∀ d ∈ s.devices.rows, StateCount.isCounted d.profile.state = true)
    {params : Params} (h : devices params s = .ok page) : page.stateCount.total = page.total := by
  obtain ⟨q, -, -, -, rfl⟩ := devices_eq_ok.mp h
  show (StateCount.ofStates ((matching q s).map (·.profile.state))).total = (matching q s).length
  rw [StateCount.total_eq_length, List.length_map]
  intro stored hstored
  obtain ⟨d, hd, rfl⟩ := List.mem_map.mp hstored
  exact hs d (List.mem_filter.mp hd).1

theorem total_details (hs : ∀ d ∈ s.devices.rows, StateCount.isCounted d.profile.state = true)
    {selection : Selection} {r : PageRequest} (h : details selection r s = .ok page) :
    page.stateCount.total = page.total := by
  obtain ⟨given, -, htotal, hcount⟩ := details_eq_ok h
  rw [hcount, htotal, StateCount.total_eq_length, List.length_map, List.length_map]
  intro stored hstored
  obtain ⟨d, hd, rfl⟩ := List.mem_map.mp hstored
  obtain ⟨row, hrow, rfl⟩ := List.mem_map.mp hd
  exact hs _ (device_mem_of_mem_detailRows hrow)

end Listing

namespace Registry

/-- After every run whose changes of attributes give no states, each device is in a state that is
counted, and the state counts of both listings that have them add up to their totals. -/
theorem counts_add_up (link : Link) {run : List (Environment × Command)}
    (hrun : ∀ e ∈ run, e.2.KeepsState) :
    let s := (after { link := link } run).store
    (∀ d ∈ s.devices.rows, ∃ state ∈ StateCount.counted, d.profile.state = some state.name) ∧
      (∀ params page, Listing.devices params s = .ok page →
        page.stateCount.total = page.total) ∧
      ∀ selection r page, Listing.details selection r s = .ok page →
        page.stateCount.total = page.total := by
  intro s
  have hstates : ∀ d ∈ s.devices.rows, ∃ state ∈ StateCount.counted,
      d.profile.state = some state.name := fun _ hd => (audited_after hrun link).2.exists_counted hd
  have hcounted : ∀ d ∈ s.devices.rows, StateCount.isCounted d.profile.state = true := by
    intro d hd
    obtain ⟨state, hstate, hname⟩ := hstates d hd
    rw [hname]
    exact StateCount.isCounted_name hstate
  exact ⟨hstates, fun _ _ => Listing.total_devices hcounted,
    fun _ _ _ => Listing.total_details hcounted⟩

/-- Three devices, one of them stolen and one deleted, with a change of attributes in between, in a
listing of all and in one of the stolen ones. -/
theorem counts_add_up_three_devices :
    let now := Sample.environment
    let run := [
      (now, Command.create "admin" [Sample.device "S12" "123" "VIN00000000000001",
        Sample.device "S34" "456" "VIN00000000000002",
        Sample.device "S56" "789" "VIN00000000000003"]),
      (now, Command.changeState { factoryId := some 1, state := some .stolen }),
      (now, Command.attributes { id := 1, changes := { model := some "N" } }),
      (now, Command.delete "456" none)]
    let s := (after {} run).store
    let stolen := [("isDetailsRequired", some "true"), ("containsLikeFields", some "state"),
      ("containsLikeValues", some "STOLEN")]
    (∀ e ∈ run, e.2.KeepsState) ∧
      (∃ page, Listing.details {} {} s = .ok page ∧
        page.stateCount = { provisioned := 1, stolen := 1 } ∧
        page.stateCount.total = page.total) ∧
      ∃ page, Listing.devices stolen s = .ok page ∧ page.stateCount = { stolen := 1 } ∧
        page.stateCount.total = page.total := by
  intro now run s stolen
  have hrun : ∀ e ∈ run, e.2.KeepsState := by
    simp [run, Command.KeepsState]
  obtain ⟨-, hdevices, hdetails⟩ := counts_add_up {} hrun
  have hall : (Listing.details {} {} s).toOption.map (·.stateCount) =
      some { provisioned := 1, stolen := 1 } := by
    decide +kernel
  have hstolen : (Listing.devices stolen s).toOption.map (·.stateCount) = some { stolen := 1 } := by
    decide +kernel
  obtain ⟨page, hpage, hcount⟩ := Option.map_eq_some_iff.mp hall
  obtain ⟨page', hpage', hcount'⟩ := Option.map_eq_some_iff.mp hstolen
  have hdetail := toOption_eq_some.mp hpage
  have hdevice := toOption_eq_some.mp hpage'
  exact ⟨hrun, ⟨page, hdetail, hcount, hdetails _ _ _ hdetail⟩,
    page', hdevice, hcount', hdevices _ _ hdevice⟩

/-- A device that is given one of the other states is dropped from the count. -/
example :
    let now := Sample.environment
    let run := [
      (now, Command.create "admin" [Sample.device "S12" "123" "VIN00000000000001"]),
      (now, Command.attributes { id := 1, changes := { state := some "READY_TO_ACTIVATE" } })]
    let s := (after {} run).store
    (Listing.details {} {} s).toOption.map (fun page => (page.stateCount.total, page.total)) =
      some (0, 1) := by
  decide +kernel

end Registry

end DeviceRegistry
