import DeviceRegistry.Device.Request
import DeviceRegistry.Lifecycle.Transition
import DeviceRegistry.Proofs.Store.Statements

/-!
# The state that stored columns show

Three columns say in which state a device is: the name of the state and two flags. They show a state
if they are what a move to it writes. A new device shows that it is provisioned, a moved one shows
its target, and a device that shows a state counts as being in it.
-/

namespace DeviceRegistry

@[simp] theorem flagValue_bne_zero (b : Bool) : (flagValue b != 0) = b := by
  cases b <;> rfl

@[simp] theorem flagValue_eq_one {b : Bool} : flagValue b = 1 ↔ b = true := by
  cases b <;> decide

namespace DeviceState

theorem name_injective {s t : DeviceState} (h : s.name = t.name) : s = t := by
  have hs := ofName?_name s
  rw [h, ofName?_name t] at hs
  exact (Option.some.inj hs).symm

theorem name_inj {s t : DeviceState} : s.name = t.name ↔ s = t :=
  ⟨name_injective, fun h => h ▸ rfl⟩

/-- The columns show a state: they have its name and the marks that go with it. -/
structure Shown (state : DeviceState) (p : Profile) (stolen faulty : Int) : Prop where
  name : p.state = some state.name
  stolen : stolen = flagValue (state == .stolen)
  faulty : faulty = flagValue (state == .faulty)

end DeviceState

/-- A history entry shows a state. -/
abbrev HistoryRow.Shows (h : HistoryRow) (state : DeviceState) : Prop :=
  state.Shown h.profile h.stolen h.faulty

/-- A device shows a state. -/
abbrev Device.Shows (d : Device) (state : DeviceState) : Prop :=
  state.Shown d.profile d.stolen d.faulty

namespace Device

theorem shows_newDevice (now : String) (p : Profile) (id : Int) :
    (Store.newDevice now p id).Shows .provisioned :=
  ⟨rfl, rfl, rfl⟩

theorem shows_moved (target : DeviceState) (d : Device) : (d.moved target).Shows target :=
  ⟨state_moved target d, stolen_moved target d, faulty_moved target d⟩

theorem shows_of_deletable {d : Device} (h : Store.deletable d = true) : d.Shows .provisioned := by
  unfold Store.deletable at h
  simp only [Bool.and_eq_true, beq_iff_eq] at h
  exact ⟨h.1.1, h.1.2, h.2⟩

theorem state_taking {columns : List TextColumn} (hc : .state ∉ columns) (p : Profile)
    (d : Device) : (d.taking columns p).profile.state = d.profile.state := by
  have h := get_taking columns p d .state
  rw [if_neg hc] at h
  exact h

namespace Shows

variable {d : Device} {state : DeviceState}

theorem effectiveState (h : d.Shows state) : d.record.effectiveState = .ok state := by
  unfold DeviceRecord.effectiveState record
  simp only [h.stolen, h.faulty, h.name, flagValue_bne_zero]
  cases state <;> rfl

/-- Other columns do not matter. -/
theorem taking {columns : List TextColumn} (hc : .state ∉ columns) (p : Profile)
    (h : d.Shows state) : (d.taking columns p).Shows state :=
  ⟨(state_taking hc p d).trans h.name, h.stolen, h.faulty⟩

end Shows

/-- A device may be deleted exactly if it counts as provisioned. -/
theorem deletable_iff {d : Device} :
    Store.deletable d = true ↔ d.record.effectiveState = .ok .provisioned := by
  refine ⟨fun h => (shows_of_deletable h).effectiveState, fun h => ?_⟩
  unfold DeviceRecord.effectiveState record at h
  by_cases hfaulty : d.faulty = 0
  · by_cases hstolen : d.stolen = 0
    · simp only [hfaulty, hstolen, bne_self_eq_false, Bool.false_eq_true, if_false] at h
      have hname : d.profile.state = some DeviceState.provisioned.name := by
        unfold DeviceState.parse at h
        split at h
        · rename_i state hstate
          obtain rfl := Except.ok.inj h
          obtain ⟨name, hname, hof⟩ := Option.bind_eq_some_iff.mp hstate
          rw [hname, DeviceState.name_of_ofName? hof]
        · cases h
      simp [Store.deletable, hname, hfaulty, hstolen]
    · simp [hfaulty, hstolen] at h
  · simp [hfaulty] at h

end Device

theorem state_not_mem_updateColumns : TextColumn.state ∉ updateColumns := by decide

end DeviceRegistry
