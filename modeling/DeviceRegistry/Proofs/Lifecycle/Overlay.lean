import DeviceRegistry.Proofs.Lifecycle.Effects
import DeviceRegistry.Proofs.Listing.StateCounts

/-!
# Flags and stored states

A device is decided on by its flags and listed by its stored state. Both say the same as long as the
flags agree with the stored state. Every command keeps them in agreement but one: a change of
attributes may give a device a state that its flags do not agree with. So they agree all along a run
exactly if no step of it does that, and where they agree the listings count what the decisions see.
-/

namespace DeviceRegistry

/-- The flags are set exactly for the states that they are about. -/
def FlagsAgree (state : Option String) (stolen faulty : Int) : Prop :=
  (stolen = 1 ↔ state = some DeviceState.stolen.name) ∧
    (faulty = 1 ↔ state = some DeviceState.faulty.name)

instance (state : Option String) (stolen faulty : Int) :
    Decidable (FlagsAgree state stolen faulty) :=
  inferInstanceAs (Decidable (_ ∧ _))

namespace Device

/-- The flags of a device agree with its stored state. -/
abbrev FlagsAgree (d : Device) : Prop :=
  DeviceRegistry.FlagsAgree d.profile.state d.stolen d.faulty

/-- A state is stored, and both flags are flags. -/
structure Legible (d : Device) : Prop where
  state : ∃ state : DeviceState, d.profile.state = some state.name
  stolen : ∃ b, d.stolen = flagValue b
  faulty : ∃ b, d.faulty = flagValue b

theorem Shows.flagsAgree {d : Device} {state : DeviceState} (h : d.Shows state) : d.FlagsAgree := by
  unfold FlagsAgree DeviceRegistry.FlagsAgree
  rw [h.stolen, h.faulty, h.name]
  simp only [flagValue_eq_one, beq_iff_eq, Option.some.injEq, DeviceState.name_inj, and_self]

theorem Shows.legible {d : Device} {state : DeviceState} (h : d.Shows state) : d.Legible :=
  ⟨⟨state, h.name⟩, ⟨_, h.stolen⟩, ⟨_, h.faulty⟩⟩

theorem Legible.shows {d : Device} (h : d.Legible) (hf : d.FlagsAgree) :
    ∃ state, d.Shows state := by
  obtain ⟨⟨state, hstate⟩, ⟨b, hstolen⟩, ⟨c, hfaulty⟩⟩ := h
  obtain ⟨hb, hc⟩ := hf
  rw [hstolen, flagValue_eq_one, hstate, Option.some.injEq, DeviceState.name_inj,
    ← beq_iff_eq (a := state)] at hb
  rw [hfaulty, flagValue_eq_one, hstate, Option.some.injEq, DeviceState.name_inj,
    ← beq_iff_eq (a := state)] at hc
  exact ⟨state, hstate, hstolen.trans (congrArg flagValue (Bool.eq_iff_iff.mpr hb)),
    hfaulty.trans (congrArg flagValue (Bool.eq_iff_iff.mpr hc))⟩

end Device

/-! ## Attributes -/

theorem Attributes.exists_state {q : AttributeUpdate} {p : RawProfile} (h : prepare q = .ok p)
    {t : RawText} (ht : q.changes.state = some t) :
    ∃ state : DeviceState, t.shown = state.name := by
  have hcheck := (prepare_state h).2
  rw [state_shown h, ht] at hcheck
  obtain ⟨state, hname⟩ := Option.isSome_iff_exists.mp (require_eq_ok.mp hcheck)
  exact ⟨state, (DeviceState.name_of_ofName? hname).symm⟩

namespace Store

/-- The flags of every stored device agree with its stored state. -/
def FlagsAgree (s : Store) : Prop :=
  ∀ d ∈ s.devices.rows, d.FlagsAgree

instance (s : Store) : Decidable s.FlagsAgree :=
  inferInstanceAs (Decidable (∀ _ ∈ _, _))

/-- Every stored device is legible. -/
def Legible (s : Store) : Prop :=
  ∀ d ∈ s.devices.rows, d.Legible

end Store

theorem Descends.legible {s : Store} {c : Command} {e : Device} (h : Descends s c e)
    (hs : s.Legible) : e.Legible := by
  cases h with
  | kept stored => exact hs e stored
  | created => exact (Device.shows_newDevice _ _ _).legible
  | moved stored => exact (Device.shows_moved _ _).legible
  | @replaced _ d p stored =>
    obtain ⟨hstate, hstolen, hfaulty⟩ := hs d stored
    rw [← Device.state_taking state_not_mem_updateColumns p d] at hstate
    exact ⟨hstate, hstolen, hfaulty⟩
  | @changed q p d ready stored named =>
    obtain ⟨hstate, hstolen, hfaulty⟩ := hs d stored
    refine ⟨?_, hstolen, hfaulty⟩
    rw [Attributes.state_taking ready]
    cases hq : q.changes.state with
    | none => exact hstate
    | some t =>
      obtain ⟨state, hname⟩ := Attributes.exists_state ready hq
      exact ⟨state, congrArg some hname⟩

/-- Only a change of attributes can bring the flags and the state apart. -/
theorem Descends.flagsAgree {s : Store} {c : Command} {e : Device} (h : Descends s c e)
    (hc : ∀ q, c ≠ .attributes q) (hs : s.FlagsAgree) : e.FlagsAgree := by
  cases h with
  | kept stored => exact hs e stored
  | created => exact (Device.shows_newDevice _ _ _).flagsAgree
  | moved stored => exact (Device.shows_moved _ _).flagsAgree
  | @replaced _ d p stored =>
    unfold Device.FlagsAgree
    rw [Device.state_taking state_not_mem_updateColumns p d]
    exact hs d stored
  | changed ready stored named => exact absurd rfl (hc _)

/-! ## Runs -/

namespace Registry

/-- A step that changes attributes gives a device a state that its flags do not agree with. -/
inductive Misstates (r : Registry) : Environment × Command → Prop
  | intro {env : Environment} {q : AttributeUpdate} {n : Nat} {d : Device} {t : RawText}
      (accepted : (r.step env (.attributes q)).1 = .ok (.rows n))
      (stored : r.store.device? q.id = some d) (given : q.changes.state = some t)
      (apart : ¬DeviceRegistry.FlagsAgree (some t.shown) d.stolen d.faulty) :
      Misstates r (env, .attributes q)

variable {r : Registry}

/-- A change of attributes keeps flags and states in agreement exactly if it gives no state that the
flags do not agree with. -/
theorem flagsAgree_attributes (hs : r.store.FlagsAgree) (env : Environment) (q : AttributeUpdate) :
    (r.step env (.attributes q)).2.store.FlagsAgree ↔ ¬r.Misstates (env, .attributes q) := by
  have hstep := step_attributes env r q
  cases hupdate : updateAttributes q r.store with
  | error failure =>
    rw [hupdate] at hstep
    rw [hstep]
    refine iff_of_true hs ?_
    rintro ⟨accepted, _, _, _⟩
    rw [hstep] at accepted
    cases accepted
  | ok x =>
    obtain ⟨n, s'⟩ := x
    obtain ⟨p, d, hready, hd, _, hs'⟩ := updateAttributes_eq_ok hupdate
    rw [hupdate] at hstep
    have hstate := Attributes.state_taking hready d
    constructor
    · rintro hafter ⟨_, stored, given, apart⟩
      obtain rfl := Option.some.inj (hd.symm.trans stored)
      rw [given] at hstate
      have hmem := Store.mem_of_device? hd
      have hnew := hafter (d.taking (Device.filledColumns p.shown) p.shown) (by
        rw [hstep, hs']
        exact Store.mem_withDevice.mpr (.inl ⟨rfl, d, hmem.1, rfl⟩))
      unfold Device.FlagsAgree at hnew
      rw [hstate] at hnew
      exact apart hnew
    · intro hmis e he
      rw [hstep, hs'] at he
      rcases Store.mem_withDevice.mp he with ⟨rfl, _⟩ | ⟨he, _⟩
      · unfold Device.FlagsAgree
        rw [hstate]
        cases hq : q.changes.state with
        | none => exact hs d (Store.mem_of_device? hd).1
        | some t =>
          by_contra apart
          exact hmis (.intro (by rw [hstep]) hd hq apart)
      · exact hs e he

/-- A step keeps flags and states in agreement exactly if it does not bring them apart. -/
theorem flagsAgree_step (hn : r.store.Numbered) (hs : r.store.FlagsAgree)
    (e : Environment × Command) :
    (r.step e.1 e.2).2.store.FlagsAgree ↔ ¬r.Misstates e := by
  obtain ⟨env, c⟩ := e
  by_cases hc : ∃ q, c = .attributes q
  · obtain ⟨q, rfl⟩ := hc
    exact flagsAgree_attributes hs env q
  · have hc : ∀ q, c ≠ .attributes q := fun q hq => hc ⟨q, hq⟩
    have hkeep := (step_commits env c r).keep (P := fun s => s.Numbered ∧ s.FlagsAgree)
      (fun s s' h hs => ⟨(h.effect hs.1).numbered hs.1, fun e he =>
        ((h.effect hs.1).descends he).flagsAgree hc hs.2⟩) ⟨hn, hs⟩
    refine iff_of_true hkeep.2 ?_
    rintro ⟨⟩
    exact hc _ rfl

/-- Flags and states agree all along a run exactly if no step of it brings them apart. -/
theorem flagsAgree_prefix_iff (hn : r.store.Numbered) (hs : r.store.FlagsAgree)
    (run : List (Environment × Command)) :
    (∀ earlier, earlier <+: run → (r.after earlier).store.FlagsAgree) ↔
      ∀ earlier e, earlier ++ [e] <+: run → ¬(r.after earlier).Misstates e := by
  constructor
  · intro h earlier e hprefix
    have hbefore := h earlier ((List.prefix_append earlier [e]).trans hprefix)
    have hafter := h (earlier ++ [e]) hprefix
    rw [after_concat] at hafter
    exact (flagsAgree_step (numbered_after earlier hn) hbefore e).mp hafter
  · intro h earlier hprefix
    refine after_of_prefix (P := fun r => r.store.FlagsAgree) hs ?_ hprefix
    intro earlier e hprefix hbefore
    exact (flagsAgree_step (numbered_after earlier hn) hbefore e).mpr (h earlier e hprefix)

theorem legible_after (link : Link) (run : List (Environment × Command)) :
    (after { link := link } run).store.Legible :=
  (store_after_effects (P := Store.Legible) (A := fun _ => True)
    (fun _ _ _ _ _ h hs _ he => (h.descends he).legible hs) (fun _ _ => trivial)
    Store.numbered_empty (by simp [Store.Legible])).2

end Registry

/-! ## What is listed and what is decided on -/

/-- Devices are listed and counted in the states that they count as. -/
structure Store.Transparent (s : Store) : Prop where
  effective : ∀ d ∈ s.devices.rows, ∃ state : DeviceState,
    d.record.effectiveState = .ok state ∧ d.profile.state = some state.name ∧
      (deletable d = true ↔ state = .provisioned)
  devices : ∀ params page, Listing.devices params s = .ok page →
    ∃ q, Query.ofRequest params = .ok q ∧ page.stateCount.Counts (Listing.matching q s)
  details : ∀ selection r page, Listing.details selection r s = .ok page →
    ∃ given, selection.single = .ok given ∧
      page.stateCount.Counts ((Listing.detailRows given s).map (·.device))

theorem Store.transparent_of_flagsAgree {s : Store} (hl : s.Legible) (hs : s.FlagsAgree) :
    s.Transparent := by
  have hshows : ∀ d ∈ s.devices.rows, ∃ state, d.Shows state :=
    fun d hd => (hl d hd).shows (hs d hd)
  refine ⟨?_, fun _ _ h => Listing.counts_of_devices hshows h,
    fun _ _ _ h => Listing.counts_of_details hshows h⟩
  intro d hd
  obtain ⟨state, h⟩ := hshows d hd
  refine ⟨state, h.effectiveState, h.name, ?_, ?_⟩
  · intro hdeletable
    have hprovisioned := Device.shows_of_deletable hdeletable
    exact Except.ok.inj (h.effectiveState.symm.trans hprovisioned.effectiveState)
  · rintro rfl
    unfold deletable
    simp [h.name, h.stolen, h.faulty, flagValue]

/-- Flags and states agree all along a run exactly if no change of attributes gives a device a state
that its flags do not agree with. Where they agree, devices are listed as they are decided on. -/
theorem Registry.flagsAgree_iff (link : Link) (run : List (Environment × Command)) :
    ((∀ earlier, earlier <+: run → (after { link := link } earlier).store.FlagsAgree) ↔
      ∀ earlier e, earlier ++ [e] <+: run → ¬(after { link := link } earlier).Misstates e) ∧
    ((after { link := link } run).store.FlagsAgree →
      (after { link := link } run).store.Transparent) :=
  ⟨flagsAgree_prefix_iff Store.numbered_empty (by simp [Store.FlagsAgree]) run,
    Store.transparent_of_flagsAgree (legible_after link run)⟩

/-- A stolen device that is given the state of an active one is listed as active and still counts as
stolen. -/
theorem Registry.flags_apart_after_attributes :
    let now := Sample.environment
    let run := [(now, Command.create "admin" [Sample.device "S12" "123" "VIN00000000000001"]),
      (now, Command.changeState { factoryId := some 1, state := some .stolen }),
      (now, Command.attributes { id := 1, changes := { state := some "ACTIVE" } })]
    let s := (after {} run).store
    ¬s.FlagsAgree ∧
      (∃ d ∈ s.devices.rows, d.profile.state = some DeviceState.active.name ∧ d.stolen = 1 ∧
        d.countsAs .stolen = true) ∧
      (Listing.details {} {} s).toOption.map (·.stateCount) = some { active := 1 } := by
  decide +kernel

end DeviceRegistry
