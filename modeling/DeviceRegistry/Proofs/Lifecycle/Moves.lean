import DeviceRegistry.Proofs.Device.Identifiers
import DeviceRegistry.Proofs.History.Chronicle
import DeviceRegistry.Proofs.Store.Constraints
import Mathlib.Data.List.TakeWhile

/-!
# Moves

A request to move a device is accepted exactly if it names a stored device and a state to which the
device may move, and it is refused for the first of the conditions that does not hold. `Accepts` and
`Refuses` state the conditions by the rows that are stored; one of them applies to every request,
and each determines the answer. An accepted move changes the three columns that show the state of
its device and adds one entry to the history, and a refused one changes nothing.
-/

namespace DeviceRegistry

/-! ## Head units -/

theorem Text.trim_eq_empty_iff {s : String} : trim s = "" ↔ isBlankText s = true := by
  unfold trim trimBy isBlankText
  rw [String.ofList_eq_empty_iff, List.reverse_eq_nil_iff, List.dropWhile_eq_nil_iff,
    List.all_eq_true]
  constructor
  · intro h c hc
    rw [← List.takeWhile_append_dropWhile (p := isBlank) (l := s.toList)] at hc
    rcases List.mem_append.mp hc with hc | hc
    · exact List.mem_takeWhile_imp hc
    · exact h c (List.mem_reverse.mpr hc)
  · intro h c hc
    exact h c ((List.dropWhile_sublist _).mem (List.mem_reverse.mp hc))

namespace Store

variable {s : Store}

/-- The association of a device that was made last. -/
structure Newest (s : Store) (x : Int) (a : Association) : Prop where
  stored : a ∈ s.associations.rows
  about : a.device = x
  last : ∀ b ∈ s.associations.rows, b.device = x → b.id ≤ a.id

theorem association?_eq_some (hn : s.Numbered) {x : Int} {a : Association} :
    s.association? x = some a ↔ s.Newest x a := by
  -- Read from the end, the associations stand in the order of their negated ids.
  have hdown : s.associations.rows.reverse.Pairwise fun a b => -a.id < -b.id :=
    List.pairwise_reverse.mpr (hn.associations.ordered.imp Int.neg_lt_neg)
  refine (Table.find?_eq_some_of_increasing hdown).trans ?_
  simp only [List.mem_reverse, beq_iff_eq, Int.neg_le_neg_iff]
  exact ⟨fun ⟨hstored, about, last⟩ => ⟨hstored, about, last⟩,
    fun ⟨hstored, about, last⟩ => ⟨hstored, about, last⟩⟩

/-- The newest association of a device is with a head unit whose id is more than blanks. -/
def HasHeadUnit (s : Store) (x : Int) : Prop :=
  ∃ a headUnit, s.Newest x a ∧ a.headUnit = some headUnit ∧ Text.trim headUnit ≠ ""

theorem hasHeadUnit_iff (hn : s.Numbered) {x : Int} :
    s.HasHeadUnit x ↔ Transition.isAssociated (s.headUnit? x) = true := by
  unfold HasHeadUnit headUnit? Transition.isAssociated
  simp only [Option.any_eq_true, Option.bind_eq_some_iff, association?_eq_some hn, ne_eq,
    Text.trim_eq_empty_iff, Bool.not_eq_true', Bool.not_eq_true]
  constructor
  · rintro ⟨a, headUnit, newest, given, filled⟩
    exact ⟨headUnit, ⟨a, newest, given⟩, filled⟩
  · rintro ⟨headUnit, ⟨a, newest, given⟩, filled⟩
    exact ⟨a, headUnit, newest, given, filled⟩

end Store

/-! ## The device that is meant -/

/-- How a request refers to a device: by its id and its IMEI, by its id alone, or by its IMEI alone.
An empty IMEI is none. -/
inductive StateChange.Refers (q : StateChange) : DeviceReference → Prop
  | idAndImei {id : Int} {imei : String} (hasId : q.factoryId = some id)
      (hasImei : Text.filled? q.imei = some imei) : Refers q (.idAndImei id imei)
  | factoryId {id : Int} (hasId : q.factoryId = some id) (noImei : Text.filled? q.imei = none) :
      Refers q (.factoryId id)
  | imei {imei : String} (noId : q.factoryId = none) (hasImei : Text.filled? q.imei = some imei) :
      Refers q (.imei imei)

/-- The device that a reference means; of several with an IMEI the one with the least id. -/
inductive DeviceReference.Means (s : Store) (d : Device) : DeviceReference → Prop
  | idAndImei {id : Int} {imei : String} (stored : d ∈ s.devices.rows) (hasId : d.id = id)
      (hasImei : d.profile.imei = some imei) : Means s d (.idAndImei id imei)
  | factoryId {id : Int} (stored : d ∈ s.devices.rows) (hasId : d.id = id) :
      Means s d (.factoryId id)
  | imei {imei : String} (stored : d ∈ s.devices.rows) (hasImei : d.profile.imei = some imei)
      (least : ∀ e ∈ s.devices.rows, e.profile.imei = some imei → d.id ≤ e.id) :
      Means s d (.imei imei)

theorem DeviceReference.Means.mem {s : Store} {d : Device} {ref : DeviceReference}
    (h : ref.Means s d) : d ∈ s.devices.rows := by
  cases h <;> assumption

theorem StateChange.refers_iff {q : StateChange} {ref : DeviceReference} :
    q.Refers ref ↔ q.reference = .ok ref := by
  unfold reference
  constructor
  · intro h
    cases h with
    | idAndImei hasId hasImei => rw [hasId, hasImei]
    | factoryId hasId noImei => rw [hasId, noImei]
    | imei noId hasImei => rw [noId, hasImei]
  · intro h
    cases hid : q.factoryId <;> cases himei : Text.filled? q.imei <;> rw [hid, himei] at h <;>
      cases h
    · exact .imei hid himei
    · exact .factoryId hid himei
    · exact .idAndImei hid himei

theorem StateChange.reference_of_not_refers {q : StateChange} (h : ∀ ref, ¬q.Refers ref) :
    q.reference = .error .referenceMissing := by
  cases href : q.reference with
  | ok ref => exact absurd (refers_iff.mpr href) (h ref)
  | error cause =>
    unfold reference at href
    split at href <;> cases href
    rfl

namespace Store

variable {s : Store}

/-- The device that a reference finds. -/
def lookup? (s : Store) : DeviceReference → Option Device
  | .idAndImei id imei => s.deviceByIdAndImei? id imei
  | .factoryId id => s.device? id
  | .imei imei => s.deviceByImei? imei

theorem lookup?_eq_some (hn : s.Numbered) {ref : DeviceReference} {d : Device} :
    s.lookup? ref = some d ↔ ref.Means s d := by
  cases ref with
  | idAndImei id imei =>
    unfold lookup? deviceByIdAndImei? firstDevice?
    rw [Table.find?_eq_some_of_increasing hn.devices.ordered]
    simp only [Bool.and_eq_true, beq_iff_eq]
    constructor
    · exact fun ⟨hd, ⟨hasId, hasImei⟩, _⟩ => .idAndImei hd hasId hasImei
    · intro h
      cases h with
      | idAndImei hd hasId hasImei =>
        exact ⟨hd, ⟨hasId, hasImei⟩, fun e _ h => Int.le_of_eq (hasId.trans h.1.symm)⟩
  | factoryId id =>
    unfold lookup? device?
    rw [Table.find?_eq_some_of_increasing hn.devices.ordered]
    simp only [beq_iff_eq]
    constructor
    · exact fun ⟨hd, hasId, _⟩ => .factoryId hd hasId
    · intro h
      cases h with
      | factoryId hd hasId =>
        exact ⟨hd, hasId, fun e _ h => Int.le_of_eq (hasId.trans h.symm)⟩
  | imei imei =>
    unfold lookup? deviceByImei? firstDevice?
    rw [Table.find?_eq_some_of_increasing hn.devices.ordered]
    simp only [beq_iff_eq]
    constructor
    · exact fun ⟨hd, hasImei, least⟩ => .imei hd hasImei least
    · intro h
      cases h with
      | imei hd hasImei least => exact ⟨hd, hasImei, least⟩

theorem bindable_of_range {id : Int} (h : -2 ^ 63 ≤ id ∧ id < 2 ^ 63) : bindable id = .ok () := by
  unfold bindable maxInteger
  rw [if_pos (by omega)]

end Store

/-- An id that a request gives has 64 bits. -/
def StateChange.InRange (q : StateChange) : Prop :=
  ∀ id, q.factoryId = some id → -2 ^ 63 ≤ id ∧ id < 2 ^ 63

/-- A request with an id that a statement can take is resolved by looking its reference up. -/
theorem StateChange.Refers.resolve_eq {q : StateChange} {ref : DeviceReference} {s : Store}
    (h : q.Refers ref) (range : q.InRange) :
    s.resolve ref =
      match s.lookup? ref with
      | some d => .ok d
      | none => .error (.rejected (.deviceNotFound ref)) := by
  unfold Store.resolve Store.lookup?
  cases h with
  | @idAndImei id imei hasId hasImei =>
    simp only [Store.bindable_of_range (range id hasId)]
    cases s.deviceByIdAndImei? id imei <;> rfl
  | @factoryId id hasId noImei =>
    simp only [Store.bindable_of_range (range id hasId)]
    cases s.device? id <;> rfl
  | @imei imei noId hasImei =>
    cases s.deviceByImei? imei <;> rfl

/-! ## Accepted and refused requests -/

namespace Transition

variable (device : DeviceLabel) (current target : DeviceState)

theorem check_eq :
    check device current target =
      if current.allows target = true then .ok ()
      else .error (.transitionRefused device current target) := rfl

theorem checkHeadUnit_eq (headUnit : Option String) :
    checkHeadUnit device current target headUnit =
      if target = .active → isAssociated headUnit = true then .ok ()
      else .error (.transitionRefused device current target) := by
  unfold checkHeadUnit require
  by_cases hactive : target = .active <;> simp [hactive]

end Transition

/-- A complete device is moved to a state: the table does not refuse it, and its row is found. -/
theorem Store.updateDevice_ofState {s : Store} {d : Device} (hd : s.device? d.id = some d)
    (hindexes : s.uniqueIndexes = []) (hcomplete : d.Complete) (target : DeviceState) :
    s.updateDevice d.id (Change.ofState target) = .ok (1, s.withDevice (d.moved target)) :=
  updateDevice_of_accept hd (by simp [Change.ofState]) (fun f => by cases f <;> rfl)
    (accept_of_complete hindexes (hcomplete.moved target))

namespace StateChange

variable {q : StateChange} {s : Store} {ref : DeviceReference} {d : Device}
  {current target : DeviceState} {cause : Rejection}

/-- A request refers to a device, asks for a state, and its IMEI, if it gives one, is numeric. -/
structure WellFormed (q : StateChange) (ref : DeviceReference) (target : DeviceState) : Prop where
  refers : q.Refers ref
  asks : q.state = some target
  numeric : Identifier.IsNumeric q.imei

/-- A request is accepted: it means a stored device, which may move to the state from the one that
it counts as, and which has a head unit if it is to become active. -/
structure Accepts (q : StateChange) (s : Store) (d : Device) (target : DeviceState) : Prop where
  means : ∃ ref, q.WellFormed ref target ∧ ref.Means s d
  allowed : ∃ current, d.record.effectiveState = .ok current ∧ target ∈ current.targets
  equipped : target = .active → s.HasHeadUnit d.id

/-- A request is refused for a cause: the first of the conditions that does not hold. -/
inductive Refuses (q : StateChange) (s : Store) : Rejection → Prop
  | unnamed (unnamed : ∀ ref, ¬q.Refers ref) : Refuses q s .referenceMissing
  | stateless {ref : DeviceReference} (refers : q.Refers ref) (stateless : q.state = none) :
      Refuses q s .stateMissing
  | malformed {ref : DeviceReference} {target : DeviceState} (refers : q.Refers ref)
      (asks : q.state = some target) (malformed : ¬Identifier.IsNumeric q.imei) :
      Refuses q s .imeiNotNumeric
  | unknown {ref : DeviceReference} {target : DeviceState} (wellFormed : q.WellFormed ref target)
      (unknown : ∀ d, ¬ref.Means s d) : Refuses q s (.deviceNotFound ref)
  | forbidden {ref : DeviceReference} {d : Device} {current target : DeviceState}
      (wellFormed : q.WellFormed ref target) (means : ref.Means s d)
      (effective : d.record.effectiveState = .ok current) (forbidden : target ∉ current.targets) :
      Refuses q s (.transitionRefused d.id current target)
  | unequipped {ref : DeviceReference} {d : Device} {current : DeviceState}
      (wellFormed : q.WellFormed ref .active) (means : ref.Means s d)
      (effective : d.record.effectiveState = .ok current) (allowed : .active ∈ current.targets)
      (unequipped : ¬s.HasHeadUnit d.id) : Refuses q s (.transitionRefused d.id current .active)

theorem accepts_or_refuses
    (effective : ∀ d ∈ s.devices.rows, ∃ state, d.record.effectiveState = .ok state) :
    (∃ d target, q.Accepts s d target) ∨ ∃ cause, q.Refuses s cause := by
  by_cases hrefers : ∃ ref, q.Refers ref
  swap
  · exact .inr ⟨_, .unnamed fun ref href => hrefers ⟨ref, href⟩⟩
  obtain ⟨ref, hrefers⟩ := hrefers
  cases hasks : q.state with
  | none => exact .inr ⟨_, .stateless hrefers hasks⟩
  | some target =>
  by_cases hnumeric : Identifier.IsNumeric q.imei
  swap
  · exact .inr ⟨_, .malformed hrefers hasks hnumeric⟩
  have hformed : q.WellFormed ref target := ⟨hrefers, hasks, hnumeric⟩
  by_cases hmeans : ∃ d, ref.Means s d
  swap
  · exact .inr ⟨_, .unknown hformed fun d hd => hmeans ⟨d, hd⟩⟩
  obtain ⟨d, hmeans⟩ := hmeans
  obtain ⟨current, hcurrent⟩ := effective d hmeans.mem
  by_cases hallowed : target ∈ current.targets
  swap
  · exact .inr ⟨_, .forbidden hformed hmeans hcurrent hallowed⟩
  by_cases hequipped : target = .active → s.HasHeadUnit d.id
  · exact .inl ⟨d, target, ⟨ref, hformed, hmeans⟩, ⟨current, hcurrent, hallowed⟩, hequipped⟩
  · obtain ⟨rfl, hunequipped⟩ := Classical.not_imp.mp hequipped
    exact .inr ⟨_, .unequipped hformed hmeans hcurrent hallowed hunequipped⟩

section

variable (hn : s.Numbered) (hindexes : s.uniqueIndexes = [])
  (hcomplete : ∀ d ∈ s.devices.rows, d.Complete) (range : q.InRange)

include hn hindexes hcomplete range

/-- What is done for a request that means a stored device: the device may move, or not. -/
theorem changeState_of_means (wellFormed : q.WellFormed ref target) (means : ref.Means s d)
    (effective : d.record.effectiveState = .ok current) (now : Calendar.Instant) :
    changeState now q s =
      if current.allows target = true ∧
          (target = .active → Transition.isAssociated (s.headUnit? d.id) = true) then
        (timestamp now).map fun stamp => ((d.moved target).record, s.moved stamp.text d target)
      else .error (.rejected (.transitionRefused d.id current target)) := by
  have hd := Store.device?_of_mem hn means.mem
  have hupdate := Store.updateDevice_ofState hd hindexes (hcomplete d means.mem) target
  have hfound : (s.withDevice (d.moved target)).device? d.id = some (d.moved target) :=
    Store.device?_withDevice_self (d := d.moved target) hd
  unfold changeState
  rw [refers_iff.mp wellFormed.refers, target_eq_ok.mpr wellFormed.asks,
    Identifier.checkWholeImei_eq, if_pos wellFormed.numeric]
  simp only [checked, Except.mapError, bind, Except.bind, wellFormed.refers.resolve_eq range,
    (Store.lookup?_eq_some hn).mpr means, effective, stored, hupdate, hfound,
    Transition.check_eq, Transition.checkHeadUnit_eq]
  by_cases hallowed : current.allows target = true
  · by_cases hunit : target = .active → Transition.isAssociated (s.headUnit? d.id) = true
    · rw [if_pos (And.intro hallowed hunit)]
      simp only [hallowed, if_true, if_pos hunit]
      cases timestamp now <;> rfl
    · simp only [hallowed, if_true, hunit, and_false, if_false]
  · simp only [hallowed, Bool.false_eq_true, if_false, false_and]

theorem changeState_of_accepts (h : q.Accepts s d target) (now : Calendar.Instant) :
    changeState now q s =
      (timestamp now).map fun stamp => ((d.moved target).record, s.moved stamp.text d target) := by
  obtain ⟨⟨ref, wellFormed, means⟩, ⟨current, effective, allowed⟩, equipped⟩ := h
  rw [changeState_of_means hn hindexes hcomplete range wellFormed means effective]
  exact if_pos ⟨List.contains_iff_mem.mpr allowed,
    fun hactive => (Store.hasHeadUnit_iff hn).mp (equipped hactive)⟩

theorem changeState_of_refuses (h : q.Refuses s cause) (now : Calendar.Instant) :
    changeState now q s = .error (.rejected cause) := by
  cases h with
  | unnamed unnamed =>
    unfold changeState
    rw [reference_of_not_refers unnamed]
    rfl
  | stateless refers stateless =>
    unfold changeState
    rw [refers_iff.mp refers, StateChange.target, stateless]
    rfl
  | malformed refers asks malformed =>
    unfold changeState
    rw [refers_iff.mp refers, target_eq_ok.mpr asks, Identifier.checkWholeImei_eq,
      if_neg malformed]
    rfl
  | @unknown ref target wellFormed unknown =>
    have hnone : s.lookup? ref = none :=
      Option.eq_none_iff_forall_ne_some.mpr fun d hd => unknown d ((Store.lookup?_eq_some hn).mp hd)
    unfold changeState
    rw [refers_iff.mp wellFormed.refers, target_eq_ok.mpr wellFormed.asks,
      Identifier.checkWholeImei_eq, if_pos wellFormed.numeric]
    show s.resolve ref >>= _ = _
    rw [wellFormed.refers.resolve_eq range, hnone]
    rfl
  | forbidden wellFormed means effective forbidden =>
    rw [changeState_of_means hn hindexes hcomplete range wellFormed means effective]
    exact if_neg fun h => forbidden (List.contains_iff_mem.mp h.1)
  | unequipped wellFormed means effective allowed unequipped =>
    rw [changeState_of_means hn hindexes hcomplete range wellFormed means effective]
    exact if_neg fun h => unequipped ((Store.hasHeadUnit_iff hn).mpr (h.2 rfl))

end

end StateChange

/-! ## What a move leaves -/

/-- A device in the version that it has after a move: it shows the state, and its other columns are
as they were. -/
structure Device.MovesTo (d : Device) (target : DeviceState) (e : Device) : Prop where
  id : e.id = d.id
  state : e.profile.state = some target.name
  stolen : e.stolen = if target = .stolen then 1 else 0
  faulty : e.faulty = if target = .faulty then 1 else 0
  others : ∀ c, c ≠ .state → e.profile.get c = d.profile.get c

theorem Device.movesTo_moved (d : Device) (target : DeviceState) :
    d.MovesTo target (d.moved target) where
  id := rfl
  state := rfl
  stolen := by cases target <;> rfl
  faulty := by cases target <;> rfl
  others := fun c hc => by cases c <;> first | rfl | exact absurd rfl hc

/-- A store after a move: one device is in its new version, the history has one more entry, about
this version, and everything else is as it was. -/
structure Store.Moves (s s' : Store) (d e : Device) (now : String) : Prop where
  devices : s'.devices.rows = s.devices.rows.map fun a => if a.id = d.id then e else a
  history : ∃ h, s'.history.rows = s.history.rows ++ [h] ∧ h.Depicts .updated e ∧
    h.recordedAt = now
  given : s'.devices.lastId = s.devices.lastId
  vins : s'.vins = s.vins
  associations : s'.associations = s.associations
  uniqueIndexes : s'.uniqueIndexes = s.uniqueIndexes

theorem Store.moves_moved (s : Store) (now : String) (d : Device) (target : DeviceState) :
    s.Moves (s.moved now d target) d (d.moved target) now where
  devices := List.map_congr_left fun a _ => by simp
  history := ⟨_, history_appendHistory,
    depicts_snapshot (Device.shows_moved target d) s now .updated, rfl⟩
  given := rfl
  vins := rfl
  associations := rfl
  uniqueIndexes := rfl

/-- How a request to move a device is answered, and what it leaves. An accepted one is answered
with the record of the device in its new version, as it is stored then; nothing changes if the
request is refused, or if the clock has left the years of a timestamp. -/
inductive StateChange.Settles (env : Environment) (q : StateChange) (r : Registry) :
    Except Failure Answer → Registry → Prop
  | moved {d e : Device} {target : DeviceState} {stamp : Calendar.Stamp} {s : Store}
      (accepted : q.Accepts r.store d target) (clock : env.now.stamp? = some stamp)
      (version : d.MovesTo target e) (moves : r.store.Moves s d e stamp.text)
      (found : s.device? d.id = some e) (effective : e.record.effectiveState = .ok target) :
      Settles env q r (.ok (.record e.record)) { r with store := s }
  | refused {cause : Rejection} (refused : q.Refuses r.store cause) :
      Settles env q r (.error (.rejected cause)) r
  | untimed {d : Device} {target : DeviceState} (accepted : q.Accepts r.store d target)
      (clock : env.now.stamp? = none) : Settles env q r (.error .clockOutOfYears) r

namespace Registry

/-- Every request to move a device is settled by the conditions that it has to meet, with the first
that it does not meet as the cause of a refusal. If the clock can be read it succeeds exactly if it
is accepted; and the update of an accepted one always finds its row. -/
theorem move_settled (link : Link) (run : List (Environment × Command)) (env : Environment)
    (q : StateChange) (range : q.InRange) :
    let r := after { link := link } run
    (∀ stamp, env.now.stamp? = some stamp →
      ((∃ record, (r.step env (.changeState q)).1 = .ok (.record record)) ↔
        ∃ d target, q.Accepts r.store d target)) ∧
    (∀ d target, q.Accepts r.store d target →
      ∃ s, r.store.updateDevice d.id (Change.ofState target) = .ok (1, s)) ∧
    q.Settles env r (r.step env (.changeState q)).1 (r.step env (.changeState q)).2 := by
  intro r
  have hn : r.store.Numbered := numbered_after run Store.numbered_empty
  have hindexes : r.store.uniqueIndexes = [] := uniqueIndexes_after link run
  have hcomplete : ∀ d ∈ r.store.devices.rows, d.Complete := complete_after link run
  have heffective : ∀ d ∈ r.store.devices.rows, ∃ state, d.record.effectiveState = .ok state :=
    fun d hd => ((wellFormed_after link run).2.1 d hd).1
  have haccepts : ∀ {d target}, q.Accepts r.store d target → changeState env.now q r.store = _ :=
    fun h => StateChange.changeState_of_accepts hn hindexes hcomplete range h env.now
  have hrefuses : ∀ {cause}, q.Refuses r.store cause → changeState env.now q r.store = _ :=
    fun h => StateChange.changeState_of_refuses hn hindexes hcomplete range h env.now
  rw [step_changeState]
  refine ⟨fun stamp clock => ⟨fun ⟨record, hrecord⟩ => ?_, fun ⟨d, target, accepted⟩ => ?_⟩,
    fun d target accepted => ?_, ?_⟩
  · obtain accepted | ⟨cause, refused⟩ := StateChange.accepts_or_refuses heffective
    · exact accepted
    · rw [hrefuses refused] at hrecord
      cases hrecord
  · rw [haccepts accepted, timestamp_eq_ok.mpr clock]
    exact ⟨_, rfl⟩
  · obtain ⟨ref, -, means⟩ := accepted.means
    exact ⟨_, Store.updateDevice_ofState (Store.device?_of_mem hn means.mem) hindexes
      (hcomplete d means.mem) target⟩
  · obtain ⟨d, target, accepted⟩ | ⟨cause, refused⟩ := StateChange.accepts_or_refuses heffective
    · rw [haccepts accepted, timestamp]
      obtain ⟨ref, -, means⟩ := accepted.means
      have hd := Store.device?_of_mem hn means.mem
      have hfound := Store.device?_withDevice_self (d := d.moved target) hd
      cases clock : env.now.stamp? with
      | none => exact .untimed accepted clock
      | some stamp =>
        exact .moved accepted clock (d.movesTo_moved target) (r.store.moves_moved _ d target)
          hfound (Device.shows_moved target d).effectiveState
    · rw [hrefuses refused]
      exact .refused refused

/-- A stolen device is found again by its id and its IMEI, which an older device has too, and
becomes active with the head unit that was associated last. -/
theorem move_settled_found_again :
    let now := Sample.environment
    let earlier := [
      (now, Command.create "admin" [Sample.device "S12" "123" "VIN00000000000001",
        Sample.device "S34" "123" "VIN00000000000002"]),
      (now, Command.changeState { factoryId := some 2, state := some .stolen }),
      (now, Command.associate (some 2) (some " ")),
      (now, Command.associate (some 2) (some "H1"))]
    let q : StateChange := { factoryId := some 2, imei := some "123", state := some .active }
    let r := after {} earlier
    q.InRange ∧ (∃ record, (r.step now (.changeState q)).1 = .ok (.record record)) ∧
      (∃ d target, q.Accepts r.store d target) ∧
      q.Settles now r (r.step now (.changeState q)).1 (r.step now (.changeState q)).2 := by
  intro now earlier q r
  have range : q.InRange := by
    rintro id ⟨rfl⟩
    decide
  have hanswer : ((r.step now (.changeState q)).1.toOption.map fun
      | .record record => record.id
      | _ => 0) = some 2 := by
    decide +kernel
  obtain ⟨haccepted, -, hsettles⟩ := move_settled {} earlier now q range
  obtain ⟨answer, hok, hrecord⟩ := Option.map_eq_some_iff.mp hanswer
  have hok := toOption_eq_some.mp hok
  obtain ⟨stamp, clock⟩ : ∃ stamp, now.now.stamp? = some stamp :=
    Option.isSome_iff_exists.mp (by decide +kernel)
  cases answer with
  | record record =>
    exact ⟨range, ⟨record, hok⟩, (haccepted stamp clock).mp ⟨record, hok⟩, hsettles⟩
  | created => cases hrecord
  | rows => cases hrecord
  | id => cases hrecord

end Registry

end DeviceRegistry
