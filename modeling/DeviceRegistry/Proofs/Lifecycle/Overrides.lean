import DeviceRegistry.Proofs.Device.StoredForms
import DeviceRegistry.Proofs.Store.Indexes

/-!
# Overrides

A change of attributes writes what its request gives over what is stored, and null leaves a column as
it is. So two of them about one device come to the request that gives what the later one gives and
otherwise what the earlier one does (`overriddenBy`): it succeeds where they do and leaves the same
store, though a unique column may forbid the version in between to others. A repeated request changes
nothing, and the order of requests that give different columns does not matter.
-/

namespace DeviceRegistry

namespace Device

/-- The device with those columns taken from a profile that it fills. -/
def patched (p : Profile) (d : Device) : Device :=
  d.taking (filledColumns p) p

variable {p q : Profile} {d : Device}

@[simp] theorem id_patched (p : Profile) (d : Device) : (d.patched p).id = d.id := rfl

@[simp] theorem get_patched (p : Profile) (d : Device) (c : TextColumn) :
    (d.patched p).profile.get c = (p.get c).or (d.profile.get c) := by
  unfold patched
  rw [get_taking]
  simp only [mem_filledColumns]
  cases p.get c <;> rfl

theorem patched_eq {e : Device} (hd : d.id = e.id) (hs : d.stolen = e.stolen)
    (hf : d.faulty = e.faulty) (h : ∀ c, (p.get c).or (d.profile.get c) = e.profile.get c) :
    d.patched p = e := by
  have hprofile : (d.patched p).profile = e.profile :=
    Columns.ext_get fun c => (get_patched p d c).trans (h c)
  cases e
  cases hd
  cases hs
  cases hf
  cases hprofile
  rfl

/-- What is patched twice is patched by the later profile over the earlier one. -/
theorem patched_patched {r : Profile} (h : ∀ c, r.get c = (q.get c).or (p.get c)) :
    (d.patched p).patched q = d.patched r :=
  patched_eq rfl rfl rfl fun c => by rw [get_patched, get_patched, h, Option.or_assoc]

end Device

/-! ## Requests that pass -/

namespace AttributeUpdate

/-- The columns that a request gives. -/
def given (q : AttributeUpdate) : RawProfile :=
  q.changes.among attributeColumns

/-- A request passes the checks of its values: its identifiers and its state have their forms, it
gives something, and its id and all that it gives can be stored. -/
structure Passes (q : AttributeUpdate) : Prop where
  imei : Identifier.checkImei (q.changes.imei.map RawText.shown) = .ok ()
  serialNumber : Identifier.checkSerialNumber (q.changes.serialNumber.map RawText.shown) = .ok ()
  state : Identifier.checkStateName (q.changes.state.map RawText.shown) = .ok ()
  gives : q.given ≠ .empty
  storable : q.given.Storable
  bindable : Store.bindable q.id = .ok ()

variable {q : AttributeUpdate} {s s' : Store} {d : Device} {n : Nat}

theorem prepare_eq_ok {p : RawProfile} :
    Attributes.prepare q = .ok p ↔
      Identifier.checkImei (q.changes.imei.map RawText.shown) = .ok () ∧
        Identifier.checkSerialNumber (q.changes.serialNumber.map RawText.shown) = .ok () ∧
        Identifier.checkStateName (q.changes.state.map RawText.shown) = .ok () ∧
        q.given ≠ .empty ∧ q.given.DatesRead ∧ p = q.given.dated := by
  unfold Attributes.prepare
  simp only [bind_eq_ok]
  constructor
  · rintro ⟨_, imei, _, serialNumber, _, state, _, gives, hdates⟩
    exact ⟨imei, serialNumber, state, bne_iff_ne.mp (require_eq_ok.mp gives),
      RawProfile.withGivenDates_eq_ok.mp hdates⟩
  · rintro ⟨imei, serialNumber, state, gives, hdates⟩
    exact ⟨(), imei, (), serialNumber, (), state, (), require_eq_ok.mpr (bne_iff_ne.mpr gives),
      RawProfile.withGivenDates_eq_ok.mpr hdates⟩

theorem not_empties_ofProfile (p : Profile) (f : Flag) :
    (Change.ofProfile p).any (Change.empties f) = false := by
  refine List.any_eq_false.mpr fun change hchange => ?_
  obtain ⟨c, -, hc⟩ := List.mem_filterMap.mp hchange
  obtain ⟨v, -, rfl⟩ := Option.map_eq_some_iff.mp hc
  exact Bool.false_ne_true

theorem ofProfile_ne_nil (gives : q.given ≠ .empty) (storable : q.given.Storable) :
    Change.ofProfile q.given.stored ≠ [] := by
  intro hnil
  refine gives (Columns.ext_get fun c => ?_)
  cases hc : q.given.get c with
  | none => cases c <;> rfl
  | some t =>
    obtain ⟨v, hv⟩ := Option.isSome_iff_exists.mp (storable c t hc)
    have hmem : Change.text c (some v) ∈ Change.ofProfile q.given.stored :=
      List.mem_filterMap.mpr ⟨c, TextColumn.mem_all c, by
        rw [RawProfile.get_stored, hc, Option.bind_some, hv]
        rfl⟩
    rw [hnil] at hmem
    cases hmem

/-- A change of attributes is carried out exactly if its request passes, its device is stored, and
the table accepts the changed version. -/
theorem updateAttributes_eq_ok_iff :
    updateAttributes q s = .ok (n, s') ↔
      q.Passes ∧ ∃ d, s.device? q.id = some d ∧ s.accept (d.patched q.given.stored) = .ok () ∧
        n = 1 ∧ s' = s.withDevice (d.patched q.given.stored) := by
  have hupdate {d : Device} {n : Nat} {s' : Store} (gives : q.given ≠ .empty)
      (storable : q.given.Storable) (hd : s.device? q.id = some d) :
      s.updateDevice q.id (Change.ofProfile q.given.stored) = .ok (n, s') ↔
        s.accept (d.patched q.given.stored) = .ok () ∧ n = 1 ∧
          s' = s.withDevice (d.patched q.given.stored) := by
    rw [Store.updateDevice_eq_ok_iff hd (ofProfile_ne_nil gives storable)
      (not_empties_ofProfile _), Device.change_ofProfile]
    rfl
  unfold updateAttributes
  simp only [bind_eq_ok, checked_eq_ok, storedOr_eq_ok]
  constructor
  · rintro ⟨p, hprepare, bound, hbound, _, bindable, ⟨m, s₁⟩, hupdated, _, hrows, h⟩
    cases h
    obtain ⟨imei, serialNumber, state, gives, hread, rfl⟩ := prepare_eq_ok.mp hprepare
    obtain ⟨storable, rfl⟩ := (Store.bindProfile_dated hread).mp hbound
    refine ⟨⟨imei, serialNumber, state, gives, storable, bindable⟩, ?_⟩
    cases hd : s.device? q.id with
    | none =>
      unfold Store.updateDevice at hupdated
      rw [hd] at hupdated
      cases hupdated
      exact absurd (require_eq_ok.mp hrows) Bool.false_ne_true
    | some d => exact ⟨d, rfl, (hupdate gives storable hd).mp hupdated⟩
  · rintro ⟨⟨imei, serialNumber, state, gives, storable, bindable⟩, d, hd, haccept, rfl, rfl⟩
    exact ⟨_, prepare_eq_ok.mpr ⟨imei, serialNumber, state, gives, storable.datesRead, rfl⟩, _,
      (Store.bindProfile_dated storable.datesRead).mpr ⟨storable, rfl⟩, (), bindable, _,
      (hupdate gives storable hd).mpr ⟨haccept, rfl, rfl⟩, (), rfl, rfl⟩

/-! ## Requests over each other -/

/-- The request that gives what a later one gives, and otherwise what this one does. -/
def overriddenBy (q later : AttributeUpdate) : AttributeUpdate where
  id := q.id
  changes := .ofColumns fun c => (later.changes.get c).or (q.changes.get c)

/-- Two requests give different columns. -/
def Disjoint (p q : AttributeUpdate) : Prop :=
  ∀ c ∈ attributeColumns, p.changes.get c = none ∨ q.changes.get c = none

variable {later : AttributeUpdate}

theorem get_given_overriddenBy (q later : AttributeUpdate) (c : TextColumn) :
    (q.overriddenBy later).given.get c = (later.given.get c).or (q.given.get c) := by
  unfold given overriddenBy
  rw [RawProfile.get_among, RawProfile.get_among, RawProfile.get_among, Columns.get_ofColumns]
  split <;> rfl

theorem given_eq_none {p q : AttributeUpdate} (h : p.Disjoint q) (c : TextColumn) :
    p.given.get c = none ∨ q.given.get c = none := by
  unfold given
  rw [RawProfile.get_among, RawProfile.get_among]
  split
  · exact h c ‹_›
  · exact .inl rfl

theorem get_stored_overriddenBy (storable : later.given.Storable) (c : TextColumn) :
    (q.overriddenBy later).given.stored.get c =
      (later.given.stored.get c).or (q.given.stored.get c) := by
  simp only [RawProfile.get_stored, get_given_overriddenBy]
  cases hc : later.given.get c with
  | none => rfl
  | some t =>
    obtain ⟨v, hv⟩ := Option.isSome_iff_exists.mp (storable c t hc)
    rw [Option.some_or, Option.bind_some, hv]
    rfl

/-- A check that two values pass is passed by the one that overrides the other. -/
theorem check_or {check : Option String → Check} {v w : Option RawText}
    (hv : check (v.map RawText.shown) = .ok ()) (hw : check (w.map RawText.shown) = .ok ()) :
    check ((v.or w).map RawText.shown) = .ok () := by
  cases v with
  | none => exact hw
  | some t => exact hv

theorem Passes.overriddenBy (h : q.Passes) (hlater : later.Passes) :
    (q.overriddenBy later).Passes := by
  refine
    { imei := check_or hlater.imei h.imei
      serialNumber := check_or hlater.serialNumber h.serialNumber
      state := check_or hlater.state h.state
      gives := fun hempty => ?_
      storable := fun c t ht => ?_
      bindable := h.bindable }
  · refine hlater.gives (Columns.ext_get fun c => ?_)
    have hc := get_given_overriddenBy q later c
    rw [hempty] at hc
    cases hgiven : later.given.get c with
    | none => cases c <;> rfl
    | some t =>
      rw [hgiven] at hc
      cases c <;> cases hc
  · rw [get_given_overriddenBy] at ht
    rcases Option.or_eq_some_iff.mp ht with ht | ⟨-, ht⟩
    · exact hlater.storable c t ht
    · exact h.storable c t ht

end AttributeUpdate

/-! ## What a change of attributes leaves -/

/-- A device in the version that it has after a change of attributes: it has what the request gives,
and every other column, its flags and its id are as they were. -/
structure Device.Receives (q : AttributeUpdate) (d e : Device) : Prop where
  id : e.id = d.id
  stolen : e.stolen = d.stolen
  faulty : e.faulty = d.faulty
  given : e.Holds attributeColumns q.changes
  others : ∀ c, (c ∉ attributeColumns ∨ q.changes.get c = none) →
    e.profile.get c = d.profile.get c

theorem Device.receives_patched {q : AttributeUpdate} {d : Device} (storable : q.given.Storable) :
    d.Receives q (d.patched q.given.stored) where
  id := rfl
  stolen := rfl
  faulty := rfl
  given := by
    intro c hc t ht
    have hgiven : q.given.get c = some t := by
      rw [AttributeUpdate.given, RawProfile.get_among, if_pos hc, ht]
    obtain ⟨v, hv⟩ := Option.isSome_iff_exists.mp (storable c t hgiven)
    refine ⟨v, hv, ?_⟩
    rw [get_patched, RawProfile.get_stored, hgiven, Option.bind_some, hv, Option.some_or]
  others := by
    intro c hc
    have hgiven : q.given.get c = none := by
      rw [AttributeUpdate.given, RawProfile.get_among]
      split
      · exact hc.resolve_left (not_not_intro ‹_›)
      · rfl
    rw [get_patched, RawProfile.get_stored, hgiven, Option.bind_none, Option.none_or]

/-- A store after a change of attributes: the device that the request names is in its new version,
and everything else is as it was. -/
structure Store.Changes (q : AttributeUpdate) (s s' : Store) : Prop where
  devices : ∃ d e, s.device? q.id = some d ∧ d.Receives q e ∧
    s'.devices.rows = s.devices.rows.map fun a => if a.id = q.id then e else a
  given : s'.devices.lastId = s.devices.lastId
  vins : s'.vins = s.vins
  history : s'.history = s.history
  associations : s'.associations = s.associations
  uniqueIndexes : s'.uniqueIndexes = s.uniqueIndexes

theorem updateAttributes_changes {q : AttributeUpdate} {s s' : Store} {n : Nat}
    (h : updateAttributes q s = .ok (n, s')) : s.Changes q s' := by
  obtain ⟨passes, d, hd, -, -, rfl⟩ := AttributeUpdate.updateAttributes_eq_ok_iff.mp h
  have hid : d.id = q.id := (Store.mem_of_device? hd).2
  exact
    { devices := ⟨d, _, hd, Device.receives_patched passes.storable,
        List.map_congr_left fun a _ => by simp [hid]⟩
      given := rfl
      vins := rfl
      history := rfl
      associations := rfl
      uniqueIndexes := rfl }

/-! ## Several changes -/

section

variable {a b : AttributeUpdate} {s s₁ s₂ : Store} {m n : Nat}

theorem Store.device?_patched {d : Device} {id : Int} (hd : s.device? id = some d) (p : Profile) :
    (s.withDevice (d.patched p)).device? id = some (d.patched p) := by
  obtain rfl := (mem_of_device? hd).2
  exact device?_withDevice_self (d := d.patched p) hd

theorem updateAttributes_repeated (ha : updateAttributes a s = .ok (m, s₁)) :
    updateAttributes a s₁ = .ok (1, s₁) := by
  rw [AttributeUpdate.updateAttributes_eq_ok_iff] at ha ⊢
  obtain ⟨passes, d, hd, haccept, -, rfl⟩ := ha
  have hsame : (d.patched a.given.stored).patched a.given.stored = d.patched a.given.stored :=
    Device.patched_patched fun c => Option.or_self.symm
  refine ⟨passes, _, Store.device?_patched hd _, ?_⟩
  rw [hsame, Store.accept_withDevice rfl, Store.withDevice_withDevice rfl]
  exact ⟨haccept, rfl, rfl⟩

/-- Two changes of one device are one, by the later request over the earlier one. -/
theorem updateAttributes_overriddenBy (same : b.id = a.id)
    (ha : updateAttributes a s = .ok (m, s₁)) (hb : updateAttributes b s₁ = .ok (n, s₂)) :
    updateAttributes (a.overriddenBy b) s = .ok (1, s₂) := by
  rw [AttributeUpdate.updateAttributes_eq_ok_iff] at ha hb ⊢
  obtain ⟨passes, d, hd, -, -, rfl⟩ := ha
  obtain ⟨later, e, he, haccept, -, rfl⟩ := hb
  obtain rfl : d.patched a.given.stored = e := by
    rw [same, Store.device?_patched hd] at he
    exact Option.some.inj he
  rw [Store.accept_withDevice (Device.id_patched _ _)] at haccept
  rw [Store.withDevice_withDevice (Device.id_patched _ _)]
  have hmerged : (d.patched a.given.stored).patched b.given.stored =
      d.patched (a.overriddenBy b).given.stored :=
    Device.patched_patched (AttributeUpdate.get_stored_overriddenBy later.storable)
  exact ⟨passes.overriddenBy later, d, hd, hmerged ▸ haccept, rfl, by rw [hmerged]⟩

theorem updateAttributes_comm {s₁' s₂' : Store} {m' n' : Nat} (same : b.id = a.id)
    (disjoint : a.Disjoint b) (ha : updateAttributes a s = .ok (m, s₁))
    (hb : updateAttributes b s₁ = .ok (n, s₂)) (hb' : updateAttributes b s = .ok (m', s₁'))
    (ha' : updateAttributes a s₁' = .ok (n', s₂')) : s₂' = s₂ := by
  have hgiven : (b.overriddenBy a).given = (a.overriddenBy b).given := by
    refine Columns.ext_get fun c => ?_
    rw [AttributeUpdate.get_given_overriddenBy, AttributeUpdate.get_given_overriddenBy]
    rcases AttributeUpdate.given_eq_none disjoint c with hnone | hnone
    · rw [hnone, Option.none_or, Option.or_none]
    · rw [hnone, Option.none_or, Option.or_none]
  obtain ⟨-, d, hd, -, -, rfl⟩ := AttributeUpdate.updateAttributes_eq_ok_iff.mp
    (updateAttributes_overriddenBy same ha hb)
  obtain ⟨-, e, he, -, -, rfl⟩ := AttributeUpdate.updateAttributes_eq_ok_iff.mp
    (updateAttributes_overriddenBy same.symm hb' ha')
  obtain rfl : d = e := by
    rw [show (b.overriddenBy a).id = b.id from rfl, same] at he
    exact Option.some.inj (hd.symm.trans he)
  rw [hgiven]

end

namespace Registry

theorem step_attributes_eq_ok {env : Environment} {r r' : Registry} {q : AttributeUpdate}
    {n : Nat} :
    r.step env (.attributes q) = (.ok (.rows n), r') ↔
      updateAttributes q r.store = .ok (n, r'.store) ∧ r'.link = r.link := by
  rw [step_attributes]
  cases updateAttributes q r.store with
  | error e => exact ⟨nofun, fun h => nomatch h.1⟩
  | ok x =>
    constructor
    · rintro ⟨⟩
      exact ⟨rfl, rfl⟩
    · rintro ⟨⟨⟩, hlink⟩
      rw [← hlink]

/-- Changes of attributes compose, in every store. Of one that succeeds the repetition does too and
changes nothing. A second one about the same device comes, with the first, to the request that gives
what it gives and otherwise what the first gives; and if they give different columns and succeed in
the other order as well, they leave the same. Each of them changes the one device in the columns
that its request gives, and nothing else. -/
theorem attributes_compose {env env' : Environment} {r r₁ : Registry} {a : AttributeUpdate} {m : Nat}
    (first : r.step env (.attributes a) = (.ok (.rows m), r₁)) :
    r.store.Changes a r₁.store ∧
      r₁.step env' (.attributes a) = (.ok (.rows 1), r₁) ∧
      ∀ (b : AttributeUpdate) (n : Nat) (r₂ : Registry), b.id = a.id →
        r₁.step env' (.attributes b) = (.ok (.rows n), r₂) →
        r₁.store.Changes b r₂.store ∧
          r.store.Changes (a.overriddenBy b) r₂.store ∧
          r.step env (.attributes (a.overriddenBy b)) = (.ok (.rows 1), r₂) ∧
          (a.Disjoint b → ∀ (m' n' : Nat) (r₁' r₂' : Registry),
            r.step env (.attributes b) = (.ok (.rows m'), r₁') →
            r₁'.step env' (.attributes a) = (.ok (.rows n'), r₂') → r₂'.store = r₂.store) := by
  obtain ⟨ha, hlink⟩ := step_attributes_eq_ok.mp first
  refine ⟨updateAttributes_changes ha,
    step_attributes_eq_ok.mpr ⟨updateAttributes_repeated ha, rfl⟩, ?_⟩
  intro b n r₂ same second
  obtain ⟨hb, hlink₂⟩ := step_attributes_eq_ok.mp second
  have hmerged := updateAttributes_overriddenBy same ha hb
  refine ⟨updateAttributes_changes hb, updateAttributes_changes hmerged,
    step_attributes_eq_ok.mpr ⟨hmerged, hlink₂.trans hlink⟩, ?_⟩
  intro disjoint m' n' r₁' r₂' second' first'
  obtain ⟨hb', -⟩ := step_attributes_eq_ok.mp second'
  obtain ⟨ha', -⟩ := step_attributes_eq_ok.mp first'
  exact updateAttributes_comm same disjoint ha hb hb' ha'

/-- A model that is emptied and a date, and then a state and a serial number that is kept unique. -/
theorem attributes_compose_emptied_model :
    let env := Sample.environment
    let indexes : List UniqueIndex := [{ name := "serials", column := .text .serialNumber }]
    let g := after { store := .blank indexes } [
      (env, .create "admin" [Sample.device "S12" "123" "VIN00000000000001",
        Sample.device "S34" "456" "VIN00000000000002"])]
    let a : AttributeUpdate :=
      { id := 1, changes := { model := some "", recordDate := some "2021/05/06" } }
    let b : AttributeUpdate :=
      { id := 1, changes := { state := some "ACTIVE", serialNumber := some "S56" } }
    let r₁ := (g.step env (.attributes a)).2
    let r₂ := (r₁.step env (.attributes b)).2
    let r₁' := (g.step env (.attributes b)).2
    g.store.Changes a r₁.store ∧ r₁.step env (.attributes a) = (.ok (.rows 1), r₁) ∧
      g.store.Changes (a.overriddenBy b) r₂.store ∧
      g.step env (.attributes (a.overriddenBy b)) = (.ok (.rows 1), r₂) ∧
      (r₁'.step env (.attributes a)).2.store = r₂.store := by
  intro env indexes g a b r₁ r₂ r₁'
  have first : g.step env (.attributes a) = (.ok (.rows 1), r₁) :=
    step_eq_of_ok (by decide +kernel)
  have second : r₁.step env (.attributes b) = (.ok (.rows 1), r₂) :=
    step_eq_of_ok (by decide +kernel)
  have second' : g.step env (.attributes b) = (.ok (.rows 1), r₁') :=
    step_eq_of_ok (by decide +kernel)
  have first' : r₁'.step env (.attributes a) =
      (.ok (.rows 1), (r₁'.step env (.attributes a)).2) :=
    step_eq_of_ok (by decide +kernel)
  have disjoint : a.Disjoint b := by
    unfold AttributeUpdate.Disjoint
    decide
  clear_value r₁' r₂ r₁ g
  obtain ⟨changes, repeated, composes⟩ := @attributes_compose env env g r₁ a 1 first
  obtain ⟨-, merged, overridden, commutes⟩ := composes b 1 r₂ rfl second
  exact ⟨changes, repeated, merged, overridden, commutes disjoint 1 1 r₁' _ second' first'⟩

end Registry

end DeviceRegistry
