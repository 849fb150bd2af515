import DeviceRegistry.Proofs.Lifecycle.Runs

/-!
# The effects of transactions

In a numbered store an id names one device, and then `Effect` lists what a transaction can do:
store a new device, move one to a state, replace the values of one, delete one, change columns of
one, associate a head unit. Every later invariant is proved by these six cases. Being numbered is
the first of them, and ids that were given stay given.
-/

namespace DeviceRegistry

/-- What a transaction of a command does to a numbered store. -/
inductive Effect (env : Environment) (s : Store) : Command → Store → Prop
  | created {actor : Option String} {records : List DeviceData} {ps : List PreparedDevice}
      {p : PreparedDevice} {now : String} {vin : Option String}
      (ready : Create.prepareAll actor records = .ok ps) (member : p ∈ ps)
      (fresh : env.settings.checksVins = true → Create.checkNew p s = .ok ())
      (bound : Store.bindText? p.vehicle.vin = .ok vin)
      (accepted : s.accept (Store.newDevice now p.profile.shown s.devices.nextId) = .ok ()) :
      Effect env s (.create actor records) (s.created now p.profile.shown (Text.filled? vin))
  | moved {q : StateChange} {d : Device} {current target : DeviceState} {now : String}
      (stored : d ∈ s.devices.rows) (effective : d.record.effectiveState = .ok current)
      (allowed : current.allows target = true)
      (headUnit : target = .active → Transition.isAssociated (s.headUnit? d.id) = true) :
      Effect env s (.changeState q) (s.moved now d target)
  | replaced {q : UpdateRequest} {p : Update.Prepared} {d : Device} {vin : Option String}
      (ready : Update.prepare env.settings q = .ok p) (stored : d ∈ s.devices.rows)
      (effective : d.record.effectiveState = .ok .provisioned)
      (renumbers : Update.Renumbers env.settings p d.id s vin) :
      Effect env s (.update q)
        (s.replaced (d.taking updateColumns p.replacement.shown) vin)
  | deleted {imei serialNumber : Option String} {d : Device} {now : String}
      (stored : d ∈ s.devices.rows) (deletable : Store.deletable d = true)
      (free : s.associations.rows.any (·.device == d.id) = false) :
      Effect env s (.delete imei serialNumber) (s.deleted now d)
  | changed {q : AttributeUpdate} {p : RawProfile} {d : Device}
      (ready : Attributes.prepare q = .ok p) (stored : d ∈ s.devices.rows) (named : d.id = q.id) :
      Effect env s (.attributes q)
        (s.withDevice (d.taking (Device.filledColumns p.shown) p.shown))
  | associated {device : Int} {headUnit : Option String}
      (stored : (s.device? device).isSome = true) :
      Effect env s (.associate (some device) headUnit) (s.associated device headUnit)

theorem Commit.effect {env : Environment} {s s' : Store} {c : Command} (hn : s.Numbered)
    (h : Commit env s s' c) : Effect env s c s' := by
  cases h with
  | create ready member fresh inserted =>
    obtain ⟨stamp, profile, vin, _, hprofile, hvin, haccept, rfl, _⟩ :=
      Create.insert_eq_ok inserted
    obtain rfl := Store.bindProfile_eq_ok hprofile
    exact .created ready member fresh hvin haccept
  | changeState moved =>
    obtain ⟨d, current, target, stamp, hmem, heffective, hallowed, hunit, _, rfl, _⟩ :=
      changeState_eq_ok hn moved
    exact .moved hmem heffective hallowed hunit
  | update ready replaced =>
    obtain ⟨found, d, vin, hwith, hd, heffective, hvins, rfl, _⟩ := Update.commit_eq_ok replaced
    have hmem := (Store.mem_of_deviceWith? hwith).1
    obtain rfl : found = d := hn.eq_of_device? hmem hd
    exact .replaced ready hmem heffective hvins
  | delete ready deleted =>
    obtain ⟨found, d, stamp, hwith, hd, hdeletable, hfree, _, _, _, rfl, _⟩ :=
      Delete.commit_eq_ok deleted
    have hmem := (Store.mem_of_deviceWith? hwith).1
    obtain rfl : found = d := hn.eq_of_device? hmem hd
    exact .deleted hmem hdeletable hfree
  | attributes changed =>
    obtain ⟨p, d, hready, hd, _, rfl⟩ := updateAttributes_eq_ok changed
    obtain ⟨hmem, hid⟩ := Store.mem_of_device? hd
    exact .changed hready hmem hid
  | associate associated =>
    obtain ⟨x, rfl, hstored, rfl⟩ := associate_eq_ok associated
    exact .associated hstored

theorem Store.Numbered.created {s : Store} (h : s.Numbered) (now : String) (p : Profile)
    (vin : Option String) : (s.created now p vin).Numbered := by
  unfold Store.created
  refine Store.Numbered.appendHistory { h with devices := h.devices.append rfl, vins := ?_ }
  cases vin with
  | none => exact h.vins
  | some vin =>
    exact h.vins.append (f := fun id =>
      { id := id, vin := vin, device := (newDevice now p s.devices.nextId).id }) rfl

namespace Effect

variable {env : Environment} {s s' : Store} {c : Command}

theorem numbered (hn : s.Numbered) (h : Effect env s c s') : s'.Numbered := by
  cases h with
  | created => exact hn.created _ _ _
  | moved => exact hn.withDevice.appendHistory
  | @replaced q p d vin ready stored effective renumbers =>
    cases vin with
    | none => exact hn.withDevice
    | some vin => exact hn.withDevice.withVin
  | deleted => exact hn.withoutDevice.appendHistory
  | changed => exact hn.withDevice
  | @associated device headUnit stored =>
    exact { hn with
      associations := hn.associations.append (f := fun id =>
        { id := id, device := device, headUnit := headUnit }) rfl }

theorem lastId_le (h : Effect env s c s') : s.devices.lastId ≤ s'.devices.lastId := by
  cases h with
  | created =>
    show s.devices.lastId ≤ s.devices.lastId + 1
    omega
  | @replaced q p d vin => cases vin <;> exact Int.le_refl _
  | moved => exact Int.le_refl _
  | deleted => exact Int.le_refl _
  | changed => exact Int.le_refl _
  | associated => exact Int.le_refl _

end Effect

/-! ## Rows of devices -/

/-- Where a device comes from that is stored after a transaction of a command. -/
inductive Descends (s : Store) : Command → Device → Prop
  | kept {c : Command} {d : Device} (stored : d ∈ s.devices.rows) : Descends s c d
  | created {c : Command} {now : String} {p : Profile} :
      Descends s c (Store.newDevice now p s.devices.nextId)
  | moved {c : Command} {d : Device} {target : DeviceState} (stored : d ∈ s.devices.rows) :
      Descends s c (d.moved target)
  | replaced {c : Command} {d : Device} {p : Profile} (stored : d ∈ s.devices.rows) :
      Descends s c (d.taking updateColumns p)
  | changed {q : AttributeUpdate} {p : RawProfile} {d : Device}
      (ready : Attributes.prepare q = .ok p) (stored : d ∈ s.devices.rows) (named : d.id = q.id) :
      Descends s (.attributes q) (d.taking (Device.filledColumns p.shown) p.shown)

theorem Effect.descends {env : Environment} {s s' : Store} {c : Command} (h : Effect env s c s')
    {e : Device} (he : e ∈ s'.devices.rows) : Descends s c e := by
  have changed : ∀ {d : Device}, Descends s c d → e ∈ (s.withDevice d).devices.rows →
      Descends s c e := by
    intro d hd he
    rcases Store.mem_withDevice.mp he with ⟨rfl, _⟩ | ⟨he, _⟩
    · exact hd
    · exact .kept he
  cases h with
  | created ready member fresh bound accepted =>
    rcases Table.mem_append.mp he with he | rfl
    · exact .kept he
    · exact .created
  | moved stored effective allowed headUnit => exact changed (.moved stored) he
  | @replaced q p d vin ready stored effective renumbers =>
    cases vin with
    | none => exact changed (.replaced stored) he
    | some vin => exact changed (.replaced stored) he
  | deleted stored deletable free => exact .kept (Store.mem_withoutDevice.mp he).1
  | changed ready stored named => exact changed (.changed ready stored named) he
  | associated stored => exact .kept he

namespace Registry

/-- What every effect keeps holds after a run from a numbered store. -/
theorem store_after_effects {P : Store → Prop} {A : Environment × Command → Prop}
    (keep : ∀ e s s', A e → s.Numbered → Effect e.1 s e.2 s' → P s → P s')
    {run : List (Environment × Command)} (hrun : ∀ e ∈ run, A e) {r : Registry}
    (hn : r.store.Numbered) (hr : P r.store) :
    (r.after run).store.Numbered ∧ P (r.after run).store :=
  store_after (P := fun s => s.Numbered ∧ P s)
    (fun e s s' he h hs =>
      ⟨(h.effect hs.1).numbered hs.1, keep e s s' he hs.1 (h.effect hs.1) hs.2⟩) hrun ⟨hn, hr⟩

theorem numbered_after (run : List (Environment × Command)) {r : Registry}
    (hn : r.store.Numbered) : (r.after run).store.Numbered :=
  (store_after_effects (P := fun _ => True) (A := fun _ => True)
    (fun _ _ _ _ _ _ _ => trivial) (fun _ _ => trivial) hn trivial).1

theorem lastId_le_after (run : List (Environment × Command)) {r : Registry}
    (hn : r.store.Numbered) : r.store.devices.lastId ≤ (r.after run).store.devices.lastId :=
  (store_after_effects (P := fun s => r.store.devices.lastId ≤ s.devices.lastId)
    (A := fun _ => True) (fun _ _ _ _ _ h hs => Int.le_trans hs h.lastId_le)
    (fun _ _ => trivial) hn (Int.le_refl _)).2

end Registry

end DeviceRegistry
