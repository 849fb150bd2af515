import DeviceRegistry.Proofs.Device.StoredForms
import DeviceRegistry.Proofs.History.Chronicle
import DeviceRegistry.Proofs.Lifecycle.Interruptions
import DeviceRegistry.Proofs.Store.WellFormed
import DeviceRegistry.Proofs.Vehicle.Ownership

/-!
# Creations

A batch that is answered accounts for each of its records: it was stored, with its number if it has
one, or it was left out and its number reported. `Fate` says which, record by record, and what was
stored for it; the answer and the new rows of the three tables are read off the fates in the order
of the batch. So no row is lost, doubled or out of line, however stored and left-out records follow
one another, and nothing else changes.
-/

namespace DeviceRegistry

open Calendar

/-- A device that was stored: the record it comes from, its row, the row of its number if it has
one, and its entry in the history. -/
structure Creation where
  data : DeviceData
  device : Device
  number : Option VinRow
  entry : HistoryRow
  deriving DecidableEq

namespace Creation

/-- The record that is answered for a device: its row together with its number. -/
def record (c : Creation) : DeviceRecord :=
  { c.device.record with vin := c.number.map (·.vin) }

/-- What was stored is what the record says and the actor and the time add: the columns of the
request, both dates as they were read, the actor, the time, and a provisioned device without marks;
the number of the record and no other; and an entry that depicts the device. -/
structure Faithful (c : Creation) (actor : String) (now : Stamp) : Prop where
  given : ∀ column ∈ createColumns, column ≠ .manufacturingDate → column ≠ .recordDate →
    c.data.profile.get column = (c.device.profile.get column).map .whole
  dated : ∀ column, column = .manufacturingDate ∨ column = .recordDate →
    ∃ date, ((c.data.profile.get column).map RawText.shown).bind Date.ofFactoryText? = some date ∧
      c.device.profile.get column = some date.midnight.text
  admin : c.device.profile.factoryAdmin = some actor
  createdDate : c.device.profile.createdDate = some now.text
  state : c.device.profile.state = some DeviceState.provisioned.name
  unmarked : c.device.stolen = 0 ∧ c.device.faulty = 0
  number : c.data.vehicle.vin = c.number.map fun v => .whole v.vin
  owner : ∀ v, c.number = some v → v.device = c.device.id
  entry : c.entry.Depicts .provisioned c.device
  recordedAt : c.entry.recordedAt = now.text

end Creation

/-- What becomes of a record of a batch: it is stored, or left out and its number reported. -/
inductive Fate where
  | made (c : Creation)
  | leftOut (data : DeviceData) (vin : RawText)
  deriving DecidableEq

namespace Fate

/-- The record that a fate is of. -/
def data : Fate → DeviceData
  | made c => c.data
  | leftOut data _ => data

/-- What was stored for a record. -/
def creation? : Fate → Option Creation
  | made c => some c
  | leftOut _ _ => none

/-- The number that is reported. -/
def failedVin? : Fate → Option RawText
  | made _ => none
  | leftOut _ vin => some vin

/-- A fate that a record can have. What was stored is faithful to it; only a record with a number is
left out, and only while the vehicle service is kept in step. -/
def Holds (env : Environment) (actor : String) : Fate → Prop
  | made c => ∃ now, env.now.stamp? = some now ∧ c.Faithful actor now
  | leftOut data vin => env.settings.synchronises = true ∧ data.vehicle.vin = some vin

/-- What was stored in all. -/
abbrev creations (fates : List Fate) : List Creation :=
  fates.filterMap creation?

/-- The answer to a batch whose records have these fates. -/
def answer (fates : List Fate) : CreateResult :=
  { created := (creations fates).map (·.record), failedVins := fates.filterMap failedVin? }

end Fate

/-! ## What is stored for a record -/

namespace Create

variable {env : Environment} {actor : String} {data : DeviceData} {p : PreparedDevice}

/-- A prepared device has the columns that the record gives, with its dates as they were read, and
the actor. -/
theorem prepare_eq_ok (h : prepare actor data = .ok p) :
    p.vehicle = data.vehicle ∧ Identifier.checkVin (data.vehicle.vin.map RawText.shown) = .ok () ∧
      ∃ manufactured recorded,
        RawProfile.storedRawDate data.profile.manufacturingDate RawProfile.manufacturingField =
          .ok manufactured ∧
        RawProfile.storedRawDate data.profile.recordDate RawProfile.recordField = .ok recorded ∧
        p.profile = { data.profile.only createColumns with
          manufacturingDate := manufactured
          recordDate := recorded
          factoryAdmin := some actor } := by
  unfold prepare at h
  simp only [bind_eq_ok] at h
  obtain ⟨_, -, _, -, _, -, _, hvin, dated, hdates, h⟩ := h
  cases h
  unfold RawProfile.withStoredDates at hdates
  simp only [bind_eq_ok] at hdates
  obtain ⟨manufactured, hmanufactured, recorded, hrecorded, hdates⟩ := hdates
  cases hdates
  exact ⟨rfl, hvin, manufactured, recorded, hmanufactured, hrecorded, rfl⟩

theorem filled?_of_checkVin {vin : Option String} (h : Identifier.checkVin vin = .ok ()) :
    Text.filled? vin = vin := by
  cases vin with
  | none => rfl
  | some v =>
    have hlength := Identifier.length_of_checkVin h
    refine Text.filled?_eq_some.mpr ⟨rfl, ?_⟩
    cases hv : v.isEmpty with
    | false => rfl
    | true =>
      rw [String.isEmpty_iff.mp hv] at hlength
      cases hlength

/-- What a device is stored with, by its record and the time. -/
def creation (s : Store) (now : Stamp) (data : DeviceData) (profile : Profile)
    (vin : Option String) : Creation :=
  let d := Store.newDevice now.text profile s.devices.nextId
  { data := data
    device := d
    number := vin.map fun vin => { id := s.vins.nextId, vin := vin, device := d.id }
    entry := s.snapshot now.text d.record .provisioned }

theorem faithful_of_prepare (s : Store) {now : Stamp} {profile : Profile} {vin : Option String}
    (ready : prepare actor data = .ok p) (hprofile : Store.bindProfile p.profile = .ok profile)
    (hvin : Store.bindText? p.vehicle.vin = .ok vin) :
    (creation s now data profile vin).Faithful actor now := by
  obtain ⟨hvehicle, hcheck, manufactured, recorded, hmanufactured, hrecorded, hcolumns⟩ :=
    prepare_eq_ok ready
  have hwhole := RawProfile.get_eq_of_isWhole (Store.isWhole_of_bindProfile hprofile)
  obtain rfl := Store.bindProfile_eq_ok hprofile
  -- Only the state and the time of creation are not taken from the prepared profile.
  have hstored : ∀ column, column ≠ .state → column ≠ .createdDate →
      (creation s now data p.profile.shown vin).device.profile.get column =
        p.profile.shown.get column := by
    intro column hstate hcreated
    cases column <;> first | rfl | exact absurd rfl hstate | exact absurd rfl hcreated
  have hgiven : ∀ column ∈ createColumns, column ≠ .manufacturingDate → column ≠ .recordDate →
      p.profile.get column = data.profile.get column := by
    intro column hcolumn hm hr
    rw [hcolumns]
    cases column <;>
      first | rfl | exact absurd rfl hm | exact absurd rfl hr | exact absurd hcolumn (by decide)
  refine
    { given := fun column hcolumn hm hr => ?_
      dated := fun column hdate => ?_
      admin := ?_
      createdDate := ?_
      state := rfl
      unmarked := ⟨rfl, rfl⟩
      number := ?_
      owner := fun v hv => ?_
      entry := Store.depicts_snapshot (Device.shows_newDevice _ _ _) _ _ _
      recordedAt := rfl }
  · rw [hstored column (fun h => absurd (h ▸ hcolumn) (by decide))
      (fun h => absurd (h ▸ hcolumn) (by decide)), ← hwhole, hgiven column hcolumn hm hr]
    rfl
  · rcases hdate with rfl | rfl
    · obtain ⟨date, hread, rfl⟩ := RawProfile.exists_date_of_storedRawDate hmanufactured
      refine ⟨date, hread, ?_⟩
      rw [hstored _ (by decide) (by decide), hcolumns]
      rfl
    · obtain ⟨date, hread, rfl⟩ := RawProfile.exists_date_of_storedRawDate hrecorded
      refine ⟨date, hread, ?_⟩
      rw [hstored _ (by decide) (by decide), hcolumns]
      rfl
  · show p.profile.shown.get .factoryAdmin = _
    rw [hcolumns]
    rfl
  · have hnone : p.profile.shown.createdDate = none := by
      rw [hcolumns]
      rfl
    show some ((Text.filled? p.profile.shown.createdDate).getD now.text) = _
    rw [hnone]
    rfl
  · show data.vehicle.vin = (vin.map _).map _
    rw [← hvehicle, Option.map_map]
    exact Store.bindText?_eq_ok hvin
  · obtain ⟨_, _, rfl⟩ := Option.map_eq_some_iff.mp hv
    rfl

end Create

/-! ## Batches -/

namespace Store

/-- A store has gained devices: their rows, the rows of their numbers and their entries are appended
in one order, and nothing else has changed. -/
structure Gains (s s' : Store) (cs : List Creation) : Prop where
  grows : s.Grows s' (cs.map (·.device)) (cs.map (·.entry))
  vins : s'.vins.rows = s.vins.rows ++ cs.filterMap (·.number)
  associations : s'.associations = s.associations
  uniqueIndexes : s'.uniqueIndexes = s.uniqueIndexes

theorem gains_refl (s : Store) : s.Gains s [] :=
  ⟨grows_refl s, (List.append_nil _).symm, rfl, rfl⟩

theorem gains_created (s : Store) (now : Stamp) (data : DeviceData) (profile : Profile)
    (vin : Option String) :
    s.Gains (s.created now.text profile vin) [Create.creation s now data profile vin] := by
  refine ⟨grows_created s now.text profile vin, ?_, rfl, rfl⟩
  cases vin with
  | none => exact (List.append_nil _).symm
  | some vin => rfl

theorem Gains.trans {s₁ s₂ s₃ : Store} {cs others : List Creation} (h : s₁.Gains s₂ cs)
    (h' : s₂.Gains s₃ others) : s₁.Gains s₃ (cs ++ others) := by
  refine ⟨?_, ?_, h'.associations.trans h.associations, h'.uniqueIndexes.trans h.uniqueIndexes⟩
  · rw [List.map_append, List.map_append]
    exact h.grows.trans h'.grows
  · rw [h'.vins, h.vins, List.filterMap_append, List.append_assoc]

end Store

namespace Create

/-- The records of a batch are ready to be stored, each in the environment of its time. -/
abbrev Ready (actor : String) (records : List DeviceData)
    (turns : List (Environment × PreparedDevice)) : Prop :=
  List.Forall₂ (fun data turn => prepare actor data = .ok turn.2) records turns

theorem ReadyInTurn.ready {name : String} {turns : List (Environment × DeviceData)}
    {prepared : List (Environment × PreparedDevice)} (h : ReadyInTurn name turns prepared) :
    Ready name (turns.map (·.2)) prepared ∧ prepared.map (·.1) = turns.map (·.1) := by
  induction h with
  | nil => exact ⟨.nil, rfl⟩
  | cons hfirst _ ih => exact ⟨.cons hfirst.2 ih.1, by rw [List.map_cons, hfirst.1, ih.2]; rfl⟩

theorem exists_fates {actor : String} {records : List DeviceData}
    {turns : List (Environment × PreparedDevice)} (ready : Ready actor records turns)
    {r r' : Registry} {result : CreateResult}
    (h : outcome (createInTurn turns) r = (.ok result, r')) :
    ∃ fates, fates.map Fate.data = records ∧ result = Fate.answer fates ∧
      List.Forall₂ (fun turn f => Fate.Holds turn.1 actor f) turns fates ∧
      r.store.Gains r'.store (Fate.creations fates) ∧
      (r.store.Numbered → r.store.Linked → r'.store.Numbered ∧ r'.store.Linked) := by
  induction ready generalizing r result with
  | nil =>
    cases h
    exact ⟨[], rfl, rfl, .nil, Store.gains_refl _, fun hn hlinked => ⟨hn, hlinked⟩⟩
  | @cons data turn records turns hp _ ih =>
    obtain ⟨env, p⟩ := turn
    have hleaves := leaves_createOne env p r
    rw [outcome_createInTurn_cons] at h
    rcases hone : outcome (createOne env p) r with ⟨e | made, r₁⟩
    · rw [hone] at h
      cases h
    · rw [hone] at h hleaves
      simp only [Prod.mk.injEq] at h
      obtain ⟨rest, hrest, rfl⟩ := map_eq_ok.mp h.1
      obtain ⟨fates, hdata, rfl, hholds, hgains, hkept⟩ := ih (Prod.ext hrest h.2)
      cases hleaves with
      | @inserted d inserted =>
        obtain ⟨now, profile, vin, hclock, hprofile, hvin, -, hstore, rfl⟩ :=
          insert_eq_ok inserted
        have hfilled : Text.filled? vin = vin := by
          obtain ⟨hvehicle, hcheck, -⟩ := prepare_eq_ok hp
          rw [← hvehicle, Store.bindText?_eq_ok hvin, Option.map_map] at hcheck
          exact filled?_of_checkVin (by simpa [Function.comp_def] using hcheck)
        rw [hfilled] at hstore
        have hfirst := Store.gains_created r.store now data profile vin
        rw [← hstore] at hfirst
        refine ⟨.made (creation r.store now data profile vin) :: fates, ?_, ?_, ?_,
          hfirst.trans hgains, fun hn hlinked => ?_⟩
        · rw [List.map_cons, hdata]
          rfl
        · cases vin <;> rfl
        · exact .cons ⟨now, timestamp_eq_ok.mp hclock,
            faithful_of_prepare r.store hp hprofile hvin⟩ hholds
        · exact hkept (hstore ▸ hn.created _ _ _) (hstore ▸ hlinked.created hn _ _ _)
      | @leftOut vin same =>
        rw [show r₁.store = r.store from same] at hgains hkept
        obtain ⟨hfilled, hsync⟩ := filled_of_leftOut hone
        obtain ⟨hvehicle, -⟩ := prepare_eq_ok hp
        refine ⟨.leftOut data vin :: fates, ?_, rfl, .cons ⟨hsync, ?_⟩ hholds, hgains, hkept⟩
        · rw [List.map_cons, hdata]
          rfl
        · rw [← hvehicle]
          exact (Option.filter_eq_some_iff.mp hfilled).1

end Create

/-! ## Reading back -/

theorem Effect.entries_given {env : Environment} {s s' : Store} {c : Command} (hn : s.Numbered)
    (h : Effect env s c s') (hs : ∀ e ∈ s.history.rows, e.factoryId ≤ s.devices.lastId) :
    ∀ e ∈ s'.history.rows, e.factoryId ≤ s'.devices.lastId := by
  have hgiven := h.lastId_le
  cases h with
  | created ready member fresh bound accepted =>
    intro e he
    rcases Store.mem_history_appendHistory.mp he with he | rfl
    · exact Int.le_trans (hs e he) hgiven
    · exact Int.le_refl _
  | moved stored effective allowed headUnit =>
    intro e he
    rcases Store.mem_history_appendHistory.mp he with he | rfl
    · exact hs e he
    · exact (hn.devices.given _ stored).2
  | @replaced q p d vin ready stored effective renumbers => cases vin <;> exact hs
  | deleted stored deletable free =>
    intro e he
    rcases Store.mem_history_appendHistory.mp he with he | rfl
    · exact hs e he
    · exact (hn.devices.given _ stored).2
  | changed ready stored named => exact hs
  | associated stored => exact hs

theorem Registry.entries_given_after (link : Link) (run : List (Environment × Command)) :
    let s := (after { link := link } run).store
    ∀ e ∈ s.history.rows, e.factoryId ≤ s.devices.lastId :=
  (store_after_effects (P := fun s => ∀ e ∈ s.history.rows, e.factoryId ≤ s.devices.lastId)
    (A := fun _ => True) (fun _ _ _ _ hn h hs => h.entries_given hn hs) (fun _ _ => trivial)
    Store.numbered_empty (by simp)).2

namespace Store.Gains

variable {s s' : Store} {cs : List Creation} {x : Int}

theorem increasing (h : s.Gains s' cs) (hn : s'.Numbered) :
    cs.Pairwise fun c e => c.device.id < e.device.id := by
  have hordered := hn.devices.ordered
  rw [h.grows.devices] at hordered
  have hnew := (List.pairwise_append.mp hordered).2.1
  rwa [List.pairwise_map] at hnew

theorem fresh (h : s.Gains s' cs) {c : Creation} (hc : c ∈ cs) : s.devices.lastId < c.device.id :=
  h.grows.new _ (List.mem_map_of_mem hc)

theorem device?_of_ne (h : s.Gains s' cs) (hx : ∀ c ∈ cs, c.device.id ≠ x) :
    s'.device? x = s.device? x := by
  have hnew : (cs.map (·.device)).find? (fun d => d.id == x) = none := by
    simpa [List.find?_eq_none] using hx
  rw [device?, h.grows.devices, List.find?_append, hnew, Option.or_none]
  rfl

theorem vin?_of_ne (h : s.Gains s' cs)
    (owner : ∀ c ∈ cs, ∀ v, c.number = some v → v.device = c.device.id)
    (hx : ∀ c ∈ cs, c.device.id ≠ x) : s'.vin? x = s.vin? x := by
  have hnew : (cs.filterMap (·.number)).find? (fun v => v.device == x) = none := by
    rw [List.find?_eq_none]
    intro v hv
    obtain ⟨c, hc, hnumber⟩ := List.mem_filterMap.mp hv
    rw [owner c hc v hnumber]
    simpa using hx c hc
  rw [vin?, h.vins, List.find?_append, hnew, Option.or_none]
  rfl

theorem trail_eq (h : s.Gains s' cs) (about : ∀ c ∈ cs, c.entry.factoryId = c.device.id) :
    s'.trail x = s.trail x ++ (cs.filter fun c => c.device.id == x).map (·.entry) := by
  unfold trail
  rw [h.grows.history, List.filter_append, List.filter_map]
  congr 2
  exact List.filter_congr fun c hc => by simp [about c hc]

theorem vin?_of_mem (h : s.Gains s' cs) (hn : s.Numbered) (hlinked : s.Linked) (hn' : s'.Numbered)
    (hlinked' : s'.Linked) (owner : ∀ c ∈ cs, ∀ v, c.number = some v → v.device = c.device.id)
    {c : Creation} (hc : c ∈ cs) : s'.vin? c.device.id = c.number.map (·.vin) := by
  cases hnumber : c.number with
  | some v =>
    refine hlinked'.vins.vin?_eq_some.mpr ⟨v, ?_, owner c hc v hnumber, rfl⟩
    rw [h.vins]
    exact List.mem_append_right _ (List.mem_filterMap.mpr ⟨c, hc, hnumber⟩)
  | none =>
    refine Option.eq_none_iff_forall_ne_some.mpr fun vin hvin => ?_
    obtain ⟨v, hv, hdevice, -⟩ := Store.mem_of_vin? hvin
    rw [h.vins] at hv
    rcases List.mem_append.mp hv with hv | hv
    · -- An older number is of an older device.
      obtain ⟨d, hd, hid⟩ := hlinked.vins.stored v hv
      have hold := (hn.devices.given d hd).2
      have hnew := h.fresh hc
      omega
    · obtain ⟨e, he, hother⟩ := List.mem_filterMap.mp hv
      have hid : e.device.id = c.device.id := (owner e he v hother).symm.trans hdevice
      rw [Table.eq_of_increasing (h.increasing hn') he hc hid, hnumber] at hother
      cases hother

theorem trail_of_mem (h : s.Gains s' cs) (hn' : s'.Numbered)
    (hentries : ∀ e ∈ s.history.rows, e.factoryId ≤ s.devices.lastId)
    (about : ∀ c ∈ cs, c.entry.factoryId = c.device.id) {c : Creation} (hc : c ∈ cs) :
    s'.trail c.device.id = [c.entry] := by
  have hold : s.trail c.device.id = [] := by
    refine List.filter_eq_nil_iff.mpr fun e he => ?_
    have hgiven := hentries e he
    have hnew := h.fresh hc
    simp only [beq_iff_eq]
    omega
  have hnew : (cs.filter fun e => e.device.id == c.device.id) = [c] :=
    Table.filter_eq_of_increasing (h.increasing hn') hc
  rw [h.trail_eq about, hold, hnew]
  rfl

end Store.Gains

namespace Create

/-- What a batch leaves and answers, by the fates of its records. The answer and the new rows follow
the fates in their order; the ids of the devices are new and increase. Each device is found with its
row, its number and its one entry, and what is found under any other id is as it was. -/
structure Accounts (actor : String) (records : List DeviceData) (envs : List Environment)
    (s s' : Store) (result : CreateResult) (fates : List Fate) : Prop where
  batch : fates.map Fate.data = records
  answered : result = Fate.answer fates
  holds : List.Forall₂ (fun env f => Fate.Holds env actor f) envs fates
  devices : s'.devices.rows = s.devices.rows ++ (Fate.creations fates).map (·.device)
  vins : s'.vins.rows = s.vins.rows ++ (Fate.creations fates).filterMap (·.number)
  history : s'.history.rows = s.history.rows ++ (Fate.creations fates).map (·.entry)
  associations : s'.associations = s.associations
  uniqueIndexes : s'.uniqueIndexes = s.uniqueIndexes
  fresh : ∀ c ∈ Fate.creations fates, s.devices.lastId < c.device.id
  increasing : (Fate.creations fates).Pairwise fun c e => c.device.id < e.device.id
  found : ∀ c ∈ Fate.creations fates, s'.device? c.device.id = some c.device ∧
    s'.vin? c.device.id = c.number.map (·.vin) ∧ s'.trail c.device.id = [c.entry]
  others : ∀ x, (∀ c ∈ Fate.creations fates, c.device.id ≠ x) →
    s'.device? x = s.device? x ∧ s'.vin? x = s.vin? x ∧ s'.trail x = s.trail x

theorem exists_faithful {actor : String} {envs : List Environment} {fates : List Fate}
    (holds : List.Forall₂ (fun env f => Fate.Holds env actor f) envs fates) {c : Creation}
    (hc : c ∈ Fate.creations fates) : ∃ now, c.Faithful actor now := by
  induction holds with
  | nil => cases hc
  | @cons env f envs fates hfirst _ ih =>
    cases f with
    | made c' =>
      rcases List.mem_cons.mp hc with rfl | hc
      · obtain ⟨now, -, hfaithful⟩ := hfirst
        exact ⟨now, hfaithful⟩
      · exact ih hc
    | leftOut data vin => exact ih hc

/-- Records that are carried out one after the other are accounted for, also if the vehicle service
and the clock change from one to the next. -/
theorem exists_accounts {actor : String} {records : List DeviceData}
    {turns : List (Environment × PreparedDevice)} (ready : Ready actor records turns)
    {r r' : Registry} {result : CreateResult}
    (h : outcome (createInTurn turns) r = (.ok result, r')) (hn : r.store.Numbered)
    (hlinked : r.store.Linked)
    (hentries : ∀ e ∈ r.store.history.rows, e.factoryId ≤ r.store.devices.lastId) :
    ∃ fates, Accounts actor records (turns.map (·.1)) r.store r'.store result fates := by
  obtain ⟨fates, hbatch, hanswer, hholds, hgains, hkept⟩ := exists_fates ready h
  obtain ⟨hn', hlinked'⟩ := hkept hn hlinked
  have hholds : List.Forall₂ (fun env f => Fate.Holds env actor f) (turns.map (·.1)) fates :=
    List.forall₂_map_left_iff.mpr hholds
  have howner : ∀ c ∈ Fate.creations fates, ∀ v, c.number = some v → v.device = c.device.id :=
    fun c hc => (exists_faithful hholds hc).elim fun _ hfaithful => hfaithful.owner
  have habout : ∀ c ∈ Fate.creations fates, c.entry.factoryId = c.device.id :=
    fun c hc => (exists_faithful hholds hc).elim fun _ hfaithful => hfaithful.entry.device
  refine ⟨fates,
    { batch := hbatch
      answered := hanswer
      holds := hholds
      devices := hgains.grows.devices
      vins := hgains.vins
      history := hgains.grows.history
      associations := hgains.associations
      uniqueIndexes := hgains.uniqueIndexes
      fresh := fun c hc => hgains.fresh hc
      increasing := hgains.increasing hn'
      found := fun c hc => ⟨?_, hgains.vin?_of_mem hn hlinked hn' hlinked' howner hc,
        hgains.trail_of_mem hn' hentries habout hc⟩
      others := fun x hx => ⟨hgains.device?_of_ne hx, hgains.vin?_of_ne howner hx, ?_⟩ }⟩
  · refine Store.device?_of_mem hn' ?_
    rw [hgains.grows.devices]
    exact List.mem_append_right _ (List.mem_map_of_mem hc)
  · rw [hgains.trail_eq habout, List.filter_eq_nil_iff.mpr (by simpa using hx)]
    exact List.append_nil _

end Create

namespace Registry

/-- A batch that is answered accounts for all its records: each of them has a fate, and the answer
and what the store has gained follow from the fates. This does not depend on the vehicle service
being the same throughout: it holds as well of records that are carried out one after the other,
each in an environment of its own. -/
theorem create_accounts (link : Link) (run : List (Environment × Command)) :
    let r := after { link := link } run
    (∀ env actor records result r',
      r.step env (.create actor records) = (.ok (.created result), r') →
      ∃ name fates, Text.filled? actor = some name ∧
        Create.Accounts name records (records.map fun _ => env) r.store r'.store result fates) ∧
    ∀ name records turns result r', Create.Ready name records turns →
      outcome (Create.createInTurn turns) r = (.ok result, r') →
      ∃ fates, Create.Accounts name records (turns.map (·.1)) r.store r'.store result fates := by
  intro r
  have hn : r.store.Numbered := numbered_after run Store.numbered_empty
  have haccounts : ∀ {name records turns result r'}, Create.Ready name records turns →
      outcome (Create.createInTurn turns) r = (.ok result, r') → _ :=
    fun hready h => Create.exists_accounts hready h hn (linked_after link run)
      (entries_given_after link run)
  refine ⟨fun env actor records result r' h => ?_, fun name records turns result r' => haccounts⟩
  obtain ⟨name, prepared, hname, -, hready, hcarried⟩ := batch_eq_ok.mp (step_create_eq_ok.mp h)
  obtain ⟨hready, henvs⟩ := hready.ready
  obtain ⟨fates, hfates⟩ := haccounts hready hcarried
  rw [Create.map_snd_turns, henvs, List.map_map] at hfates
  exact ⟨name, fates, hname, hfates⟩

/-- Of three devices the last has no vehicle. It alone is stored while the vehicle service refuses
new vehicles, and the first with it if that one is accepted before. The id of a device that was
deleted is not given again. -/
theorem create_accounts_mixed_batch :
    let run := [
      (Sample.environment, Command.create "admin" [Sample.device "S00" "000" "VIN00000000000009"]),
      (Sample.environment, Command.delete "000" none)]
    let r := after {} run
    let refusing :=
      Sample.answering (.ofMembers [("actionResult", .arr [.ofMembers [("code", .int 1)]])])
    let first := Sample.device "S12" "123" "VIN00000000000001"
    let second := Sample.device "S34" "456" "VIN00000000000002"
    let third := Sample.deviceAlone "S56" "789"
    let records := [first, second, third]
    let prepared := fun data => (Create.prepare "admin" data).toOption.getD default
    let turns := [(Sample.synchronised, prepared first), (refusing, prepared second),
      (Sample.environment, prepared third)]
    (∃ result r' name fates,
        r.step refusing (.create "admin" records) = (.ok (.created result), r') ∧
        r'.store.devices.rows.map (·.id) = [2] ∧
        Create.Accounts name records (records.map fun _ => refusing) r.store r'.store result
          fates) ∧
      Create.Ready "admin" records turns ∧
      ∃ result r' fates, outcome (Create.createInTurn turns) r = (.ok result, r') ∧
        result.created.map (fun d => (d.id, d.vin)) = [(2, some "VIN00000000000001"), (3, none)] ∧
        result.failedVins = [.whole "VIN00000000000002"] ∧
        Create.Accounts "admin" records (turns.map (·.1)) r.store r'.store result fates := by
  intro run r refusing first second third records prepared turns
  obtain ⟨hstep, hturns⟩ := create_accounts {} run
  have hpass : ∀ data ∈ records, (Create.prepare "admin" data).toOption = some (prepared data) := by
    decide +kernel
  have hready : Create.Ready "admin" records turns :=
    .cons (toOption_eq_some.mp (hpass first (by simp [records])))
      (.cons (toOption_eq_some.mp (hpass second (by simp [records])))
        (.cons (toOption_eq_some.mp (hpass third (by simp [records]))) .nil))
  have hresult : (outcome (Create.createInTurn turns) r).1.toOption.map (fun result =>
      (result.created.map fun d => (d.id, d.vin), result.failedVins)) =
      some ([(2, some "VIN00000000000001"), (3, none)], [.whole "VIN00000000000002"]) := by
    decide +kernel
  have hanswered : (r.step refusing (.create "admin" records)).1.toOption.isSome = true := by
    decide +kernel
  have hstored : (r.step refusing (.create "admin" records)).2.store.devices.rows.map (·.id) =
      [2] := by
    decide +kernel
  refine ⟨?_, hready, ?_⟩
  · obtain ⟨result, hcreated⟩ := exists_created hanswered
    obtain ⟨name, fates, -, haccounts⟩ := hstep _ _ _ _ _ hcreated
    exact ⟨result, _, name, fates, hcreated, hstored, haccounts⟩
  · obtain ⟨result, hanswer, hrows⟩ := Option.map_eq_some_iff.mp hresult
    obtain ⟨hcreated, hfailed⟩ := Prod.mk.inj hrows
    have hcarried := outcome_eq_of_ok (toOption_eq_some.mp hanswer)
    obtain ⟨fates, haccounts⟩ := hturns _ _ _ _ _ hready hcarried
    exact ⟨result, _, fates, hcarried, hcreated, hfailed, haccounts⟩

end Registry

end DeviceRegistry
