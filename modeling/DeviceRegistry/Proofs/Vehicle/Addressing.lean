import DeviceRegistry.Proofs.Vehicle.Ownership
import DeviceRegistry.Proofs.Vehicle.Requests

/-!
# Which vehicle an update addresses

After its local part an update looks for the number to tell the vehicle service about, not by the
id of the device but by its new serial number, or by its new IMEI if the serial number is empty. It
finds the number of the first device with this identifier that has one. So it addresses the vehicle
of the device that it changed exactly if that device is identified: one of the two identifiers is
filled, and no device before it shares the one that decides and has a number.
-/

namespace DeviceRegistry

/-! ## Looking up by an identifier -/

theorem findSome?_of_increasing {α β : Type} {id : α → Int} {l : List α}
    (h : l.Pairwise fun a b => id a < id b) {f : α → Option β} {x : α} (hx : x ∈ l)
    (hfx : (f x).isSome = true) :
    ∃ a ∈ l, l.findSome? f = f a ∧ (f a).isSome = true ∧ id a ≤ id x ∧
      ∀ y ∈ l, id y < id a → f y = none := by
  obtain ⟨b, hb⟩ := Option.isSome_iff_exists.mp (List.findSome?_isSome_iff.mpr ⟨x, hx, hfx⟩)
  obtain ⟨before, a, rest, rfl, ha, hbefore⟩ := List.findSome?_eq_some_iff.mp hb
  have hrest : ∀ y ∈ rest, id a < id y := (List.pairwise_cons.mp (List.pairwise_append.mp h).2.1).1
  have hmem : ∀ y, y ∈ before ++ a :: rest → y ∈ before ∨ y = a ∨ y ∈ rest := by simp
  refine ⟨a, by simp, hb.trans ha.symm, by rw [ha]; rfl, ?_, ?_⟩
  · rcases hmem x hx with hx | rfl | hx
    · rw [hbefore x hx] at hfx
      cases hfx
    · exact Int.le_refl _
    · have := hrest x hx
      omega
  · intro y hy hlt
    rcases hmem y hy with hy | rfl | hy
    · exact hbefore y hy
    · omega
    · have := hrest y hy
      omega

/-- The identifier that decides whose number is found: the serial number, or else the IMEI. -/
def Device.identifier? (d : Device) : Option (TextColumn × String) :=
  match Text.filled? d.profile.serialNumber, Text.filled? d.profile.imei with
  | some serial, _ => some (.serialNumber, serial)
  | none, some imei => some (.imei, imei)
  | none, none => none

theorem Device.get_of_identifier? {d : Device} {c : TextColumn} {value : String}
    (h : d.identifier? = some (c, value)) : d.profile.get c = some value := by
  unfold identifier? at h
  split at h
  · rename_i hserial
    cases h
    exact (Text.filled?_eq_some.mp hserial).1
  · rename_i himei
    cases h
    exact (Text.filled?_eq_some.mp himei).1
  · cases h

namespace Store

/-- The number that is found by the identifiers of a device. -/
def foundVin? (s : Store) (x : Device) : Option String :=
  s.vinByIdentifiers? x.profile.imei x.profile.serialNumber

/-- The device has an identifier, and no device before it shares that and has a number. -/
def Identified (s : Store) (x : Device) : Prop :=
  ∃ c value, x.identifier? = some (c, value) ∧
    ∀ y ∈ s.devices.rows, y.id < x.id → y.profile.get c = some value → s.vin? y.id = none

theorem foundVin?_eq (s : Store) (x : Device) :
    s.foundVin? x =
      match x.identifier? with
      | some (c, value) => (s.devices.rows.filter fun d => d.profile.get c == some value).findSome?
          fun d => s.vin? d.id
      | none => none := by
  unfold foundVin? vinByIdentifiers? Device.identifier?
  cases Text.filled? x.profile.serialNumber with
  | some serial => rfl
  | none => cases Text.filled? x.profile.imei <;> rfl

section

variable {s : Store} {x : Device} {own : String}

/-- The number that is found is that of the first device with the identifier and a number. -/
theorem exists_first (hn : s.Numbered) (hx : x ∈ s.devices.rows) (hown : s.vin? x.id = some own)
    {c : TextColumn} {value : String} (hid : x.identifier? = some (c, value)) :
    ∃ a ∈ s.devices.rows, a.profile.get c = some value ∧ s.foundVin? x = s.vin? a.id ∧
      (s.vin? a.id).isSome = true ∧ a.id ≤ x.id ∧
      ∀ y ∈ s.devices.rows, y.id < a.id → y.profile.get c = some value → s.vin? y.id = none := by
  have hmem : ∀ d, d ∈ (s.devices.rows.filter fun d => d.profile.get c == some value) ↔
      d ∈ s.devices.rows ∧ d.profile.get c = some value := by simp
  obtain ⟨a, ha, hfound, hsome, hle, hfirst⟩ := findSome?_of_increasing
    (hn.devices.ordered.sublist List.filter_sublist) (f := fun d => s.vin? d.id)
    ((hmem x).mpr ⟨hx, Device.get_of_identifier? hid⟩) (by rw [hown]; rfl)
  refine ⟨a, ((hmem a).mp ha).1, ((hmem a).mp ha).2, ?_, hsome, hle, ?_⟩
  · rw [foundVin?_eq, hid]
    exact hfound
  · intro y hy hlt hshared
    exact hfirst y ((hmem y).mpr ⟨hy, hshared⟩) hlt

theorem foundVin?_of_identified (hn : s.Numbered) (hx : x ∈ s.devices.rows)
    (hown : s.vin? x.id = some own) (h : s.Identified x) : s.foundVin? x = some own := by
  obtain ⟨c, value, hid, hfirst⟩ := h
  obtain ⟨a, ha, hshared, hfound, hsome, hle, -⟩ := exists_first hn hx hown hid
  have hax : a.id = x.id := by
    by_contra hne
    rw [hfirst a ha (by omega) hshared] at hsome
    cases hsome
  rw [hfound, hax, hown]

/-- For any other device nothing is found without an identifier, and else the number of a device
before it. -/
theorem foundVin?_of_not_identified (hn : s.Numbered) (hx : x ∈ s.devices.rows)
    (hown : s.vin? x.id = some own) (h : ¬s.Identified x) :
    (x.identifier? = none ∧ s.foundVin? x = none) ∨
      ∃ c value y other, x.identifier? = some (c, value) ∧ y ∈ s.devices.rows ∧ y.id < x.id ∧
        y.profile.get c = some value ∧ s.vin? y.id = some other ∧ s.foundVin? x = some other := by
  cases hid : x.identifier? with
  | none => exact .inl ⟨rfl, by rw [foundVin?_eq, hid]⟩
  | some identifier =>
    obtain ⟨c, value⟩ := identifier
    obtain ⟨a, ha, hshared, hfound, hsome, hle, hfirst⟩ := exists_first hn hx hown hid
    obtain ⟨other, hother⟩ := Option.isSome_iff_exists.mp hsome
    have hlt : a.id < x.id := by
      by_contra hlt
      exact h ⟨c, value, hid, fun y hy hyx => hfirst y hy (by omega)⟩
    exact .inr ⟨c, value, a, other, rfl, ha, hlt, hshared, hother, hfound.trans hother⟩

end

end Store

/-! ## Telling the vehicle service -/

namespace Update

/-- After its local part an update tells the vehicle service about the vehicle with a number, and
about no other. -/
structure Tells (env : Environment) (q : UpdateRequest) (p : Prepared) (r : Registry) (s : Store)
    (vin : String) : Prop where
  called : (r.step env (.update q)).2 =
    (outcome (Operation.converse (env.network.updateVehicle (vehicleChange p vin)))
      { r with store := s }).2
  addressed : ∃ requests, (r.step env (.update q)).2.link.sent = r.link.sent ++ requests ∧
    ∀ a ∈ requests, a.Addresses vin
  known : (r.step env (.update q)).1 ≠ .error (.rejected .updateVinMissing)

theorem outcome_synchronise (env : Environment) (p : Prepared) {vin : String}
    (hvin : vin.isEmpty = false) (r : Registry) :
    (outcome (synchronise env p (some vin)) r).2 =
        (outcome (Operation.converse (env.network.updateVehicle (vehicleChange p vin))) r).2 ∧
      (outcome (synchronise env p (some vin)) r).1 ≠ .error (.rejected .updateVinMissing) := by
  unfold synchronise
  rw [Text.filled?_eq_some.mpr ⟨rfl, hvin⟩]
  simp only
  rw [outcome_bind, Operation.outcome_converse]
  rcases (outcome (env.network.updateVehicle (vehicleChange p vin)) r.link).1 with
    (cause | fault) | _ | _ <;> exact ⟨rfl, nofun⟩

theorem tells_of_commit {env : Environment} {q : UpdateRequest} {p : Prepared} {r : Registry}
    {record : DeviceRecord} {vin : String} {s : Store} (on : env.settings.synchronises = true)
    (ready : prepare env.settings q = .ok p)
    (committed : commit env.settings p r.store = .ok ((record, some vin), s))
    (hvin : vin.isEmpty = false) : Tells env q p r s vin := by
  have hstep := step_update_of_commit env r ready committed
  rw [afterwards, if_pos on] at hstep
  obtain ⟨hcall, hknown⟩ := outcome_synchronise env p hvin { r with store := s }
  have hcalled : (r.step env (.update q)).2 = _ := (congrArg Prod.snd hstep).trans hcall
  refine ⟨hcalled, ?_, ?_⟩
  · obtain ⟨requests, hsent, haddresses⟩ :=
      Network.updateVehicle_addresses env.network (v := vehicleChange p vin) rfl r.link
    refine ⟨requests, ?_, haddresses⟩
    rw [hcalled, Operation.outcome_converse]
    exact hsent
  · rw [hstep]
    intro hmissing
    cases hd : (outcome (synchronise env p (some vin)) { r with store := s }).1 with
    | error e =>
      rw [hd] at hmissing hknown
      exact hknown (congrArg Except.error (Except.error.inj hmissing))
    | ok _ =>
      rw [hd] at hmissing
      cases hmissing

/-- Without a number the update ends after its local part, and nothing is sent. -/
theorem step_of_commit_none {env : Environment} {q : UpdateRequest} {p : Prepared} {r : Registry}
    {record : DeviceRecord} {s : Store} (on : env.settings.synchronises = true)
    (ready : prepare env.settings q = .ok p)
    (committed : commit env.settings p r.store = .ok ((record, none), s)) :
    r.step env (.update q) = (.error (.rejected .updateVinMissing), { r with store := s }) := by
  rw [step_update_of_commit env r ready committed, afterwards, if_pos on]
  rfl

/-- The update of a device that is not identified misses its vehicle: it tells about none, or about
that of a device before it. -/
inductive Misses (env : Environment) (q : UpdateRequest) (p : Prepared) (r : Registry) (s : Store)
    (x : Device) (own : String) : Prop
  | unnamed (none : x.identifier? = none)
      (stopped : r.step env (.update q) =
        (.error (.rejected .updateVinMissing), { r with store := s }))
  | mistaken {c : TextColumn} {value : String} {y : Device} {other : String}
      (deciding : x.identifier? = some (c, value)) (stored : y ∈ s.devices.rows)
      (before : y.id < x.id) (shared : y.profile.get c = some value)
      (owns : s.vin? y.id = some other) (apart : other ≠ own) (tells : Tells env q p r s other)

/-- An updated device has a number: the one that it was given to have, or its new one. -/
theorem Renumbers.exists_vin? {settings : Settings} {p : Prepared} {d e : Device} {s : Store}
    {vin : Option String} (h : Renumbers settings p d.id s vin) (on : settings.checksVins = true)
    (hid : e.id = d.id) : ∃ own, (s.replaced e vin).vin? e.id = some own := by
  have howned : ∀ {old}, s.vinMatches d.id (some old) = true → ∃ own, s.vin? e.id = some own := by
    intro old hmatch
    obtain ⟨v, hv, hdevice⟩ := List.any_eq_true.mp hmatch
    simp only [Bool.and_eq_true, beq_iff_eq] at hdevice
    obtain ⟨own, hown⟩ := Store.exists_vin? hv
    exact ⟨own, by rw [hid, ← hdevice.1, hown]⟩
  cases h with
  | unchecked off => exact absurd on (by simp [off])
  | kept _ given owned same => exact howned owned
  | @changed old new _ given owned wanted free =>
    obtain ⟨own, hown⟩ := howned owned
    refine ⟨new, ?_⟩
    show ((s.withDevice e).withVin e.id new).vin? e.id = some new
    rw [Store.vin?_withVin, show (s.withDevice e).vin? e.id = some own from hown]
    simp

end Update

theorem Store.foundVin?_taking (s : Store) (p : Profile) (d : Device) :
    s.foundVin? (d.taking updateColumns p) = s.vinByIdentifiers? p.imei p.serialNumber := by
  have hget : ∀ c ∈ updateColumns, (d.taking updateColumns p).profile.get c = p.get c := by
    intro c hc
    rw [Device.get_taking, if_pos hc]
  unfold foundVin?
  rw [show (d.taking updateColumns p).profile.imei = p.imei from hget .imei (by decide),
    show (d.taking updateColumns p).profile.serialNumber = p.serialNumber from
      hget .serialNumber (by decide)]

theorem Settings.checksVins_of_synchronises {settings : Settings}
    (h : settings.synchronises = true) : settings.checksVins = true := by
  unfold synchronises at h
  exact (Bool.and_eq_true _ _ ▸ h).1

/-- Where every operation is kept in step with the vehicle service, an update that commits tells it
about the number of the updated device exactly if this is identified afterwards. If it is, the
vehicle service is called with this number alone; if not, the update misses the vehicle. -/
theorem Registry.update_tells_iff (link : Link) {earlier : List (Environment × Command)}
    (hrun : ∀ e ∈ earlier, e.1.settings.synchronises = true) {env : Environment}
    (on : env.settings.synchronises = true) {q : UpdateRequest} {p : Update.Prepared}
    {record : DeviceRecord} {sent : Option String} {s : Store}
    (ready : Update.prepare env.settings q = .ok p)
    (committed : Update.commit env.settings p (after { link := link } earlier).store =
      .ok ((record, sent), s)) :
    ∃ x own, s.device? record.id = some x ∧ s.vin? x.id = some own ∧
      (sent = some own ↔ s.Identified x) ∧
      (s.Identified x → Update.Tells env q p (after { link := link } earlier) s own) ∧
      (¬s.Identified x → Update.Misses env q p (after { link := link } earlier) s x own) := by
  have hchecks := Settings.checksVins_of_synchronises on
  obtain ⟨hn, howned⟩ :=
    owned_after (fun e he => Settings.checksVins_of_synchronises (hrun e he)) link
  generalize after { link := link } earlier = r at *
  have heffect := (Commit.update ready committed).effect hn
  have hn' := heffect.numbered hn
  have howned' := heffect.owned hchecks hn howned
  obtain ⟨found, d, vin, hfound, hd, -, hvin, hs, hrecord, hsent⟩ :=
    Update.commit_eq_ok committed
  obtain rfl : found = d := hn.eq_of_device? (Store.mem_of_deviceWith? hfound).1 hd
  let x := found.taking updateColumns p.replacement.shown
  have hx : s.device? record.id = some x := by
    rw [hrecord, hs]
    exact Store.device?_replaced (d := x) vin hd
  have hmem := (Store.mem_of_device? hx).1
  obtain ⟨own, hown⟩ : ∃ own, s.vin? x.id = some own := by
    rw [hs]
    exact hvin.exists_vin? hchecks rfl
  have hsent : sent = s.foundVin? x := hsent.trans (Store.foundVin?_taking s _ found).symm
  have hright : s.Identified x → sent = some own := fun h =>
    hsent.trans (Store.foundVin?_of_identified hn' hmem hown h)
  have hwrong : ¬s.Identified x → sent ≠ some own ∧ Update.Misses env q p r s x own := by
    intro h
    obtain ⟨hid, hnone⟩ | ⟨c, value, y, other, hid, hy, hlt, hshared, hother, hfound⟩ :=
      Store.foundVin?_of_not_identified hn' hmem hown h
    · obtain rfl := hsent.trans hnone
      exact ⟨nofun, .unnamed hid (Update.step_of_commit_none on ready committed)⟩
    · obtain rfl := hsent.trans hfound
      have hne : other ≠ own := by
        rintro rfl
        have := howned'.eq_of_vin? hother hown
        omega
      exact ⟨fun h => hne (Option.some.inj h), .mistaken hid hy hlt hshared hother hne
        (Update.tells_of_commit on ready committed (howned'.filled_of_vin? hother))⟩
  refine ⟨x, own, hx, hown, ⟨fun h => ?_, hright⟩, fun h => ?_, fun h => (hwrong h).2⟩
  · by_contra hnot
    exact (hwrong hnot).1 h
  · obtain rfl := hright h
    exact Update.tells_of_commit on ready committed (howned'.filled_of_vin? hown)

/-- A device that gets a serial number of its own: the vehicle service is told about its number. -/
theorem Registry.update_tells_own_number :
    let env := Sample.synchronised
    let first := Sample.device "S12" "123" "VIN00000000000001"
    let second := Sample.device "S34" "456" "VIN00000000000002"
    let earlier := [(env, Command.create "admin" [first, second])]
    let q : UpdateRequest :=
      { current := second, replacement := Sample.device "S56" "456" "VIN00000000000002" }
    (∀ e ∈ earlier, e.1.settings.synchronises = true) ∧ env.settings.synchronises = true ∧
      ∃ p record s, Update.prepare env.settings q = .ok p ∧
        Update.commit env.settings p (after {} earlier).store =
          .ok ((record, some "VIN00000000000002"), s) ∧
        Update.Tells env q p (after {} earlier) s "VIN00000000000002" := by
  intro env first second earlier q
  have hrun : ∀ e ∈ earlier, e.1.settings.synchronises = true := by
    intro e he
    rw [List.mem_singleton.mp he]
    rfl
  have hresult : ((Update.prepare env.settings q).toOption.bind fun p =>
      (Update.commit env.settings p (after {} earlier).store).toOption.map fun x =>
        (x.1.2, x.2.vin? x.1.1.id)) =
      some (some "VIN00000000000002", some "VIN00000000000002") := by
    decide +kernel
  obtain ⟨p, hready, hresult⟩ := Option.bind_eq_some_iff.mp hresult
  obtain ⟨⟨⟨record, sent⟩, s⟩, hcommitted, hresult⟩ := Option.map_eq_some_iff.mp hresult
  obtain ⟨rfl, hvin⟩ := Prod.mk.inj hresult
  have ready := toOption_eq_some.mp hready
  have committed := toOption_eq_some.mp hcommitted
  obtain ⟨x, own, hx, hown, hsent, htells, -⟩ := update_tells_iff {} hrun rfl ready committed
  rw [(Store.mem_of_device? hx).2, hvin] at hown
  obtain rfl := Option.some.inj hown
  exact ⟨hrun, rfl, p, record, s, ready, committed, htells (hsent.mp rfl)⟩

/-- A device that gets the serial number of another one: the vehicle service is asked for the number
of the other. A device that gets neither serial number nor IMEI: none is found. -/
theorem Registry.update_misses_own_number :
    let env := Sample.synchronised
    let first := Sample.device "S12" "123" "VIN00000000000001"
    let second := Sample.device "S34" "456" "VIN00000000000002"
    let r := after {} [(env, Command.create "admin" [first, second])]
    let shared := r.step env (.update
      { current := second, replacement := Sample.device "S12" "456" "VIN00000000000002" })
    let unnamed := r.step env (.update
      { current := second, replacement := Sample.device "" "" "VIN00000000000002" })
    (shared.2.store.vin? 2 = some "VIN00000000000002" ∧
        (shared.2.link.sent.filter (·.endpoint == .vehicles)).map (·.query) =
          [[("vin", "VIN00000000000001")]]) ∧
      unnamed.2.store.vin? 2 = some "VIN00000000000002" ∧
        unnamed.1 = .error (.rejected .updateVinMissing) := by
  decide +kernel

end DeviceRegistry
