import DeviceRegistry.Proofs.Device.Identifiers
import DeviceRegistry.Proofs.Device.StoredForms
import DeviceRegistry.Proofs.Store.Indexes

/-!
# Replacements

An update gives the values that a device has and the ones that it gets instead. It is carried out
exactly if it passes the checks of its values and is accepted: the values are those of a stored
device, which counts as provisioned, its new version shares no unique column, what is to be stored
can be stored, and in the integrated mode the numbers agree. `Passes` and `Accepts` state this by the
request and the rows that are stored. A replacement changes the thirteen columns of its device and
in the integrated mode its number, and an update that is not carried out changes nothing.
-/

namespace DeviceRegistry

/-! ## The values of a request -/

namespace DeviceData

/-- One side of an update gives all the columns that it has to give, and its dates are dates. -/
structure Complete (d : DeviceData) : Prop where
  given : ∀ c ∈ updateMandatoryColumns, (d.profile.get c).isSome = true
  dated : d.profile.DatesRead

/-- A side that a device may get: its identifiers have their forms. -/
structure Fits (d : DeviceData) : Prop extends d.Complete where
  imei : Identifier.IsNumeric (d.profile.imei.map RawText.shown)
  serialNumber : Identifier.IsAlphanumeric (d.profile.serialNumber.map RawText.shown)
  vin : ∀ t, d.vehicle.vin = some t → t.shown.length = Identifier.vinLength

end DeviceData

/-- A request gives a complete side and one that fits. -/
structure UpdateRequest.Passes (q : UpdateRequest) (c r : DeviceData) : Prop where
  current : q.current = some c
  replacement : q.replacement = some r
  complete : c.Complete
  fits : r.Fits

namespace Update

/-- What a request that passes its checks is prepared to. -/
def prepared (c r : DeviceData) : Prepared where
  current := (c.profile.among updateColumns).dated
  replacement := (r.profile.among updateColumns).dated
  currentVin := c.vehicle.vin
  vehicle := r.vehicle

variable {settings : Settings} {q : UpdateRequest} {c r : DeviceData}

theorem sides_eq_ok (off : settings.synchronises = false) :
    sides settings q = .ok (c, r) ↔
      q.current = some c ∧ q.replacement = some r ∧
        (∀ column ∈ updateMandatoryColumns, (c.profile.get column).isSome = true) ∧
        ∀ column ∈ updateMandatoryColumns, (r.profile.get column).isSome = true := by
  unfold sides
  cases q.current with
  | none => exact ⟨nofun, fun h => nomatch h.1⟩
  | some current =>
    cases q.replacement with
    | none => exact ⟨nofun, fun h => nomatch h.2.1⟩
    | some replacement =>
      simp only [bind_eq_ok, off, Bool.not_false, Bool.true_or, Option.some.injEq]
      constructor
      · rintro ⟨_, given, _, _, h⟩
        cases h
        have given := require_eq_ok.mp given
        simp only [Bool.and_eq_true, List.all_eq_true] at given
        exact ⟨rfl, rfl, given⟩
      · rintro ⟨rfl, rfl, given⟩
        refine ⟨(), require_eq_ok.mpr ?_, (), rfl, rfl⟩
        simpa only [Bool.and_eq_true, List.all_eq_true] using given

theorem checkVin_eq_ok {vin : Option RawText} :
    Identifier.checkVin (vin.map RawText.shown) = .ok () ↔
      ∀ t, vin = some t → t.shown.length = Identifier.vinLength := by
  cases vin with
  | none => exact iff_of_true rfl nofun
  | some t =>
    simp only [Option.map_some, Identifier.checkVin, require_eq_ok, beq_iff_eq, Option.some.injEq,
      forall_eq']

theorem withStoredDates_among {d : DeviceData} {p : RawProfile}
    (given : ∀ column ∈ updateMandatoryColumns, (d.profile.get column).isSome = true) :
    (d.profile.among updateColumns).withStoredDates = .ok p ↔
      d.profile.DatesRead ∧ p = (d.profile.among updateColumns).dated := by
  have hm : ((d.profile.among updateColumns).get .manufacturingDate).isSome = true := by
    rw [RawProfile.get_among]
    exact given .manufacturingDate (by decide)
  have hr : ((d.profile.among updateColumns).get .recordDate).isSome = true := by
    rw [RawProfile.get_among]
    exact given .recordDate (by decide)
  rw [RawProfile.withStoredDates_eq_ok, RawProfile.datesRead_among (by decide) (by decide)]
  exact ⟨fun h => h.2.2, fun h => ⟨hm, hr, h⟩⟩

theorem prepare_eq_ok (off : settings.synchronises = false) {p : Prepared} :
    prepare settings q = .ok p ↔ ∃ c r, q.Passes c r ∧ p = prepared c r := by
  unfold prepare
  simp only [bind_eq_ok]
  constructor
  · rintro ⟨⟨c, r⟩, hsides, _, himei, _, hserial, _, hvin, old, hold, new, hnew, h⟩
    cases h
    obtain ⟨current, replacement, hcgiven, hrgiven⟩ := (sides_eq_ok off).mp hsides
    obtain ⟨hcdated, rfl⟩ := (withStoredDates_among hcgiven).mp hold
    obtain ⟨hrdated, rfl⟩ := (withStoredDates_among hrgiven).mp hnew
    exact ⟨c, r, ⟨current, replacement, ⟨hcgiven, hcdated⟩, ⟨⟨hrgiven, hrdated⟩,
      Identifier.checkWholeImei_eq_ok.mp himei, Identifier.checkWholeSerialNumber_eq_ok.mp hserial,
      checkVin_eq_ok.mp hvin⟩⟩, rfl⟩
  · rintro ⟨c, r, ⟨current, replacement, complete, fits⟩, rfl⟩
    exact ⟨(c, r), (sides_eq_ok off).mpr ⟨current, replacement, complete.given, fits.given⟩,
      (), Identifier.checkWholeImei_eq_ok.mpr fits.imei,
      (), Identifier.checkWholeSerialNumber_eq_ok.mpr fits.serialNumber,
      (), checkVin_eq_ok.mpr fits.vin,
      _, (withStoredDates_among complete.given).mpr ⟨complete.dated, rfl⟩,
      _, (withStoredDates_among fits.given).mpr ⟨fits.dated, rfl⟩, rfl⟩

theorem passes_of_prepare (off : settings.synchronises = false)
    (h : (prepare settings { current := c, replacement := r }).toOption.isSome = true) :
    UpdateRequest.Passes { current := c, replacement := r } c r := by
  obtain ⟨p, ready⟩ := Option.isSome_iff_exists.mp h
  obtain ⟨c', r', passes, -⟩ := (prepare_eq_ok off).mp (toOption_eq_some.mp ready)
  obtain rfl : c = c' := Option.some.inj passes.current
  obtain rfl : r = r' := Option.some.inj passes.replacement
  exact passes

/-! ## The device that is meant -/

theorem has_wanted_iff {p : Profile} {d : Device} :
    d.has (wanted p) = true ↔
      ∀ column ∈ updateColumns, ∀ v, p.get column = some v → d.profile.get column = some v := by
  have hcell : ∀ (column : TextColumn) (v : String),
      d.cell (.text column) = .text v ↔ d.profile.get column = some v := by
    intro column v
    show Cell.ofText? (d.profile.get column) = .text v ↔ _
    cases d.profile.get column <;> simp [Cell.ofText?]
  unfold Device.has wanted
  simp only [List.all_eq_true, List.mem_filterMap, Option.map_eq_some_iff, Bool.and_eq_true,
    bne_iff_ne, beq_iff_eq]
  constructor
  · intro h column hcolumn v hv
    exact (hcell column v).mp (h _ ⟨column, hcolumn, v, hv, rfl⟩).2
  · rintro h _ ⟨column, hcolumn, v, hv, rfl⟩
    exact ⟨nofun, (hcell column v).mpr (h column hcolumn v hv)⟩

end Update

/-- The device that one side of an update means: of those that have all that it gives, the one with
the least id. -/
structure DeviceData.Means (c : DeviceData) (s : Store) (x : Device) : Prop where
  stored : x ∈ s.devices.rows
  holds : x.Holds updateColumns c.profile
  least : ∀ y ∈ s.devices.rows, y.Holds updateColumns c.profile → x.id ≤ y.id

namespace Update

variable {settings : Settings} {c r : DeviceData} {s s' : Store} {x e : Device}

theorem wanted_ne_nil (complete : c.Complete) (hs : (c.profile.among updateColumns).Storable) :
    wanted (c.profile.among updateColumns).stored ≠ [] := by
  obtain ⟨t, ht⟩ := Option.isSome_iff_exists.mp (complete.given .model (by decide))
  obtain ⟨v, hv⟩ := Option.isSome_iff_exists.mp
    (RawProfile.storable_among.mp hs .model (by decide) t ht)
  have hstored : (c.profile.among updateColumns).stored.get .model = some v := by
    rw [RawProfile.get_stored_among (by decide), ht, Option.bind_some, hv]
  refine List.ne_nil_of_mem (a := (.text .model, .text v)) ?_
  exact List.mem_filterMap.mpr ⟨.model, by decide, by rw [hstored]; rfl⟩

theorem deviceWith?_wanted (hn : s.Numbered) (complete : c.Complete)
    (hs : (c.profile.among updateColumns).Storable) :
    s.deviceWith? (wanted (c.profile.among updateColumns).stored) = some x ↔ c.Means s x := by
  unfold Store.deviceWith? Store.firstDevice?
  rw [if_neg (by simpa using wanted_ne_nil complete hs),
    Table.find?_eq_some_of_increasing hn.devices.ordered]
  simp only [has_wanted_iff, ← Device.holds_iff hs]
  exact ⟨fun ⟨stored, holds, least⟩ => ⟨stored, holds, least⟩,
    fun ⟨stored, holds, least⟩ => ⟨stored, holds, least⟩⟩

end Update

/-! ## The number -/

namespace Store

variable {s : Store} {x : Int}

theorem vinMatches_iff (hv : s.VinsHeld) {vin : String} :
    s.vinMatches x (some vin) = true ↔ s.vin? x = some vin := by
  rw [hv.vin?_eq_some]
  simp [vinMatches]

theorem vinOwners_iff (hv : s.VinsHeld) {vin : String} :
    (s.vinOwners (some vin)).all (· == x) = true ↔
      ∀ y ∈ s.devices.rows, s.vin? y.id = some vin → y.id = x := by
  simp only [vinOwners, List.all_map, List.all_filter, List.all_eq_true, Function.comp_apply,
    Bool.or_eq_true, Bool.not_eq_true', beq_eq_false_iff_ne, beq_iff_eq, Option.some.injEq, ne_eq,
    ← imp_iff_not_or]
  constructor
  · intro h y hy hvin
    obtain ⟨v, hvmem, hdevice, rfl⟩ := mem_of_vin? hvin
    rw [← hdevice]
    exact h v hvmem rfl
  · rintro h v hvmem rfl
    obtain ⟨d, hd, hid⟩ := hv.stored v hvmem
    rw [← hid]
    exact h d hd (hv.vin?_eq_some.mpr ⟨v, hvmem, hid.symm, rfl⟩)

/-- The numbers of an update agree with those that are stored: the device has the one that is given
for it, and the one that it shall have is whole and, unless it is the same, no other device's. -/
structure Grants (s : Store) (x : Int) (old new : Option RawText) : Prop where
  owned : ∃ vin, old = some (.whole vin) ∧ s.vin? x = some vin
  whole : ∃ vin : Option String, new = vin.map .whole
  free : new ≠ old → ∀ vin, new = some (.whole vin) →
    ∀ y ∈ s.devices.rows, s.vin? y.id = some vin → y.id = x

theorem bindText?_whole (vin : Option String) : bindText? (vin.map .whole) = .ok vin := by
  cases vin <;> rfl

theorem vinMatches_bound (hv : s.VinsHeld) {value : Option RawText} :
    (∃ vin, bindText? value = .ok vin ∧ s.vinMatches x vin = true) ↔
      ∃ vin, value = some (.whole vin) ∧ s.vin? x = some vin := by
  constructor
  · rintro ⟨vin, hbound, hmatch⟩
    cases vin with
    | none =>
      rw [Update.vinMatches_none] at hmatch
      cases hmatch
    | some vin => exact ⟨vin, bindText?_eq_ok hbound, (vinMatches_iff hv).mp hmatch⟩
  · rintro ⟨vin, rfl, hvin⟩
    exact ⟨some vin, rfl, (vinMatches_iff hv).mpr hvin⟩

theorem vinOwners_bound (hv : s.VinsHeld) {value : Option RawText} {vin : Option String} :
    bindText? value = .ok vin ∧ (s.vinOwners vin).all (· == x) = true ↔
      value = vin.map .whole ∧
        ∀ w, vin = some w → ∀ y ∈ s.devices.rows, s.vin? y.id = some w → y.id = x := by
  have howners : (s.vinOwners vin).all (· == x) = true ↔
      ∀ w, vin = some w → ∀ y ∈ s.devices.rows, s.vin? y.id = some w → y.id = x := by
    cases vin with
    | none => exact iff_of_true (by simp [vinOwners]) nofun
    | some w =>
      rw [vinOwners_iff hv]
      simp only [Option.some.injEq, forall_eq']
  rw [howners]
  refine and_congr_left fun _ => ⟨bindText?_eq_ok, ?_⟩
  rintro rfl
  exact bindText?_whole vin

theorem grants_of_same {old new : Option RawText} (hsame : new = old) :
    s.Grants x old new ↔ ∃ vin, old = some (.whole vin) ∧ s.vin? x = some vin := by
  subst hsame
  refine ⟨Grants.owned, fun owned => ⟨owned, ?_, (absurd rfl ·)⟩⟩
  obtain ⟨vin, hvin, -⟩ := owned
  exact ⟨some vin, hvin⟩

theorem grants_of_changed {old new : Option RawText} (hne : new ≠ old) :
    s.Grants x old new ↔
      (∃ vin, old = some (.whole vin) ∧ s.vin? x = some vin) ∧
        ∃ vin : Option String, new = vin.map .whole ∧
          ∀ w, vin = some w → ∀ y ∈ s.devices.rows, s.vin? y.id = some w → y.id = x := by
  constructor
  · rintro ⟨owned, ⟨vin, rfl⟩, free⟩
    refine ⟨owned, vin, rfl, ?_⟩
    rintro w rfl
    exact free hne w rfl
  · rintro ⟨owned, vin, rfl, free⟩
    refine ⟨owned, ⟨vin, rfl⟩, fun _ w hw => free w ?_⟩
    simpa using hw

end Store

namespace Update

variable {settings : Settings} {c r : DeviceData} {s s' : Store} {x e : Device}

/-- The number that an update gives a device in place of another one. -/
def newVin? (settings : Settings) (c r : DeviceData) : Option String :=
  if settings.checksVins = true ∧ r.vehicle.vin ≠ c.vehicle.vin then
    r.vehicle.vin.bind RawText.string?
  else none

theorem newVin?_of_changed {vin : Option String} (on : settings.checksVins = true)
    (hne : r.vehicle.vin ≠ c.vehicle.vin) (hvin : r.vehicle.vin = vin.map .whole) :
    newVin? settings c r = vin := by
  unfold newVin?
  rw [if_pos ⟨on, hne⟩, hvin]
  cases vin <;> rfl

theorem newVin?_of_same (hsame : r.vehicle.vin = c.vehicle.vin) : newVin? settings c r = none :=
  if_neg fun h => h.2 hsame

theorem checkVins_eq_ok_iff (hv : s.VinsHeld) {x : Int} {b : Bool} :
    checkVins settings (prepared c r) x s = .ok b ↔
      (settings.checksVins = true → s.Grants x c.vehicle.vin r.vehicle.vin) ∧
        b = (newVin? settings c r).isSome := by
  cases hon : settings.checksVins with
  | false =>
    have hnone : newVin? settings c r = none := if_neg fun h => Bool.false_ne_true (hon ▸ h.1)
    unfold checkVins
    rw [hon, hnone]
    exact ⟨fun h => ⟨nofun, (Except.ok.inj h).symm⟩, fun h => congrArg _ h.2.symm⟩
  | true =>
    unfold checkVins prepared
    simp only [hon, Bool.not_true, Bool.false_eq_true, if_false, bind_eq_ok, checked_eq_ok,
      forall_const]
    by_cases hsame : r.vehicle.vin = c.vehicle.vin
    · rw [if_pos hsame, newVin?_of_same hsame, Store.grants_of_same hsame,
        ← Store.vinMatches_bound hv]
      constructor
      · rintro ⟨old, hold, _, hmatch, h⟩
        cases h
        exact ⟨⟨old, hold, require_eq_ok.mp hmatch⟩, rfl⟩
      · rintro ⟨⟨old, hold, hmatch⟩, rfl⟩
        exact ⟨old, hold, (), require_eq_ok.mpr hmatch, rfl⟩
    · simp only [if_neg hsame, bind_eq_ok, checked_eq_ok]
      rw [Store.grants_of_changed hsame, ← Store.vinMatches_bound hv]
      constructor
      · rintro ⟨old, hold, _, hmatch, new, hnew, _, hfree, h⟩
        cases h
        obtain ⟨hwhole, free⟩ := (Store.vinOwners_bound hv).mp ⟨hnew, require_eq_ok.mp hfree⟩
        rw [newVin?_of_changed hon hsame hwhole]
        exact ⟨⟨⟨old, hold, require_eq_ok.mp hmatch⟩, new, hwhole, free⟩, rfl⟩
      · rintro ⟨⟨⟨old, hold, hmatch⟩, new, hwhole, free⟩, rfl⟩
        obtain ⟨hnew, hall⟩ := (Store.vinOwners_bound hv).mpr ⟨hwhole, free⟩
        rw [newVin?_of_changed hon hsame hwhole]
        exact ⟨old, hold, (), require_eq_ok.mpr hmatch, new, hnew, (), require_eq_ok.mpr hall, rfl⟩

theorem newVin?_eq_some {vin : String} :
    newVin? settings c r = some vin ↔
      settings.checksVins = true ∧ r.vehicle.vin ≠ c.vehicle.vin ∧
        r.vehicle.vin = some (.whole vin) := by
  unfold newVin?
  split
  · rename_i h
    simp only [Option.bind_eq_some_iff, RawText.string?_eq_some, exists_eq_right, h.1, true_and]
    exact (and_iff_right h.2).symm
  · rename_i h
    exact iff_of_false (Option.some_ne_none vin ·.symm) fun hv => h ⟨hv.1, hv.2.1⟩

end Update

/-! ## The new version -/

/-- A device in the version that it has after an update: it has what the replacement gives and null
where that gives nothing, and its other columns, its flags and its id are as they were. -/
structure Device.Takes (r : DeviceData) (x e : Device) : Prop where
  id : e.id = x.id
  stolen : e.stolen = x.stolen
  faulty : e.faulty = x.faulty
  given : ∀ c ∈ updateColumns, e.profile.get c = (r.profile.get c).bind c.stored?
  others : ∀ c ∉ updateColumns, e.profile.get c = x.profile.get c

theorem Device.takes_iff {r : DeviceData} {x e : Device} :
    x.Takes r e ↔ e = x.taking updateColumns (r.profile.among updateColumns).stored := by
  constructor
  · rintro ⟨id, stolen, faulty, given, others⟩
    have hprofile : e.profile =
        (x.taking updateColumns (r.profile.among updateColumns).stored).profile := by
      refine Columns.ext_get fun c => ?_
      rw [get_taking]
      split
      · rename_i hc
        rw [given c hc, RawProfile.get_stored_among hc]
      · exact others c ‹_›
    cases e
    cases id
    cases stolen
    cases faulty
    cases hprofile
    rfl
  · rintro rfl
    refine ⟨rfl, rfl, rfl, fun c hc => ?_, fun c hc => ?_⟩
    · rw [get_taking, if_pos hc, RawProfile.get_stored_among hc]
    · rw [get_taking, if_neg hc]

/-- The new version is complete, as the replacement gives all the columns that may be required. -/
theorem Device.Takes.complete {r : DeviceData} {x e : Device} (h : x.Takes r e)
    (hx : x.Complete) (hr : r.Complete) (hs : (r.profile.among updateColumns).Storable) :
    e.Complete := by
  obtain rfl := takes_iff.mp h
  refine hx.taking fun c hc hrequired => ?_
  obtain ⟨t, ht⟩ := Option.isSome_iff_exists.mp
    (hr.given c (mem_updateMandatoryColumns hc hrequired))
  rw [RawProfile.get_stored_among hc, ht]
  exact RawProfile.storable_among.mp hs c hc t ht

namespace Update

variable {settings : Settings} {c r : DeviceData} {s s' : Store} {x e : Device}

theorem putNew_eq (hid : e.id = x.id)
    (grants : settings.checksVins = true → s.Grants x.id c.vehicle.vin r.vehicle.vin) :
    (if (newVin? settings c r).isSome = true then do
      let vin ← Store.bindText? r.vehicle.vin
      storedOr .updateConflict ((s.withDevice e).putVin (some x.id) vin)
    else pure (s.withDevice e) : Except Failure Store) =
      .ok (s.replaced e (newVin? settings c r)) := by
  cases hnew : newVin? settings c r with
  | none => rfl
  | some vin =>
    obtain ⟨on, -, hvin⟩ := newVin?_eq_some.mp hnew
    obtain ⟨old, -, howned⟩ := (grants on).owned
    obtain ⟨v, hvmem, hdevice, -⟩ := Store.mem_of_vin? howned
    have hany : (s.withDevice e).vins.rows.any (·.device == x.id) = true :=
      List.any_eq_true.mpr ⟨v, hvmem, beq_iff_eq.mpr hdevice⟩
    rw [hvin]
    show storedOr _ ((s.withDevice e).putVin (some x.id) (some vin)) = _
    rw [Store.putVin_of_any hany, Store.replaced, hid]
    rfl

/-- The new values are stored, and the new number, exactly if they can be and the device table
accepts the new version. -/
theorem store_eq_ok_iff (hx : s.device? x.id = some x) (takes : x.Takes r e) (hr : r.Complete)
    (grants : settings.checksVins = true → s.Grants x.id c.vehicle.vin r.vehicle.vin) :
    store (prepared c r) x.id (newVin? settings c r).isSome s = .ok s' ↔
      (r.profile.among updateColumns).Storable ∧ s.accept e = .ok () ∧
        s' = s.replaced e (newVin? settings c r) := by
  have hread : (r.profile.among updateColumns).DatesRead :=
    (RawProfile.datesRead_among (by decide) (by decide)).mpr hr.dated
  have hchange : x.change (changes (r.profile.among updateColumns).stored) = e :=
    (change_changes _ _).trans (Device.takes_iff.mp takes).symm
  have hupdate {n : Nat} {s₁ : Store} :
      s.updateDevice x.id (changes (r.profile.among updateColumns).stored) = .ok (n, s₁) ↔
        s.accept e = .ok () ∧ n = 1 ∧ s₁ = s.withDevice e := by
    rw [← hchange]
    exact Store.updateDevice_eq_ok_iff hx (by simp [changes, updateColumns, updateMandatoryColumns])
      (fun f => by simp [changes, Change.empties])
  unfold store
  simp only [bind_eq_ok, storedOr_eq_ok]
  constructor
  · rintro ⟨new, hbound, ⟨n, s₁⟩, hupdated, h⟩
    obtain ⟨storable, rfl⟩ := (Store.bindProfile_dated hread).mp hbound
    obtain ⟨haccept, -, rfl⟩ := hupdate.mp hupdated
    exact ⟨storable, haccept, Except.ok.inj (h.symm.trans (putNew_eq takes.id grants))⟩
  · rintro ⟨storable, haccept, rfl⟩
    exact ⟨_, (Store.bindProfile_dated hread).mpr ⟨storable, rfl⟩, _,
      hupdate.mpr ⟨haccept, rfl, rfl⟩, putNew_eq takes.id grants⟩

/-! ## Accepted requests -/

/-- An update is accepted: the values that it gives are those of a stored device, which counts as
provisioned; its new version shares no unique column with another device; what is to be stored can
be; and in the integrated mode the numbers agree. -/
structure Accepts (settings : Settings) (s : Store) (c r : DeviceData) (x e : Device) : Prop where
  means : c.Means s x
  provisioned : x.record.effectiveState = .ok .provisioned
  takes : x.Takes r e
  unshared : s.Unshared e
  storable : (r.profile.among updateColumns).Storable
  grants : settings.checksVins = true → s.Grants x.id c.vehicle.vin r.vehicle.vin

/-- The parts of the transaction, one after the other. -/
theorem commit_eq_ok_parts (hn : s.Numbered) (hc : c.Complete) {record : DeviceRecord} :
    (∃ sent, commit settings (prepared c r) s = .ok ((record, sent), s')) ↔
      ∃ x, c.Means s x ∧ x.record.effectiveState = .ok .provisioned ∧
        ∃ changed, checkVins settings (prepared c r) x.id s = .ok changed ∧
          store (prepared c r) x.id changed s = .ok s' ∧
            record = { ((s'.device? x.id).getD x).record with vin := s'.vin? x.id } := by
  have hread : (c.profile.among updateColumns).DatesRead :=
    (RawProfile.datesRead_among (by decide) (by decide)).mpr hc.dated
  unfold commit
  constructor
  · rintro ⟨sent, h⟩
    obtain ⟨old, hold, h⟩ := bind_eq_ok.mp h
    obtain ⟨hstorable, rfl⟩ := (Store.bindProfile_dated hread).mp hold
    cases hwith : s.deviceWith? (wanted (c.profile.among updateColumns).stored) with
    | none =>
      rw [hwith] at h
      cases h
    | some x =>
      simp only [hwith, bind_eq_ok, checked_eq_ok] at h
      obtain ⟨current, hcurrent, _, hprovisioned, changed, hvins, left, hstore, h⟩ := h
      cases h
      obtain rfl : current = .provisioned := by simpa using require_eq_ok.mp hprovisioned
      exact ⟨x, (deviceWith?_wanted hn hc hstorable).mp hwith, hcurrent, changed, hvins, hstore,
        rfl⟩
  · rintro ⟨x, means, provisioned, changed, hvins, hstore, rfl⟩
    have hwith := (deviceWith?_wanted hn hc means.holds.storable).mpr means
    let new := (prepared c r).replacement.shown
    refine ⟨s'.vinByIdentifiers? new.imei new.serialNumber, ?_⟩
    refine bind_eq_ok.mpr ⟨_, (Store.bindProfile_dated hread).mpr ⟨means.holds.storable, rfl⟩, ?_⟩
    simp only [hwith, bind_eq_ok, checked_eq_ok]
    exact ⟨_, provisioned, (), rfl, changed, hvins, s', hstore, rfl⟩

/-- The local part of an update that passes is carried out exactly if it is accepted. -/
theorem commit_eq_ok_iff (hs : s.Regular) (hc : c.Complete) (hr : r.Complete)
    {record : DeviceRecord} :
    (∃ sent, commit settings (prepared c r) s = .ok ((record, sent), s')) ↔
      ∃ x e, Accepts settings s c r x e ∧ s' = s.replaced e (newVin? settings c r) ∧
        record = { e.record with vin := s'.vin? x.id } := by
  have hfound : ∀ {x : Device}, x ∈ s.devices.rows → s.device? x.id = some x :=
    fun hx => Store.device?_of_mem hs.numbered hx
  have hafter : ∀ {x e : Device}, x ∈ s.devices.rows → x.Takes r e →
      (s.replaced e (newVin? settings c r)).device? x.id = some e := by
    intro x e hx takes
    rw [← takes.id]
    exact Store.device?_replaced _ (takes.id ▸ hfound hx)
  rw [commit_eq_ok_parts hs.numbered hc]
  constructor
  · rintro ⟨x, means, provisioned, changed, hvins, hstore, rfl⟩
    have takes := Device.takes_iff.mpr (Eq.refl
      (x.taking updateColumns (r.profile.among updateColumns).stored))
    obtain ⟨grants, rfl⟩ := (checkVins_eq_ok_iff hs.linked.vins).mp hvins
    obtain ⟨storable, haccept, rfl⟩ :=
      (store_eq_ok_iff (hfound means.stored) takes hr grants).mp hstore
    rw [hafter means.stored takes]
    exact ⟨x, _, ⟨means, provisioned, takes, (Store.accept_iff.mp haccept).2, storable, grants⟩,
      rfl, rfl⟩
  · rintro ⟨x, e, ⟨means, provisioned, takes, unshared, storable, grants⟩, rfl, rfl⟩
    have haccept : s.accept e = .ok () := Store.accept_iff.mpr
      ⟨takes.complete (hs.complete x means.stored) hr storable, unshared⟩
    refine ⟨x, means, provisioned, _, (checkVins_eq_ok_iff hs.linked.vins).mpr ⟨grants, rfl⟩,
      (store_eq_ok_iff (hfound means.stored) takes hr grants).mpr ⟨storable, haccept, rfl⟩, ?_⟩
    rw [hafter means.stored takes]
    rfl

end Update

/-! ## What a replacement leaves -/

/-- The number that a replacement gives: in the integrated mode its own one, if it has one. -/
def Update.givenVin? (settings : Settings) (r : DeviceData) : Option String :=
  if settings.checksVins = true then r.vehicle.vin.bind RawText.string? else none

theorem Store.Grants.vin?_of_kept {s : Store} {x : Int} {settings : Settings} {c r : DeviceData}
    {vin : String}
    (grants : settings.checksVins = true → s.Grants x c.vehicle.vin r.vehicle.vin)
    (kept : Update.newVin? settings c r = none) (given : Update.givenVin? settings r = some vin) :
    s.vin? x = some vin := by
  unfold Update.givenVin? at given
  split at given
  · rename_i on
    obtain ⟨t, ht, hwhole⟩ := Option.bind_eq_some_iff.mp given
    obtain rfl := RawText.string?_eq_some.mp hwhole
    obtain ⟨old, hold, howned⟩ := (grants on).owned
    have hsame : r.vehicle.vin = c.vehicle.vin := by
      by_contra hne
      rw [Update.newVin?_eq_some.mpr ⟨on, hne, ht⟩] at kept
      cases kept
    obtain rfl : vin = old := by simpa [ht, hold] using hsame
    exact howned
  · cases given

theorem Update.givenVin?_of_newVin? {settings : Settings} {c r : DeviceData} {vin : String}
    (h : newVin? settings c r = some vin) : givenVin? settings r = some vin := by
  obtain ⟨on, -, hvin⟩ := newVin?_eq_some.mp h
  rw [givenVin?, if_pos on, hvin]
  rfl

/-- A store after an update: one device is in its new version and has the number that is given for
it, if any, and everything else is as it was; a new number uses up an id. -/
structure Store.Replaces (settings : Settings) (c r : DeviceData) (x e : Device)
    (s s' : Store) : Prop where
  devices : s'.devices.rows = s.devices.rows.map fun a => if a.id = x.id then e else a
  given : s'.devices.lastId = s.devices.lastId
  number : s'.vin? x.id = (Update.givenVin? settings r).or (s.vin? x.id)
  vins : s'.vins.rows = s.vins.rows.map fun v =>
    if v.device = x.id then { v with vin := (Update.givenVin? settings r).getD v.vin } else v
  counted : s'.vins.lastId =
    s.vins.lastId + if (Update.newVin? settings c r).isSome = true then 1 else 0
  history : s'.history = s.history
  associations : s'.associations = s.associations
  uniqueIndexes : s'.uniqueIndexes = s.uniqueIndexes

section

variable {s : Store} {settings : Settings} {c r : DeviceData} {x e : Device}

theorem Store.vin?_replaced (hid : e.id = x.id)
    (grants : settings.checksVins = true → s.Grants x.id c.vehicle.vin r.vehicle.vin) :
    (s.replaced e (Update.newVin? settings c r)).vin? x.id =
      (Update.givenVin? settings r).or (s.vin? x.id) := by
  cases hnew : Update.newVin? settings c r with
  | none =>
    show s.vin? x.id = _
    cases hgiven : Update.givenVin? settings r with
    | none => exact Option.none_or.symm
    | some vin =>
      rw [Grants.vin?_of_kept grants hnew hgiven]
      rfl
  | some vin =>
    obtain ⟨on, -, -⟩ := Update.newVin?_eq_some.mp hnew
    obtain ⟨old, -, howned⟩ := (grants on).owned
    show ((s.withDevice e).withVin e.id vin).vin? x.id = _
    rw [vin?_withVin, show (s.withDevice e).vin? x.id = s.vin? x.id from rfl, howned,
      Update.givenVin?_of_newVin? hnew]
    simp [hid]

theorem Store.vins_replaced (hv : s.VinsHeld) (hid : e.id = x.id)
    (grants : settings.checksVins = true → s.Grants x.id c.vehicle.vin r.vehicle.vin) :
    (s.replaced e (Update.newVin? settings c r)).vins.rows = s.vins.rows.map fun v =>
      if v.device = x.id then { v with vin := (Update.givenVin? settings r).getD v.vin } else v := by
  cases hnew : Update.newVin? settings c r with
  | none =>
    refine s.vins.rows.map_id.symm.trans (List.map_congr_left fun v hvmem => ?_)
    by_cases hdevice : v.device = x.id
    · have hvin := hv.vin?_eq_some.mpr ⟨v, hvmem, hdevice, rfl⟩
      rw [if_pos hdevice]
      cases hgiven : Update.givenVin? settings r with
      | none => rfl
      | some vin =>
        rw [Grants.vin?_of_kept grants hnew hgiven] at hvin
        rw [Option.getD_some, Option.some.inj hvin]
        rfl
    · rw [if_neg hdevice]
      rfl
  | some vin =>
    rw [Update.givenVin?_of_newVin? hnew]
    exact List.map_congr_left fun v _ => by simp [hid]

theorem Store.replaces_replaced (hv : s.VinsHeld) (hid : e.id = x.id)
    (grants : settings.checksVins = true → s.Grants x.id c.vehicle.vin r.vehicle.vin) :
    s.Replaces settings c r x e (s.replaced e (Update.newVin? settings c r)) := by
  have hdevices : (s.withDevice e).devices.rows =
      s.devices.rows.map fun a => if a.id = x.id then e else a :=
    List.map_congr_left fun a _ => by simp [hid]
  have hnumber := vin?_replaced hid grants
  have hvins := vins_replaced hv hid grants
  cases hnew : Update.newVin? settings c r with
  | none =>
    rw [hnew] at hnumber hvins
    exact ⟨hdevices, rfl, hnumber, hvins, by rw [hnew]; exact (Int.add_zero _).symm, rfl, rfl, rfl⟩
  | some vin =>
    rw [hnew] at hnumber hvins
    exact ⟨hdevices, rfl, hnumber, hvins, by rw [hnew]; rfl, rfl, rfl, rfl⟩

end

/-- How an update is answered, and what it leaves. One that passes and is accepted is answered with
the record of the device as it is stored then, together with the number that is stored with it;
nothing changes if there is no device for which it passes and is accepted. -/
inductive UpdateRequest.Settles (settings : Settings) (q : UpdateRequest) (g : Registry) :
    Except Failure Answer → Registry → Prop
  | replaced {c r : DeviceData} {x e : Device} {s : Store} (passes : q.Passes c r)
      (accepted : Update.Accepts settings g.store c r x e)
      (replaces : g.store.Replaces settings c r x e s) (found : s.device? x.id = some e) :
      Settles settings q g (.ok (.record { e.record with vin := s.vin? x.id })) { g with store := s }
  | refused {failure : Failure}
      (refused : ∀ c r x e, q.Passes c r → ¬Update.Accepts settings g.store c r x e) :
      Settles settings q g (.error failure) g

theorem UpdateRequest.Settles.isOk_iff {settings : Settings} {q : UpdateRequest} {g left : Registry}
    {answer : Except Failure Answer} (h : q.Settles settings g answer left) :
    (∃ record, answer = .ok (.record record)) ↔
      ∃ c r x e, q.Passes c r ∧ Update.Accepts settings g.store c r x e := by
  cases h with
  | replaced passes accepted => exact iff_of_true ⟨_, rfl⟩ ⟨_, _, _, _, passes, accepted⟩
  | refused refused =>
    exact iff_of_false (fun ⟨_, h⟩ => nomatch h) fun ⟨c, r, x, e, passes, h⟩ =>
      refused c r x e passes h

namespace Registry

variable {env : Environment} {g : Registry} {q : UpdateRequest}

/-- Where the vehicle service is not kept in step, an update that passes and is accepted leaves its
new version and is answered with its record. -/
theorem step_update_of_accepts (hs : g.store.Regular) (off : env.settings.synchronises = false)
    {c r : DeviceData} {x e : Device} (passes : q.Passes c r)
    (accepted : Update.Accepts env.settings g.store c r x e) :
    g.step env (.update q) =
      (.ok (.record { e.record with
        vin := (g.store.replaced e (Update.newVin? env.settings c r)).vin? x.id }),
      { g with store := g.store.replaced e (Update.newVin? env.settings c r) }) := by
  obtain ⟨sent, committed⟩ := (Update.commit_eq_ok_iff hs passes.complete
    passes.fits.toComplete).mpr ⟨x, e, accepted, rfl, rfl⟩
  rw [step_update_of_commit env g ((Update.prepare_eq_ok off).mpr ⟨c, r, passes, rfl⟩) committed]
  unfold afterwards
  rw [off]
  rfl

/-- In a store in order every update is settled by the checks of its values and the conditions of
acceptance. -/
theorem settles_update (hs : g.store.Regular) (off : env.settings.synchronises = false) :
    q.Settles env.settings g (g.step env (.update q)).1 (g.step env (.update q)).2 := by
  by_cases accepted : ∃ c r x e, q.Passes c r ∧ Update.Accepts env.settings g.store c r x e
  · obtain ⟨c, r, x, e, passes, accepted⟩ := accepted
    rw [step_update_of_accepts hs off passes accepted]
    have takes := accepted.takes
    refine .replaced passes accepted
      (Store.replaces_replaced hs.linked.vins takes.id accepted.grants) ?_
    rw [← takes.id]
    exact Store.device?_replaced _
      (takes.id ▸ Store.device?_of_mem hs.numbered accepted.means.stored)
  · have refused : ∀ c r x e, q.Passes c r → ¬Update.Accepts env.settings g.store c r x e :=
      fun c r x e passes h => accepted ⟨c, r, x, e, passes, h⟩
    rw [step_update]
    cases ready : Update.prepare env.settings q with
    | error cause => exact .refused refused
    | ok p =>
      obtain ⟨c, r, passes, rfl⟩ := (Update.prepare_eq_ok off).mp ready
      cases committed : Update.commit env.settings (Update.prepared c r) g.store with
      | error failure =>
        simp only [committed]
        exact .refused refused
      | ok y =>
        obtain ⟨⟨record, sent⟩, s⟩ := y
        obtain ⟨x, e, h, -⟩ := (Update.commit_eq_ok_iff hs passes.complete
          passes.fits.toComplete).mp ⟨sent, committed⟩
        exact absurd h (refused c r x e passes)

/-- After every run, whichever columns are kept unique, an update is carried out exactly if it
passes the checks of its values and is accepted. What it leaves then is the new version of its
device and, in the integrated mode, the number that is given; otherwise it leaves all as it was. -/
theorem update_settled (indexes : List UniqueIndex) (link : Link)
    (run : List (Environment × Command)) (env : Environment) (q : UpdateRequest)
    (off : env.settings.synchronises = false) :
    let g := after { store := .blank indexes, link := link } run
    ((∃ record, (g.step env (.update q)).1 = .ok (.record record)) ↔
      ∃ c r x e, q.Passes c r ∧ Update.Accepts env.settings g.store c r x e) ∧
    q.Settles env.settings g (g.step env (.update q)).1 (g.step env (.update q)).2 := by
  intro g
  have settles : q.Settles env.settings g (g.step env (.update q)).1 (g.step env (.update q)).2 :=
    settles_update (regular_after indexes link run) off
  exact ⟨settles.isOk_iff, settles⟩

/-- A device gets new identifiers and a new number while its serial number is kept unique. -/
theorem update_settled_new_number :
    let env : Environment :=
      { Sample.environment with settings := { creationType := .vehicleIntegrated } }
    let indexes : List UniqueIndex := [{ name := "serials", column := .text .serialNumber }]
    let g := after { store := .blank indexes } [
      (env, .create "admin" [Sample.device "S12" "123" "VIN00000000000001",
        Sample.device "S34" "456" "VIN00000000000002"])]
    let q : UpdateRequest :=
      { current := Sample.device "S34" "456" "VIN00000000000002"
        replacement := Sample.device "S56" "789" "VIN00000000000003" }
    env.settings.synchronises = false ∧
      (∃ c r x e, q.Passes c r ∧ Update.Accepts env.settings g.store c r x e) ∧
      (g.step env (.update q)).2.store.vins.rows.map (fun v => (v.device, v.vin)) =
        [(1, "VIN00000000000001"), (2, "VIN00000000000003")] ∧
      q.Settles env.settings g (g.step env (.update q)).1 (g.step env (.update q)).2 := by
  intro env indexes g q
  have off : env.settings.synchronises = false := rfl
  obtain ⟨record, succeeds, -⟩ : ∃ record : DeviceRecord,
      (g.step env (.update q)).1 = .ok (.record record) ∧ record.id = 2 :=
    exists_record_of_recordId? (by decide +kernel)
  have hrows : (g.step env (.update q)).2.store.vins.rows.map (fun v => (v.device, v.vin)) =
      [(1, "VIN00000000000001"), (2, "VIN00000000000003")] := by
    decide +kernel
  obtain ⟨haccepted, hsettles⟩ := update_settled indexes {} _ env q off
  exact ⟨off, haccepted.mp ⟨record, succeeds⟩, hrows, hsettles⟩

/-- A replacement that gives half of a surrogate pair passes all checks for a device that counts as
provisioned, and no column is kept unique and no number checked; it cannot be stored. -/
theorem update_fails_on_broken_text :
    let env := Sample.environment
    let c := Sample.device "SN001" "123" "VIN00000000000001"
    let r : DeviceData :=
      { c with profile := { c.profile with ssid := some (.broken [0xD800]) } }
    let q : UpdateRequest := { current := c, replacement := r }
    let g := after {} [(env, .create "admin" [c])]
    env.settings.synchronises = false ∧ env.settings.checksVins = false ∧
      g.store.uniqueIndexes = [] ∧ q.Passes c r ∧
      (∃ x, c.Means g.store x ∧ x.record.effectiveState = .ok .provisioned) ∧
      (g.step env (.update q)).1 = .error (.storage .brokenText) := by
  intro env c r q g
  have off : env.settings.synchronises = false := rfl
  have passes : q.Passes c r := Update.passes_of_prepare off (by decide +kernel)
  -- The device can be given its own values.
  obtain ⟨⟨⟨record, sent⟩, s⟩, committed⟩ :
      ∃ y, (Update.commit env.settings (Update.prepared c c) g.store).toOption = some y :=
    Option.isSome_iff_exists.mp (by decide +kernel)
  obtain ⟨x, e, accepted, -⟩ := (Update.commit_eq_ok_iff (regular_after [] {} _) passes.complete
    passes.complete).mp ⟨sent, toOption_eq_some.mp committed⟩
  refine ⟨off, rfl, uniqueIndexes_after {} _, passes, ⟨x, accepted.means, accepted.provisioned⟩, ?_⟩
  decide +kernel

end Registry

end DeviceRegistry
