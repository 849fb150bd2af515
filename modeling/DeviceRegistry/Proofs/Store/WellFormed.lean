import DeviceRegistry.Proofs.Device.States
import DeviceRegistry.Proofs.Payload.Rows
import DeviceRegistry.Proofs.Text.Numerals
import DeviceRegistry.Proofs.Vehicle.Ownership

/-!
# Well-formed stores

What a device may have in a column is checked by each command that writes the column, and each in
its own way. All the same the values are of one form: the state is the name of one, a filled IMEI is
numeric, a serial number is there and alphanumeric unless it is empty, and the two dates are first
seconds of days that exist. At most one flag is set, and a number has its full length. So the
decisions always find a state, and every row can be read back.
-/

namespace DeviceRegistry

open Calendar

/-- The stored form of a date that exists. -/
def IsStoredDate (value : Option String) : Prop :=
  ∃ date : Date, date.Exists ∧ value = some date.midnight.text

/-- The form of what a column of a stored device holds. -/
def TextColumn.Admits : TextColumn → Option String → Prop
  | .state, value => ∃ state : DeviceState, value = some state.name
  | .imei, value => ∀ imei, value = some imei → ∀ c ∈ imei.toList, c.isDigit = true
  | .serialNumber, value =>
    ∃ serial, value = some serial ∧ ∀ c ∈ serial.toList, c.isAlphanum = true
  | .manufacturingDate, value => IsStoredDate value
  | .recordDate, value => IsStoredDate value
  | _, _ => True

/-- Every column has its form, and the flags are flags, not both of them set. -/
structure Device.WellFormed (d : Device) : Prop where
  columns : ∀ c : TextColumn, c.Admits (d.profile.get c)
  stolen : d.stolen = 0 ∨ d.stolen = 1
  faulty : d.faulty = 0 ∨ d.faulty = 1
  single : ¬(d.stolen = 1 ∧ d.faulty = 1)

/-! ## What the checks admit -/

namespace Identifier

theorem ifFilled_eq_ok {value : Option String} {check : String → Check} :
    ifFilled value check = .ok () ↔
      ∀ s, value = some s → s.isEmpty = false → check s = .ok () := by
  unfold ifFilled
  cases h : Text.filled? value with
  | none =>
    refine iff_of_true rfl fun s hs hfilled => ?_
    rw [Text.filled?_eq_some.mpr ⟨hs, hfilled⟩] at h
    cases h
  | some t =>
    obtain ⟨rfl, hfilled⟩ := Text.filled?_eq_some.mp h
    refine ⟨fun h s hs _ => ?_, fun h => h t rfl hfilled⟩
    cases hs
    exact h

/-- The empty text has no characters, and all of a checked one are good. -/
theorem all_of_ifFilled {value : Option String} {check : String → Check} {good : Char → Bool}
    (h : ifFilled value check = .ok ())
    (hgood : ∀ s, check s = .ok () → ∀ c ∈ s.toList, good c = true) {s : String}
    (hs : value = some s) : ∀ c ∈ s.toList, good c = true := by
  cases hempty : s.isEmpty with
  | true => simp [String.isEmpty_iff.mp hempty]
  | false => exact hgood s (ifFilled_eq_ok.mp h s hs hempty)

theorem isAlphanum_of_isAlphanumeric {s : String} (h : Text.isAlphanumeric s = true) :
    ∀ c ∈ s.toList, c.isAlphanum = true :=
  List.all_eq_true.mp (Bool.and_eq_true _ _ ▸ h).2

variable {value : Option String}

theorem admits_imei_of_whole (h : checkWholeImei value = .ok ()) : TextColumn.imei.Admits value :=
  fun _ hs =>
    all_of_ifFilled h (fun _ hcheck => (Text.isNumeric_iff.mp (require_eq_ok.mp hcheck)).2) hs

theorem admits_imei (h : checkImei value = .ok ()) : TextColumn.imei.Admits value := by
  intro s hs
  refine all_of_ifFilled h (fun s hcheck => ?_) hs
  obtain ⟨_, _, hnumeric⟩ := bind_eq_ok.mp hcheck
  exact (Text.isNumeric_iff.mp (require_eq_ok.mp hnumeric)).2

theorem admits_serialNumber_of_whole (h : checkWholeSerialNumber value = .ok ())
    (hgiven : value.isSome = true) : TextColumn.serialNumber.Admits value := by
  obtain ⟨s, rfl⟩ := Option.isSome_iff_exists.mp hgiven
  refine ⟨s, rfl, all_of_ifFilled h (fun s hcheck => ?_) rfl⟩
  exact isAlphanum_of_isAlphanumeric (require_eq_ok.mp hcheck)

theorem admits_serialNumber (h : checkSerialNumber value = .ok ()) (hgiven : value.isSome = true) :
    TextColumn.serialNumber.Admits value := by
  obtain ⟨s, rfl⟩ := Option.isSome_iff_exists.mp hgiven
  refine ⟨s, rfl, all_of_ifFilled h (fun s hcheck => ?_) rfl⟩
  obtain ⟨_, _, halphanumeric⟩ := bind_eq_ok.mp hcheck
  exact isAlphanum_of_isAlphanumeric (require_eq_ok.mp halphanumeric)

theorem admits_state (h : checkStateName value = .ok ()) (hgiven : value.isSome = true) :
    TextColumn.state.Admits value := by
  obtain ⟨s, rfl⟩ := Option.isSome_iff_exists.mp hgiven
  obtain ⟨state, hstate⟩ := Option.isSome_iff_exists.mp (require_eq_ok.mp h)
  exact ⟨state, congrArg some (DeviceState.name_of_ofName? hstate).symm⟩

end Identifier

namespace RawProfile

variable {p q : RawProfile}

/-- The dates of the second profile come from those of the first, and the other columns are its. -/
structure Dated (p q : RawProfile) : Prop where
  manufactured : q.manufacturingDate.isSome = true → IsStoredDate (q.shown.get .manufacturingDate)
  recorded : q.recordDate.isSome = true → IsStoredDate (q.shown.get .recordDate)
  others : ∀ c, c ≠ .manufacturingDate → c ≠ .recordDate → q.get c = p.get c

theorem exists_date_of_storedRawDate {value dated : Option RawText} {field : String}
    (h : storedRawDate value field = .ok dated) :
    ∃ date, (value.map RawText.shown).bind Date.ofFactoryText? = some date ∧
      dated = some (.whole date.midnight.text) := by
  obtain ⟨s, hs, rfl⟩ := map_eq_ok.mp h
  unfold storedDate at hs
  split at hs
  · rename_i date hdate
    cases hs
    exact ⟨date, hdate, rfl⟩
  · cases hs

theorem isStoredDate_of_storedRawDate {value dated : Option RawText} {field : String}
    (h : storedRawDate value field = .ok dated) : IsStoredDate (dated.map RawText.shown) := by
  obtain ⟨date, hdate, rfl⟩ := exists_date_of_storedRawDate h
  obtain ⟨text, -, hread⟩ := Option.bind_eq_some_iff.mp hdate
  exact ⟨date, Date.exists_of_ofFactoryText? hread, rfl⟩

theorem isStoredDate_of_storedGivenDate {value dated : Option RawText} {field : String}
    (h : storedGivenDate value field = .ok dated) (hgiven : dated.isSome = true) :
    IsStoredDate (dated.map RawText.shown) := by
  unfold storedGivenDate at h
  split at h
  · exact isStoredDate_of_storedRawDate h
  · cases h
    cases hgiven

theorem dated_of_withStoredDates (h : p.withStoredDates = .ok q) :
    Dated p q ∧ q.manufacturingDate.isSome = true ∧ q.recordDate.isSome = true := by
  unfold withStoredDates at h
  simp only [bind_eq_ok] at h
  obtain ⟨manufacturing, hmanufacturing, record, hrecord, h⟩ := h
  cases h
  refine ⟨⟨fun _ => isStoredDate_of_storedRawDate hmanufacturing,
    fun _ => isStoredDate_of_storedRawDate hrecord, ?_⟩, ?_, ?_⟩
  · intro c hm hr
    cases c <;> first | rfl | exact absurd rfl hm | exact absurd rfl hr
  · obtain ⟨s, -, rfl⟩ := map_eq_ok.mp hmanufacturing
    rfl
  · obtain ⟨s, -, rfl⟩ := map_eq_ok.mp hrecord
    rfl

theorem dated_of_withGivenDates (h : p.withGivenDates = .ok q) : Dated p q := by
  unfold withGivenDates at h
  simp only [bind_eq_ok] at h
  obtain ⟨manufacturing, hmanufacturing, record, hrecord, h⟩ := h
  cases h
  refine ⟨isStoredDate_of_storedGivenDate hmanufacturing, isStoredDate_of_storedGivenDate hrecord,
    ?_⟩
  intro c hm hr
  cases c <;> first | rfl | exact absurd rfl hm | exact absurd rfl hr

/-- Besides the dates, a dated profile shows what the profile shows that it comes from. -/
theorem Dated.shown_get (h : Dated p q) {c : TextColumn} (hm : c ≠ .manufacturingDate)
    (hr : c ≠ .recordDate) : q.shown.get c = p.shown.get c := by
  rw [shown, shown, Columns.get_map, Columns.get_map, h.others c hm hr]

theorem isSome_shown {c : TextColumn} : (p.shown.get c).isSome = (p.get c).isSome := by
  rw [shown, Columns.get_map, Option.isSome_map]

end RawProfile

/-! ## What the commands write -/

theorem Create.admits_of_prepare {name : String} {data : DeviceData} {p : PreparedDevice}
    (h : prepare name data = .ok p) {c : TextColumn} (hc : c ≠ .state) :
    c.Admits (p.profile.shown.get c) := by
  unfold prepare at h
  simp only [bind_eq_ok] at h
  obtain ⟨_, hmandatory, _, himei, _, hserial, _, _, dated, hdates, h⟩ := h
  cases h
  obtain ⟨hdated, hmanufactured, hrecorded⟩ := RawProfile.dated_of_withStoredDates hdates
  cases c with
  | manufacturingDate => exact hdated.manufactured hmanufactured
  | recordDate => exact hdated.recorded hrecorded
  | imei =>
    show TextColumn.imei.Admits (dated.shown.get .imei)
    rw [hdated.shown_get (by decide) (by decide)]
    exact Identifier.admits_imei_of_whole himei
  | serialNumber =>
    have hfilled := List.all_eq_true.mp (require_eq_ok.mp hmandatory) .serialNumber (by decide)
    obtain ⟨serial, hgiven⟩ := Option.isSome_iff_exists.mp hfilled
    show TextColumn.serialNumber.Admits (dated.shown.get .serialNumber)
    rw [hdated.shown_get (by decide) (by decide)]
    refine Identifier.admits_serialNumber hserial ?_
    rw [RawProfile.isSome_shown, (Option.filter_eq_some_iff.mp hgiven).1]
    rfl
  | state => exact absurd rfl hc
  | _ => trivial

theorem Update.isSome_of_sides {settings : Settings} {q : UpdateRequest}
    {current replacement : DeviceData} (h : sides settings q = .ok (current, replacement))
    {c : TextColumn} (hc : c ∈ updateMandatoryColumns) :
    ((replacement.profile.only updateColumns).get c).isSome = true := by
  unfold sides at h
  split at h
  · simp only [bind_eq_ok] at h
    obtain ⟨_, hcomplete, _, _, h⟩ := h
    cases h
    have hboth := require_eq_ok.mp hcomplete
    simp only [Bool.and_eq_true, List.all_eq_true] at hboth
    have hmem : c ∈ updateColumns := List.mem_append_left _ hc
    simpa [Columns.only, hmem] using hboth.2 c hc
  · cases h

theorem Update.admits_of_prepare {settings : Settings} {q : UpdateRequest} {p : Prepared}
    (h : prepare settings q = .ok p) {c : TextColumn} (hc : c ∈ updateColumns) :
    c.Admits (p.replacement.shown.get c) := by
  unfold prepare at h
  simp only [bind_eq_ok] at h
  obtain ⟨⟨current, replacement⟩, hsides, _, himei, _, hserial, _, _, old, _, dated, hdates, h⟩ := h
  cases h
  obtain ⟨hdated, hmanufactured, hrecorded⟩ := RawProfile.dated_of_withStoredDates hdates
  cases c with
  | manufacturingDate => exact hdated.manufactured hmanufactured
  | recordDate => exact hdated.recorded hrecorded
  | imei =>
    rw [hdated.shown_get (by decide) (by decide)]
    exact Identifier.admits_imei_of_whole himei
  | serialNumber =>
    rw [hdated.shown_get (by decide) (by decide)]
    refine Identifier.admits_serialNumber_of_whole hserial ?_
    rw [RawProfile.isSome_shown]
    exact isSome_of_sides hsides (by decide)
  | state => exact absurd hc state_not_mem_updateColumns
  | _ => trivial

theorem Attributes.admits_of_prepare {q : AttributeUpdate} {p : RawProfile}
    (h : prepare q = .ok p) {c : TextColumn} (hc : (p.shown.get c).isSome = true) :
    c.Admits (p.shown.get c) := by
  unfold prepare at h
  simp only [bind_eq_ok] at h
  obtain ⟨_, himei, _, hserial, _, hstate, _, _, hdates⟩ := h
  have hdated := RawProfile.dated_of_withGivenDates hdates
  cases c with
  | manufacturingDate => exact hdated.manufactured (RawProfile.isSome_shown.symm.trans hc)
  | recordDate => exact hdated.recorded (RawProfile.isSome_shown.symm.trans hc)
  | imei =>
    rw [hdated.shown_get (by decide) (by decide)]
    exact Identifier.admits_imei himei
  | serialNumber =>
    rw [hdated.shown_get (by decide) (by decide)] at hc ⊢
    exact Identifier.admits_serialNumber hserial hc
  | state =>
    rw [hdated.shown_get (by decide) (by decide)] at hc ⊢
    exact Identifier.admits_state hstate hc
  | _ => trivial

namespace Device.WellFormed

variable {d : Device}

theorem of_shows {state : DeviceState} (h : d.Shows state)
    (hcolumns : ∀ c : TextColumn, c ≠ .state → c.Admits (d.profile.get c)) : d.WellFormed := by
  refine ⟨fun c => ?_, ?_, ?_, ?_⟩
  · by_cases hc : c = .state
    · rw [hc]
      exact ⟨state, h.name⟩
    · exact hcolumns c hc
  · rw [h.stolen]
    cases state <;> decide
  · rw [h.faulty]
    cases state <;> decide
  · rw [h.stolen, h.faulty]
    cases state <;> decide

theorem taking (h : d.WellFormed) {columns : List TextColumn} {p : Profile}
    (hp : ∀ c ∈ columns, c.Admits (p.get c)) : (d.taking columns p).WellFormed := by
  refine ⟨fun c => ?_, h.stolen, h.faulty, h.single⟩
  rw [get_taking]
  split
  · exact hp c ‹_›
  · exact h.columns c

theorem moved (h : d.WellFormed) (target : DeviceState) : (d.moved target).WellFormed := by
  refine of_shows (shows_moved target d) fun c hc => ?_
  have hkept : (d.moved target).profile.get c = d.profile.get c := by
    cases c <;> first | rfl | exact absurd rfl hc
  rw [hkept]
  exact h.columns c

theorem state (h : d.WellFormed) : ∃ state : DeviceState, d.profile.state = some state.name :=
  h.columns .state

theorem effectiveState (h : d.WellFormed) : ∃ state, d.record.effectiveState = .ok state := by
  obtain ⟨state, hstate⟩ := h.state
  unfold DeviceRecord.effectiveState
  split
  · exact ⟨.faulty, rfl⟩
  · split
    · exact ⟨.stolen, rfl⟩
    · refine ⟨state, ?_⟩
      unfold DeviceState.parse
      rw [show d.record.profile.state = some state.name from hstate, Option.bind_some,
        DeviceState.ofName?_name]

end Device.WellFormed

/-- Every device is well formed, and every number has its full length. -/
structure Store.WellFormed (s : Store) : Prop where
  devices : ∀ d ∈ s.devices.rows, d.WellFormed
  vins : ∀ v ∈ s.vins.rows, v.vin.length = Identifier.vinLength

namespace Store.WellFormed

variable {s : Store}

theorem withDevice (h : s.WellFormed) {d : Device} (hd : d.WellFormed) :
    (s.withDevice d).WellFormed := by
  refine ⟨fun e he => ?_, h.vins⟩
  rcases mem_withDevice.mp he with ⟨rfl, _⟩ | ⟨he, _⟩
  · exact hd
  · exact h.devices e he

theorem withVin (h : s.WellFormed) (device : Int) {vin : String}
    (hlength : vin.length = Identifier.vinLength) : (s.withVin device vin).WellFormed := by
  refine ⟨h.devices, fun v hv => ?_⟩
  obtain ⟨a, ha, rfl⟩ := mem_withVin.mp hv
  split
  · exact hlength
  · exact h.vins a ha

theorem created (h : s.WellFormed) (now : String) {p : Profile} {vin : Option String}
    (hp : ∀ c : TextColumn, c ≠ .state → c.Admits (p.get c))
    (hlength : ∀ v, vin = some v → v.length = Identifier.vinLength) :
    (s.created now p vin).WellFormed := by
  constructor
  · intro d hd
    rcases Table.mem_append.mp hd with hd | rfl
    · exact h.devices d hd
    · refine .of_shows (Device.shows_newDevice now p _) fun c hc => ?_
      cases c with
      | createdDate => trivial
      | state => exact absurd rfl hc
      | _ => exact hp _ hc
  · intro v hv
    cases vin with
    | none => exact h.vins v hv
    | some vin =>
      rcases Table.mem_append.mp hv with hv | rfl
      · exact h.vins v hv
      · exact hlength vin rfl

end Store.WellFormed

theorem Effect.wellFormed {env : Environment} {s s' : Store} {c : Command}
    (h : Effect env s c s') (hs : s.WellFormed) : s'.WellFormed := by
  cases h with
  | created ready member fresh bound accepted =>
    obtain ⟨name, data, -, hprepared⟩ := Create.exists_prepare_of_mem ready member
    exact hs.created _ (fun c hc => Create.admits_of_prepare hprepared hc)
      fun v hv => Create.length_of_filled ready member bound hv
  | @moved q d current target now stored effective allowed headUnit =>
    have hdevice := hs.withDevice ((hs.devices d stored).moved target)
    exact ⟨hdevice.devices, hdevice.vins⟩
  | replaced ready stored effective renumbers =>
    have hdevice := hs.withDevice ((hs.devices _ stored).taking
      fun c hc => Update.admits_of_prepare ready hc)
    cases renumbers with
    | unchecked off => exact hdevice
    | kept on given owned same => exact hdevice
    | changed on given owned wanted free =>
      have hcheck := Update.checkVin_of_prepare ready
      rw [wanted] at hcheck
      exact hdevice.withVin _ (Identifier.length_of_checkVin hcheck)
  | deleted stored deletable free =>
    refine ⟨fun e he => hs.devices e (Store.mem_withoutDevice.mp he).1, fun v hv => ?_⟩
    exact hs.vins v (Table.mem_removeWhere.mp hv).1
  | changed ready stored named =>
    refine hs.withDevice ((hs.devices _ stored).taking fun c hc => ?_)
    exact Attributes.admits_of_prepare ready (Device.mem_filledColumns.mp hc)
  | associated stored => exact ⟨hs.devices, hs.vins⟩

/-- After every run, whatever was asked, the store is well formed. So each device is found to be in
a state, and the rows of both tables are read back as what they are. -/
theorem Registry.wellFormed_after (link : Link) (run : List (Environment × Command)) :
    let s := (after { link := link } run).store
    s.WellFormed ∧
      (∀ d ∈ s.devices.rows, (∃ state, d.record.effectiveState = .ok state) ∧
        Payload.deviceRow d.row = .fit d.record) ∧
      ∀ h ∈ s.history.rows, Payload.historyRow h.row = .fit h.entry := by
  intro s
  have hs : s.WellFormed :=
    (store_after_effects (P := Store.WellFormed) (A := fun _ => True)
      (fun _ _ _ _ _ h hs => h.wellFormed hs) (fun _ _ => trivial)
      Store.numbered_empty ⟨by simp, by simp⟩).2
  refine ⟨hs, fun d hd => ⟨(hs.devices d hd).effectiveState, ?_⟩, fun h _ =>
    Payload.historyRow_row h⟩
  obtain ⟨state, hstate⟩ := (hs.devices d hd).state
  exact Payload.deviceRow_row hstate

end DeviceRegistry
