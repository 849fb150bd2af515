import DeviceRegistry.Payload.Answers
import DeviceRegistry.Payload.Requests

/-!
# Reading stored rows

A row is handed out as an object of its columns and read back as a record. The names of the columns
are distinct, so each column is found under its name, and the record that is read is the one of the
row. A row of the device table needs a state for that; a row of the history can always be read.
-/

namespace DeviceRegistry

/-- The members of the eighteen columns that both tables have. -/
def Profile.columnMembers (p : Profile) (stolen faulty : Int) : List (String × Json) :=
  p.members ++ [(Flag.stolen.name, .int stolen), (Flag.faulty.name, .int faulty)]

/-- A row of the device table as an object. -/
def Device.row (d : Device) : Json :=
  .ofMembers (("id", .int d.id) :: d.profile.columnMembers d.stolen d.faulty)

/-- A row of the history table as an object. -/
def HistoryRow.row (h : HistoryRow) : Json :=
  .ofMembers ([("id", .int h.id), ("factory_id", .int h.factoryId)] ++
    h.profile.columnMembers h.stolen h.faulty ++
    [("action", .str h.action.name), ("created_timestamp", .str h.recordedAt)])

/-! ## Members by name -/

/-- Members with whole names, as an object keeps them. -/
abbrev Json.wholeMembers (ms : List (String × Json)) : Json.Members :=
  ms.map fun m => (.whole m.1, m.2)

theorem Json.lookup_wholeMembers (name : String) (ms : List (String × Json)) :
    (wholeMembers ms).lookup (.whole name) = ms.lookup name := by
  induction ms with
  | nil => rfl
  | cons m ms ih =>
    have hkey : (RawText.whole name == .whole m.1) = (name == m.1) := by
      rw [Bool.eq_iff_iff, beq_iff_eq, beq_iff_eq, RawText.whole.injEq]
    show ((RawText.whole m.1, m.2) :: wholeMembers ms).lookup (.whole name) = _
    rw [List.lookup_cons, List.lookup_cons, hkey, ih]

theorem Profile.lookup_members (p : Profile) (name : String) :
    p.members.lookup name = (TextColumn.ofName? name).map fun c => .ofText? (p.get c) := by
  unfold members TextColumn.ofName?
  generalize TextColumn.all = columns
  induction columns with
  | nil => rfl
  | cons c columns ih =>
    rw [List.map_cons, List.lookup_cons, List.find?_cons]
    by_cases hc : name = c.name
    · simp [hc]
    · have hkey : (name == c.name) = false := by simpa using hc
      have hname : (c.name == name) = false := by simpa using Ne.symm hc
      simpa only [hkey, hname] using ih

/-! ## Reading members -/

theorem Columns.get_foldl_set {α : Type} (v : TextColumn → Option α) (columns : List TextColumn)
    (p : Columns α) (e : TextColumn) :
    (columns.foldl (fun p c => p.set c (v c)) p).get e = if e ∈ columns then v e else p.get e := by
  induction columns generalizing p with
  | nil => rfl
  | cons c columns ih =>
    rw [List.foldl_cons, ih]
    by_cases he : e ∈ columns
    · simp [he]
    · by_cases hc : e = c
      · simp [hc]
      · simp [he, hc]

namespace Payload

open Decoder (text nullable)

variable {p : Profile} {ms : Json.Members}

/-- The members of a profile stand in an object under the names of their columns. -/
def Stand (p : Profile) (ms : Json.Members) : Prop :=
  ∀ c : TextColumn, ms.lookup (.whole c.name) = some (.ofText? (p.get c))

theorem Stand.optional_text (h : Stand p ms) (c : TextColumn) :
    Decoder.optional c.name text ms = .fit (p.get c) := by
  unfold Decoder.optional Decoder.field
  rw [h c]
  cases p.get c <;> rfl

theorem Stand.profile_text (h : Stand p ms) (columns : List TextColumn) :
    profile text columns ms = .fit (p.only columns) := by
  have hread : ∀ q : Profile,
      columns.foldl
          (fun p c => Columns.set <$> p <*> pure c <*> Decoder.optional c.name text ms) (.fit q) =
        Decoded.fit (columns.foldl (fun q c => q.set c (p.get c)) q) := by
    induction columns with
    | nil => exact fun _ => rfl
    | cons c columns ih =>
      intro q
      rw [List.foldl_cons, h.optional_text c]
      exact ih _
  have hall : columns.foldl (fun q c => q.set c (p.get c)) {} = p.only columns := by
    refine Columns.ext_get fun e => ?_
    rw [Columns.get_foldl_set, Columns.only, Columns.get_ofColumns]
    by_cases he : e ∈ columns
    · simp [he]
    · simp only [he, List.contains_eq_mem, decide_false, if_false, Bool.false_eq_true]
      cases e <;> rfl
  rw [profile, hread, hall]

theorem Stand.recordProfile (h : Stand p ms) {state : String} (hstate : p.state = some state) :
    Payload.recordProfile ms = .fit p := by
  have hfield : Decoder.field TextColumn.state.name (.fit DeviceState.provisioned.name) text ms =
      .fit state := by
    unfold Decoder.field
    rw [h .state, show p.get .state = p.state from rfl, hstate]
    rfl
  have hall : { p.only plainColumns with state := some state } = p := by
    refine Columns.ext_get fun c => ?_
    cases c <;> first | rfl | exact hstate.symm
  unfold Payload.recordProfile
  rw [h.profile_text, show "state" = TextColumn.state.name from rfl, hfield]
  exact congrArg Decoded.fit hall

end Payload

/-! ## Rows -/

namespace Profile

variable (p : Profile) (stolen faulty : Int) {before after : List (String × Json)}

theorem stand_columnMembers (h : ∀ c : TextColumn, before.lookup c.name = none) :
    Payload.Stand p (Json.wholeMembers (before ++ p.columnMembers stolen faulty ++ after)) := by
  intro c
  rw [Json.lookup_wholeMembers, List.lookup_append, List.lookup_append, h c, columnMembers,
    List.lookup_append, lookup_members, TextColumn.ofName?_name]
  rfl

/-- Under a name that is no text column, a member of a row is a flag or stands around the columns. -/
theorem lookup_columnMembers {name : String} (h : TextColumn.ofName? name = none) :
    (Json.wholeMembers (before ++ p.columnMembers stolen faulty ++ after)).lookup (.whole name) =
      (before ++ [(Flag.stolen.name, Json.int stolen), (Flag.faulty.name, Json.int faulty)] ++
        after).lookup name := by
  rw [Json.lookup_wholeMembers, columnMembers]
  simp only [List.lookup_append, lookup_members, h, Option.map_none, Option.none_or]

end Profile

namespace Payload

theorem rowFlag_of_lookup (f : Flag) {ms : Json.Members} {value : Int}
    (h : ms.lookup (.whole f.name) = some (.int value)) : rowFlag f ms = (value != 0) := by
  unfold rowFlag
  rw [h]
  rfl

/-- A row of the device table is read as the record of its device. -/
theorem deviceRow_row {d : Device} {state : String} (hstate : d.profile.state = some state) :
    deviceRow d.row = .fit d.record := by
  let before : List (String × Json) := [("id", .int d.id)]
  let ms := Json.wholeMembers (before ++ d.profile.columnMembers d.stolen d.faulty ++ [])
  have hrow : d.row = .obj ms := by
    simp only [ms, List.append_nil]
    rfl
  have hprofile : Stand d.profile ms :=
    d.profile.stand_columnMembers d.stolen d.faulty fun c => by cases c <;> rfl
  have hlookup : ∀ name : String, TextColumn.ofName? name = none → ms.lookup (.whole name) = _ :=
    fun _ h => d.profile.lookup_columnMembers d.stolen d.faulty h
  have hid : ms.lookup (.whole "id") = some (.int d.id) := hlookup _ (by decide)
  have hvin : ms.lookup (.whole "vin") = none := hlookup _ (by decide)
  have hunit : ms.lookup (.whole "harman_id") = none := hlookup _ (by decide)
  have hdevice : ms.lookup (.whole "device_id") = none := hlookup _ (by decide)
  have hstolen : rowFlag .stolen ms = (d.stolen != 0) :=
    rowFlag_of_lookup .stolen (hlookup Flag.stolen.name (by decide))
  have hfaulty : rowFlag .faulty ms = (d.faulty != 0) :=
    rowFlag_of_lookup .faulty (hlookup Flag.faulty.name (by decide))
  rw [hrow]
  unfold deviceRow Decoder.object Decoder.needed Decoder.field rowHeadUnit Decoder.optional
    Decoder.field
  simp only [hid, hvin, hunit, hdevice, hstolen, hfaulty, hprofile.recordProfile hstate]
  rfl

/-- A row of the history table is read as its entry. -/
theorem historyRow_row (h : HistoryRow) : historyRow h.row = .fit h.entry := by
  let before : List (String × Json) := [("id", .int h.id), ("factory_id", .int h.factoryId)]
  let after : List (String × Json) :=
    [("action", .str h.action.name), ("created_timestamp", .str h.recordedAt)]
  let ms := Json.wholeMembers (before ++ h.profile.columnMembers h.stolen h.faulty ++ after)
  have hrow : h.row = .obj ms := rfl
  have hprofile : Stand h.profile ms :=
    h.profile.stand_columnMembers h.stolen h.faulty fun c => by cases c <;> rfl
  have hlookup : ∀ name : String, TextColumn.ofName? name = none → ms.lookup (.whole name) = _ :=
    fun _ hname => h.profile.lookup_columnMembers h.stolen h.faulty hname
  have hid : ms.lookup (.whole "id") = some (.int h.id) := hlookup _ (by decide)
  have hfactory : ms.lookup (.whole "factory_id") = some (.int h.factoryId) := hlookup _ (by decide)
  have haction : ms.lookup (.whole "action") = some (.str h.action.name) := hlookup _ (by decide)
  have hat : ms.lookup (.whole "created_timestamp") = some (.str h.recordedAt) :=
    hlookup _ (by decide)
  have hstolen : rowFlag .stolen ms = (h.stolen != 0) :=
    rowFlag_of_lookup .stolen (hlookup Flag.stolen.name (by decide))
  have hfaulty : rowFlag .faulty ms = (h.faulty != 0) :=
    rowFlag_of_lookup .faulty (hlookup Flag.faulty.name (by decide))
  have hall : h.profile.only TextColumn.all = h.profile :=
    Columns.ext_get fun c => by cases c <;> rfl
  have hchoice : Decoder.choice HistoryAction.ofName? (.str h.action.name) = .fit h.action := by
    cases h.action <;> rfl
  rw [hrow]
  unfold historyRow Decoder.object Decoder.needed Decoder.field
  simp only [hid, hfactory, haction, hat, hstolen, hfaulty, hprofile.profile_text, hall, hchoice]
  rfl

end Payload

end DeviceRegistry
