import DeviceRegistry.Device.StoredDate
import DeviceRegistry.Proofs.Store.Statements
import DeviceRegistry.Store.Basic

/-!
# Stored forms

What a request gives for a column and what a statement stores for it: of a date the first second of
the day, of any other text the text itself. A text that is no date has no stored form as a date, and
a broken one has none at all. Reading the dates of a profile and binding the result is storing it
column by column (`bindProfile_dated`), so a request is compared with a stored device by `Holds`.
-/

namespace DeviceRegistry

open Calendar

namespace TextColumn

/-- The columns that hold a date. -/
def isDate (c : TextColumn) : Bool :=
  c == .manufacturingDate || c == .recordDate

/-- What is stored for a text that is given for a column, if it can be stored. -/
def stored? (c : TextColumn) (t : RawText) : Option String :=
  if c.isDate then (Date.ofFactoryText? t.shown).map fun date => date.midnight.text
  else t.string?

variable {c : TextColumn} {t : RawText}

theorem stored?_of_isDate (hc : c.isDate = true) :
    c.stored? t = (Date.ofFactoryText? t.shown).map fun date => date.midnight.text :=
  if_pos hc

theorem stored?_of_not_isDate (hc : c.isDate = false) : c.stored? t = t.string? :=
  if_neg (Bool.eq_false_iff.mp hc)

end TextColumn

namespace RawProfile

variable {p q : RawProfile}

/-- The profile in stored form, null where nothing is given. -/
def stored (p : RawProfile) : Profile :=
  .ofColumns fun c => (p.get c).bind c.stored?

@[simp] theorem get_stored (p : RawProfile) (c : TextColumn) :
    p.stored.get c = (p.get c).bind c.stored? := by
  simp [stored]

/-- The dates that are given are dates. -/
def DatesRead (p : RawProfile) : Prop :=
  ∀ c t, c.isDate = true → p.get c = some t → (c.stored? t).isSome = true

/-- All that is given can be stored. -/
def Storable (p : RawProfile) : Prop :=
  ∀ c t, p.get c = some t → (c.stored? t).isSome = true

theorem Storable.datesRead (h : p.Storable) : p.DatesRead :=
  fun c t _ => h c t

/-- The profile with the dates that it gives in stored form. -/
def dated (p : RawProfile) : RawProfile :=
  .ofColumns fun c => if c.isDate then ((p.get c).bind c.stored?).map .whole else p.get c

@[simp] theorem get_dated (p : RawProfile) (c : TextColumn) :
    p.dated.get c =
      if c.isDate then ((p.get c).bind c.stored?).map .whole else p.get c := by
  simp [dated]

/-! ## Reading the dates -/

section

variable {c : TextColumn} {value dated : Option RawText} {field : String}

theorem storedRawDate_eq_ok (hc : c.isDate = true) :
    storedRawDate value field = .ok dated ↔
      value.isSome = true ∧ (∀ t, value = some t → (c.stored? t).isSome = true) ∧
        dated = (value.bind c.stored?).map .whole := by
  cases value with
  | none => exact ⟨nofun, fun h => nomatch h.1⟩
  | some t =>
    have hread : c.stored? t = (Date.ofFactoryText? t.shown).map fun date => date.midnight.text :=
      TextColumn.stored?_of_isDate hc
    simp only [storedRawDate, storedDate, Option.map_some, Option.bind_some, Option.isSome_some,
      true_and, Option.some.injEq, forall_eq', hread]
    cases Date.ofFactoryText? t.shown with
    | none => exact ⟨nofun, fun h => nomatch h.1⟩
    | some date => exact ⟨fun h => ⟨rfl, (Except.ok.inj h).symm⟩, fun h => congrArg _ h.2.symm⟩

theorem storedGivenDate_eq_ok (hc : c.isDate = true) :
    storedGivenDate value field = .ok dated ↔
      (∀ t, value = some t → (c.stored? t).isSome = true) ∧
        dated = (value.bind c.stored?).map .whole := by
  unfold storedGivenDate
  cases value with
  | none => exact ⟨fun h => ⟨nofun, (Except.ok.inj h).symm⟩, fun h => congrArg Except.ok h.2.symm⟩
  | some t =>
    rw [if_pos Option.isSome_some, storedRawDate_eq_ok hc]
    exact and_iff_right rfl

end

theorem dated_eq (p : RawProfile) :
    p.dated = { p with
      manufacturingDate :=
        (p.manufacturingDate.bind (TextColumn.stored? .manufacturingDate)).map .whole
      recordDate := (p.recordDate.bind (TextColumn.stored? .recordDate)).map .whole } := by
  refine Columns.ext_get fun c => ?_
  rw [get_dated]
  cases c <;> rfl

theorem datesRead_iff :
    p.DatesRead ↔
      (∀ t, p.manufacturingDate = some t →
        (TextColumn.stored? .manufacturingDate t).isSome = true) ∧
      ∀ t, p.recordDate = some t → (TextColumn.stored? .recordDate t).isSome = true := by
  constructor
  · exact fun h => ⟨fun t => h .manufacturingDate t rfl, fun t => h .recordDate t rfl⟩
  · rintro ⟨hmanufactured, hrecorded⟩ c t hc
    cases c with
    | manufacturingDate => exact hmanufactured t
    | recordDate => exact hrecorded t
    | _ => cases hc

theorem withGivenDates_eq_ok : p.withGivenDates = .ok q ↔ p.DatesRead ∧ q = p.dated := by
  constructor
  · intro h
    unfold withGivenDates at h
    simp only [bind_eq_ok] at h
    obtain ⟨manufactured, hmanufactured, recorded, hrecorded, h⟩ := h
    obtain ⟨hmread, rfl⟩ := (storedGivenDate_eq_ok (c := .manufacturingDate) rfl).mp hmanufactured
    obtain ⟨hrread, rfl⟩ := (storedGivenDate_eq_ok (c := .recordDate) rfl).mp hrecorded
    exact ⟨datesRead_iff.mpr ⟨hmread, hrread⟩, (Except.ok.inj h).symm.trans p.dated_eq.symm⟩
  · rintro ⟨hread, rfl⟩
    obtain ⟨hmread, hrread⟩ := datesRead_iff.mp hread
    unfold withGivenDates
    rw [(storedGivenDate_eq_ok (c := .manufacturingDate) rfl).mpr ⟨hmread, rfl⟩,
      (storedGivenDate_eq_ok (c := .recordDate) rfl).mpr ⟨hrread, rfl⟩, p.dated_eq]
    rfl

theorem withStoredDates_eq_ok :
    p.withStoredDates = .ok q ↔
      p.manufacturingDate.isSome = true ∧ p.recordDate.isSome = true ∧ p.DatesRead ∧
        q = p.dated := by
  constructor
  · intro h
    unfold withStoredDates at h
    simp only [bind_eq_ok] at h
    obtain ⟨manufactured, hmanufactured, recorded, hrecorded, h⟩ := h
    obtain ⟨hm, hmread, rfl⟩ := (storedRawDate_eq_ok (c := .manufacturingDate) rfl).mp hmanufactured
    obtain ⟨hr, hrread, rfl⟩ := (storedRawDate_eq_ok (c := .recordDate) rfl).mp hrecorded
    exact ⟨hm, hr, datesRead_iff.mpr ⟨hmread, hrread⟩,
      (Except.ok.inj h).symm.trans p.dated_eq.symm⟩
  · rintro ⟨hm, hr, hread, rfl⟩
    obtain ⟨hmread, hrread⟩ := datesRead_iff.mp hread
    unfold withStoredDates
    rw [(storedRawDate_eq_ok (c := .manufacturingDate) rfl).mpr ⟨hm, hmread, rfl⟩,
      (storedRawDate_eq_ok (c := .recordDate) rfl).mpr ⟨hr, hrread, rfl⟩, p.dated_eq]
    rfl

/-! ## Binding the texts -/

/-- A profile of whole texts is determined by what it shows. -/
theorem get_eq_of_isWhole (h : p.isWhole = true) (c : TextColumn) :
    p.get c = (p.shown.get c).map .whole := by
  have hwhole := List.all_eq_true.mp h c (TextColumn.mem_all c)
  rw [shown, Columns.get_map]
  cases hget : p.get c with
  | none => rfl
  | some t =>
    rw [hget] at hwhole
    cases t with
    | whole s => rfl
    | broken codes => cases hwhole

theorem isWhole_iff : p.isWhole = true ↔ ∀ c t, p.get c = some t → t.isWhole = true := by
  unfold isWhole
  simp only [List.all_eq_true, TextColumn.mem_all, forall_const, Option.all_eq_true]

/-- With its dates read, a profile is whole exactly if it can be stored. -/
theorem isWhole_dated (h : p.DatesRead) : p.dated.isWhole = true ↔ p.Storable := by
  rw [isWhole_iff]
  refine forall_congr' fun c => ?_
  rw [get_dated]
  cases hc : c.isDate with
  | true =>
    have hread : ∀ t, p.get c = some t → (c.stored? t).isSome = true := fun t => h c t hc
    refine iff_of_true (fun t ht => ?_) hread
    obtain ⟨s, -, rfl⟩ := Option.map_eq_some_iff.mp ht
    rfl
  | false =>
    simp only [TextColumn.stored?_of_not_isDate hc]
    exact Iff.rfl

theorem shown_dated (h : p.Storable) : p.dated.shown = p.stored := by
  refine Columns.ext_get fun c => ?_
  rw [shown, Columns.get_map, get_dated, get_stored]
  cases hc : c.isDate with
  | true =>
    rw [if_pos rfl, Option.map_map]
    exact Option.map_id'
  | false =>
    cases hget : p.get c with
    | none => rfl
    | some t =>
      obtain ⟨s, hs⟩ := Option.isSome_iff_exists.mp (h c t hget)
      have hwhole := hs
      rw [TextColumn.stored?_of_not_isDate hc, RawText.string?_eq_some] at hwhole
      rw [Option.bind_some, hs, hwhole]
      rfl

end RawProfile

theorem Store.isWhole_of_bindProfile {raw : RawProfile} {p : Profile}
    (h : bindProfile raw = .ok p) : raw.isWhole = true := by
  unfold bindProfile at h
  split at h
  · assumption
  · cases h

/-- Reading the dates of a profile and binding the result stores it column by column. -/
theorem Store.bindProfile_dated {raw : RawProfile} {p : Profile} (h : raw.DatesRead) :
    bindProfile raw.dated = .ok p ↔ raw.Storable ∧ p = raw.stored := by
  unfold bindProfile
  cases hwhole : raw.dated.isWhole with
  | false =>
    have hnot : ¬raw.Storable := fun hs => by
      rw [(RawProfile.isWhole_dated h).mpr hs] at hwhole
      cases hwhole
    exact ⟨nofun, fun hs => absurd hs.1 hnot⟩
  | true =>
    have hs := (RawProfile.isWhole_dated h).mp hwhole
    rw [if_pos rfl, RawProfile.shown_dated hs]
    exact ⟨fun hp => ⟨hs, (Except.ok.inj hp).symm⟩, fun hp => congrArg _ hp.2.symm⟩

/-! ## Devices and requests -/

namespace RawProfile

/-- The profile with all columns but the listed ones null. -/
abbrev among (columns : List TextColumn) (p : RawProfile) : RawProfile :=
  p.only columns

variable {columns : List TextColumn} {p : RawProfile}

theorem get_among (columns : List TextColumn) (p : RawProfile) (c : TextColumn) :
    (p.among columns).get c = if c ∈ columns then p.get c else none := by
  simp [Columns.only]

theorem get_stored_among {c : TextColumn} (hc : c ∈ columns) :
    (p.among columns).stored.get c = (p.get c).bind c.stored? := by
  rw [get_stored, get_among, if_pos hc]

theorem storable_among :
    (p.among columns).Storable ↔
      ∀ c ∈ columns, ∀ t, p.get c = some t → (c.stored? t).isSome = true := by
  unfold Storable
  constructor
  · intro h c hc t ht
    exact h c t (by rw [get_among, if_pos hc, ht])
  · intro h c t ht
    rw [get_among] at ht
    split at ht
    · exact h c ‹_› t ht
    · cases ht

theorem datesRead_among (hm : .manufacturingDate ∈ columns) (hr : .recordDate ∈ columns) :
    (p.among columns).DatesRead ↔ p.DatesRead := by
  have hkept : ∀ c : TextColumn, c.isDate = true → (p.among columns).get c = p.get c := by
    intro c hc
    rw [get_among]
    cases c with
    | manufacturingDate => exact if_pos hm
    | recordDate => exact if_pos hr
    | _ => cases hc
  unfold DatesRead
  constructor
  · exact fun h c t hc ht => h c t hc ((hkept c hc).trans ht)
  · exact fun h c t hc ht => h c t hc ((hkept c hc).symm.trans ht)

end RawProfile

namespace Device

variable {columns : List TextColumn} {p : RawProfile} {d : Device}

/-- A device has, in stored form, all that a profile gives for some columns. -/
def Holds (columns : List TextColumn) (p : RawProfile) (d : Device) : Prop :=
  ∀ c ∈ columns, ∀ t, p.get c = some t → ∃ s, c.stored? t = some s ∧ d.profile.get c = some s

theorem Holds.storable (h : d.Holds columns p) : (p.among columns).Storable := by
  rw [RawProfile.storable_among]
  intro c hc t ht
  obtain ⟨s, hs, -⟩ := h c hc t ht
  exact Option.isSome_of_eq_some hs

/-- Of what can be stored, a device has all exactly if it has it stored. -/
theorem holds_iff (h : (p.among columns).Storable) :
    d.Holds columns p ↔
      ∀ c ∈ columns, ∀ s, (p.among columns).stored.get c = some s → d.profile.get c = some s := by
  rw [RawProfile.storable_among] at h
  refine forall₂_congr fun c hc => ?_
  rw [RawProfile.get_stored_among hc]
  cases ht : p.get c with
  | none => exact iff_of_true nofun nofun
  | some t =>
    obtain ⟨s, hs⟩ := Option.isSome_iff_exists.mp (h c hc t ht)
    simp only [Option.some.injEq, forall_eq', Option.bind_some, hs, exists_eq_left']

theorem holds_taking (h : (p.among columns).Storable) :
    (d.taking columns (p.among columns).stored).Holds columns p := by
  rw [holds_iff h]
  intro c hc s hs
  rw [get_taking, if_pos hc, hs]

end Device

end DeviceRegistry
