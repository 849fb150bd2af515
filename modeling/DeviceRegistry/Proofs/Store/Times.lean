import DeviceRegistry.Proofs.Calendar.Texts
import DeviceRegistry.Proofs.Store.WellFormed

/-!
# The times of a device

The manufacturing date and the record date of a device are first seconds of days, and the time of
its creation is what the clock showed then. No command writes the last one again, so under a clock
that shows no time before 1970 it is none either (`Registry.dates_after`).
-/

namespace DeviceRegistry

open Calendar

/-- A column of a device holds a time. -/
structure Device.Dates (d : Device) (c : TextColumn) (t : Stamp) : Prop where
  real : t.Exists
  text : d.profile.get c = some t.text

/-- The columns that hold times. -/
def timeColumns : List TextColumn :=
  [.manufacturingDate, .recordDate, .createdDate]

theorem Device.Dates.unique {d : Device} {c : TextColumn} {t u : Stamp} (ht : d.Dates c t)
    (hu : d.Dates c u) : t = u :=
  Stamp.text_inj ht.real hu.real (Option.some.inj (ht.text.symm.trans hu.text))

theorem Device.dates_of_isStoredDate {d : Device} {c : TextColumn}
    (h : IsStoredDate (d.profile.get c)) : ∃ t, d.Dates c t := by
  obtain ⟨date, hdate, htext⟩ := h
  exact ⟨date.midnight, Stamp.exists_midnight hdate, htext⟩

/-! ## The time of the creation -/

namespace RawProfile

theorem shown_get_only {p : RawProfile} {columns : List TextColumn} {c : TextColumn}
    (hc : c ∉ columns) : (shown (p.only columns)).get c = none := by
  simp [shown, Columns.only, hc]

end RawProfile

theorem Create.createdDate_of_prepare {name : String} {data : DeviceData} {p : PreparedDevice}
    (h : prepare name data = .ok p) : p.profile.shown.createdDate = none := by
  unfold prepare at h
  simp only [bind_eq_ok] at h
  obtain ⟨_, -, _, -, _, -, _, -, dated, hdates, h⟩ := h
  cases h
  have hdated := (RawProfile.dated_of_withStoredDates hdates).1
  show dated.shown.get .createdDate = none
  rw [hdated.shown_get (by decide) (by decide)]
  exact RawProfile.shown_get_only (by decide)

theorem Attributes.createdDate_of_prepare {q : AttributeUpdate} {p : RawProfile}
    (h : prepare q = .ok p) : p.shown.get .createdDate = none := by
  unfold prepare at h
  simp only [bind_eq_ok] at h
  obtain ⟨_, -, _, -, _, -, _, -, hdates⟩ := h
  rw [(RawProfile.dated_of_withGivenDates hdates).shown_get (by decide) (by decide)]
  exact RawProfile.shown_get_only (by decide)

theorem Effect.createdDate_kept {env : Environment} {s s' : Store} {c : Command}
    (h : Effect env s c s') (hc : ∀ actor records, c ≠ .create actor records) {e : Device}
    (he : e ∈ s'.devices.rows) :
    ∃ d ∈ s.devices.rows, e.profile.createdDate = d.profile.createdDate := by
  have changed : ∀ {d d' : Device}, d ∈ s.devices.rows → e ∈ (s.withDevice d').devices.rows →
      d'.profile.createdDate = d.profile.createdDate →
      ∃ d ∈ s.devices.rows, e.profile.createdDate = d.profile.createdDate := by
    intro d d' hd he hkept
    rcases Store.mem_withDevice.mp he with ⟨rfl, _⟩ | ⟨he, _⟩
    · exact ⟨d, hd, hkept⟩
    · exact ⟨e, he, rfl⟩
  cases h with
  | created => exact absurd rfl (hc _ _)
  | moved stored => exact changed stored he rfl
  | @replaced q p d vin ready stored =>
    have hkept : (d.taking updateColumns p.replacement.shown).profile.get .createdDate =
        d.profile.get .createdDate := by
      rw [Device.get_taking, if_neg (by decide)]
    cases vin <;> exact changed stored he hkept
  | deleted => exact ⟨e, (Store.mem_withoutDevice.mp he).1, rfl⟩
  | @changed q p d ready stored =>
    have hkept : (d.taking (Device.filledColumns p.shown) p.shown).profile.get .createdDate =
        d.profile.get .createdDate := by
      rw [Device.get_taking, if_neg]
      rw [Device.mem_filledColumns, Attributes.createdDate_of_prepare ready]
      decide
    exact changed stored he hkept
  | associated => exact ⟨e, he, rfl⟩

/-- The time of a creation is kept, or it is what the clock shows. -/
theorem Commit.createdDate {env : Environment} {s s' : Store} {c : Command} (hn : s.Numbered)
    (h : Commit env s s' c) {e : Device} (he : e ∈ s'.devices.rows) :
    (∃ d ∈ s.devices.rows, e.profile.createdDate = d.profile.createdDate) ∨
      ∃ t, timestamp env.now = .ok t ∧ e.profile.createdDate = some t.text := by
  by_cases hc : ∃ actor records, c = .create actor records
  · obtain ⟨actor, records, rfl⟩ := hc
    cases h with
    | create ready member fresh inserted =>
      obtain ⟨t, profile, vin, ht, hprofile, -, -, rfl, -⟩ := Create.insert_eq_ok inserted
      obtain rfl := Store.bindProfile_eq_ok hprofile
      obtain ⟨name, data, -, hprepared⟩ := Create.exists_prepare_of_mem ready member
      rcases Table.mem_append.mp he with he | rfl
      · exact .inl ⟨e, he, rfl⟩
      · refine .inr ⟨t, ht, ?_⟩
        simp [Store.newDevice, Create.createdDate_of_prepare hprepared, Text.filled?]
  · exact .inl ((h.effect hn).createdDate_kept (fun actor records h => hc ⟨actor, records, h⟩) he)

/-- Every device was created at a time from 1970 on. -/
def Store.CreatedFrom1970 (s : Store) : Prop :=
  ∀ d ∈ s.devices.rows, ∃ t, d.Dates .createdDate t ∧ 0 ≤ t.seconds

theorem Commit.createdFrom1970 {env : Environment} {s s' : Store} {c : Command} (hn : s.Numbered)
    (hclock : 0 ≤ env.now.millis) (h : Commit env s s' c) (hs : s.CreatedFrom1970) :
    s'.CreatedFrom1970 := by
  intro e he
  rcases h.createdDate hn he with ⟨d, hd, hkept⟩ | ⟨t, ht, htext⟩
  · obtain ⟨t, ht, hpos⟩ := hs d hd
    exact ⟨t, ⟨ht.real, hkept.trans ht.text⟩, hpos⟩
  · obtain ⟨hreal, hseconds⟩ := Stamp.ofMillis?_eq_some.mp (timestamp_eq_ok.mp ht)
    exact ⟨t, ⟨hreal, htext⟩, by omega⟩

/-- After every run under a clock from 1970 on, each column of times holds a time, and the one of
the creation is not before 1970. -/
theorem Registry.dates_after (link : Link) {run : List (Environment × Command)}
    (hclock : ∀ e ∈ run, 0 ≤ e.1.now.millis) {d : Device}
    (hd : d ∈ (after { link := link } run).store.devices.rows) :
    (∀ c ∈ timeColumns, ∃ t, d.Dates c t) ∧ ∃ t, d.Dates .createdDate t ∧ 0 ≤ t.seconds := by
  have hs : (after { link := link } run).store.Numbered ∧
      (after { link := link } run).store.WellFormed ∧
      (after { link := link } run).store.CreatedFrom1970 :=
    store_after (P := fun s => s.Numbered ∧ s.WellFormed ∧ s.CreatedFrom1970)
      (fun _ _ _ he h hs =>
        ⟨(h.effect hs.1).numbered hs.1, (h.effect hs.1).wellFormed hs.2.1,
          h.createdFrom1970 hs.1 he hs.2.2⟩)
      hclock ⟨Store.numbered_empty, ⟨by simp, by simp⟩, fun _ hd => absurd hd List.not_mem_nil⟩
  have hformed := hs.2.1.devices d hd
  have hcreated := hs.2.2 d hd
  refine ⟨fun c hc => ?_, hcreated⟩
  have hmem : c = .manufacturingDate ∨ c = .recordDate ∨ c = .createdDate := by
    simpa [timeColumns] using hc
  rcases hmem with rfl | rfl | rfl
  · exact Device.dates_of_isStoredDate (hformed.columns .manufacturingDate)
  · exact Device.dates_of_isStoredDate (hformed.columns .recordDate)
  · obtain ⟨t, ht, -⟩ := hcreated
    exact ⟨t, ht⟩

end DeviceRegistry
