import DeviceRegistry.Device.StoredDate
import DeviceRegistry.Proofs.Calendar.Readings

/-!
# The grammar of factory dates

A factory date is a row of ten code points (`Writes`), and what is no such row is refused
(`RawProfile.storedRawDate_agrees`). The bounds of a range filter are written from numbers of
milliseconds, by other steps than those that store a factory date; both lead to the same text.
-/

namespace DeviceRegistry.Calendar

open Text

/-! ## The grammar -/

/-- The code point of the slash between two numbers. -/
def slash : Nat := 0x2F

/-- How a date is written in factory form: four digits of any scripts, a slash, two ASCII digits, a
slash, an ASCII digit, and a last digit that may be of any script in a day from 10 to 29. -/
inductive Writes : List Nat → Date → Prop
  | digits {y₁ y₂ y₃ y₄ d₂ : Nat} {a b c d m n s t : Nat}
      (thousands : IsDigit y₁ a) (hundreds : IsDigit y₂ b) (tens : IsDigit y₃ c)
      (units : IsDigit y₄ d) (month : m ≤ 9 ∧ n ≤ 9) (day : s ≤ 9)
      (last : t ≤ 9 ∧ d₂ = 0x30 + t ∨ (s = 1 ∨ s = 2) ∧ IsDigit d₂ t) :
      Writes [y₁, y₂, y₃, y₄, slash, 0x30 + m, 0x30 + n, slash, 0x30 + s, d₂]
        ⟨1000 * a + 100 * b + 10 * c + d, 10 * m + n, 10 * s + t⟩

theorem year?_eq_some {a b c d : Char} {year : Nat} :
    year? a b c d = some year ↔ ∃ v w x y, IsDigit a.toNat v ∧ IsDigit b.toNat w ∧
      IsDigit c.toNat x ∧ IsDigit d.toNat y ∧ year = 1000 * v + 100 * w + 10 * x + y := by
  simp only [year?, bind, pure, Option.bind_eq_some_iff, digitValue?_eq_some, Option.some_inj]
  constructor
  · rintro ⟨v, hv, w, hw, x, hx, y, hy, rfl⟩
    exact ⟨v, w, x, y, hv, hw, hx, hy, rfl⟩
  · rintro ⟨v, w, x, y, hv, hw, hx, hy, rfl⟩
    exact ⟨v, hv, w, hw, x, hx, y, hy, rfl⟩

theorem month?_eq_some {tens units : Char} {month : Nat} :
    month? tens units = some month ↔ ∃ t u, t ≤ 9 ∧ tens.toNat = 0x30 + t ∧ u ≤ 9 ∧
      units.toNat = 0x30 + u ∧ month = 10 * t + u ∧ 1 ≤ month ∧ month ≤ 12 := by
  constructor
  · intro h
    unfold month? at h
    split at h
    · next u ht hu =>
      rw [asciiDigit?_eq_some] at ht hu
      rw [Option.ite_none_right_eq_some, Option.some_inj] at h
      exact ⟨0, u, ht.1, ht.2, hu.1, hu.2, by omega⟩
    · next u ht hu =>
      rw [asciiDigit?_eq_some] at ht hu
      rw [Option.ite_none_right_eq_some, Option.some_inj] at h
      exact ⟨1, u, ht.1, ht.2, hu.1, hu.2, by omega⟩
    · cases h
  · rintro ⟨t, u, ht, htens, hu, hunits, rfl, hlow, hhigh⟩
    have ht' := asciiDigit?_eq_some.mpr ⟨ht, htens⟩
    have hu' := asciiDigit?_eq_some.mpr ⟨hu, hunits⟩
    obtain rfl | rfl : t = 0 ∨ t = 1 := by omega
    · simp [month?, ht', hu', show 1 ≤ u by omega]
    · simp [month?, ht', hu', show u ≤ 2 by omega]

theorem dayOfMonth?_eq_some {tens units : Char} {day : Nat} :
    dayOfMonth? tens units = some day ↔ ∃ t u, t ≤ 9 ∧ tens.toNat = 0x30 + t ∧
      (u ≤ 9 ∧ units.toNat = 0x30 + u ∨ (t = 1 ∨ t = 2) ∧ IsDigit units.toNat u) ∧
      day = 10 * t + u ∧ 1 ≤ day ∧ day ≤ 31 := by
  constructor
  · intro h
    unfold dayOfMonth? at h
    split at h
    case h_1 ht =>
      simp only [Option.bind_eq_some_iff, Option.ite_none_right_eq_some, Option.some_inj,
        asciiDigit?_eq_some] at h ht
      obtain ⟨u, hu, hlow, rfl⟩ := h
      exact ⟨0, u, ht.1, ht.2, .inl hu, by omega⟩
    case h_2 ht =>
      simp only [Option.map_eq_some_iff, digitValue?_eq_some, asciiDigit?_eq_some] at h ht
      obtain ⟨u, hu, rfl⟩ := h
      have hnine := hu.1
      exact ⟨1, u, ht.1, ht.2, .inr ⟨.inl rfl, hu⟩, by omega⟩
    case h_3 ht =>
      simp only [Option.map_eq_some_iff, digitValue?_eq_some, asciiDigit?_eq_some] at h ht
      obtain ⟨u, hu, rfl⟩ := h
      have hnine := hu.1
      exact ⟨2, u, ht.1, ht.2, .inr ⟨.inr rfl, hu⟩, by omega⟩
    case h_4 ht =>
      simp only [Option.bind_eq_some_iff, Option.ite_none_right_eq_some, Option.some_inj,
        asciiDigit?_eq_some] at h ht
      obtain ⟨u, hu, hhigh, rfl⟩ := h
      exact ⟨3, u, ht.1, ht.2, .inl hu, by omega⟩
    case h_5 => cases h
  · rintro ⟨t, u, ht, htens, hu, rfl, hlow, hhigh⟩
    have ht' := asciiDigit?_eq_some.mpr ⟨ht, htens⟩
    have hdigit : IsDigit units.toNat u := hu.elim (fun h => h.2 ▸ isDigit_ascii h.1) (·.2)
    obtain rfl | rfl | rfl | rfl : t = 0 ∨ t = 1 ∨ t = 2 ∨ t = 3 := by omega
    · have hu' := asciiDigit?_eq_some.mpr (hu.resolve_right (by omega))
      simp [dayOfMonth?, ht', hu', show 1 ≤ u by omega]
    · simp [dayOfMonth?, ht', digitValue?_eq_some.mpr hdigit]
    · simp [dayOfMonth?, ht', digitValue?_eq_some.mpr hdigit]
    · have hu' := asciiDigit?_eq_some.mpr (hu.resolve_right (by omega))
      simp [dayOfMonth?, ht', hu', show u ≤ 1 by omega]

/-- A text denotes a date exactly if it writes the date in factory form and the date exists. -/
theorem Date.ofFactoryText?_eq_some {s : String} {d : Date} :
    Date.ofFactoryText? s = some d ↔ Writes (s.toList.map Char.toNat) d ∧ d.Exists := by
  unfold Date.ofFactoryText?
  constructor
  · intro h
    split at h
    · next y₁ y₂ y₃ y₄ m₁ m₂ d₁ d₂ hs =>
      simp only [bind, Option.bind_eq_some_iff, Option.ite_none_right_eq_some, Option.some_inj,
        year?_eq_some, month?_eq_some, dayOfMonth?_eq_some] at h
      obtain ⟨y, ⟨a, b, c, d, ha, hb, hc, hd, rfl⟩, m, ⟨m, n, hm, hm₁, hn, hm₂, rfl, -, -⟩,
        _, ⟨s, t, hs', hd₁, ht, rfl, -, -⟩, hexists, rfl⟩ := h
      rw [hs]
      refine ⟨?_, hexists⟩
      simp only [List.map_cons, List.map_nil, hm₁, hm₂, hd₁]
      exact .digits ha hb hc hd ⟨hm, hn⟩ hs' ht
    · cases h
  · rintro ⟨h, hexists⟩
    have hmonth := (Date.exists_iff.mp hexists).1.one_le_month
    have hmonth' := (Date.exists_iff.mp hexists).1.month_le
    have hday := (Date.exists_iff.mp hexists).1.day
    have hday' := (Date.exists_iff.mp hexists).1.day_le
    generalize hcodes : s.toList.map Char.toNat = codes at h
    cases h with
    | digits hthousands hhundreds htens hunits hm hs hlast =>
      simp only [List.map_eq_cons_iff, List.map_eq_nil_iff] at hcodes
      obtain ⟨y₁, _, hlist, rfl, y₂, _, rfl, rfl, y₃, _, rfl, rfl, y₄, _, rfl, rfl, c, _, rfl, hc,
        m₁, _, rfl, hm₁, m₂, _, rfl, hm₂, c', _, rfl, hc', d₁, _, rfl, hd₁, d₂, _, rfl, rfl,
        rfl⟩ := hcodes
      obtain rfl : c = '/' := Char.toNat_inj.mp hc
      obtain rfl : c' = '/' := Char.toNat_inj.mp hc'
      have hyear := year?_eq_some.mpr ⟨_, _, _, _, hthousands, hhundreds, htens, hunits, rfl⟩
      have hmonths := month?_eq_some.mpr ⟨_, _, hm.1, hm₁, hm.2, hm₂, rfl, hmonth, hmonth'⟩
      have hdays := dayOfMonth?_eq_some.mpr ⟨_, _, hs, hd₁, hlast, rfl, hday, hday'⟩
      rw [hlist]
      simp only [hyear, hmonths, hdays, bind, Option.bind_some, if_pos hexists]

/-! ## Broken texts -/

/-- A slash or a digit. -/
def IsSign (code : Nat) : Prop :=
  code = slash ∨ ∃ value, IsDigit code value

theorem Writes.isSign {codes : List Nat} {d : Date} (h : Writes codes d) :
    ∀ code ∈ codes, IsSign code := by
  cases h with
  | digits hthousands hhundreds htens hunits hm hs hlast =>
    have hunits' := hlast.elim (fun h => h.2 ▸ isDigit_ascii h.1) (·.2)
    simp only [List.forall_mem_cons]
    exact ⟨.inr ⟨_, hthousands⟩, .inr ⟨_, hhundreds⟩, .inr ⟨_, htens⟩, .inr ⟨_, hunits⟩, .inl rfl,
      .inr ⟨_, isDigit_ascii hm.1⟩, .inr ⟨_, isDigit_ascii hm.2⟩, .inl rfl,
      .inr ⟨_, isDigit_ascii hs⟩, .inr ⟨_, hunits'⟩, by simp⟩

/-- The code point that stands for a code point of a broken text where the text is shown. -/
def shownCode (code : Nat) : Nat :=
  (if RawText.isHalf code then '\uFFFD' else Char.ofNat code).toNat

theorem shownCode_cases (code : Nat) :
    shownCode code = 0xFFFD ∨ shownCode code = 0 ∨ shownCode code = code := by
  by_cases hhalf : RawText.isHalf code = true
  · rw [shownCode, if_pos hhalf]
    exact .inl rfl
  · rw [shownCode, if_neg hhalf, Char.ofNat]
    by_cases hvalid : code.isValidChar
    · rw [dif_pos hvalid]
      exact .inr (.inr rfl)
    · rw [dif_neg hvalid]
      exact .inr (.inl rfl)

/-- The signs lie apart from the halves of pairs and from what is shown for them. -/
theorem IsSign.bounds {code : Nat} (h : IsSign code) :
    0 < code ∧ code ≠ 0xFFFD ∧ (code < 0xD800 ∨ 0xE000 ≤ code ∧ code < 0x110000) := by
  have hzeros : ∀ start ∈ zeroDigits, 0 < start ∧ (start + 9 < 0xD800 ∨
      0xE000 ≤ start ∧ start + 9 < 0xFFFD ∨ 0xFFFD < start ∧ start + 9 < 0x110000) := by
    decide +kernel
  rcases h with rfl | ⟨value, hvalue, start, hstart, rfl⟩
  · decide
  · have hstart := hzeros start hstart
    omega

theorem IsSign.shownCode_eq {code : Nat} (h : IsSign code) : shownCode code = code := by
  obtain ⟨-, -, hbounds⟩ := h.bounds
  have hhalf : RawText.isHalf code = false := by
    simp only [RawText.isHalf, Bool.and_eq_false_iff, decide_eq_false_iff_not]
    omega
  have hvalid : code.isValidChar := by
    simp only [Nat.isValidChar]
    omega
  rw [shownCode, hhalf, if_neg Bool.false_ne_true, Char.ofNat, dif_pos hvalid]
  rfl

theorem IsSign.of_shownCode {code : Nat} (h : IsSign (shownCode code)) : shownCode code = code := by
  obtain ⟨hpos, hreplaced, -⟩ := h.bounds
  exact (shownCode_cases code).resolve_left hreplaced |>.resolve_left hpos.ne'

/-- A code point that is shown as another is no sign of a date, and neither is the other. -/
theorem writes_map_shownCode {codes : List Nat} {d : Date} :
    Writes (codes.map shownCode) d ↔ Writes codes d := by
  constructor
  · intro h
    have hsame : ∀ code ∈ codes, shownCode code = code := fun code hcode =>
      (h.isSign _ (List.mem_map_of_mem hcode)).of_shownCode
    rwa [List.map_congr_left hsame, List.map_id'] at h
  · intro h
    rwa [List.map_congr_left fun code hcode => (h.isSign code hcode).shownCode_eq, List.map_id']

theorem writes_shown {t : RawText} {d : Date} :
    Writes (t.shown.toList.map Char.toNat) d ↔ Writes t.codes d := by
  cases t with
  | whole s => rfl
  | broken codes =>
    rw [RawText.shown, String.toList_ofList, List.map_map]
    exact writes_map_shownCode

/-- A value that is given denotes a date: it writes the date, and the date exists. -/
def Denotes (value : Option RawText) (d : Date) : Prop :=
  ∃ t, value = some t ∧ Writes t.codes d ∧ d.Exists

theorem Denotes.date {value : Option RawText} {d : Date} (h : Denotes value d) : d.Exists := by
  obtain ⟨t, -, -, hexists⟩ := h
  exact hexists

theorem denotes_iff {value : Option RawText} {d : Date} :
    Denotes value d ↔ (value.map RawText.shown).bind Date.ofFactoryText? = some d := by
  cases value with
  | none => simp [Denotes]
  | some t =>
    rw [Option.map_some, Option.bind_some, Date.ofFactoryText?_eq_some, writes_shown]
    simp [Denotes]

/-- The midnight of a date is stored under the number of seconds that the calendar counts up to
it. -/
theorem storedText_midnight {d : Date} (h : d.Exists) :
    storedText (1000 * (Reading.mk d 0 0 0).seconds) = .ok d.midnight.text := by
  have hreal := Stamp.exists_midnight h
  have hreading : d.midnight.reading = ⟨d, 0, 0, 0⟩ := by simp [Stamp.reading, Date.midnight]
  rw [storedText_eq_ok]
  refine ⟨d.midnight, hreal, ?_, rfl⟩
  rw [← hreading, Stamp.seconds_reading hreal]
  omega

end DeviceRegistry.Calendar

namespace DeviceRegistry

open Calendar

namespace RawProfile

variable {value : Option RawText} {field : String} {d : Date}

theorem storedRawDate_of_denotes (h : Denotes value d) :
    storedRawDate value field = .ok (some (.whole d.midnight.text)) := by
  rw [storedRawDate, storedDate, denotes_iff.mp h]
  rfl

theorem storedRawDate_of_not_denotes (h : ¬∃ d, Denotes value d) :
    storedRawDate value field = .error (.invalidDate field) := by
  have hnone : (value.map RawText.shown).bind Date.ofFactoryText? = none := by
    rw [Option.eq_none_iff_forall_ne_some]
    exact fun d hd => h ⟨d, denotes_iff.mpr hd⟩
  rw [storedRawDate, storedDate, hnone]
  rfl

/-- The values that are taken for a date are those that write one, and any other is refused as no
date. A date is stored as its midnight is from a number of milliseconds, and two values are stored
alike exactly if they denote the same date. -/
theorem storedRawDate_agrees :
    (∀ (value : Option RawText) (field : String),
      (∃ stored, storedRawDate value field = .ok stored) ↔ ∃ d, Denotes value d) ∧
    (∀ (value : Option RawText) (field : String), (¬∃ d, Denotes value d) →
      storedRawDate value field = .error (.invalidDate field)) ∧
    (∀ (value : Option RawText) (field : String) (d : Date), Denotes value d →
      ∃ text, storedRawDate value field = .ok (some (.whole text)) ∧
        storedText (1000 * (Reading.mk d 0 0 0).seconds) = .ok text) ∧
    ∀ (value value' : Option RawText) (field field' : String) (d d' : Date),
      Denotes value d → Denotes value' d' →
      (storedRawDate value field = storedRawDate value' field' ↔ d = d') := by
  refine ⟨fun value field => ⟨fun ⟨stored, hstored⟩ => ?_, fun ⟨d, hd⟩ => ?_⟩,
    fun value field => storedRawDate_of_not_denotes, fun value field d hd => ?_,
    fun value value' field field' d d' hd hd' => ?_⟩
  · by_contra hnone
    rw [storedRawDate_of_not_denotes hnone] at hstored
    cases hstored
  · exact ⟨_, storedRawDate_of_denotes hd⟩
  · exact ⟨_, storedRawDate_of_denotes hd, storedText_midnight hd.date⟩
  · rw [storedRawDate_of_denotes hd, storedRawDate_of_denotes hd']
    constructor
    · intro h
      have htext : d.midnight.text = d'.midnight.text := by simpa using h
      have hsame := Stamp.text_inj (Stamp.exists_midnight hd.date) (Stamp.exists_midnight hd'.date)
        htext
      exact congrArg Stamp.date hsame
    · rintro rfl
      rfl

/-- A leap day, with its year and the end of its day in the digits of another script as well. A line
break at the end is not overlooked. -/
theorem storedRawDate_agrees_leap_day :
    Denotes (some (.whole "2020/02/29")) ⟨2020, 2, 29⟩ ∧
      Denotes (some (.whole "٢٠٢٠/02/2٩")) ⟨2020, 2, 29⟩ ∧
      storedRawDate (some (.whole "2020/02/29")) recordField =
        storedRawDate (some (.whole "٢٠٢٠/02/2٩")) manufacturingField ∧
      (∃ text, storedRawDate (some (.whole "2020/02/29")) recordField = .ok (some (.whole text)) ∧
        storedText 1582934400000 = .ok text) ∧
      storedRawDate (some (.whole "2020/02/29\n")) recordField =
        .error (.invalidDate recordField) := by
  obtain ⟨-, hrefused, hmidnight, hsame⟩ := storedRawDate_agrees
  have hday : Denotes (some (.whole "2020/02/29")) ⟨2020, 2, 29⟩ :=
    denotes_iff.mpr (by decide +kernel)
  have hday' : Denotes (some (.whole "٢٠٢٠/02/2٩")) ⟨2020, 2, 29⟩ :=
    denotes_iff.mpr (by decide +kernel)
  have hseconds : 1000 * (Reading.mk ⟨2020, 2, 29⟩ 0 0 0).seconds = 1582934400000 := by
    decide +kernel
  refine ⟨hday, hday', (hsame _ _ _ _ _ _ hday hday').mpr rfl, ?_, hrefused _ _ ?_⟩
  · rw [← hseconds]
    exact hmidnight _ _ _ hday
  · have hnone : ((some (RawText.whole "2020/02/29\n")).map RawText.shown).bind
        Date.ofFactoryText? = none := by decide +kernel
    rintro ⟨d, hd⟩
    rw [denotes_iff, hnone] at hd
    cases hd

end RawProfile

end DeviceRegistry
