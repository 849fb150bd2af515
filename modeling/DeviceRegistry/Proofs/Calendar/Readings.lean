import DeviceRegistry.Proofs.Calendar.Weeks

/-!
# Reading a stored time

A stored time is read as six numbers (`Reading.ofText?`), and what they denote is counted year by
year and month by month from the lengths of the calendar (`Date.elapsedDays`), apart from the
formulas that write it. A number of milliseconds has a text exactly in the years 1 to 9999, and the
text denotes the second that the milliseconds lie in (`ofText?_storedText`).
-/

namespace DeviceRegistry.Calendar

open Text

/-! ## Counting days -/

/-- The days from the first of January of the year 1, by the lengths of the years and months that
are over. -/
def Date.elapsedDays (d : Date) : Nat :=
  ((List.range' 1 (d.year - 1)).map daysInYear).sum +
    ((monthLengths d.year).take (d.month - 1)).sum + (d.day - 1)

theorem sum_daysInYear (years : Nat) :
    ((List.range' 1 years).map daysInYear).sum = daysBeforeYear (years + 1) := by
  induction years with
  | zero => rfl
  | succ years ih =>
    rw [List.range'_1_concat, List.map_append, List.sum_append, ih, Nat.add_comm 1 years,
      daysBeforeYear_succ (show 1 ≤ years + 1 from Nat.le_add_left 1 years)]
    simp

/-- The day count is the sum of the lengths of what is over. -/
theorem Date.InCalendar.elapsedDays_eq {d : Date} (h : d.InCalendar) :
    d.elapsedDays = d.ordinal := by
  have hyear := h.year
  have hday := h.day
  have hsum := sum_daysInYear (d.year - 1)
  rw [Nat.sub_add_cancel hyear] at hsum
  rw [elapsedDays, ordinal, hsum, dayOfYear_eq]
  omega

/-! ## Readings -/

/-- A point in time as it is written: a date, and a time of day in hours, minutes and seconds. -/
structure Reading where
  date : Date
  hour : Nat
  minute : Nat
  second : Nat
  deriving DecidableEq, Repr

namespace Reading

/-- The numbers that stand between separators, each of them in ASCII digits. -/
def numbers? (sep : Char) (s : String) : Option (List Nat) :=
  (split sep s).mapM fun part => if isNumeric part then some (numeral part.toList) else none

/-- Reads a date and a time of day with a space between: three numbers between dashes, and three
between colons. -/
def ofText? (s : String) : Option Reading :=
  match split ' ' s with
  | [date, time] =>
    match numbers? '-' date, numbers? ':' time with
    | some [year, month, day], some [hour, minute, second] =>
      some { date := ⟨year, month, day⟩, hour := hour, minute := minute, second := second }
    | _, _ => none
  | _ => none

/-- A date of the calendar and a time that a clock shows. -/
structure Valid (r : Reading) : Prop where
  date : r.date.InCalendar
  hour : r.hour < 24
  minute : r.minute < 60
  second : r.second < 60

/-- The seconds from the first of January 1970, in universal time. -/
def seconds (r : Reading) : Int :=
  ((r.date.elapsedDays : Int) - (Date.mk 1970 1 1).elapsedDays) * 86400 +
    (3600 * r.hour + 60 * r.minute + r.second : Nat)

/-- The first second of a year. -/
def firstOf (year : Nat) : Reading :=
  { date := ⟨year, 1, 1⟩, hour := 0, minute := 0, second := 0 }

/-- The last second of a year. -/
def lastOf (year : Nat) : Reading :=
  { date := ⟨year, 12, 31⟩, hour := 23, minute := 59, second := 59 }

end Reading

theorem Reading.numbers?_three {sep : Char} (hsep : sep.isDigit = false) {as bs cs : List Char}
    (ha : as ≠ [] ∧ Digits as) (hb : bs ≠ [] ∧ Digits bs) (hc : cs ≠ [] ∧ Digits cs) :
    numbers? sep (String.ofList (as ++ sep :: (bs ++ sep :: cs))) =
      some [numeral as, numeral bs, numeral cs] := by
  have hnumeric : ∀ {row : List Char}, row ≠ [] ∧ Digits row →
      isNumeric (String.ofList row) = true := fun h => by
    rw [isNumeric_iff, String.toList_ofList]
    exact h
  unfold numbers? split
  rw [String.toList_ofList, pieces_append (not_mem_of_digits ha.2 hsep),
    pieces_append (not_mem_of_digits hb.2 hsep), pieces_of_not_mem (not_mem_of_digits hc.2 hsep)]
  simp [hnumeric ha, hnumeric hb, hnumeric hc]

namespace Stamp

variable {t : Stamp}

/-- A timestamp by its hours, minutes and seconds. -/
def reading (t : Stamp) : Reading :=
  { date := t.date, hour := t.second / 3600, minute := t.second / 60 % 60, second := t.second % 60 }

theorem valid_reading (h : t.Exists) : t.reading.Valid := by
  obtain ⟨-, -, hsecond⟩ := h.bounds
  refine ⟨(Date.exists_iff.mp h.date).1, ?_, ?_, ?_⟩ <;> dsimp only [reading] <;> omega

theorem seconds_reading (h : t.Exists) : t.reading.seconds = t.seconds := by
  have hepoch : (Date.mk 1970 1 1).InCalendar := ⟨by decide, by decide, by decide⟩
  have hzero : (Date.mk 1970 1 1).dayNumber = 0 := by decide
  rw [Date.dayNumber_eq_ordinal] at hzero
  unfold Reading.seconds seconds
  dsimp only [reading, secondsPerDay]
  rw [(Date.exists_iff.mp h.date).1.elapsedDays_eq, hepoch.elapsedDays_eq,
    Date.dayNumber_eq_ordinal]
  omega

theorem ofText?_text (h : t.Exists) : Reading.ofText? t.text = some t.reading := by
  obtain ⟨hmonth, hday, hsecond⟩ := h.bounds
  have hrow : ∀ n, decimals 2 n ≠ [] ∧ Digits (decimals 2 n) := fun n =>
    ⟨decimals_ne_nil 1 n, digits_decimals 2 n⟩
  have hyear : Nat.toDigits 10 t.date.year ≠ [] ∧ Digits (Nat.toDigits 10 t.date.year) :=
    ⟨Nat.toDigits_ne_nil, digits_toDigits _⟩
  -- The date is the piece before the space, since digits and dashes are no spaces.
  have hsplit : split ' ' t.text =
      [String.ofList (Nat.toDigits 10 t.date.year ++ '-' ::
        (decimals 2 t.date.month ++ '-' :: decimals 2 t.date.day)),
      String.ofList (decimals 2 (t.second / 3600) ++ ':' ::
        (decimals 2 (t.second / 60 % 60) ++ ':' :: decimals 2 (t.second % 60)))] := by
    have hspace : ' ' ∉ Nat.toDigits 10 t.date.year ++ '-' ::
        (decimals 2 t.date.month ++ '-' :: decimals 2 t.date.day) := by
      simp [not_mem_of_digits hyear.2, not_mem_of_digits (hrow _).2]
    have hspace' : ' ' ∉ decimals 2 (t.second / 3600) ++ ':' ::
        (decimals 2 (t.second / 60 % 60) ++ ':' :: decimals 2 (t.second % 60)) := by
      simp [not_mem_of_digits (hrow _).2]
    have hpieces := pieces_append hspace (decimals 2 (t.second / 3600) ++ ':' ::
      (decimals 2 (t.second / 60 % 60) ++ ':' :: decimals 2 (t.second % 60)))
    rw [pieces_of_not_mem hspace'] at hpieces
    simp only [List.append_assoc, List.cons_append] at hpieces
    rw [split, toList_text h, afterYear, hpieces]
    rfl
  unfold Reading.ofText?
  rw [hsplit]
  simp only [Reading.numbers?_three (show '-'.isDigit = false by decide) hyear (hrow _) (hrow _),
    Reading.numbers?_three (show ':'.isDigit = false by decide) (hrow _) (hrow _) (hrow _)]
  rw [numeral_toDigits, numeral_decimals hmonth, numeral_decimals hday,
    numeral_decimals (by omega), numeral_decimals (by omega), numeral_decimals (by omega)]
  rfl

theorem seconds_inj {t t' : Stamp} (h : t.Exists) (h' : t'.Exists) (heq : t.seconds = t'.seconds) :
    t = t' := by
  have hfound := ofSeconds?_eq_some.mpr ⟨h, heq⟩
  rw [ofSeconds?_eq_some.mpr ⟨h', rfl⟩] at hfound
  exact (Option.some.inj hfound).symm

/-! ## The range of times -/

theorem seconds_firstOf {year : Nat} (hlow : 1 ≤ year) (hhigh : year ≤ 9999) :
    (Reading.firstOf year).seconds = (newYear year).seconds := by
  rw [← seconds_reading (exists_newYear hlow hhigh)]
  congr 1
  simp [reading, newYear, Date.midnight, Reading.firstOf]

/-- The last second of the year 9999. -/
def last : Stamp :=
  { date := ⟨9999, 12, 31⟩, second := 86399 }

theorem exists_last : last.Exists :=
  ⟨by decide, by decide⟩

theorem seconds_lastOf : (Reading.lastOf 9999).seconds = last.seconds := by
  rw [← seconds_reading exists_last]
  congr 1

theorem seconds_le_last (h : t.Exists) : t.seconds ≤ last.seconds := by
  have hcalendar := (Date.exists_iff.mp h.date).1
  obtain ⟨-, hyear, -⟩ := h.date
  have hmonth := hcalendar.month_le
  have hday := hcalendar.day_le
  have hsecond : t.second < 86400 := h.second
  rw [← not_lt, seconds_lt_iff exists_last h]
  rcases t with ⟨⟨y, m, n⟩, s⟩
  simp only [Before, Date.Before, last, Date.mk.injEq] at hyear hmonth hday hsecond ⊢
  omega

/-- The seconds of the years 1 to 9999 are those that a timestamp has. -/
theorem exists_seconds_iff {n : Int} :
    (∃ t : Stamp, t.Exists ∧ t.seconds = n) ↔
      (Reading.firstOf 1).seconds ≤ n ∧ n ≤ (Reading.lastOf 9999).seconds := by
  rw [seconds_firstOf (by decide) (by decide), seconds_lastOf]
  constructor
  · rintro ⟨t, ht, rfl⟩
    refine ⟨?_, seconds_le_last ht⟩
    rw [← not_lt, seconds_lt_newYear_iff ht (by decide) (by decide)]
    exact not_lt.mpr (Date.exists_iff.mp ht.date).1.year
  · rintro ⟨hlow, hhigh⟩
    have hfirst : (newYear 1).seconds = -62135596800 := by decide
    have hlast : last.seconds = 2932896 * 86400 + 86399 := by decide
    obtain ⟨hcalendar, hnumber⟩ := Date.ofDaysSinceStart_spec (n / 86400 + epochOffset).toNat
    generalize Date.ofDaysSinceStart (n / 86400 + epochOffset).toNat = d at hcalendar hnumber
    rw [hfirst] at hlow
    rw [hlast] at hhigh
    simp only [epochOffset] at hnumber
    have hday : d.dayNumber = n / 86400 := by omega
    -- A later year would begin after the last day.
    have hyear : d.year ≤ 9999 := by
      by_contra hlater
      have hafter : last.date.Before d := .inl (show 9999 < d.year by omega)
      have hlt := hafter.dayNumber_lt (Date.exists_iff.mp exists_last.date).1 hcalendar
      have hnine : last.date.dayNumber = 2932896 := by decide
      omega
    refine ⟨{ date := d, second := (n % 86400).toNat },
      ⟨Date.exists_iff.mpr ⟨hcalendar, hyear⟩, ?_⟩, ?_⟩
    · show (n % 86400).toNat < 86400
      omega
    · show d.dayNumber * 86400 + ((n % 86400).toNat : Int) = n
      omega

end Stamp

/-! ## The text of a number of milliseconds -/

/-- The stored form of a number of milliseconds since 1970. -/
def storedText (millis : Int) : Except StampFault String :=
  (Stamp.ofMillis millis).map Stamp.text

variable {m n : Int} {s u : String}

theorem storedText_eq_ok :
    storedText m = .ok s ↔ ∃ t : Stamp, t.Exists ∧ t.seconds = m / 1000 ∧ t.text = s := by
  constructor
  · intro h
    unfold storedText at h
    cases hm : Stamp.ofMillis m with
    | error fault =>
      rw [hm] at h
      cases h
    | ok t =>
      rw [hm] at h
      obtain ⟨ht, hseconds⟩ := Stamp.ofMillis_eq_ok.mp hm
      exact ⟨t, ht, hseconds, Except.ok.inj h⟩
  · rintro ⟨t, ht, hseconds, rfl⟩
    rw [storedText, Stamp.ofMillis_eq_ok.mpr ⟨ht, hseconds⟩]
    rfl

/-- A number of milliseconds has a text in the years 1 to 9999 and in no others. -/
theorem exists_storedText_iff :
    (∃ s, storedText m = .ok s) ↔
      (Reading.firstOf 1).seconds ≤ m / 1000 ∧ m / 1000 ≤ (Reading.lastOf 9999).seconds := by
  rw [← Stamp.exists_seconds_iff]
  constructor
  · rintro ⟨s, hs⟩
    obtain ⟨t, ht, hseconds, -⟩ := storedText_eq_ok.mp hs
    exact ⟨t, ht, hseconds⟩
  · rintro ⟨t, ht, hseconds⟩
    exact ⟨t.text, storedText_eq_ok.mpr ⟨t, ht, hseconds, rfl⟩⟩

theorem ofText?_storedText (h : storedText m = .ok s) :
    ∃ r, Reading.ofText? s = some r ∧ r.Valid ∧ r.seconds = m / 1000 := by
  obtain ⟨t, ht, hseconds, rfl⟩ := storedText_eq_ok.mp h
  exact ⟨t.reading, Stamp.ofText?_text ht, Stamp.valid_reading ht,
    (Stamp.seconds_reading ht).trans hseconds⟩

/-- Times of one second have one text, and no others do. -/
theorem storedText_inj (hm : storedText m = .ok s) (hn : storedText n = .ok u) :
    s = u ↔ m / 1000 = n / 1000 := by
  obtain ⟨t, ht, hseconds, rfl⟩ := storedText_eq_ok.mp hm
  obtain ⟨t', ht', hseconds', rfl⟩ := storedText_eq_ok.mp hn
  rw [← hseconds, ← hseconds']
  exact ⟨fun h => Stamp.text_inj ht ht' h ▸ rfl, fun h => Stamp.seconds_inj ht ht' h ▸ rfl⟩

/-- From the year 1000 on the texts are in the order of time. -/
theorem storedText_lt_iff (hm : storedText m = .ok s) (hn : storedText n = .ok u)
    (hm' : (Reading.firstOf 1000).seconds ≤ m / 1000)
    (hn' : (Reading.firstOf 1000).seconds ≤ n / 1000) : s < u ↔ m / 1000 < n / 1000 := by
  obtain ⟨t, ht, hseconds, rfl⟩ := storedText_eq_ok.mp hm
  obtain ⟨t', ht', hseconds', rfl⟩ := storedText_eq_ok.mp hn
  rw [Stamp.seconds_firstOf (by decide) (by decide), ← not_lt] at hm' hn'
  rw [← hseconds, Stamp.seconds_lt_newYear_iff ht (by decide) (by decide), not_lt] at hm'
  rw [← hseconds', Stamp.seconds_lt_newYear_iff ht' (by decide) (by decide), not_lt] at hn'
  rw [Stamp.text_lt_iff ht ht' hm' hn', hseconds, hseconds']

end DeviceRegistry.Calendar
