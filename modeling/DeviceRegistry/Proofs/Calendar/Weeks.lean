import DeviceRegistry.Calendar.Week
import DeviceRegistry.Proofs.Calendar.Texts

/-!
# Weeks and their numbers

A week has one Thursday, and it belongs to the year of that day. Its number says which Thursday of
the year it is (`Date.week_eq`), so the year and the number of a week name one week
(`Date.sameWeek_iff`). A production week shows the number of the week, but the year of the date. The
two years differ on at most three days at each end of a year (`Date.Strays.near`).
-/

namespace DeviceRegistry.Calendar

open Text

namespace Date

variable {a b d : Date}

/-- The number of days from the first of January of the year 1. -/
def ordinal (d : Date) : Nat :=
  daysBeforeYear d.year + (d.dayOfYear - 1)

theorem dayNumber_eq_ordinal (d : Date) : d.dayNumber = (d.ordinal : Int) - epochOffset := rfl

theorem weekday_eq (d : Date) : d.weekday = d.ordinal % 7 + 1 := by
  unfold weekday
  rw [dayNumber_eq_ordinal]
  simp only [epochOffset]
  omega

/-- Two dates lie in one week: the Sundays before them are the same day. -/
def SameWeek (a b : Date) : Prop :=
  a.dayNumber - a.weekday = b.dayNumber - b.weekday

instance (a b : Date) : Decidable (a.SameWeek b) :=
  inferInstanceAs (Decidable (_ = _))

/-- The Thursday of the week that holds a date. -/
def midweek (d : Date) : Date :=
  ofDaysSinceStart (d.ordinal / 7 * 7 + 3)

/-- The year that the week of a date belongs to. -/
def weekYear (d : Date) : Nat :=
  d.midweek.year

theorem inCalendar_midweek (d : Date) : d.midweek.InCalendar :=
  (ofDaysSinceStart_spec _).1

theorem ordinal_midweek (d : Date) : d.midweek.ordinal = d.ordinal / 7 * 7 + 3 := by
  have hnumber := (ofDaysSinceStart_spec (d.ordinal / 7 * 7 + 3)).2
  rw [dayNumber_eq_ordinal] at hnumber
  show (ofDaysSinceStart (d.ordinal / 7 * 7 + 3)).ordinal = _
  omega

theorem ordinal_inj (ha : a.InCalendar) (hb : b.InCalendar) (h : a.ordinal = b.ordinal) : a = b :=
  dayNumber_inj ha hb (by rw [dayNumber_eq_ordinal, dayNumber_eq_ordinal, h])

theorem ordinal_le_iff (ha : a.InCalendar) (hb : b.InCalendar) :
    a.ordinal ≤ b.ordinal ↔ ¬b.Before a := by
  rw [← dayNumber_lt_iff hb ha, dayNumber_eq_ordinal, dayNumber_eq_ordinal]
  omega

/-- Dates lie in one week if they share its Thursday. -/
theorem sameWeek_iff_midweek : a.SameWeek b ↔ a.midweek = b.midweek := by
  have hsunday : a.SameWeek b ↔ a.ordinal / 7 = b.ordinal / 7 := by
    unfold SameWeek
    rw [dayNumber_eq_ordinal, dayNumber_eq_ordinal, weekday_eq, weekday_eq]
    omega
  rw [hsunday]
  constructor
  · intro h
    rw [midweek, midweek, h]
  · intro h
    have hordinal := congrArg ordinal h
    rw [ordinal_midweek, ordinal_midweek] at hordinal
    omega

/-! ## The year of a day -/

theorem InCalendar.one_le_dayOfYear (h : d.InCalendar) : 1 ≤ d.dayOfYear := by
  rw [dayOfYear_eq]
  have := h.day
  omega

theorem InCalendar.ordinal_bounds (h : d.InCalendar) :
    daysBeforeYear d.year ≤ d.ordinal ∧
      d.ordinal < daysBeforeYear d.year + daysInYear d.year := by
  have hlow := h.one_le_dayOfYear
  have hhigh := h.dayOfYear_le
  unfold ordinal
  omega

theorem InCalendar.year_eq (h : d.InCalendar) {year : Nat} (hyear : 1 ≤ year)
    (hlow : daysBeforeYear year ≤ d.ordinal)
    (hhigh : d.ordinal < daysBeforeYear year + daysInYear year) : d.year = year := by
  obtain ⟨hlow', hhigh'⟩ := h.ordinal_bounds
  rcases Nat.lt_trichotomy d.year year with hlt | heq | hgt
  · have hover := daysBeforeYear_le h.year hlt
    omega
  · exact heq
  · have hover := daysBeforeYear_le hyear hgt
    omega

theorem InCalendar.year_le (ha : a.InCalendar) (hb : b.InCalendar) (h : a.ordinal ≤ b.ordinal) :
    a.year ≤ b.year := by
  by_contra hlt
  have hover := daysBeforeYear_le hb.year (Nat.lt_of_not_le hlt)
  have ha' := ha.ordinal_bounds
  have hb' := hb.ordinal_bounds
  omega

theorem daysInYear_eq (year : Nat) : daysInYear year = 365 ∨ daysInYear year = 366 := by
  unfold daysInYear
  split
  · exact .inr rfl
  · exact .inl rfl

theorem ordinal_newYear (year : Nat) : (Date.mk year 1 1).ordinal = daysBeforeYear year := rfl

/-- A year has 53 weeks if it begins on a Thursday, or on a Wednesday and is a leap year. -/
theorem weeksInYear_eq (year : Nat) :
    weeksInYear year = if daysBeforeYear year % 7 = 3 ∨
      (daysBeforeYear year % 7 = 2 ∧ daysInYear year = 366) then 53 else 52 := by
  have hleap : isLeap year = true ↔ daysInYear year = 366 := by
    unfold daysInYear
    split <;> simp_all
  unfold weeksInYear
  simp only [weekday_eq, ordinal_newYear, hleap]
  congr 1
  simp

/-! ## The number of a week -/

/-- The week of a date belongs to the year before if it begins before the year and the year begins
after its Thursday, to the year after in the same way, and else to the year of the date. -/
theorem InCalendar.weekYear_cases (h : d.InCalendar) :
    (1 < d.year ∧ d.weekYear = d.year - 1 ∧ d.midweek.ordinal < daysBeforeYear d.year) ∨
    (d.weekYear = d.year ∧ daysBeforeYear d.year ≤ d.midweek.ordinal ∧
      d.midweek.ordinal < daysBeforeYear d.year + daysInYear d.year) ∨
    (d.weekYear = d.year + 1 ∧
      daysBeforeYear d.year + daysInYear d.year ≤ d.midweek.ordinal) := by
  obtain ⟨hlow, hhigh⟩ := h.ordinal_bounds
  have hmid := d.ordinal_midweek
  have hcalendar := d.inCalendar_midweek
  unfold weekYear
  rcases Nat.lt_or_ge d.midweek.ordinal (daysBeforeYear d.year) with hbefore | hbefore
  · left
    have hfirst : 1 < d.year := by
      by_contra hyear
      have hone : d.year = 1 := by have := h.year; omega
      rw [hone, show daysBeforeYear 1 = 0 from rfl] at hbefore
      omega
    have hprevious := daysBeforeYear_succ (show 1 ≤ d.year - 1 by omega)
    rw [Nat.sub_add_cancel h.year] at hprevious
    have hlength := daysInYear_eq (d.year - 1)
    exact ⟨hfirst, hcalendar.year_eq (by omega) (by omega) (by omega), hbefore⟩
  · rcases Nat.lt_or_ge d.midweek.ordinal (daysBeforeYear d.year + daysInYear d.year) with
      hafter | hafter
    · exact .inr (.inl ⟨hcalendar.year_eq h.year hbefore hafter, hbefore, hafter⟩)
    · have hnext := daysBeforeYear_succ h.year
      have hlength := daysInYear_eq (d.year + 1)
      exact .inr (.inr ⟨hcalendar.year_eq (by omega) (by omega) (by omega), hafter⟩)

/-- The number of a week says which Thursday of the year its Thursday is. -/
theorem week_eq (h : d.InCalendar) :
    d.week = (d.midweek.ordinal - daysBeforeYear d.weekYear) / 7 + 1 := by
  obtain ⟨hlow, hhigh⟩ := h.ordinal_bounds
  have hmid := d.ordinal_midweek
  have hlength := daysInYear_eq d.year
  have hfirst : (d.dayOfYear + 10 - d.weekday) / 7 =
      (d.midweek.ordinal + 7 - daysBeforeYear d.year) / 7 := by
    have hpos := h.one_le_dayOfYear
    rw [weekday_eq]
    unfold ordinal at *
    omega
  unfold week
  dsimp only
  rw [hfirst, weeksInYear_eq d.year]
  rcases h.weekYear_cases with
    ⟨hyear, hbelongs, hbefore⟩ | ⟨hbelongs, hfrom, hto⟩ | ⟨hbelongs, hafter⟩
  · have hprevious := daysBeforeYear_succ (show 1 ≤ d.year - 1 by omega)
    rw [Nat.sub_add_cancel h.year] at hprevious
    have hlength' := daysInYear_eq (d.year - 1)
    rw [if_pos (by omega), hbelongs, weeksInYear_eq]
    split <;> omega
  · rw [if_neg (by omega), hbelongs]
    split <;> split <;> omega
  · have hnext := daysBeforeYear_succ h.year
    rw [if_neg (by omega), hbelongs]
    split <;> split <;> omega

theorem midweek_bounds (d : Date) :
    daysBeforeYear d.weekYear ≤ d.midweek.ordinal ∧
      d.midweek.ordinal < daysBeforeYear d.weekYear + daysInYear d.weekYear :=
  d.inCalendar_midweek.ordinal_bounds

theorem week_le (h : d.InCalendar) : d.week ≤ 53 := by
  have hbounds := d.midweek_bounds
  have hlength := daysInYear_eq d.weekYear
  rw [week_eq h]
  omega

/-- The year and the number of a week name one week. -/
theorem sameWeek_iff (ha : a.InCalendar) (hb : b.InCalendar) :
    a.SameWeek b ↔ a.weekYear = b.weekYear ∧ a.week = b.week := by
  rw [sameWeek_iff_midweek, week_eq ha, week_eq hb]
  constructor
  · intro h
    rw [weekYear, weekYear, h]
    exact ⟨rfl, rfl⟩
  · rintro ⟨hyear, hweek⟩
    -- Two Thursdays that are less than a week apart are one day.
    refine ordinal_inj a.inCalendar_midweek b.inCalendar_midweek ?_
    have hbounds := a.midweek_bounds
    have hbounds' := b.midweek_bounds
    have hmid := a.ordinal_midweek
    have hmid' := b.ordinal_midweek
    rw [hyear] at hweek hbounds
    omega

/-! ## The order of weeks -/

theorem midweek_le (h : a.ordinal ≤ b.ordinal) : a.midweek.ordinal ≤ b.midweek.ordinal := by
  rw [ordinal_midweek, ordinal_midweek]
  omega

theorem weekYear_le (h : a.ordinal ≤ b.ordinal) : a.weekYear ≤ b.weekYear :=
  a.inCalendar_midweek.year_le b.inCalendar_midweek (midweek_le h)

theorem week_le_week (ha : a.InCalendar) (hb : b.InCalendar) (h : a.ordinal ≤ b.ordinal)
    (hyear : a.weekYear = b.weekYear) : a.week ≤ b.week := by
  have hmid := midweek_le h
  rw [week_eq ha, week_eq hb, hyear]
  omega

/-! ## Production weeks -/

/-- A production week is the year of the date, and the number of its week in two digits. -/
theorem toList_productionWeek (h : d.InCalendar) :
    d.productionWeek.toList = Nat.toDigits 10 d.year ++ decimals 2 d.week := by
  have hweek := week_le h
  rw [productionWeek, String.toList_append, toList_toString, toList_twoDigits (by omega)]

theorem numeral_productionWeek (h : d.InCalendar) :
    numeral d.productionWeek.toList = 100 * d.year + d.week := by
  have hweek := week_le h
  rw [toList_productionWeek h, numeral_append_decimals, numeral_toDigits,
    Nat.mod_eq_of_lt (show d.week < 10 ^ 2 by omega)]
  rfl

/-- Production weeks show the same if the years of the dates and the numbers of their weeks do. -/
theorem productionWeek_inj (ha : a.InCalendar) (hb : b.InCalendar) :
    a.productionWeek = b.productionWeek ↔ a.year = b.year ∧ a.week = b.week := by
  have hweek := week_le ha
  have hweek' := week_le hb
  constructor
  · intro h
    have hnumber := numeral_productionWeek ha
    rw [h, numeral_productionWeek hb] at hnumber
    omega
  · rintro ⟨hyear, hnumber⟩
    rw [productionWeek, productionWeek, hyear, hnumber]

/-! ## Where the two years part -/

/-- The week of a date belongs to another year than the date. -/
def Strays (d : Date) : Prop :=
  d.weekYear ≠ d.year

/-- Only the first three and the last three days of a year can lie in a week of another one. -/
theorem Strays.near (h : d.Strays) (hd : d.InCalendar) :
    (d.month = 1 ∧ d.day ≤ 3) ∨ (d.month = 12 ∧ 29 ≤ d.day) := by
  have hmid := d.ordinal_midweek
  have hpos := hd.one_le_dayOfYear
  have hfirst := hd.one_le_month
  have hlast := hd.month_le
  have hday := dayOfYear_eq d
  have hyear := sum_monthLengths d.year
  have hordinal : d.ordinal = daysBeforeYear d.year + (d.dayOfYear - 1) := rfl
  rcases hd.weekYear_cases with ⟨-, -, hbefore⟩ | ⟨hsame, -⟩ | ⟨-, hafter⟩
  · left
    have hmonth : d.month = 1 := by
      by_contra hm
      have hjanuary := sum_take_add_le (monthLengths d.year) (i := 0) (j := d.month - 1) (by omega)
      have hlength : (monthLengths d.year).getD 0 0 = 31 := rfl
      omega
    rw [hmonth] at hday
    have hsum : ((monthLengths d.year).take (1 - 1)).sum = 0 := rfl
    exact ⟨hmonth, by omega⟩
  · exact absurd hsame h
  · right
    have hnovember := sum_take_add_le (monthLengths d.year) (i := 11) (j := 12) (by omega)
    have hlength : (monthLengths d.year).getD 11 0 = 31 := rfl
    rw [List.take_of_length_le (length_monthLengths _).le, hyear, hlength] at hnovember
    have hmonth : d.month = 12 := by
      by_contra hm
      have hearlier := sum_take_add_le (monthLengths d.year) (i := d.month - 1) (j := 11) (by omega)
      have hin := hd.day_le_getD
      omega
    rw [hmonth] at hday
    have hsum : ((monthLengths d.year).take (12 - 1)).sum = ((monthLengths d.year).take 11).sum :=
      rfl
    exact ⟨hmonth, by omega⟩

/-- The weeks of two dates have one number, and only the dates or only the weeks are of one year. -/
def Confused (a b : Date) : Prop :=
  a.week = b.week ∧ ¬(a.year = b.year ↔ a.weekYear = b.weekYear)

instance (a b : Date) : Decidable (a.Confused b) :=
  inferInstanceAs (Decidable (_ ∧ ¬(_ ↔ _)))

/-- Two dates are of one year, and the week of the first belongs to an earlier year than that of the
second but has the greater number. -/
def Overtakes (a b : Date) : Prop :=
  a.year = b.year ∧ a.weekYear < b.weekYear ∧ b.week < a.week

instance (a b : Date) : Decidable (a.Overtakes b) :=
  inferInstanceAs (Decidable (_ ∧ _ ∧ _))

theorem strays_of_confused (h : a.Confused b) : a.Strays ∨ b.Strays := by
  by_contra hneither
  rw [not_or, Strays, Strays, not_not, not_not] at hneither
  obtain ⟨ha, hb⟩ := hneither
  exact h.2 (by rw [ha, hb])

theorem strays_of_overtakes (h : a.Overtakes b) : a.Strays ∨ b.Strays := by
  obtain ⟨hyear, hlt, -⟩ := h
  unfold Strays
  omega

/-- Production weeks identify the weeks of two dates unless these are confused. -/
theorem productionWeek_identifies_iff (ha : a.InCalendar) (hb : b.InCalendar) :
    (a.productionWeek = b.productionWeek ↔ a.SameWeek b) ↔ ¬a.Confused b := by
  rw [productionWeek_inj ha hb, sameWeek_iff ha hb, Confused]
  tauto

/-- The production week of a date is not after that of a later one unless it overtakes it. -/
theorem productionWeek_le_iff (ha : a.InCalendar) (hb : b.InCalendar) (h : a.ordinal ≤ b.ordinal) :
    numeral a.productionWeek.toList ≤ numeral b.productionWeek.toList ↔ ¬a.Overtakes b := by
  have hyears := ha.year_le hb h
  have hweek := week_le ha
  rw [numeral_productionWeek ha, numeral_productionWeek hb, Overtakes]
  rcases (weekYear_le h).lt_or_eq with hlt | heq
  · omega
  · have hordered := week_le_week ha hb h heq
    omega

end Date

end DeviceRegistry.Calendar
