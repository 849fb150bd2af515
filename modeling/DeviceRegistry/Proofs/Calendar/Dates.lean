import DeviceRegistry.Calendar.Stamp
import Mathlib.Algebra.BigOperators.Group.List.Basic
import Mathlib.Algebra.GroupWithZero.Nat
import Mathlib.Algebra.Order.BigOperators.Group.List
import Mathlib.Algebra.Order.Group.Nat
import Mathlib.Data.List.GetD

/-!
# Days and seconds

The number of a day grows with the year, the month and the day of the month, in this order
(`Date.dayNumber_lt_iff`), so no two dates have one number. The date that is computed from a number
exists and has it (`Date.ofDayNumber?_eq_some`), and the same holds of timestamps and their seconds
(`Stamp.ofMillis?_eq_some`).
-/

namespace DeviceRegistry.Calendar

/-! ## Years -/

/-- The number of days of a year. -/
def daysInYear (year : Nat) : Nat :=
  if isLeap year then 366 else 365

theorem isLeap_iff {year : Nat} :
    isLeap year = true ↔ year % 4 = 0 ∧ (year % 100 ≠ 0 ∨ year % 400 = 0) := by
  simp [isLeap]

theorem sum_monthLengths (year : Nat) : (monthLengths year).sum = daysInYear year := by
  unfold monthLengths daysInYear
  split <;> rfl

@[simp] theorem length_monthLengths (year : Nat) : (monthLengths year).length = 12 := rfl

theorem daysBeforeYear_eq (y : Nat) :
    daysBeforeYear (y + 1) = 365 * y + y / 4 - y / 100 + y / 400 := rfl

theorem daysBeforeYear_succ {year : Nat} (h : 1 ≤ year) :
    daysBeforeYear (year + 1) = daysBeforeYear year + daysInYear year := by
  obtain ⟨y, rfl⟩ := Nat.exists_eq_add_of_le' h
  rw [daysBeforeYear_eq, daysBeforeYear_eq]
  unfold daysInYear
  split
  · next hleap =>
    rw [isLeap_iff] at hleap
    omega
  · next hleap =>
    rw [isLeap_iff] at hleap
    -- Either the year is no fourth one, or it ends a century inside a cycle.
    by_cases hfour : (y + 1) % 4 = 0
    · obtain ⟨hcentury, hcycle⟩ : (y + 1) % 100 = 0 ∧ (y + 1) % 400 ≠ 0 := by omega
      omega
    · have hsame : (y + 1) / 4 = y / 4 ∧ (y + 1) / 100 = y / 100 ∧ (y + 1) / 400 = y / 400 := by
        omega
      rw [hsame.1, hsame.2.1, hsame.2.2]
      omega

theorem daysBeforeYear_le {a b : Nat} (ha : 1 ≤ a) (h : a < b) :
    daysBeforeYear a + daysInYear a ≤ daysBeforeYear b := by
  induction b, h using Nat.le_induction with
  | base => exact (daysBeforeYear_succ ha).ge
  | succ b hb ih =>
    rw [daysBeforeYear_succ (by omega)]
    omega

/-- The years in a cycle of 400, in centuries, in fours, and alone. -/
theorem daysBeforeYear_cycles {a c f y : Nat} (hc : c ≤ 3) (hf : f ≤ 24) (hy : y ≤ 3) :
    daysBeforeYear (400 * a + 100 * c + 4 * f + y + 1) =
      146097 * a + 36524 * c + 1461 * f + 365 * y := by
  rw [daysBeforeYear_eq]
  omega

/-! ## Days of a year -/

theorem sum_take_add_le (lengths : List Nat) {i j : Nat} (h : i < j) :
    (lengths.take i).sum + lengths.getD i 0 ≤ (lengths.take j).sum := by
  have hmono : (lengths.take (i + 1)).sum ≤ (lengths.take j).sum :=
    List.monotone_sum_take lengths h
  refine le_trans (le_of_eq ?_) hmono
  rcases Nat.lt_or_ge i lengths.length with hi | hi
  · rw [List.sum_take_succ lengths i hi, List.getD_eq_getElem lengths 0 hi]
  · rw [List.getD_eq_default lengths 0 hi, List.take_of_length_le hi,
      List.take_of_length_le (Nat.le_succ_of_le hi), Nat.add_zero]

namespace Date

/-- The dates of the calendar, in any year from 1 on. -/
structure InCalendar (d : Date) : Prop where
  year : 1 ≤ d.year
  day : 1 ≤ d.day
  inMonth : d.day ≤ daysInMonth d.year d.month

variable {a b d : Date}

theorem exists_iff : d.Exists ↔ d.InCalendar ∧ d.year ≤ 9999 :=
  ⟨fun ⟨hlow, hhigh, hday, hin⟩ => ⟨⟨hlow, hday, hin⟩, hhigh⟩,
    fun ⟨h, hhigh⟩ => ⟨h.year, hhigh, h.day, h.inMonth⟩⟩

namespace InCalendar

theorem one_le_month (h : d.InCalendar) : 1 ≤ d.month := by
  by_contra hm
  have hin := h.inMonth
  rw [daysInMonth, if_pos (by omega)] at hin
  exact absurd (h.day.trans hin) (by decide)

theorem day_le_getD (h : d.InCalendar) : d.day ≤ (monthLengths d.year).getD (d.month - 1) 0 := by
  have hin := h.inMonth
  rwa [daysInMonth, if_neg (by have := h.one_le_month; omega)] at hin

theorem month_le (h : d.InCalendar) : d.month ≤ 12 := by
  by_contra hm
  have hin := h.day_le_getD
  rw [List.getD_eq_default _ 0 (by rw [length_monthLengths]; omega)] at hin
  exact absurd (h.day.trans hin) (by decide)

theorem day_le (h : d.InCalendar) : d.day ≤ 31 := by
  have hlong : ∀ n ∈ monthLengths d.year, n ≤ 31 := by
    unfold monthLengths
    split <;> decide
  have hindex : d.month - 1 < (monthLengths d.year).length := by
    have := h.month_le
    have := h.one_le_month
    rw [length_monthLengths]
    omega
  refine h.day_le_getD.trans ?_
  rw [List.getD_eq_getElem _ 0 hindex]
  exact hlong _ (List.getElem_mem hindex)

end InCalendar

theorem dayOfYear_eq (d : Date) :
    d.dayOfYear = ((monthLengths d.year).take (d.month - 1)).sum + d.day := by
  rw [dayOfYear, List.sum_eq_foldl]

theorem InCalendar.dayOfYear_le (h : d.InCalendar) : d.dayOfYear ≤ daysInYear d.year := by
  have hmonth : d.month - 1 < 12 := by
    have := h.month_le
    have := h.one_le_month
    omega
  have hsum := sum_take_add_le (monthLengths d.year) hmonth
  rw [List.take_of_length_le (length_monthLengths _).le, sum_monthLengths] at hsum
  rw [dayOfYear_eq]
  have := h.day_le_getD
  omega

theorem InCalendar.dayOfYear_lt (ha : a.InCalendar) (hb : b.InCalendar) (hyear : a.year = b.year)
    (hmonth : a.month < b.month) : a.dayOfYear < b.dayOfYear := by
  have hearlier : a.month - 1 < b.month - 1 := by
    have := ha.one_le_month
    omega
  have hsum := sum_take_add_le (monthLengths b.year) hearlier
  rw [dayOfYear_eq, dayOfYear_eq, hyear]
  have := hyear ▸ ha.day_le_getD
  have := hb.day
  omega

/-! ## The order of days -/

/-- The order of dates by the calendar: by year, then by month, then by day. -/
def Before (a b : Date) : Prop :=
  a.year < b.year ∨ a.year = b.year ∧ (a.month < b.month ∨ a.month = b.month ∧ a.day < b.day)

instance (a b : Date) : Decidable (a.Before b) :=
  inferInstanceAs (Decidable (_ ∨ _ ∧ (_ ∨ _ ∧ _)))

theorem dayNumber_eq (h : d.InCalendar) :
    d.dayNumber = (daysBeforeYear d.year + d.dayOfYear : Nat) - (epochOffset + 1 : Nat) := by
  have hpos : 1 ≤ d.dayOfYear := by
    rw [dayOfYear_eq]
    have := h.day
    omega
  unfold dayNumber
  omega

theorem Before.dayNumber_lt (h : a.Before b) (ha : a.InCalendar) (hb : b.InCalendar) :
    a.dayNumber < b.dayNumber := by
  rw [dayNumber_eq ha, dayNumber_eq hb]
  have hday := dayOfYear_eq a
  have hday' := dayOfYear_eq b
  have hpos := hb.day
  rcases h with hyear | ⟨hyear, hmonth | ⟨hmonth, hlt⟩⟩
  · have hover := daysBeforeYear_le ha.year hyear
    have hin := ha.dayOfYear_le
    omega
  · have hlt := ha.dayOfYear_lt hb hyear hmonth
    rw [hyear]
    omega
  · rw [hyear, hmonth] at hday
    rw [hyear]
    omega

theorem before_trichotomy (a b : Date) : a.Before b ∨ a = b ∨ b.Before a := by
  rcases a with ⟨y, m, n⟩
  rcases b with ⟨y', m', n'⟩
  simp only [Before, mk.injEq]
  omega

theorem dayNumber_lt_iff (ha : a.InCalendar) (hb : b.InCalendar) :
    a.dayNumber < b.dayNumber ↔ a.Before b := by
  refine ⟨fun h => ?_, fun h => h.dayNumber_lt ha hb⟩
  rcases before_trichotomy a b with hlt | rfl | hgt
  · exact hlt
  · exact absurd h (lt_irrefl _)
  · exact absurd (hgt.dayNumber_lt hb ha) (lt_asymm h)

theorem dayNumber_inj (ha : a.InCalendar) (hb : b.InCalendar) (h : a.dayNumber = b.dayNumber) :
    a = b := by
  rcases before_trichotomy a b with hlt | heq | hgt
  · exact absurd h (hlt.dayNumber_lt ha hb).ne
  · exact heq
  · exact absurd h (hgt.dayNumber_lt hb ha).ne'

end Date

/-! ## The date of a number -/

/-- The month and day that lie some days after the start of a list of months: the days before the
month and in it add up, and the day is one of the month. -/
theorem monthAndDay_spec {lengths : List Nat} {days : Nat} (h : days < lengths.sum) (month : Nat) :
    ∃ i day, monthAndDay lengths month days = (month + i, day + 1) ∧
      (lengths.take i).sum + day = days ∧ day < lengths.getD i 0 := by
  induction lengths generalizing month days with
  | nil => exact absurd h (Nat.not_lt_zero _)
  | cons length lengths ih =>
    rw [List.sum_cons] at h
    by_cases hfirst : days < length
    · refine ⟨0, days, ?_, by simp, by simpa using hfirst⟩
      cases lengths <;> simp [monthAndDay, hfirst]
    · have hrest : days - length < lengths.sum := by omega
      obtain ⟨i, day, hresult, hsum, hday⟩ := ih hrest (month + 1)
      refine ⟨i + 1, day, ?_, ?_, by simpa using hday⟩
      · cases lengths with
        | nil => exact absurd hrest (Nat.not_lt_zero _)
        | cons next lengths =>
          rw [monthAndDay.eq_3 _ _ _ _ (by simp), if_neg hfirst, hresult, Nat.add_assoc,
            Nat.add_comm 1 i]
      · rw [List.take_succ_cons, List.sum_cons]
        omega

namespace Date

/-- The date some days after the start of the calendar is so many days after it. -/
theorem ofDaysSinceStart_spec (days : Nat) :
    (ofDaysSinceStart days).InCalendar ∧
      (ofDaysSinceStart days).dayNumber = (days : Int) - epochOffset := by
  -- The year: days are counted off by cycles of 400 years, by centuries, by fours and alone.
  obtain ⟨c, hc⟩ : ∃ c, c = min 3 (days % 146097 / 36524) := ⟨_, rfl⟩
  obtain ⟨inCentury, hcentury⟩ : ∃ n, n = days % 146097 - 36524 * c := ⟨_, rfl⟩
  obtain ⟨y, hy⟩ : ∃ y, y = min 3 (inCentury % 1461 / 365) := ⟨_, rfl⟩
  obtain ⟨year, hyear⟩ :
      ∃ n, n = 400 * (days / 146097) + 100 * c + 4 * (inCentury / 1461) + y + 1 := ⟨_, rfl⟩
  obtain ⟨inYear, hin⟩ : ∃ n, n = inCentury % 1461 - 365 * y := ⟨_, rfl⟩
  have hdate : ofDaysSinceStart days =
      { year := year, month := (monthAndDay (monthLengths year) 1 inYear).1,
        day := (monthAndDay (monthLengths year) 1 inYear).2 } := by
    subst hc hcentury hy hyear hin
    rfl
  have hbefore : daysBeforeYear year + inYear = days := by
    rw [hyear, daysBeforeYear_cycles (by omega) (by omega) (by omega)]
    omega
  -- Only the last year of four can hold 366 days, and only if it is a leap year.
  have hlt : inYear < daysInYear year := by
    unfold daysInYear
    split
    · omega
    · next hleap =>
      rw [isLeap_iff] at hleap
      omega
  obtain ⟨i, day, hresult, hsum, hday⟩ := monthAndDay_spec (sum_monthLengths year ▸ hlt) 1
  have hmonth : 1 + i - 1 = i := by omega
  rw [hdate, hresult]
  have hcalendar : InCalendar { year := year, month := 1 + i, day := day + 1 } := by
    refine ⟨by dsimp only; omega, by dsimp only; omega, ?_⟩
    dsimp only
    rw [daysInMonth, if_neg (by omega), hmonth]
    exact hday
  refine ⟨hcalendar, ?_⟩
  rw [dayNumber_eq hcalendar, dayOfYear_eq]
  dsimp only
  rw [hmonth]
  omega

/-- The date of a number exists and has the number, and every date that exists is found. -/
theorem ofDayNumber?_eq_some {n : Int} {d : Date} :
    ofDayNumber? n = some d ↔ d.Exists ∧ d.dayNumber = n := by
  have hspec := ofDaysSinceStart_spec (n + epochOffset).toNat
  unfold ofDayNumber?
  rw [exists_iff]
  constructor
  · intro h
    dsimp only at h
    split at h
    · next hpos =>
      rw [Int.toNat_of_nonneg hpos, Int.add_sub_cancel] at hspec
      split at h
      · next hyear =>
        cases h
        exact ⟨⟨hspec.1, hyear⟩, hspec.2⟩
      · cases h
    · cases h
  · rintro ⟨⟨hcalendar, hyear⟩, hnumber⟩
    have hpos : 0 ≤ n + epochOffset := by
      rw [← hnumber, dayNumber]
      omega
    rw [Int.toNat_of_nonneg hpos, Int.add_sub_cancel] at hspec
    have hsame := dayNumber_inj hspec.1 hcalendar (hspec.2.trans hnumber.symm)
    dsimp only
    rw [if_pos hpos, hsame, if_pos hyear]

end Date

/-! ## Seconds -/

namespace Stamp

/-- A second of a date that exists. -/
structure Exists (t : Stamp) : Prop where
  date : t.date.Exists
  second : t.second < secondsPerDay

/-- The number of seconds since 1970. -/
def seconds (t : Stamp) : Int :=
  t.date.dayNumber * secondsPerDay + t.second

variable {a b t : Stamp}

theorem dayNumber_eq_div (h : t.Exists) : t.date.dayNumber = t.seconds / secondsPerDay := by
  have := h.second
  unfold seconds
  simp only [secondsPerDay] at this ⊢
  omega

theorem second_eq_mod (h : t.Exists) : (t.second : Int) = t.seconds % secondsPerDay := by
  have := h.second
  unfold seconds
  simp only [secondsPerDay] at this ⊢
  omega

theorem ofSeconds?_eq_some {n : Int} : ofSeconds? n = some t ↔ t.Exists ∧ t.seconds = n := by
  unfold ofSeconds?
  rw [Option.map_eq_some_iff]
  constructor
  · rintro ⟨date, hdate, rfl⟩
    obtain ⟨hexists, hnumber⟩ := Date.ofDayNumber?_eq_some.mp hdate
    refine ⟨⟨hexists, ?_⟩, ?_⟩
    · show (n % secondsPerDay).toNat < secondsPerDay
      simp only [secondsPerDay]
      omega
    · show date.dayNumber * secondsPerDay + ((n % secondsPerDay).toNat : Int) = n
      rw [hnumber]
      simp only [secondsPerDay]
      omega
  · rintro ⟨hexists, rfl⟩
    refine ⟨t.date, Date.ofDayNumber?_eq_some.mpr ⟨hexists.date, dayNumber_eq_div hexists⟩, ?_⟩
    rw [← second_eq_mod hexists, Int.toNat_natCast]

theorem ofMillis?_eq_some {millis : Int} :
    ofMillis? millis = some t ↔ t.Exists ∧ t.seconds = millis / 1000 :=
  ofSeconds?_eq_some

theorem ofMillis_eq_ok {millis : Int} :
    ofMillis millis = .ok t ↔ t.Exists ∧ t.seconds = millis / 1000 := by
  rw [← ofMillis?_eq_some]
  unfold ofMillis
  split
  · next stamp h => rw [h, Except.ok.injEq, Option.some.injEq]
  · next h => simp [h]

theorem exists_midnight {d : Date} (h : d.Exists) : d.midnight.Exists :=
  ⟨h, show 0 < secondsPerDay by decide⟩

/-- The order of timestamps: by date, and then by the second of the day. -/
def Before (a b : Stamp) : Prop :=
  a.date.Before b.date ∨ a.date = b.date ∧ a.second < b.second

theorem seconds_lt_iff (ha : a.Exists) (hb : b.Exists) : a.seconds < b.seconds ↔ a.Before b := by
  have hsecond := ha.second
  have hsecond' := hb.second
  unfold Before seconds
  rw [← Date.dayNumber_lt_iff (Date.exists_iff.mp ha.date).1 (Date.exists_iff.mp hb.date).1]
  have hsame : a.date = b.date ↔ a.date.dayNumber = b.date.dayNumber :=
    ⟨congrArg _, Date.dayNumber_inj (Date.exists_iff.mp ha.date).1 (Date.exists_iff.mp hb.date).1⟩
  rw [hsame]
  simp only [secondsPerDay] at hsecond hsecond' ⊢
  omega

/-- The first second of a year. -/
def newYear (year : Nat) : Stamp :=
  (Date.mk year 1 1).midnight

theorem exists_newYear {year : Nat} (hlow : 1 ≤ year) (hhigh : year ≤ 9999) :
    (newYear year).Exists :=
  exists_midnight ⟨hlow, hhigh, Nat.le_refl 1, show 1 ≤ 31 by decide⟩

theorem seconds_lt_newYear_iff (h : t.Exists) {year : Nat} (hlow : 1 ≤ year) (hhigh : year ≤ 9999) :
    t.seconds < (newYear year).seconds ↔ t.date.year < year := by
  rw [seconds_lt_iff h (exists_newYear hlow hhigh)]
  have hcalendar := (Date.exists_iff.mp h.date).1
  have hmonth := hcalendar.one_le_month
  have hday := hcalendar.day
  rcases t with ⟨⟨y, m, n⟩, s⟩
  simp only [Before, Date.Before, newYear, Date.midnight, Date.mk.injEq] at hmonth hday ⊢
  omega

theorem seconds_neg_iff (h : t.Exists) : t.seconds < 0 ↔ t.date.year < 1970 := by
  rw [← seconds_lt_newYear_iff h (by decide) (by decide)]
  exact Iff.rfl

end Stamp

end DeviceRegistry.Calendar
