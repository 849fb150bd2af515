import DeviceRegistry.Proofs.Calendar.Dates
import DeviceRegistry.Proofs.Text.Numerals
import DeviceRegistry.Text.Pieces
import Mathlib.Data.Nat.Log

/-!
# The order of stored times

A stored time determines the timestamp (`Stamp.text_inj`). From the year 1000 on the order of the
texts is the order of time (`Stamp.text_lt_iff`). An earlier year is written in fewer digits, and
what follows it comes before every digit: such a text stands just before those of the year that is
shown when zeros are appended (`Date.shownYear`), so the year 25 stands before the year 2500.
-/

namespace DeviceRegistry.Calendar

open Text

namespace Stamp

variable {a b t : Stamp}

/-- What is written of a timestamp after its year. -/
def afterYear (t : Stamp) : List Char :=
  '-' :: (decimals 2 t.date.month ++ '-' :: (decimals 2 t.date.day ++ ' ' ::
    (decimals 2 (t.second / 3600) ++ ':' :: (decimals 2 (t.second / 60 % 60) ++ ':' ::
      decimals 2 (t.second % 60)))))

theorem Exists.bounds (h : t.Exists) :
    t.date.month < 100 ∧ t.date.day < 100 ∧ t.second < 86400 := by
  have hcalendar := (Date.exists_iff.mp h.date).1
  have hmonth := hcalendar.month_le
  have hday := hcalendar.day_le
  have hsecond : t.second < 86400 := h.second
  omega

theorem toList_text (h : t.Exists) :
    t.text.toList = Nat.toDigits 10 t.date.year ++ t.afterYear := by
  obtain ⟨hmonth, hday, hsecond⟩ := h.bounds
  simp only [text, Date.text, String.toList_append, toList_toString, toList_twoDigits hmonth,
    toList_twoDigits hday, toList_twoDigits (show t.second / 3600 < 100 by omega),
    toList_twoDigits (show t.second / 60 % 60 < 100 by omega),
    toList_twoDigits (show t.second % 60 < 100 by omega), afterYear]
  simp

/-- After equal years the order is that of the months, the days and the seconds. -/
theorem afterYear_lt_iff (ha : a.Exists) (hb : b.Exists) :
    a.afterYear < b.afterYear ↔
      a.date.month < b.date.month ∨ a.date.month = b.date.month ∧
        (a.date.day < b.date.day ∨ a.date.day = b.date.day ∧ a.second < b.second) := by
  obtain ⟨hmonth, hday, hsecond⟩ := ha.bounds
  obtain ⟨hmonth', hday', hsecond'⟩ := hb.bounds
  simp only [afterYear, List.cons_lt_cons_self, append_lt_append_iff, length_decimals,
    decimals_lt_iff 2 hmonth hmonth', decimals_inj 2 hmonth hmonth',
    decimals_lt_iff 2 hday hday', decimals_inj 2 hday hday']
  -- Hours, minutes and seconds are the parts of the second of the day.
  rw [decimals_lt_iff _ (by omega) (by omega), decimals_inj _ (by omega) (by omega),
    decimals_lt_iff _ (by omega) (by omega), decimals_inj _ (by omega) (by omega),
    decimals_lt_iff _ (by omega) (by omega)]
  omega

theorem afterYear_inj (ha : a.Exists) (hb : b.Exists) (h : a.afterYear = b.afterYear) :
    a.date.month = b.date.month ∧ a.date.day = b.date.day ∧ a.second = b.second := by
  have hle := (afterYear_lt_iff ha hb).not.mp (h ▸ lt_irrefl _)
  have hge := (afterYear_lt_iff hb ha).not.mp (h ▸ lt_irrefl _)
  omega

theorem text_inj (ha : a.Exists) (hb : b.Exists) (h : a.text = b.text) : a = b := by
  have hdash : ∀ n, '-' ∉ Nat.toDigits 10 n := fun n =>
    not_mem_of_digits (digits_toDigits n) (by decide)
  have hlists := congrArg String.toList h
  rw [toList_text ha, toList_text hb] at hlists
  -- The year is the piece before the first separator.
  have hpieces := congrArg (pieces '-') hlists
  simp only [afterYear, pieces_append (hdash _), List.cons.injEq] at hpieces
  have hyear : a.date.year = b.date.year := by
    rw [← numeral_toDigits a.date.year, hpieces.1, numeral_toDigits]
  obtain ⟨hmonth, hday, hsecond⟩ :=
    afterYear_inj ha hb (List.append_cancel_left (hpieces.1 ▸ hlists))
  rcases a with ⟨⟨y, m, n⟩, s⟩
  rcases b with ⟨⟨y', m', n'⟩, s'⟩
  simp only [mk.injEq, Date.mk.injEq]
  exact ⟨⟨hyear, hmonth, hday⟩, hsecond⟩

/-! ## Years of four digits -/

theorem toDigits_year {year : Nat} (hlow : 1000 ≤ year) (hhigh : year ≤ 9999) :
    Nat.toDigits 10 year = decimals 4 year :=
  toDigits_eq_decimals 3 hlow (by omega)

/-- From the year 1000 on texts are in the order of time. -/
theorem text_lt_iff (ha : a.Exists) (hb : b.Exists) (ha' : 1000 ≤ a.date.year)
    (hb' : 1000 ≤ b.date.year) : a.text < b.text ↔ a.seconds < b.seconds := by
  obtain ⟨-, hyear, -⟩ := ha.date
  obtain ⟨-, hyear', -⟩ := hb.date
  rw [seconds_lt_iff ha hb, String.lt_iff_toList_lt, toList_text ha, toList_text hb,
    toDigits_year ha' hyear, toDigits_year hb' hyear', append_lt_append_iff (by simp),
    decimals_lt_iff _ (by omega) (by omega), decimals_inj _ (by omega) (by omega),
    afterYear_lt_iff ha hb]
  rcases a with ⟨⟨y, m, n⟩, s⟩
  rcases b with ⟨⟨y', m', n'⟩, s'⟩
  simp only [Before, Date.Before, Date.mk.injEq]
  omega

theorem text_le_iff (ha : a.Exists) (hb : b.Exists) (ha' : 1000 ≤ a.date.year)
    (hb' : 1000 ≤ b.date.year) : a.text ≤ b.text ↔ a.seconds ≤ b.seconds := by
  rw [← not_lt, ← not_lt, text_lt_iff hb ha hb' ha']

/-! ## Years of fewer digits -/

theorem dash_lt {digits xs ys : List Char} (hne : digits ≠ []) (h : Digits digits) :
    '-' :: xs < digits ++ ys := by
  obtain ⟨c, cs, rfl⟩ := List.exists_cons_of_ne_nil hne
  obtain ⟨hlow, -⟩ := Char.isDigit_iff_toNat.mp (h c (by simp))
  rw [List.cons_append, List.cons_lt_cons_iff, Char.lt_def, UInt32.lt_iff_toNat_lt]
  exact .inl (Nat.lt_of_lt_of_le (show '-'.toNat < '0'.toNat by decide) hlow)

theorem decimals_ne_nil (width n : Nat) : decimals (width + 1) n ≠ [] := by
  simp [decimals]

/-- A number of fewer digits with a separator after it compares as if zeros were appended. -/
theorem short_lt_iff {width more m n : Nat} (hm : m < 10 ^ width)
    (hn : n < 10 ^ (width + (more + 1))) (xs ys : List Char) :
    decimals width m ++ '-' :: xs < decimals (width + (more + 1)) n ++ ys ↔
      m * 10 ^ (more + 1) ≤ n := by
  have hdash : '-' :: xs < decimals (more + 1) n ++ ys :=
    dash_lt (decimals_ne_nil more n) (digits_decimals _ n)
  have hdiv : n / 10 ^ (more + 1) < 10 ^ width :=
    Nat.div_lt_of_lt_mul (by rwa [← Nat.pow_add, Nat.add_comm])
  rw [decimals_add, List.append_assoc, append_lt_append_iff (by simp), decimals_lt_iff _ hm hdiv,
    decimals_inj _ hm hdiv, and_iff_left hdash, ← Nat.le_iff_lt_or_eq,
    Nat.le_div_iff_mul_le (Nat.pow_pos (by decide))]

theorem lt_short_iff {width more m n : Nat} (hm : m < 10 ^ width)
    (hn : n < 10 ^ (width + (more + 1))) (xs ys : List Char) :
    decimals (width + (more + 1)) n ++ ys < decimals width m ++ '-' :: xs ↔
      n < m * 10 ^ (more + 1) := by
  have hdash : ¬decimals (more + 1) n ++ ys < '-' :: xs :=
    lt_asymm (dash_lt (decimals_ne_nil more n) (digits_decimals _ n))
  have hdiv : n / 10 ^ (more + 1) < 10 ^ width :=
    Nat.div_lt_of_lt_mul (by rwa [← Nat.pow_add, Nat.add_comm])
  rw [decimals_add, List.append_assoc, append_lt_append_iff (by simp), decimals_lt_iff _ hdiv hm,
    or_iff_left (fun h => hdash h.2), Nat.div_lt_iff_lt_mul (Nat.pow_pos (by decide))]

end Stamp

/-- The year that the digits of a year show when zeros are appended up to four digits. -/
def Date.shownYear (d : Date) : Nat :=
  d.year * 10 ^ (4 - (Nat.toDigits 10 d.year).length)

namespace Stamp

variable {a b : Stamp}

theorem toDigits_old {d : Date} (h : d.Exists) (hold : d.year < 1000) :
    ∃ width more, width + (more + 1) = 4 ∧ d.year < 10 ^ width ∧
      Nat.toDigits 10 d.year = decimals width d.year ∧
      d.shownYear = d.year * 10 ^ (more + 1) := by
  obtain ⟨hpos, -⟩ := h
  have hlog : Nat.log 10 d.year < 3 := Nat.log_lt_of_lt_pow (by omega) hold
  have hlow : 10 ^ Nat.log 10 d.year ≤ d.year := Nat.pow_log_le_self 10 (by omega)
  have hhigh : d.year < 10 ^ (Nat.log 10 d.year + 1) := Nat.lt_pow_succ_log_self (by decide) _
  have hdigits := toDigits_eq_decimals _ hlow hhigh
  refine ⟨Nat.log 10 d.year + 1, 2 - Nat.log 10 d.year, by omega, hhigh, hdigits, ?_⟩
  rw [Date.shownYear, hdigits, length_decimals]
  congr 2
  omega

theorem shownYear_bounds {d : Date} (h : d.Exists) (hold : d.year < 1000) :
    1 ≤ d.shownYear ∧ d.shownYear ≤ 9999 := by
  obtain ⟨width, more, hwidth, hlt, -, hshown⟩ := toDigits_old h hold
  have hpow : 10 ^ width * 10 ^ (more + 1) = 10000 := by
    rw [← Nat.pow_add, hwidth]
  have hzeros : 0 < 10 ^ (more + 1) := Nat.pow_pos (by decide)
  have hpos := Nat.mul_pos h.1 hzeros
  have hbound := Nat.mul_lt_mul_of_pos_right hlt hzeros
  omega

theorem old_lt_iff (ha : a.Exists) (hb : b.Exists) (hold : a.date.year < 1000)
    (hnew : 1000 ≤ b.date.year) : a.text < b.text ↔ a.date.shownYear ≤ b.date.year := by
  obtain ⟨-, hyear, -⟩ := hb.date
  obtain ⟨width, more, hwidth, hlt, hdigits, hshown⟩ := toDigits_old ha.date hold
  rw [String.lt_iff_toList_lt, toList_text ha, toList_text hb, hdigits, toDigits_year hnew hyear,
    hshown, ← hwidth]
  exact short_lt_iff hlt (by rw [hwidth]; omega) _ _

theorem lt_old_iff (ha : a.Exists) (hb : b.Exists) (hold : a.date.year < 1000)
    (hnew : 1000 ≤ b.date.year) : b.text < a.text ↔ b.date.year < a.date.shownYear := by
  obtain ⟨-, hyear, -⟩ := hb.date
  obtain ⟨width, more, hwidth, hlt, hdigits, hshown⟩ := toDigits_old ha.date hold
  rw [String.lt_iff_toList_lt, toList_text ha, toList_text hb, hdigits, toDigits_year hnew hyear,
    hshown, ← hwidth]
  exact lt_short_iff hlt (by rw [hwidth]; omega) _ _

/-! ## Between two times -/

/-- A date in a year of fewer than four digits stands among the texts where the year begins that its
digits show, and that year begins after one second and not after another. -/
def Misplaced (t : Stamp) (first last : Int) : Prop :=
  t.date.year < 1000 ∧
    first < (newYear t.date.shownYear).seconds ∧ (newYear t.date.shownYear).seconds ≤ last

variable {t low high : Stamp}

/-- Between the texts of two times from 1970 on are those of the times between them, and those that
are misplaced there. -/
theorem text_between_iff (ht : t.Exists) (hlow : low.Exists) (hhigh : high.Exists)
    (hlow' : 0 ≤ low.seconds) (hhigh' : 0 ≤ high.seconds) :
    (low.text ≤ t.text ∧ t.text ≤ high.text) ↔
      (low.seconds ≤ t.seconds ∧ t.seconds ≤ high.seconds) ∨
        t.Misplaced low.seconds high.seconds := by
  have hlowyear := (seconds_neg_iff hlow).not.mp (by omega)
  have hhighyear := (seconds_neg_iff hhigh).not.mp (by omega)
  rcases Nat.lt_or_ge t.date.year 1000 with hold | hnew
  · -- The time itself lies before 1970, so the texts alone decide.
    have hbefore := (seconds_neg_iff ht).mpr (by omega)
    obtain ⟨hone, hmax⟩ := shownYear_bounds ht.date hold
    have hfirst := seconds_lt_newYear_iff hlow hone hmax
    have hlast := seconds_lt_newYear_iff hhigh hone hmax
    rw [← not_lt, ← not_lt, old_lt_iff ht hlow hold (by omega), lt_old_iff ht hhigh hold (by omega),
      Misplaced]
    omega
  · rw [text_le_iff hlow ht (by omega) hnew, text_le_iff ht hhigh hnew (by omega), Misplaced]
    omega

theorem Misplaced.seconds_neg {first last : Int} (h : t.Misplaced first last) (ht : t.Exists) :
    t.seconds < 0 :=
  (seconds_neg_iff ht).mpr (h.1.trans (by decide))

end Stamp

end DeviceRegistry.Calendar
