import DeviceRegistry.Lifecycle.Create
import DeviceRegistry.Proofs.Calendar.Weeks
import DeviceRegistry.Proofs.Lifecycle.Transactions

/-!
# The production weeks of new vehicles

A vehicle that is registered without a production week gets that of the day. Two such weeks are the
same exactly if the days lie in one week, and a later vehicle never gets an earlier one, unless one
of the days lies at an end of its year in a week of another one
(`Create.productionWeeks_identify_iff`): the first of January 2027 shows week 53 of 2027, as if it
were the end of that year.
-/

namespace DeviceRegistry

open Calendar

namespace Create

/-- A vehicle for which no production week is given gets this one if it is registered now. -/
def TellsWeek (now : Instant) (week : String) : Prop :=
  ∃ p vin vehicle, RawText.filled? p.vehicle.productionWeek = none ∧
    newVehicle now p vin = .ok vehicle ∧ vehicle.productionWeek = some (.whole week)

theorem filledOr_none {now : Instant} {otherwise : Date → String} {value : Option RawText}
    (h : RawText.filled? value = none) :
    filledOr now otherwise value =
      (timestamp now).map fun stamp => .whole (otherwise stamp.date) := by
  rw [filledOr, h]

/-- A vehicle gets the production week of the day, in the years of a timestamp. -/
theorem tellsWeek_iff {now : Instant} {week : String} :
    TellsWeek now week ↔ ∃ t, now.stamp? = some t ∧ week = t.date.productionWeek := by
  constructor
  · rintro ⟨p, vin, vehicle, hnone, hvehicle, hweek⟩
    unfold newVehicle at hvehicle
    simp only [filledOr_none hnone, bind_eq_ok, map_eq_ok] at hvehicle
    obtain ⟨_, ⟨t, ht, rfl⟩, _, _, h⟩ := hvehicle
    cases h
    cases hweek
    exact ⟨t, timestamp_eq_ok.mp ht, rfl⟩
  · rintro ⟨t, ht, rfl⟩
    let p : PreparedDevice := { profile := {}, vehicle := {} }
    have hvehicle : ∃ vehicle, newVehicle now p "" = .ok vehicle ∧
        vehicle.productionWeek = some (.whole t.date.productionWeek) := by
      unfold newVehicle
      simp only [filledOr_none (show RawText.filled? none = none from rfl),
        timestamp_eq_ok.mpr ht, p]
      exact ⟨_, rfl, rfl⟩
    obtain ⟨vehicle, hvehicle, hweek⟩ := hvehicle
    exact ⟨p, "", vehicle, rfl, hvehicle, hweek⟩

theorem date_le_of_stamp? {now later : Instant} {s t : Stamp} (hs : now.stamp? = some s)
    (ht : later.stamp? = some t) (h : now.millis ≤ later.millis) : ¬t.date.Before s.date := by
  obtain ⟨hs, hseconds⟩ := Stamp.ofMillis?_eq_some.mp hs
  obtain ⟨ht, hseconds'⟩ := Stamp.ofMillis?_eq_some.mp ht
  rw [← Date.dayNumber_lt_iff (Date.exists_iff.mp ht.date).1 (Date.exists_iff.mp hs.date).1,
    Stamp.dayNumber_eq_div ht, Stamp.dayNumber_eq_div hs, hseconds, hseconds']
  simp only [secondsPerDay]
  omega

/-- The production weeks of two dates identify their weeks unless the dates are confused, and they
are in the order of the dates unless the first overtakes the second. One of two such dates lies in a
week of another year, at an end of its own. So a vehicle that is registered later gets no earlier
production week, with the same exception. -/
theorem productionWeeks_identify_iff {a b : Date} (ha : a.Exists) (hb : b.Exists) :
    ((a.productionWeek = b.productionWeek ↔ a.SameWeek b) ↔ ¬a.Confused b) ∧
    (¬b.Before a → (Text.numeral a.productionWeek.toList ≤ Text.numeral b.productionWeek.toList ↔
      ¬a.Overtakes b)) ∧
    (a.Confused b ∨ a.Overtakes b → ∃ d, (d = a ∨ d = b) ∧ d.Strays ∧
      ((d.month = 1 ∧ d.day ≤ 3) ∨ (d.month = 12 ∧ 29 ≤ d.day))) ∧
    ∀ (now later : Instant) (x y : String), now.stamp?.map Stamp.date = some a →
      later.stamp?.map Stamp.date = some b → TellsWeek now x → TellsWeek later y →
      now.millis ≤ later.millis →
      (Text.numeral x.toList ≤ Text.numeral y.toList ↔ ¬a.Overtakes b) := by
  have hacalendar := (Date.exists_iff.mp ha).1
  have hbcalendar := (Date.exists_iff.mp hb).1
  have hordered : ¬b.Before a → (Text.numeral a.productionWeek.toList ≤
      Text.numeral b.productionWeek.toList ↔ ¬a.Overtakes b) := fun h =>
    Date.productionWeek_le_iff hacalendar hbcalendar
      ((Date.ordinal_le_iff hacalendar hbcalendar).mpr h)
  refine ⟨Date.productionWeek_identifies_iff hacalendar hbcalendar, hordered, fun h => ?_, ?_⟩
  · rcases h.elim Date.strays_of_confused Date.strays_of_overtakes with hstrays | hstrays
    · exact ⟨a, .inl rfl, hstrays, hstrays.near hacalendar⟩
    · exact ⟨b, .inr rfl, hstrays, hstrays.near hbcalendar⟩
  · intro now later x y hnow hlater hx hy hle
    obtain ⟨s, hs, rfl⟩ := tellsWeek_iff.mp hx
    obtain ⟨t, ht, rfl⟩ := tellsWeek_iff.mp hy
    rw [hs, Option.map_some] at hnow
    rw [ht, Option.map_some] at hlater
    cases hnow
    cases hlater
    exact hordered (date_le_of_stamp? hs ht hle)

/-- The first of January 2027 is a Friday in the last week of 2026. It shows another week than the
Thursday before it, and a later one than the Monday after it. -/
theorem productionWeek_parts_at_new_year :
    (Date.mk 2026 12 31).SameWeek ⟨2027, 1, 1⟩ ∧ ¬(Date.mk 2027 1 4).Before ⟨2027, 1, 1⟩ ∧
      (Date.mk 2026 12 31).productionWeek = "202653" ∧
      (Date.mk 2027 1 1).productionWeek = "202753" ∧
      (Date.mk 2027 1 4).productionWeek = "202701" := by
  decide +kernel

/-- The last day of 2026 and the first of 2027, and two vehicles that are registered on that first
day and on the Monday after it. -/
theorem productionWeeks_identify_new_year :
    ¬((Date.mk 2026 12 31).productionWeek = (Date.mk 2027 1 1).productionWeek ↔
        (Date.mk 2026 12 31).SameWeek ⟨2027, 1, 1⟩) ∧
      ((Date.mk 2027 1 4).productionWeek = (Date.mk 2027 1 10).productionWeek ↔
        (Date.mk 2027 1 4).SameWeek ⟨2027, 1, 10⟩) ∧
      TellsWeek ⟨1798761600000⟩ "202753" ∧ TellsWeek ⟨1799020800000⟩ "202701" ∧
      ¬Text.numeral "202753".toList ≤ Text.numeral "202701".toList := by
  have hfriday : TellsWeek ⟨1798761600000⟩ "202753" :=
    tellsWeek_iff.mpr ⟨⟨⟨2027, 1, 1⟩, 0⟩, by decide +kernel, by decide +kernel⟩
  have hmonday : TellsWeek ⟨1799020800000⟩ "202701" :=
    tellsWeek_iff.mpr ⟨⟨⟨2027, 1, 4⟩, 0⟩, by decide +kernel, by decide +kernel⟩
  obtain ⟨hidentify, -⟩ := productionWeeks_identify_iff
    (show (Date.mk 2026 12 31).Exists by decide) (show (Date.mk 2027 1 1).Exists by decide)
  obtain ⟨hidentify', -⟩ := productionWeeks_identify_iff
    (show (Date.mk 2027 1 4).Exists by decide) (show (Date.mk 2027 1 10).Exists by decide)
  obtain ⟨-, -, -, htold⟩ := productionWeeks_identify_iff
    (show (Date.mk 2027 1 1).Exists by decide) (show (Date.mk 2027 1 4).Exists by decide)
  refine ⟨?_, hidentify'.mpr (by decide +kernel), hfriday, hmonday, ?_⟩
  · rw [hidentify, not_not]
    decide +kernel
  · rw [htold _ _ _ _ (by decide +kernel) (by decide +kernel) hfriday hmonday (by decide), not_not]
    decide +kernel

end Create

end DeviceRegistry
