import DeviceRegistry.Proofs.Listing.Queries
import DeviceRegistry.Proofs.Store.Times

/-!
# Ranges of time

A range is written as two numbers of milliseconds with an underscore between, and each end is cut to
its second (`RangeFilter.Reads.ends_of_writes`). A device is in a range by the texts that are
stored; that is by time, except for dates in years of fewer than four digits
(`Registry.ranges_select`).
-/

namespace DeviceRegistry

open Calendar

namespace Listing

/-- A text writes the milliseconds of two ends in digits, with an underscore between. -/
def WritesRange (value : String) (start stop : Nat) : Prop :=
  ∃ low high : String, value = low ++ "_" ++ high ∧
    Text.isNumeric low = true ∧ Text.numeral low.toList = start ∧
    Text.isNumeric high = true ∧ Text.numeral high.toList = stop

theorem not_mem_of_isNumeric {s : String} (h : Text.isNumeric s = true) : '_' ∉ s.toList :=
  Text.not_mem_of_digits (Text.isNumeric_iff.mp h).2 (by decide)

theorem rangeEnds?_of_isNumeric {low high : String} (hlow : Text.isNumeric low = true)
    (hhigh : Text.isNumeric high = true) : rangeEnds? (low ++ "_" ++ high) = some (low, high) := by
  have hchars : (low ++ "_" ++ high).toList = low.toList ++ '_' :: high.toList := by simp
  have hsplit : Text.split '_' (low ++ "_" ++ high) = [low, high] := by
    rw [Text.split, hchars, Text.pieces_append (not_mem_of_isNumeric hlow),
      Text.pieces_of_not_mem (not_mem_of_isNumeric hhigh)]
    simp
  rw [rangeEnds?, hsplit]

theorem eq_of_rangeEnds? {value low high : String} (h : rangeEnds? value = some (low, high)) :
    value = low ++ "_" ++ high ∧ Text.split '_' value = [low, high] := by
  unfold rangeEnds? at h
  split at h
  · next first second hsplit =>
    cases h
    refine ⟨?_, hsplit⟩
    have hwhole := Text.intercalate_pieces '_' value.toList
    rw [← String.toList_inj, ← hwhole]
    have hpieces : Text.pieces '_' value.toList = [low.toList, high.toList] := by
      simpa [Text.split, Function.comp_def] using congrArg (List.map String.toList) hsplit
    simp [hpieces, List.intercalate]
  · cases h

theorem ofMillis_of_rangeEnd {s : String} {millis : Int} (hread : Text.integer? s = some millis)
    {t : Stamp} (h : rangeEnd s = .ok t) : Stamp.ofMillis millis = .ok t := by
  unfold rangeEnd at h
  rw [hread] at h
  dsimp only at h
  split at h
  · next stamp hstamp =>
    cases h
    exact hstamp
  · cases h

theorem rangeEnd_eq_ok {s : String} (hnumeric : Text.isNumeric s = true)
    (hlength : s.length ≤ Text.maxDigits) {t : Stamp} (h : rangeEnd s = .ok t) :
    t.Exists ∧ t.seconds = (Text.numeral s.toList : Int) / 1000 :=
  Stamp.ofMillis_eq_ok.mp
    (ofMillis_of_rangeEnd (Text.integer?_of_isNumeric hnumeric hlength) h)

end Listing

namespace RangeFilter.Reads

open Listing

variable {pair : String × String} {f : RangeFilter}

theorem exists_ends (h : f.Reads pair) :
    ∃ low high, rangeEnds? f.value = some (low, high) ∧
      (Text.isNumeric low = true ∧ f.low.Exists ∧
        f.low.seconds = (Text.numeral low.toList : Int) / 1000) ∧
      (Text.isNumeric high = true ∧ f.high.Exists ∧
        f.high.seconds = (Text.numeral high.toList : Int) / 1000) := by
  have hends := h.ends
  have hwritten := (Bool.and_eq_true _ _ ▸ h.written).1
  rw [← h.value] at hends hwritten
  unfold rangeStamps? at hends
  simp only [bind, Option.bind_eq_some_iff, pure] at hends
  obtain ⟨⟨low, high⟩, hends, t, hlow, u, hhigh, heq⟩ := hends
  cases heq
  rw [(eq_of_rangeEnds? hends).2] at hwritten
  simp only [List.all_cons, List.all_nil, Bool.and_true, Bool.and_eq_true, decide_eq_true_eq]
    at hwritten
  obtain ⟨⟨hlownumeric, hlowlength⟩, hhighnumeric, hhighlength⟩ := hwritten
  exact ⟨low, high, hends,
    ⟨hlownumeric, rangeEnd_eq_ok hlownumeric hlowlength (toOption_eq_some.mp hlow)⟩,
    ⟨hhighnumeric, rangeEnd_eq_ok hhighnumeric hhighlength (toOption_eq_some.mp hhigh)⟩⟩

theorem exists_writes (h : f.Reads pair) : ∃ start stop, WritesRange f.value start stop := by
  obtain ⟨low, high, hends, ⟨hlow, -⟩, hhigh, -⟩ := h.exists_ends
  exact ⟨_, _, low, high, (eq_of_rangeEnds? hends).1, hlow, rfl, hhigh, rfl⟩

theorem ends_of_writes (h : f.Reads pair) {start stop : Nat}
    (hwrites : WritesRange f.value start stop) :
    (f.low.Exists ∧ f.low.seconds = (start : Int) / 1000) ∧
      f.high.Exists ∧ f.high.seconds = (stop : Int) / 1000 := by
  obtain ⟨low, high, hvalue, hlow, rfl, hhigh, rfl⟩ := hwrites
  obtain ⟨first, second, hends, ⟨-, hfirst⟩, -, hsecond⟩ := h.exists_ends
  rw [hvalue, rangeEnds?_of_isNumeric hlow hhigh] at hends
  cases hends
  exact ⟨hfirst, hsecond⟩

end RangeFilter.Reads

/-! ## Devices in a range -/

namespace RangeFilter

variable {f : RangeFilter} {d : Device} {t : Stamp}

/-- A device is in a range if its time is, or if its date is misplaced there. -/
theorem Reads.holds_iff_time {pair : String × String} (h : f.Reads pair) (ht : d.Dates f.column t)
    {start stop : Nat} (hwrites : Listing.WritesRange f.value start stop) :
    f.condition.holds d = true ↔
      ((start : Int) / 1000 ≤ t.seconds ∧ t.seconds ≤ (stop : Int) / 1000) ∨
        t.Misplaced ((start : Int) / 1000) ((stop : Int) / 1000) := by
  obtain ⟨⟨hlow, hstart⟩, hhigh, hstop⟩ := h.ends_of_writes hwrites
  simp only [RangeFilter.holds_iff, ht.text, Option.mem_def, Option.some.injEq, exists_eq_left']
  rw [Stamp.text_between_iff ht.real hlow hhigh (by omega) (by omega), hstart, hstop]

theorem Reads.mem_timeColumns {pair : String × String} (h : f.Reads pair) :
    f.column ∈ timeColumns :=
  List.mem_map_of_mem (f := Prod.snd) (FieldTable.mem_of_resolve? h.field).1

end RangeFilter

namespace Registry

open Listing

/-- After every run under a clock from 1970 on, and in every listing that is accepted, a device is
in a range exactly if the time of its field lies between the seconds of the two ends, or if its date
is in a year of fewer than four digits and the year that these show begins in the range. Such a date
lies before 1970, so no range should have it; the time of a creation is never misplaced. -/
theorem ranges_select (link : Link) {run : List (Environment × Command)}
    (hclock : ∀ e ∈ run, 0 ≤ e.1.now.millis) {params : Params} {q : Query}
    (hq : Query.ofRequest params = .ok q) :
    List.Forall₂ RangeFilter.Reads params.rangePairs q.ranges ∧
      ∀ f ∈ q.ranges, (∃ start stop, WritesRange f.value start stop) ∧
        ∀ d ∈ (after { link := link } run).store.devices.rows, (∃ t, d.Dates f.column t) ∧
          ∀ start stop t, WritesRange f.value start stop → d.Dates f.column t →
            (f.condition.holds d = true ↔
              ((start : Int) / 1000 ≤ t.seconds ∧ t.seconds ≤ (stop : Int) / 1000) ∨
                t.Misplaced ((start : Int) / 1000) ((stop : Int) / 1000)) ∧
            (t.Misplaced ((start : Int) / 1000) ((stop : Int) / 1000) →
              t.seconds < 0 ∧ f.column ≠ .createdDate) := by
  have hreads := (Query.reads_of_ofRequest hq).ranges
  refine ⟨hreads, fun f hf => ?_⟩
  obtain ⟨pair, hpair⟩ : ∃ pair, f.Reads pair := by
    obtain ⟨i, hi, rfl⟩ := List.mem_iff_getElem.mp hf
    exact ⟨_, hreads.get (hreads.length_eq ▸ hi) hi⟩
  refine ⟨hpair.exists_writes, fun d hd => ?_⟩
  obtain ⟨hdated, u, hu, hpos⟩ := dates_after link hclock hd
  refine ⟨hdated f.column hpair.mem_timeColumns, fun start stop t hwrites ht => ?_⟩
  refine ⟨hpair.holds_iff_time ht hwrites, fun hold => ⟨hold.seconds_neg ht.real, ?_⟩⟩
  intro hcreated
  obtain rfl := hu.unique (hcreated ▸ ht)
  exact absurd (hold.seconds_neg ht.real) (by omega)

end Registry

namespace Sample

/-- The creation of one device that was manufactured on a date. -/
def madeOn (date : String) : List (Environment × Command) :=
  let profile : RawProfile := {
    manufacturingDate := some date
    recordDate := some "2020/01/03"
    model := some "M"
    serialNumber := some "S12" }
  [(environment, .create "admin" [{ profile := profile, vehicle := {} }])]

/-- A request for devices with a field in a range, without details. -/
def ranged (field range : String) : Params := [
  ("isDetailsRequired", some "false"),
  ("rangeFields", some field),
  ("rangeValues", some range)]

end Sample

namespace Registry

open Listing

/-- Both ends are cut to their second, so a range may end before it starts and still have a
device. -/
theorem ranges_select_same_second :
    let run := Sample.madeOn "2020/01/02"
    let params := Sample.ranged "createddate" "1700000000999_1700000000000"
    ∃ q, Query.ofRequest params = .ok q ∧ (∀ e ∈ run, 0 ≤ e.1.now.millis) ∧
      ∃ f ∈ q.ranges, ∃ d ∈ (after {} run).store.devices.rows,
        f.condition.holds d = true ∧ ∃ t, d.Dates f.column t ∧ t.seconds = 1700000000 := by
  intro run params
  have hclock : ∀ e ∈ run, 0 ≤ e.1.now.millis := by decide +kernel
  have hfound : (Query.ofRequest params).toOption.any (fun q => q.ranges.any fun f =>
      f.column == .createdDate && f.value == "1700000000999" ++ "_" ++ "1700000000000" &&
        (after {} run).store.devices.rows.any fun d => f.condition.holds d) = true := by
    decide +kernel
  obtain ⟨q, hq, hfound⟩ := (Option.any_eq_true _ _).mp hfound
  simp only [List.any_eq_true, Bool.and_eq_true, beq_iff_eq] at hfound
  obtain ⟨f, hf, ⟨hcolumn, hvalue⟩, d, hd, hholds⟩ := hfound
  have hwrites : WritesRange f.value 1700000000999 1700000000000 :=
    ⟨_, _, hvalue, by decide +kernel, by decide +kernel, by decide +kernel, by decide +kernel⟩
  obtain ⟨⟨t, ht⟩, hselect⟩ :=
    ((ranges_select {} hclock (toOption_eq_some.mp hq)).2 f hf).2 d hd
  obtain ⟨hiff, hmisplaced⟩ := hselect _ _ t hwrites ht
  refine ⟨q, toOption_eq_some.mp hq, hclock, f, hf, d, hd, hholds, t, ht, ?_⟩
  rcases hiff.mp hholds with hrange | hold
  · omega
  · exact absurd hcolumn (hmisplaced hold).2

/-- A device that was manufactured in the year 999 is in the range of all times from 1970 on. -/
theorem old_date_in_range :
    let run := Sample.madeOn "0999/01/01"
    let params := Sample.ranged "manufacturingDate" "0_253402300799000"
    ∃ q, Query.ofRequest params = .ok q ∧ (∀ e ∈ run, 0 ≤ e.1.now.millis) ∧
      ∃ f ∈ q.ranges, WritesRange f.value 0 253402300799000 ∧
        ∃ d ∈ (after {} run).store.devices.rows, f.condition.holds d = true ∧
          ∃ t, d.Dates f.column t ∧ t.seconds < 0 := by
  intro run params
  have hclock : ∀ e ∈ run, 0 ≤ e.1.now.millis := by decide +kernel
  let t : Stamp := Date.midnight ⟨999, 1, 1⟩
  have hfound : (Query.ofRequest params).toOption.any (fun q => q.ranges.any fun f =>
      f.value == "0" ++ "_" ++ "253402300799000" &&
        (after {} run).store.devices.rows.any fun d =>
          f.condition.holds d && d.profile.get f.column == some t.text) = true := by
    decide +kernel
  obtain ⟨q, hq, hfound⟩ := (Option.any_eq_true _ _).mp hfound
  simp only [List.any_eq_true, Bool.and_eq_true, beq_iff_eq] at hfound
  obtain ⟨f, hf, hvalue, d, hd, hholds, htext⟩ := hfound
  have hwrites : WritesRange f.value 0 253402300799000 :=
    ⟨_, _, hvalue, by decide +kernel, by decide +kernel, by decide +kernel, by decide +kernel⟩
  exact ⟨q, toOption_eq_some.mp hq, hclock, f, hf, hwrites, d, hd, hholds, t,
    ⟨Stamp.exists_midnight (by decide), htext⟩, by decide +kernel⟩

end Registry

end DeviceRegistry
