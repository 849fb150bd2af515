import DeviceRegistry.Proofs.Calendar.Readings
import DeviceRegistry.Proofs.Lifecycle.Effects

/-!
# The times of the history

A transaction adds at most one entry to the history, with the time that the clock shows
(`Commit.history`). Stored times stand in the order of the seconds that they denote, so under a
clock that never goes back the history is in the order of time, also where the clock goes on between
the transactions of one command (`Store.Reached`).
-/

namespace DeviceRegistry

open Calendar

/-- The history has one more entry than before, with a time. -/
def Store.Records (s s' : Store) (time : String) : Prop :=
  ∃ e, e.recordedAt = time ∧ s'.history.rows = s.history.rows ++ [e]

theorem Store.records_appendHistory {s changed : Store} (h : changed.history = s.history)
    (time : String) (r : DeviceRecord) (action : HistoryAction) :
    s.Records (changed.appendHistory time r action) time :=
  ⟨changed.snapshot time r action, rfl, by rw [← h]; exact history_appendHistory⟩

/-- A transaction leaves the history as it is, or adds one entry with the time that the clock
shows. -/
theorem Commit.history {env : Environment} {s s' : Store} {c : Command} (hn : s.Numbered)
    (h : Commit env s s' c) :
    s'.history.rows = s.history.rows ∨
      ∃ time, storedText env.now.millis = .ok time ∧ s.Records s' time := by
  have hstored : ∀ {t : Stamp}, timestamp env.now = .ok t →
      storedText env.now.millis = .ok t.text := fun ht => by
    obtain ⟨hreal, hseconds⟩ := Stamp.ofMillis?_eq_some.mp (timestamp_eq_ok.mp ht)
    exact storedText_eq_ok.mpr ⟨_, hreal, hseconds, rfl⟩
  cases h with
  | create ready member fresh inserted =>
    obtain ⟨t, profile, vin, ht, -, -, -, rfl, -⟩ := Create.insert_eq_ok inserted
    exact .inr ⟨t.text, hstored ht, Store.records_appendHistory rfl _ _ _⟩
  | changeState moved =>
    obtain ⟨d, current, target, t, -, -, -, -, ht, rfl, -⟩ := changeState_eq_ok hn moved
    exact .inr ⟨t.text, hstored ht, Store.records_appendHistory rfl _ _ _⟩
  | update ready replaced =>
    obtain ⟨found, d, vin, -, -, -, -, rfl, -⟩ := Update.commit_eq_ok replaced
    cases vin <;> exact .inl rfl
  | delete ready deleted =>
    obtain ⟨found, d, t, -, -, -, -, -, -, ht, rfl, -⟩ := Delete.commit_eq_ok deleted
    exact .inr ⟨t.text, hstored ht, Store.records_appendHistory rfl _ _ _⟩
  | attributes changed =>
    obtain ⟨p, d, -, -, -, rfl⟩ := updateAttributes_eq_ok changed
    exact .inl rfl
  | associate associated =>
    obtain ⟨x, rfl, -, rfl⟩ := associate_eq_ok associated
    exact .inl rfl

namespace Store

/-- The entries of the history are in the order of time, from 1970 up to some second. -/
structure Chronological (s : Store) (second : Int) : Prop where
  recorded : ∀ e ∈ s.history.rows, ∃ t : Stamp,
    t.Exists ∧ e.recordedAt = t.text ∧ 0 ≤ t.seconds ∧ t.seconds ≤ second
  ordered : s.history.rows.Pairwise fun e f => e.recordedAt ≤ f.recordedAt

theorem Chronological.later {s : Store} {second later : Int} (h : s.Chronological second)
    (hle : second ≤ later) : s.Chronological later := by
  refine ⟨fun e he => ?_, h.ordered⟩
  obtain ⟨t, ht, htext, hpos, hsecond⟩ := h.recorded e he
  exact ⟨t, ht, htext, hpos, hsecond.trans hle⟩

end Store

/-- A transaction from 1970 on, after all entries, keeps the history in order. -/
theorem Commit.chronological {env : Environment} {s s' : Store} {c : Command} (hn : s.Numbered)
    (h : Commit env s s' c) (hclock : 0 ≤ env.now.millis)
    (hs : s.Chronological (env.now.millis / 1000)) : s'.Chronological (env.now.millis / 1000) := by
  rcases h.history hn with hsame | ⟨_, ht, e, htext, hrows⟩
  · exact ⟨hsame ▸ hs.recorded, hsame ▸ hs.ordered⟩
  · obtain ⟨t, hreal, hseconds, rfl⟩ := storedText_eq_ok.mp ht
    have hyear : ∀ {u : Stamp}, u.Exists → 0 ≤ u.seconds → 1000 ≤ u.date.year := fun hu hpos => by
      have hyear := (Stamp.seconds_neg_iff hu).not.mp (not_lt.mpr hpos)
      omega
    have hpos : 0 ≤ t.seconds := by omega
    refine ⟨fun f hf => ?_, ?_⟩
    · rw [hrows] at hf
      rcases List.mem_append.mp hf with hf | hf
      · exact hs.recorded f hf
      · rw [List.mem_singleton.mp hf]
        exact ⟨t, hreal, htext, hpos, hseconds.le⟩
    · rw [hrows, List.pairwise_append]
      refine ⟨hs.ordered, List.pairwise_singleton _ _, fun f hf g hg => ?_⟩
      obtain ⟨u, hu, hutext, hupos, husecond⟩ := hs.recorded f hf
      rw [List.mem_singleton.mp hg, hutext, htext,
        Stamp.text_le_iff hu hreal (hyear hu hupos) (hyear hreal hpos), hseconds]
      exact husecond

/-! ## Transactions in time -/

/-- A clock that shows no time before 1970 and never goes back. -/
structure Forward (times : List Instant) : Prop where
  from1970 : ∀ now ∈ times, 0 ≤ now.millis
  ordered : times.Pairwise fun now later => now.millis ≤ later.millis

theorem Forward.init {times : List Instant} {now : Instant} (h : Forward (times ++ [now])) :
    Forward times ∧ 0 ≤ now.millis ∧ ∀ earlier ∈ times, earlier.millis ≤ now.millis := by
  obtain ⟨hordered, -, hlast⟩ := List.pairwise_append.mp h.ordered
  exact ⟨⟨fun t ht => h.from1970 t (List.mem_append_left _ ht), hordered⟩,
    h.from1970 now (by simp), fun t ht => hlast t ht now (by simp)⟩

theorem Forward.concat {times : List Instant} {now : Instant} (h : Forward times)
    (hpos : 0 ≤ now.millis) (hlast : ∀ earlier ∈ times, earlier.millis ≤ now.millis) :
    Forward (times ++ [now]) := by
  refine ⟨fun t ht => ?_, List.pairwise_append.mpr ⟨h.ordered, List.pairwise_singleton _ _, ?_⟩⟩
  · rcases List.mem_append.mp ht with ht | ht
    · exact h.from1970 t ht
    · rw [List.mem_singleton.mp ht]
      exact hpos
  · intro t ht later hlater
    rw [List.mem_singleton.mp hlater]
    exact hlast t ht

namespace Store

/-- A store that transactions at some times leave, one after the other, of an empty one. -/
inductive Reached : List Instant → Store → Prop
  | empty : Reached [] {}
  | next {times : List Instant} {s s' : Store} {env : Environment} {c : Command}
      (earlier : Reached times s) (commit : Commit env s s' c) : Reached (times ++ [env.now]) s'

namespace Reached

variable {times : List Instant} {s : Store}

theorem numbered (h : Reached times s) : s.Numbered := by
  induction h with
  | empty => exact numbered_empty
  | next earlier commit ih => exact (commit.effect ih).numbered ih

theorem chronological (h : Reached times s) (hclock : Forward times) {second : Int}
    (hsecond : ∀ now ∈ times, now.millis / 1000 ≤ second) : s.Chronological second := by
  induction h generalizing second with
  | empty => exact ⟨by simp, .nil⟩
  | @next times s s' env c earlier commit ih =>
    obtain ⟨hbefore, hpos, hlast⟩ := hclock.init
    have hs := ih hbefore fun now hnow => Int.ediv_le_ediv (by decide) (hlast now hnow)
    exact (commit.chronological earlier.numbered hpos hs).later (hsecond env.now (by simp))

theorem exists_chronological (h : Reached times s) (hclock : Forward times) :
    ∃ second, s.Chronological second := by
  cases h with
  | empty => exact ⟨0, by simp, .nil⟩
  | @next times s s' env c earlier commit =>
    obtain ⟨-, -, hlast⟩ := hclock.init
    refine ⟨env.now.millis / 1000, chronological (.next earlier commit) hclock fun now hnow => ?_⟩
    rcases List.mem_append.mp hnow with hnow | hnow
    · exact Int.ediv_le_ediv (by decide) (hlast now hnow)
    · rw [List.mem_singleton.mp hnow]

/-- The times of the history do not go down along its ids. -/
theorem recordedAt_le (h : Reached times s) (hclock : Forward times) :
    ∀ e ∈ s.history.rows, ∀ f ∈ s.history.rows, e.id ≤ f.id → e.recordedAt ≤ f.recordedAt := by
  obtain ⟨second, hordered⟩ := h.exists_chronological hclock
  intro e he f hf hid
  obtain ⟨i, hi, rfl⟩ := List.getElem_of_mem he
  obtain ⟨j, hj, rfl⟩ := List.getElem_of_mem hf
  rcases Nat.lt_trichotomy i j with hlt | rfl | hgt
  · exact List.pairwise_iff_getElem.mp hordered.ordered i j hi hj hlt
  · exact String.le_refl _
  · have hback := List.pairwise_iff_getElem.mp h.numbered.history.ordered j i hj hi hgt
    omega

end Reached

end Store

/-- A run reaches its store by transactions at times of its commands, in order. A command may make
several transactions at its time. -/
theorem Registry.reached_after (link : Link) (run : List (Environment × Command)) :
    ∃ times, Store.Reached times (after { link := link } run).store ∧
      (∀ now ∈ times, now ∈ run.map (·.1.now)) ∧
      (Forward (run.map (·.1.now)) → Forward times) := by
  induction run using List.reverseRecOn with
  | nil => exact ⟨[], .empty, by simp, fun h => h⟩
  | append_singleton earlier e ih =>
    rw [after_concat, List.map_append]
    refine (step_commits e.1 e.2 _).keep (P := fun s => ∃ times, Store.Reached times s ∧
      (∀ now ∈ times, now ∈ earlier.map (·.1.now) ++ [e].map (·.1.now)) ∧
        (Forward (earlier.map (·.1.now) ++ [e].map (·.1.now)) → Forward times)) ?_ ?_
    · rintro s s' commit ⟨times, hreached, hfrom, hforward⟩
      refine ⟨times ++ [e.1.now], .next hreached commit, fun now hnow => ?_, fun hclock => ?_⟩
      · rcases List.mem_append.mp hnow with hnow | hnow
        · exact hfrom now hnow
        · exact List.mem_append_right _ (by simpa using hnow)
      · obtain ⟨-, hpos, hlast⟩ := hclock.init
        refine (hforward hclock).concat hpos fun now hnow => ?_
        rcases List.mem_append.mp (hfrom now hnow) with hnow | hnow
        · exact hlast now hnow
        · rw [show now = e.1.now by simpa using hnow]
    · obtain ⟨times, hreached, hfrom, hforward⟩ := ih
      exact ⟨times, hreached, fun now hnow => List.mem_append_left _ (hfrom now hnow),
        fun hclock => hforward hclock.init.1⟩

/-- Stored times tell the time, and in order. A number of milliseconds has a text exactly in the
years 1 to 9999, the text is read as the second that the milliseconds lie in, two texts are the same
only for one second, and from the year 1000 on the order of the texts is that of the seconds. So
under a clock that goes forward from 1970 the times of the history do not go down along its ids. -/
theorem Registry.stored_times_tell :
    (∀ m : Int, (∃ s, storedText m = .ok s) ↔
      (Reading.firstOf 1).seconds ≤ m / 1000 ∧ m / 1000 ≤ (Reading.lastOf 9999).seconds) ∧
    (∀ (m : Int) (s : String), storedText m = .ok s →
      ∃ r, Reading.ofText? s = some r ∧ r.Valid ∧ r.seconds = m / 1000) ∧
    (∀ (m n : Int) (s u : String), storedText m = .ok s → storedText n = .ok u →
      (s = u ↔ m / 1000 = n / 1000) ∧
      ((Reading.firstOf 1000).seconds ≤ m / 1000 → (Reading.firstOf 1000).seconds ≤ n / 1000 →
        (s < u ↔ m / 1000 < n / 1000))) ∧
    (∀ (times : List Instant) (s : Store), Store.Reached times s → Forward times →
      ∀ e ∈ s.history.rows, ∀ f ∈ s.history.rows, e.id ≤ f.id → e.recordedAt ≤ f.recordedAt) ∧
    ∀ (link : Link) (run : List (Environment × Command)), Forward (run.map (·.1.now)) →
      ∀ e ∈ (after { link := link } run).store.history.rows,
        ∀ f ∈ (after { link := link } run).store.history.rows,
          e.id ≤ f.id → e.recordedAt ≤ f.recordedAt := by
  refine ⟨fun m => exists_storedText_iff, fun m s => ofText?_storedText, fun m n s u hm hn => ?_,
    fun times s h hclock => h.recordedAt_le hclock, fun link run hclock => ?_⟩
  · exact ⟨storedText_inj hm hn, storedText_lt_iff hm hn⟩
  · obtain ⟨times, hreached, -, hforward⟩ := reached_after link run
    exact hreached.recordedAt_le (hforward hclock)

/-- A device is stored and deleted in two seconds, the second just before 1970, and the last
millisecond that has a text. -/
theorem Registry.stored_times_tell_two_seconds :
    let run := [
      (Sample.environment, Command.create "admin" [Sample.device "S00" "000" "VIN00000000000009"]),
      ({ Sample.environment with now := ⟨1700000001999⟩ }, Command.delete "000" none)]
    let rows := (after {} run).store.history.rows
    rows.map (·.recordedAt) = ["2023-11-14 22:13:20", "2023-11-14 22:13:21"] ∧
      (∀ e ∈ rows, ∀ f ∈ rows, e.id ≤ f.id → e.recordedAt ≤ f.recordedAt) ∧
      (∃ r, Reading.ofText? "1969-12-31 23:59:59" = some r ∧ r.Valid ∧ r.seconds = -1) ∧
      (∃ s, storedText 253402300799999 = .ok s) ∧ ¬∃ s, storedText 253402300800000 = .ok s := by
  intro run rows
  obtain ⟨hrange, hread, -, -, hrun⟩ := stored_times_tell
  have hbefore : storedText (-1) = .ok "1969-12-31 23:59:59" := by decide +kernel
  rw [Stamp.seconds_firstOf (by decide) (by decide), Stamp.seconds_lastOf] at hrange
  refine ⟨by decide +kernel, hrun {} run ⟨by decide +kernel, by decide +kernel⟩, ?_, ?_, ?_⟩
  · exact hread _ _ hbefore
  · exact (hrange _).mpr (by decide +kernel)
  · exact (hrange _).not.mpr (by decide +kernel)

end DeviceRegistry
