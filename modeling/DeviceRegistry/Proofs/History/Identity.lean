import DeviceRegistry.Proofs.History.Chronicle
import DeviceRegistry.Proofs.Store.References

/-!
# The identity of devices

An id is given once. The ids that batches answer increase along a whole run, and a device that was
deleted comes back no more than its id does with another device. So an id names one device, which is
stored during one part of the run, and what the history says under the id was said of that device
during that part.
-/

namespace DeviceRegistry

/-! ## Entries and the devices they are about -/

/-- A device is stored under the id. -/
def Store.Names (s : Store) (f : Int) : Prop :=
  ∃ d ∈ s.devices.rows, d.id = f

/-- An entry is about the device that is stored under its id. -/
def Store.IsAbout (s : Store) (h : HistoryRow) : Prop :=
  ∃ d, s.device? h.factoryId = some d ∧ h.Depicts h.action d

theorem Store.IsAbout.names {s : Store} {h : HistoryRow} (habout : s.IsAbout h) :
    s.Names h.factoryId := by
  obtain ⟨d, hd, -⟩ := habout
  exact ⟨d, mem_of_device? hd⟩

theorem HistoryRow.Depicts.isAbout {h : HistoryRow} {action : HistoryAction} {d : Device}
    (hd : h.Depicts action d) {s : Store} {id : Int} (found : s.device? id = some d) :
    s.IsAbout h := by
  obtain rfl := (Store.mem_of_device? found).2
  exact ⟨d, by rw [hd.device]; exact found, by rw [hd.action]; exact hd⟩

theorem Enters.isAbout {env : Environment} {r r' : Registry} {answer : Except Failure Answer}
    {c : Command} {entries : List HistoryRow} (h : Enters env r answer r' c entries)
    {e : HistoryRow} (he : e ∈ entries) : r.store.IsAbout e ∨ r'.store.IsAbout e := by
  cases h with
  | created rows new found depicted answered =>
    obtain ⟨i, hi, rfl⟩ := List.mem_iff_getElem.mp he
    have hdepicts := depicted.get hi (depicted.length_eq ▸ hi)
    exact .inr (hdepicts.isAbout (found _ (List.getElem_mem _)))
  | moved answered kept found depicted =>
    rw [List.mem_singleton.mp he]
    exact .inr (depicted.isAbout found)
  | deleted completed found rows depicted =>
    rw [List.mem_singleton.mp he]
    exact .inl (depicted.isAbout found)
  | refused answered same => cases he
  | kept incomplete same => cases he
  | silent unrecorded kept => cases he

/-! ## Ids that are gone -/

/-- The id was given, but no device is stored under it any more. -/
def Store.Gone (s : Store) (f : Int) : Prop :=
  f ≤ s.devices.lastId ∧ ¬s.Names f

theorem Effect.gone {env : Environment} {s s' : Store} {c : Command} (h : Effect env s c s')
    {f : Int} (hf : s.Gone f) : s'.Gone f := by
  obtain ⟨hgiven, hnone⟩ := hf
  refine ⟨Int.le_trans hgiven h.lastId_le, ?_⟩
  rintro ⟨e, he, rfl⟩
  cases h.descends he with
  | kept stored => exact hnone ⟨e, stored, rfl⟩
  | created =>
    have hnext : s.devices.nextId = s.devices.lastId + 1 := rfl
    have hgiven : s.devices.nextId ≤ s.devices.lastId := hgiven
    omega
  | moved stored => exact hnone ⟨_, stored, rfl⟩
  | replaced stored => exact hnone ⟨_, stored, rfl⟩
  | changed ready stored named => exact hnone ⟨_, stored, rfl⟩

namespace Registry

variable {r : Registry}

theorem gone_after (hn : r.store.Numbered) {f : Int} (hf : r.store.Gone f)
    (run : List (Environment × Command)) : (r.after run).store.Gone f :=
  (store_after_effects (P := fun s => s.Gone f) (A := fun _ => True)
    (fun _ _ _ _ _ h hs => h.gone hs) (fun _ _ => trivial) hn hf).2

/-! ## Ids that are answered -/

/-- The ids that a step answers for the devices it created. -/
def createdStep (env : Environment) (c : Command) (r : Registry) : List Int :=
  match c, (r.step env c).1 with
  | .create .., .ok (.created result) => result.created.map (·.id)
  | _, _ => []

/-- The ids that a run answers for the devices it created, in the order in which it does. -/
def createdIds (r : Registry) : List (Environment × Command) → List Int
  | [] => []
  | (env, c) :: run => r.createdStep env c ++ createdIds (r.step env c).2 run

theorem createdStep_increasing (hn : r.store.Numbered) (env : Environment) (c : Command) :
    (r.createdStep env c).Pairwise (· < ·) ∧
      ∀ id ∈ r.createdStep env c,
        r.store.devices.lastId < id ∧ id ≤ (r.step env c).2.store.devices.lastId := by
  unfold createdStep
  split
  · rename_i actor records result hanswer
    obtain ⟨entries, -, henters⟩ := adds hn env (.create actor records)
    have hafter : (r.step env (.create actor records)).2.store.Numbered :=
      numbered_after [(env, .create actor records)] hn
    cases henters with
    | silent unrecorded kept => cases unrecorded
    | @created _ _ stored _ rows new found depicted answered =>
      have hordered := hafter.devices.ordered
      rw [rows, List.pairwise_append] at hordered
      rw [answered result hanswer]
      refine ⟨List.pairwise_map.mpr hordered.2.1, fun id hid => ?_⟩
      obtain ⟨d, hd, rfl⟩ := List.mem_map.mp hid
      exact ⟨new d hd, (hafter.devices.given d (rows ▸ List.mem_append_right _ hd)).2⟩
  · exact ⟨.nil, nofun⟩

/-- A run answers new ids, and they increase along the run. -/
theorem createdIds_increasing (hn : r.store.Numbered) (run : List (Environment × Command)) :
    (r.createdIds run).Pairwise (· < ·) ∧
      ∀ id ∈ r.createdIds run, r.store.devices.lastId < id := by
  induction run generalizing r with
  | nil => exact ⟨.nil, nofun⟩
  | cons e run ih =>
    obtain ⟨env, c⟩ := e
    obtain ⟨hordered, hstep⟩ := createdStep_increasing hn env c
    obtain ⟨hlater, hnew⟩ := ih (numbered_after [(env, c)] hn)
    have hle : r.store.devices.lastId ≤ (r.step env c).2.store.devices.lastId :=
      lastId_le_after [(env, c)] hn
    refine ⟨List.pairwise_append.mpr ⟨hordered, hlater, fun a ha b hb => ?_⟩, fun id hid => ?_⟩
    · exact Int.lt_of_le_of_lt (hstep a ha).2 (hnew b hb)
    · rcases List.mem_append.mp hid with hid | hid
      · exact (hstep id hid).1
      · exact Int.lt_of_le_of_lt hle (hnew id hid)

/-! ## The life of a device -/

/-- A device is stored under an id from the end of one part of a run to the end of another, and
whatever the history says under the id was said of it in between. -/
structure Lives (r : Registry) (run : List (Environment × Command)) (f : Int)
    (first last : List (Environment × Command)) : Prop where
  ordered : first <+: last
  within : last <+: run
  stored : ∀ part, part <+: run →
    ((r.after part).store.Names f ↔ first <+: part ∧ part <+: last)
  history : ∀ h ∈ (r.after run).store.history.rows, h.factoryId = f →
    ∃ part, first <+: part ∧ part <+: last ∧ (r.after part).store.IsAbout h

/-- No device is ever stored under an id, and the history says nothing under it. -/
structure Unused (r : Registry) (run : List (Environment × Command)) (f : Int) : Prop where
  stored : ∀ part, part <+: run → ¬(r.after part).store.Names f
  history : ∀ h ∈ (r.after run).store.history.rows, h.factoryId ≠ f

section

variable {run : List (Environment × Command)} {e : Environment × Command} {f : Int}

theorem isAbout_of_step (hn : r.store.Numbered) {h : HistoryRow}
    (hh : h ∈ (r.after (run ++ [e])).store.history.rows) :
    h ∈ (r.after run).store.history.rows ∨ (r.after run).store.IsAbout h ∨
      (r.after (run ++ [e])).store.IsAbout h := by
  obtain ⟨entries, hhistory, henters⟩ := adds (numbered_after run hn) e.1 e.2
  rw [after_concat] at hh ⊢
  rw [hhistory] at hh
  exact (List.mem_append.mp hh).imp_right henters.isAbout

theorem not_concat_prefix {part : List (Environment × Command)} (h : part <+: run) :
    ¬run ++ [e] <+: part := by
  intro hlonger
  have hlength := (hlonger.trans h).length_le
  rw [List.length_append, List.length_singleton] at hlength
  omega

/-- A device is stored after a step only if it was stored before or is new. -/
theorem Lives.names_of_concat {first last : List (Environment × Command)}
    (h : r.Lives run f first last) (hn : r.store.Numbered)
    (hstored : (r.after (run ++ [e])).store.Names f) : (r.after run).store.Names f := by
  by_contra hnone
  obtain ⟨d, hd, hid⟩ := (h.stored last h.within).mpr ⟨h.ordered, List.prefix_refl _⟩
  have hgiven := ((numbered_after last hn).devices.given d hd).2
  obtain ⟨rest, rfl⟩ := h.within
  have hle := lastId_le_after rest (numbered_after last hn)
  rw [← after_append] at hle
  have hgone : (r.after (last ++ rest)).store.Gone f := ⟨by omega, hnone⟩
  rw [after_append] at hstored
  exact (gone_after (numbered_after _ hn) hgone [e]).2 hstored

theorem Lives.concat_of_names {first last : List (Environment × Command)}
    (h : r.Lives run f first last) (hn : r.store.Numbered)
    (hstored : (r.after (run ++ [e])).store.Names f) :
    r.Lives (run ++ [e]) f first (run ++ [e]) := by
  obtain ⟨hfirst, hlast⟩ := (h.stored run (List.prefix_refl _)).mp (h.names_of_concat hn hstored)
  obtain rfl := h.within.eq_of_length (Nat.le_antisymm h.within.length_le hlast.length_le)
  have hrun : last <+: last ++ [e] := List.prefix_append _ _
  refine ⟨hfirst.trans hrun, List.prefix_refl _, fun part hpart => ?_, fun a ha hid => ?_⟩
  · rcases List.prefix_concat_iff.mp hpart with rfl | hpart'
    · exact iff_of_true hstored ⟨hfirst.trans hrun, List.prefix_refl _⟩
    · rw [h.stored part hpart']
      exact and_congr_right fun _ => iff_of_true hpart' hpart
  · rcases isAbout_of_step hn ha with ha | habout | habout
    · obtain ⟨part, hpart, hpart', habout⟩ := h.history a ha hid
      exact ⟨part, hpart, hpart'.trans hrun, habout⟩
    · exact ⟨last, hfirst, hrun, habout⟩
    · exact ⟨last ++ [e], hfirst.trans hrun, List.prefix_refl _, habout⟩

theorem Lives.concat_of_not_names {first last : List (Environment × Command)}
    (h : r.Lives run f first last) (hn : r.store.Numbered)
    (hnone : ¬(r.after (run ++ [e])).store.Names f) : r.Lives (run ++ [e]) f first last := by
  refine ⟨h.ordered, h.within.trans (List.prefix_append _ _), fun part hpart => ?_,
    fun a ha hid => ?_⟩
  · rcases List.prefix_concat_iff.mp hpart with rfl | hpart
    · exact iff_of_false hnone fun ⟨_, hlast⟩ => not_concat_prefix h.within hlast
    · exact h.stored part hpart
  · rcases isAbout_of_step hn ha with ha | habout | habout
    · exact h.history a ha hid
    · obtain ⟨hfirst, hlast⟩ := (h.stored run (List.prefix_refl _)).mp (hid ▸ habout.names)
      exact ⟨run, hfirst, hlast, habout⟩
    · exact absurd (hid ▸ habout.names) hnone

theorem Unused.lives_of_names (h : r.Unused run f) (hn : r.store.Numbered)
    (hstored : (r.after (run ++ [e])).store.Names f) :
    r.Lives (run ++ [e]) f (run ++ [e]) (run ++ [e]) := by
  refine ⟨List.prefix_refl _, List.prefix_refl _, fun part hpart => ?_, fun a ha hid => ?_⟩
  · rcases List.prefix_concat_iff.mp hpart with rfl | hpart
    · exact iff_of_true hstored ⟨List.prefix_refl _, List.prefix_refl _⟩
    · exact iff_of_false (h.stored part hpart) fun ⟨hfirst, _⟩ => not_concat_prefix hpart hfirst
  · rcases isAbout_of_step hn ha with ha | habout | habout
    · exact absurd hid (h.history a ha)
    · exact absurd (hid ▸ habout.names) (h.stored run (List.prefix_refl _))
    · exact ⟨_, List.prefix_refl _, List.prefix_refl _, habout⟩

theorem Unused.concat (h : r.Unused run f) (hn : r.store.Numbered)
    (hnone : ¬(r.after (run ++ [e])).store.Names f) : r.Unused (run ++ [e]) f := by
  refine ⟨fun part hpart => ?_, fun a ha hid => ?_⟩
  · rcases List.prefix_concat_iff.mp hpart with rfl | hpart
    · exact hnone
    · exact h.stored part hpart
  · rcases isAbout_of_step hn ha with ha | habout | habout
    · exact h.history a ha hid
    · exact h.stored run (List.prefix_refl _) (hid ▸ habout.names)
    · exact hnone (hid ▸ habout.names)

/-- An id is never used, or one device lives under it. -/
theorem unused_or_lives (hn : r.store.Numbered) (hempty : r.store.history.rows = [])
    (run : List (Environment × Command)) (f : Int) :
    r.Unused run f ∨ ∃ first last, r.Lives run f first last := by
  induction run using List.reverseRecOn with
  | nil =>
    have hhistory : (r.after []).store.history.rows = [] := hempty
    by_cases hstored : (r.after []).store.Names f
    · refine .inr ⟨[], [], ⟨List.prefix_refl _, List.prefix_refl _, fun part hpart => ?_, ?_⟩⟩
      · rw [List.prefix_nil.mp hpart]
        exact iff_of_true hstored ⟨List.prefix_refl _, List.prefix_refl _⟩
      · simp [hhistory]
    · refine .inl ⟨fun part hpart => ?_, by simp [hhistory]⟩
      rw [List.prefix_nil.mp hpart]
      exact hstored
  | append_singleton run e ih =>
    by_cases hstored : (r.after (run ++ [e])).store.Names f
    · rcases ih with hunused | ⟨first, last, hlives⟩
      · exact .inr ⟨_, _, hunused.lives_of_names hn hstored⟩
      · exact .inr ⟨_, _, hlives.concat_of_names hn hstored⟩
    · rcases ih with hunused | ⟨first, last, hlives⟩
      · exact .inl (hunused.concat hn hstored)
      · exact .inr ⟨_, _, hlives.concat_of_not_names hn hstored⟩

end

/-- An id is the name of one device. In every mode and whatever the vehicle service answers, numbers
and associations refer to stored devices and no device has two numbers. The ids that batches answer
increase over the whole run, and are greater than all ids of devices stored before. Every id of the
history was once that of a stored device; a device is stored under it during one part of the run,
and the history under it is about that device. When it is deleted its number goes as well, and then
is used only if another device has it. -/
theorem identity_after (link : Link) (run : List (Environment × Command)) :
    let start : Registry := { link := link }
    let s := (start.after run).store
    (s.vins.rows.map (·.device)).Nodup ∧
      (∀ v ∈ s.vins.rows, s.Names v.device) ∧
      (∀ a ∈ s.associations.rows, s.Names a.device) ∧
      (start.createdIds run).Pairwise (· < ·) ∧
      (∀ earlier later, earlier ++ later = run →
        ∀ d ∈ (start.after earlier).store.devices.rows,
          ∀ id ∈ (start.after earlier).createdIds later, d.id < id) ∧
      ∀ f, start.Unused run f ∨ ∃ first last, start.Lives run f first last ∧
        (¬s.Names f → s.vin? f = none ∧
          ∀ vin, s.hasVin vin = true ↔ ∃ d ∈ s.devices.rows, d.id ≠ f ∧ s.vin? d.id = some vin) := by
  intro start s
  have hn : start.store.Numbered := Store.numbered_empty
  have hlinked : s.Linked := linked_after link run
  refine ⟨hlinked.vins.nodup, hlinked.vins.stored, hlinked.associations,
    (createdIds_increasing hn run).1, ?_, fun f => (unused_or_lives hn rfl run f).imp_right ?_⟩
  · intro earlier later _ d hd id hid
    have hearlier := numbered_after earlier hn
    exact Int.lt_of_le_of_lt (hearlier.devices.given d hd).2
      ((createdIds_increasing hearlier later).2 id hid)
  · rintro ⟨first, last, hlives⟩
    refine ⟨first, last, hlives, fun hgone => ⟨hlinked.vins.vin?_eq_none hgone, fun vin => ?_⟩⟩
    rw [hlinked.vins.hasVin_iff]
    refine exists_congr fun d => and_congr_right fun hd => ?_
    exact (and_iff_right fun hid => hgone ⟨d, hd, hid⟩).symm

/-- The newest device is deleted before another one is created, which gets a new id and may have its
number. -/
theorem identity_after_deletion :
    let env := Sample.synchronised
    let run := [
      (env, Command.create "admin" [Sample.device "S12" "123" "VIN00000000000001",
        Sample.device "S34" "456" "VIN00000000000002"]),
      (env, Command.delete "456" none),
      (env, Command.create "admin" [Sample.device "S56" "789" "VIN00000000000002"])]
    createdIds {} run = [1, 2, 3] ∧ (createdIds {} run).Pairwise (· < ·) ∧
      (after {} run).store.history.rows.map (·.factoryId) = [1, 2, 2, 3] ∧
      (after {} run).store.vin? 2 = none ∧ (after {} run).store.hasVin "VIN00000000000002" = true ∧
      ∃ d ∈ (after {} run).store.devices.rows,
        d.id ≠ 2 ∧ (after {} run).store.vin? d.id = some "VIN00000000000002" := by
  intro env run
  have hids : createdIds {} run = [1, 2, 3] := by decide +kernel
  have hhistory : (after {} run).store.history.rows.map (·.factoryId) = [1, 2, 2, 3] := by
    decide +kernel
  have hgone : ¬(after {} run).store.Names 2 := by
    unfold Store.Names
    decide +kernel
  have hused : (after {} run).store.hasVin "VIN00000000000002" = true := by decide +kernel
  obtain ⟨-, -, -, hordered, -, hlives⟩ := identity_after {} run
  rcases hlives 2 with hunused | ⟨first, last, -, hdeleted⟩
  · have hentry : ∃ h ∈ (after {} run).store.history.rows, h.factoryId = 2 := by decide +kernel
    obtain ⟨h, hh, hid⟩ := hentry
    exact absurd hid (hunused.history h hh)
  · obtain ⟨hvin, howner⟩ := hdeleted hgone
    have howned := (howner "VIN00000000000002").mp hused
    exact ⟨hids, hordered, hhistory, hvin, hused, howned⟩

end Registry

end DeviceRegistry
