import DeviceRegistry.Proofs.Listing.Refusals
import DeviceRegistry.Proofs.Store.Tables

/-!
# Devices by exact values

A filter by exact values checks its values and then selects the devices that have one of them in
every restricted column (`exactly_eq`). Which values a list holds matters, not how often or in which
order, except that of several bad values the first is the one that is refused (`exactly_congr`). A
filter of several columns selects what its columns select one by one (`mem_results_iff`).
-/

namespace DeviceRegistry

namespace Listing

/-! ## What is selected -/

/-- The devices that have one of the values in every restricted column. -/
def selected (f : DeviceFilter) (s : Store) : List Device :=
  s.devices.rows.filter fun d =>
    (restricted f).all fun c => (d.profile.get c).any fun v => (f.allowed c).contains (.whole v)

/-- The values of a filter are no more than a statement takes. -/
def Fits (f : DeviceFilter) : Prop :=
  ((restricted f).flatMap f.allowed).length ≤ maxValues

instance (f : DeviceFilter) : Decidable (Fits f) :=
  inferInstanceAs (Decidable (_ ≤ maxValues))

variable {f g : DeviceFilter} {s : Store}

theorem mem_restricted {c : TextColumn} :
    c ∈ restricted f ↔ c ∈ filterColumns ∧ f.allowed c ≠ [] := by
  simp [restricted]

theorem mem_selected {d : Device} : d ∈ selected f s ↔
    d ∈ s.devices.rows ∧
      ∀ c ∈ restricted f, ∃ v, d.profile.get c = some v ∧ .whole v ∈ f.allowed c := by
  simp [selected, Option.any_eq_true]

/-- Where a function gives a value for the good members and the same error for the others, so does
its run over a list. -/
theorem mapM_ite {ε α β : Type} {f : α → Except ε β} {p : α → Bool} {g : α → β} {e : ε}
    (h : ∀ a, f a = if p a then .ok (g a) else .error e) (l : List α) :
    l.mapM f = if l.all p then .ok (l.map g) else .error e := by
  induction l with
  | nil => rfl
  | cons a l ih =>
    rw [List.mapM_cons, h, ih, List.all_cons]
    cases p a
    · rfl
    · cases l.all p <;> rfl

theorem bindText_eq (t : RawText) :
    Store.bindText t = if t.isWhole then .ok t.shown else .error (.storage .brokenText) := by
  cases t <;> rfl

/-- All values of the restricted columns are whole. -/
def allWhole (f : DeviceFilter) : Bool :=
  (restricted f).all fun c => (f.allowed c).all (·.isWhole)

theorem bindAllowed_eq (h : Fits f) : bindAllowed f =
    if allWhole f then .ok ((restricted f).map fun c => (c, (f.allowed c).map (·.shown)))
    else .error (.storage .brokenText) := by
  unfold bindAllowed
  rw [if_neg (Nat.not_lt.mpr h)]
  refine mapM_ite (fun c => ?_) _
  rw [mapM_ite bindText_eq]
  split <;> rfl

theorem satisfies_eq (h : allWhole f = true) (d : Device) :
    satisfies ((restricted f).map fun c => (c, (f.allowed c).map (·.shown))) d =
      (restricted f).all fun c =>
        (d.profile.get c).any fun v => (f.allowed c).contains (.whole v) := by
  unfold satisfies
  rw [List.all_map, Bool.eq_iff_iff, List.all_eq_true, List.all_eq_true]
  refine forall₂_congr fun c hc => ?_
  have hwhole := List.all_eq_true.mp (List.all_eq_true.mp h c hc)
  have hvalue : ∀ v, v ∈ (f.allowed c).map (·.shown) ↔ .whole v ∈ f.allowed c := by
    intro v
    rw [List.mem_map]
    constructor
    · rintro ⟨t, ht, rfl⟩
      cases t with
      | whole v => exact ht
      | broken codes => cases hwhole _ ht
    · exact fun hv => ⟨_, hv, rfl⟩
  show Option.any ((f.allowed c).map (·.shown)).contains (d.profile.get c) = true ↔ _
  simp only [Option.any_eq_true, List.contains_iff_mem, hvalue]

/-- What a filter answers after its checks. -/
def answer (f : DeviceFilter) (s : Store) : Except Failure (List DeviceRecord) :=
  if restricted f = [] then .error (.rejected .filterEmpty)
  else if allWhole f then
    if selected f s = [] then .error (.rejected .filterNotFound)
    else .ok ((selected f s).map (·.record))
  else .error (.storage .brokenText)

/-- A filter checks its IMEIs and its serial numbers and answers then. -/
theorem exactly_eq (h : Fits f) : exactly f s = (do
    checked ((f.allowed .imei).forM fun v => Identifier.checkImei (some v.shown))
    checked ((f.allowed .serialNumber).forM fun v => Identifier.checkSerialNumber (some v.shown))
    answer f s) := by
  have hanswer : answer f s = (do
      checked (require (!(restricted f).isEmpty) .filterEmpty)
      let allowed ← bindAllowed f
      let found := s.devices.rows.filter (satisfies allowed)
      checked (require (!found.isEmpty) .filterNotFound)
      return found.map (·.record)) := by
    unfold answer
    rw [bindAllowed_eq h]
    by_cases hnone : restricted f = []
    · rw [if_pos hnone, hnone]
      rfl
    · have hcheck : require (!(restricted f).isEmpty) .filterEmpty = .ok () :=
        require_eq_ok.mpr (by simpa using hnone)
      rw [if_neg hnone, hcheck]
      cases hwhole : allWhole f with
      | false => rfl
      | true =>
        have hfound : s.devices.rows.filter (satisfies ((restricted f).map fun c =>
            (c, (f.allowed c).map (·.shown)))) = selected f s :=
          List.filter_congr fun d _ => satisfies_eq hwhole d
        show _ = (checked (require (!(s.devices.rows.filter (satisfies _)).isEmpty)
          .filterNotFound) >>= fun _ => pure ((s.devices.rows.filter (satisfies _)).map _))
        rw [hfound]
        cases selected f s <;> rfl
  rw [hanswer]
  rfl

/-! ## Values of other numbers and in other orders -/

/-- Two filters list the same values, perhaps in other orders and numbers. -/
def SameValues (f g : DeviceFilter) : Prop :=
  ∀ c ∈ filterColumns, ∀ v, v ∈ f.allowed c ↔ v ∈ g.allowed c

theorem SameValues.restricted_eq (h : SameValues f g) : restricted f = restricted g := by
  refine List.filter_congr fun c hc => ?_
  rw [Bool.eq_iff_iff, Bool.not_eq_true', Bool.not_eq_true', List.isEmpty_eq_false_iff_exists_mem,
    List.isEmpty_eq_false_iff_exists_mem]
  exact exists_congr (h c hc)

theorem SameValues.answer_eq (h : SameValues f g) : answer f s = answer g s := by
  have hlisted : ∀ c ∈ restricted f, ∀ v, v ∈ f.allowed c ↔ v ∈ g.allowed c := fun c hc =>
    h c (mem_restricted.mp hc).1
  have hwhole : allWhole f = allWhole g := by
    unfold allWhole
    rw [← h.restricted_eq, Bool.eq_iff_iff, List.all_eq_true, List.all_eq_true]
    refine forall₂_congr fun c hc => ?_
    rw [List.all_eq_true, List.all_eq_true]
    exact forall_congr' fun v => by rw [hlisted c hc v]
  have hselected : selected f s = selected g s := by
    refine List.filter_congr fun d _ => ?_
    rw [← h.restricted_eq, Bool.eq_iff_iff, List.all_eq_true, List.all_eq_true]
    refine forall₂_congr fun c hc => ?_
    simp only [Option.any_eq_true, List.contains_iff_mem, hlisted c hc]
  rw [answer, answer, h.restricted_eq, hwhole, hselected]

/-- The causes for which IMEIs are refused, and those for which serial numbers are. -/
def identifierCauses : List (List Rejection) :=
  [[.imeiTooShort, .imeiNotNumeric], [.serialNumberTooShort, .serialNumberNotAlphanumeric]]

/-- Both results refuse an IMEI, or both refuse a serial number, perhaps not for the same cause. -/
def RefusedAlike {α : Type} (x y : Except Failure α) : Prop :=
  ∃ causes ∈ identifierCauses, ∃ c ∈ causes, ∃ d ∈ causes,
    x = .error (.rejected c) ∧ y = .error (.rejected d)

theorem forM_eq_ok {α : Type} {check : α → Check} {l : List α} :
    l.forM check = .ok () ↔ ∀ v ∈ l, check v = .ok () := by
  induction l with
  | nil => exact ⟨fun _ _ => nofun, fun _ => rfl⟩
  | cons v l ih =>
    show (check v >>= fun _ => l.forM check) = .ok () ↔ _
    rw [bind_eq_ok, List.forall_mem_cons, ← ih]
    exact ⟨fun ⟨_, hv, hl⟩ => ⟨hv, hl⟩, fun ⟨hv, hl⟩ => ⟨(), hv, hl⟩⟩

theorem failsAs_forM {P : Rejection → Prop} {check : RawText → Check}
    (h : ∀ v, FailsAs P (check v)) (l : List RawText) : FailsAs P (l.forM check) := by
  induction l with
  | nil => exact .ok _
  | cons v l ih => exact (h v).bind fun _ => ih

theorem failsAs_checkImei (value : Option String) :
    FailsAs (· ∈ [.imeiTooShort, .imeiNotNumeric]) (Identifier.checkImei value) := by
  unfold Identifier.checkImei Identifier.ifFilled
  split
  · exact .bind (.require _ (by simp)) fun _ => .require _ (by simp)
  · exact .ok _

theorem failsAs_checkSerialNumber (value : Option String) :
    FailsAs (· ∈ [.serialNumberTooShort, .serialNumberNotAlphanumeric])
      (Identifier.checkSerialNumber value) := by
  unfold Identifier.checkSerialNumber Identifier.ifFilled
  split
  · exact .bind (.require _ (by simp)) fun _ => .require _ (by simp)
  · exact .ok _

/-- Two lists of the same values both pass a check of identifiers, or an identifier of each is
refused. -/
theorem checked_forM_agree {check : RawText → Check} {causes : List Rejection}
    (hcauses : causes ∈ identifierCauses) (hcheck : ∀ v, FailsAs (· ∈ causes) (check v))
    {l m : List RawText} (h : ∀ v, v ∈ l ↔ v ∈ m) {α : Type} {next next' : Except Failure α}
    (hnext : next = next' ∨ RefusedAlike next next') :
    (checked (l.forM check) >>= fun _ => next) = (checked (m.forM check) >>= fun _ => next') ∨
      RefusedAlike (checked (l.forM check) >>= fun _ => next)
        (checked (m.forM check) >>= fun _ => next') := by
  have hpass : l.forM check = .ok () ↔ m.forM check = .ok () := by
    rw [forM_eq_ok, forM_eq_ok]
    exact forall_congr' fun v => by rw [h v]
  cases hl : l.forM check with
  | ok u =>
    rw [hpass.mp hl]
    exact hnext
  | error e =>
    cases hm : m.forM check with
    | ok u =>
      rw [hpass.mpr hm] at hl
      cases hl
    | error e' =>
      exact .inr ⟨causes, hcauses, e, failsAs_forM hcheck l e hl, e', failsAs_forM hcheck m e' hm,
        rfl, rfl⟩

/-- Filters that list the same values answer the same, or both refuse an identifier. -/
theorem exactly_congr (h : SameValues f g) (hf : Fits f) (hg : Fits g) :
    exactly f s = exactly g s ∨ RefusedAlike (exactly f s) (exactly g s) := by
  rw [exactly_eq hf, exactly_eq hg]
  refine checked_forM_agree (.head _) (fun v => failsAs_checkImei _) (h .imei (by decide)) ?_
  exact checked_forM_agree (.tail _ (.head _)) (fun v => failsAs_checkSerialNumber _)
    (h .serialNumber (by decide)) (.inl h.answer_eq)

/-! ## Columns one by one -/

/-- The filter of one column alone. -/
def only (f : DeviceFilter) (c : TextColumn) : DeviceFilter :=
  { allowed := fun other => if other = c then f.allowed c else [] }

/-- The records that a filter lists; none if it fails. -/
def results (f : DeviceFilter) (s : Store) : List DeviceRecord :=
  match exactly f s with
  | .ok records => records
  | .error _ => []

/-- A value that no check of its column refuses, and that is whole. -/
def Good (c : TextColumn) (v : RawText) : Prop :=
  v.isWhole = true ∧ (c = .imei → Identifier.checkImei (some v.shown) = .ok ()) ∧
    (c = .serialNumber → Identifier.checkSerialNumber (some v.shown) = .ok ())

/-- Every value of a filter is good where it stands. -/
def AllGood (f : DeviceFilter) : Prop :=
  ∀ c ∈ restricted f, ∀ v ∈ f.allowed c, Good c v

theorem exactly_of_good (h : Fits f) (hsome : restricted f ≠ []) (hgood : AllGood f) :
    exactly f s = if selected f s = [] then .error (.rejected .filterNotFound)
      else .ok ((selected f s).map (·.record)) := by
  have hlisted : ∀ {c v}, c ∈ filterColumns → v ∈ f.allowed c → Good c v := fun hc hv =>
    hgood _ (mem_restricted.mpr ⟨hc, List.ne_nil_of_mem hv⟩) _ hv
  have himei : (f.allowed .imei).forM (fun v => Identifier.checkImei (some v.shown)) = .ok () :=
    forM_eq_ok.mpr fun v hv => (hlisted (by decide) hv).2.1 rfl
  have hserial : (f.allowed .serialNumber).forM
      (fun v => Identifier.checkSerialNumber (some v.shown)) = .ok () :=
    forM_eq_ok.mpr fun v hv => (hlisted (by decide) hv).2.2 rfl
  have hwhole : allWhole f = true :=
    List.all_eq_true.mpr fun c hc => List.all_eq_true.mpr fun v hv => (hgood c hc v hv).1
  rw [exactly_eq h, himei, hserial]
  show answer f s = _
  rw [answer, if_neg hsome, if_pos hwhole]

theorem good_of_exactly (h : Fits f) {records : List DeviceRecord}
    (hok : exactly f s = .ok records) : restricted f ≠ [] ∧ AllGood f := by
  rw [exactly_eq h] at hok
  simp only [bind_eq_ok, checked_eq_ok] at hok
  obtain ⟨⟨⟩, himei, ⟨⟩, hserial, hanswer⟩ := hok
  unfold answer at hanswer
  split at hanswer
  · cases hanswer
  · next hsome =>
    split at hanswer
    · next hwhole =>
      refine ⟨hsome, fun c hc v hv => ⟨?_, ?_, ?_⟩⟩
      · exact List.all_eq_true.mp (List.all_eq_true.mp hwhole c hc) v hv
      · rintro rfl
        exact forM_eq_ok.mp himei v hv
      · rintro rfl
        exact forM_eq_ok.mp hserial v hv
    · cases hanswer

theorem results_of_good (h : Fits f) (hsome : restricted f ≠ []) (hgood : AllGood f) :
    results f s = (selected f s).map (·.record) := by
  rw [results, exactly_of_good h hsome hgood]
  split
  · next hok =>
    split at hok
    · cases hok
    · cases hok
      rfl
  · next hfailed =>
    split at hfailed
    · next hnone => rw [hnone, List.map_nil]
    · cases hfailed

theorem results_of_bad (h : Fits f) (hbad : ¬(restricted f ≠ [] ∧ AllGood f)) :
    results f s = [] := by
  unfold results
  cases hexactly : exactly f s with
  | ok records => exact absurd (good_of_exactly h hexactly) hbad
  | error e => rfl

theorem restricted_only {c : TextColumn} (hc : c ∈ restricted f) : restricted (only f c) = [c] := by
  obtain ⟨hlisted, hne⟩ := mem_restricted.mp hc
  have hone : ∀ c ∈ filterColumns, filterColumns.filter (· == c) = [c] := by decide
  rw [← hone c hlisted]
  refine List.filter_congr fun other _ => ?_
  by_cases h : other = c <;> simp [only, h, hne]

theorem allowed_only (f : DeviceFilter) (c : TextColumn) : (only f c).allowed c = f.allowed c :=
  if_pos rfl

theorem fits_only (h : Fits f) {c : TextColumn} (hc : c ∈ restricted f) : Fits (only f c) := by
  unfold Fits at h ⊢
  rw [restricted_only hc, List.flatMap_singleton, allowed_only]
  rw [List.flatMap_def] at h
  exact (List.sublist_flatten_of_mem (List.mem_map_of_mem hc)).length_le.trans h

theorem allGood_only {c : TextColumn} (hc : c ∈ restricted f) :
    AllGood (only f c) ↔ ∀ v ∈ f.allowed c, Good c v := by
  unfold AllGood
  simp only [restricted_only hc, List.mem_singleton, forall_eq, allowed_only]

theorem mem_selected_iff (hsome : restricted f ≠ []) {d : Device} :
    d ∈ selected f s ↔ ∀ c ∈ restricted f, d ∈ selected (only f c) s := by
  obtain ⟨first, hfirst⟩ := List.exists_mem_of_ne_nil _ hsome
  have honly : ∀ c ∈ restricted f, d ∈ selected (only f c) s ↔ d ∈ s.devices.rows ∧
      ∃ v, d.profile.get c = some v ∧ .whole v ∈ f.allowed c := by
    intro c hc
    simp only [mem_selected, restricted_only hc, List.mem_singleton, forall_eq, allowed_only]
  rw [mem_selected]
  constructor
  · rintro ⟨hd, hvalues⟩ c hc
    exact (honly c hc).mpr ⟨hd, hvalues c hc⟩
  · intro hall
    exact ⟨((honly first hfirst).mp (hall first hfirst)).1,
      fun c hc => ((honly c hc).mp (hall c hc)).2⟩

theorem mem_map_record_iff (hn : s.Numbered) {d : Device} (hd : d ∈ s.devices.rows) :
    d.record ∈ (selected f s).map (·.record) ↔ d ∈ selected f s := by
  constructor
  · intro h
    obtain ⟨e, he, hrecord⟩ := List.mem_map.mp h
    have hid : e.id = d.id := congrArg DeviceRecord.id hrecord
    rwa [← hn.devices.eq_of_id (mem_selected.mp he).1 hd hid]
  · exact List.mem_map_of_mem

theorem mem_results_iff (hn : s.Numbered) (h : Fits f) (hsome : restricted f ≠ [])
    {record : DeviceRecord} :
    record ∈ results f s ↔ ∀ c ∈ restricted f, record ∈ results (only f c) s := by
  obtain ⟨first, hfirst⟩ := List.exists_mem_of_ne_nil _ hsome
  have honly : ∀ c ∈ restricted f, restricted (only f c) ≠ [] := fun c hc => by
    rw [restricted_only hc]
    exact List.cons_ne_nil _ _
  by_cases hgood : AllGood f
  · have hresults : ∀ c ∈ restricted f, results (only f c) s =
        (selected (only f c) s).map (·.record) := fun c hc =>
      results_of_good (fits_only h hc) (honly c hc) ((allGood_only hc).mpr (hgood c hc))
    rw [results_of_good h hsome hgood]
    constructor
    · intro hrecord c hc
      obtain ⟨d, hd, rfl⟩ := List.mem_map.mp hrecord
      rw [hresults c hc]
      exact List.mem_map_of_mem ((mem_selected_iff hsome).mp hd c hc)
    · intro hall
      have hrecord := hall first hfirst
      rw [hresults first hfirst] at hrecord
      obtain ⟨d, hd, rfl⟩ := List.mem_map.mp hrecord
      have hstored := (mem_selected.mp hd).1
      refine List.mem_map_of_mem ((mem_selected_iff hsome).mpr fun c hc => ?_)
      exact (mem_map_record_iff hn hstored).mp (hresults c hc ▸ hall c hc)
  · rw [results_of_bad h fun hall => hgood hall.2]
    refine iff_of_false List.not_mem_nil fun hall => hgood fun c hc => ?_
    -- A column with a bad value lists nothing alone.
    by_contra hbad
    have hlisted := hall c hc
    rw [results_of_bad (fits_only h hc) fun halone => hbad ((allGood_only hc).mp halone.2)]
      at hlisted
    cases hlisted

theorem results_ordered (hn : s.Numbered) (h : Fits f) :
    (results f s).Pairwise fun a b => a.id < b.id := by
  by_cases hgood : restricted f ≠ [] ∧ AllGood f
  · rw [results_of_good h hgood.1 hgood.2]
    exact List.pairwise_map.mpr (hn.devices.ordered.sublist List.filter_sublist)
  · rw [results_of_bad h hgood]
    exact .nil

end Listing

end DeviceRegistry
