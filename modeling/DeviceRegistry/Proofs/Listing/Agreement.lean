import DeviceRegistry.Proofs.Listing.Details
import DeviceRegistry.Proofs.Listing.Exact

/-!
# How the listings agree

Three listings read the devices: by a query, by one identifier and by exact values. Without filters
the first two show the same devices in the same order (`agrees_devices_details`), and the last two
find the same devices by an identifier that both take (`found_alike`).
-/

namespace DeviceRegistry

namespace Sorting

variable {α β : Type} {cell : α → Column → Cell} {rows : List α}

theorem sort_of_ordered {s : Sorting}
    (h : rows.Pairwise fun a b => s.le (cell a s.column) (cell b s.column) = true) :
    s.sort cell rows = rows :=
  List.mergeSort_of_pairwise h

theorem sort_map (s : Sorting) {f : α → β} {cell' : β → Column → Cell}
    (h : ∀ a, cell' (f a) s.column = cell a s.column) :
    s.sort cell' (rows.map f) = (s.sort cell rows).map f := by
  unfold sort
  rw [List.map_mergeSort]
  intro a _ b _
  rw [h, h]

end Sorting

open Listing

/-! ## Devices without filters, and details without an identifier -/

/-- A request for devices looks for nothing and asks for details, of the same page and in the same
order as a request for details. -/
structure Params.AsksAlike (params : Params) (r : PageRequest) : Prop where
  unfiltered : ∀ word ∈ ["containslikefields", "containslikevalues", "rangefields", "rangevalues"],
    Text.filled? (params.value? word) = none
  details : ∃ word, params.value? "isdetailsrequired" = some word ∧
    Text.sameWord "true" word = true
  sortBy : sortParam? params = r.sortBy
  order : params.value? "sortingorder" = r.order
  page : params.value? "page" = r.page
  size : params.value? "size" = r.size

/-- Two pages show the same: the same totals, and the same ids in the same order. -/
structure DevicePage.Agrees (a b : DevicePage) : Prop where
  total : a.total = b.total
  stateCount : a.stateCount = b.stateCount
  ids : a.items.map (·.id) = b.items.map (·.id)

namespace Listing

/-- A value that passes a check passes it for another cause, before what follows. -/
theorem ifFilled_passes {α : Type} {value : Option String} {passes : String → Bool}
    {cause other : Rejection}
    (h : (match Text.filled? value with
      | some s => require (passes s) cause
      | none => .ok ()) = .ok ()) (next : Except Rejection α) :
    (match Text.filled? value with
      | some s => require (passes s) other >>= fun _ => next
      | none => next) = next := by
  cases hvalue : Text.filled? value with
  | none => rfl
  | some s =>
    rw [hvalue] at h
    have hpasses : require (passes s) other = .ok () := require_eq_ok.mpr (require_eq_ok.mp h)
    dsimp only
    rw [hpasses]
    rfl

theorem readSwitches_of_checkDetailsSorting {sortBy order : Option String} {word : String}
    (h : checkDetailsSorting false sortBy order = .ok ())
    (hword : Text.sameWord "true" word = true) :
    readSwitches sortBy order (some word) = .ok true := by
  obtain ⟨_, hfield, horder⟩ := bind_eq_ok.mp h
  have hfilled : Text.filled? (some word) = some word := by
    refine Text.filled?_eq_some.mpr ⟨rfl, ?_⟩
    rw [← Bool.not_eq_true, String.isEmpty_iff]
    rintro rfl
    exact absurd hword (by decide +kernel)
  unfold readSwitches
  refine (ifFilled_passes hfield _).trans ((ifFilled_passes horder _).trans ?_)
  rw [hfilled]
  dsimp only
  rw [hword]
  rfl

theorem splitList_eq_nil {value : Option String} (h : Text.filled? value = none) :
    splitList value = [] := by
  rw [splitList, h]

end Listing

/-- A request that asks alike is read as a query without filters, for the same page. -/
theorem Params.AsksAlike.ofRequest {params : Params} {r : PageRequest} (h : params.AsksAlike r)
    (hsorting : checkDetailsSorting false r.sortBy r.order = .ok ()) {k size : Nat}
    (hpage : resolvePage r.page = .ok k) (hsize : resolveSize r.size = .ok size) :
    ∃ q, Query.ofRequest params = .ok q ∧ q.contains = [] ∧ q.ranges = [] ∧ q.details = true ∧
      q.page = k ∧ q.size = size := by
  obtain ⟨word, hdetails, hword⟩ := h.details
  have hlist : ∀ word ∈ ["containslikefields", "containslikevalues", "rangefields", "rangevalues"],
      splitList (params.value? word) = [] := fun word hw => splitList_eq_nil (h.unfiltered word hw)
  unfold Query.ofRequest
  simp only [bind_eq_ok, checked_eq_ok]
  refine ⟨_, ⟨true, ?_, (), ?_, (), ?_, (), ?_, k, ?_, size, ?_, rfl⟩, ?_, ?_, rfl, rfl, rfl⟩
  · rw [h.sortBy, h.order, hdetails]
    exact readSwitches_of_checkDetailsSorting hsorting hword
  · rw [hlist _ (by simp), hlist _ (by simp)]
    rfl
  · rw [hlist _ (by simp), hlist _ (by simp)]
    rfl
  · rw [hlist _ (by simp), hlist _ (by simp)]
    rfl
  · rw [h.page, hpage]
  · rw [h.size, hsize]
  · show containsFilters _ _ = []
    rw [hlist _ (by simp)]
    rfl
  · show rangeFilters _ _ = []
    rw [hlist _ (by simp)]
    rfl

namespace Listing

variable {s : Store}

theorem ids_detailRecords_none (r : PageRequest) (s : Store) :
    (detailRecords none r s).map (·.id) =
      ((Sorting.ofRequest detailsSortFields r.sortBy r.order).sort Device.cell s.devices.rows).map
        (·.id) := by
  -- A device has no head unit of its own, and its row has none here.
  have hcells : ∀ c (d : Device),
      DetailRow.cell { device := d, vin := s.vin? d.id, headUnit := none } c = d.cell c := by
    intro c d
    cases c <;> rfl
  show (((Sorting.ofRequest detailsSortFields r.sortBy r.order).sort DetailRow.cell
    (s.devices.rows.map _)).map _).map _ = _
  rw [Sorting.sort_map _ fun d => hcells _ d, List.map_map, List.map_map]
  rfl

/-- Without filters and without an identifier the same devices are listed in the same order. -/
theorem agrees_devices_details {params : Params} {r : PageRequest} (h : params.AsksAlike r)
    (hsorting : checkDetailsSorting false r.sortBy r.order = .ok ()) {k size : Nat}
    (hpage : resolvePage r.page = .ok k) (hsize : resolveSize r.size = .ok size) :
    ∃ a b, devices params s = .ok a ∧ details {} r s = .ok b ∧ a.Agrees b := by
  obtain ⟨q, hq, hcontains, hranges, hdetails, rfl, rfl⟩ := h.ofRequest hsorting hpage hsize
  have hconditions : q.conditions = [] := by rw [Query.conditions, hcontains, hranges]; rfl
  have hmatching : matching q s = s.devices.rows := by
    unfold matching
    rw [hconditions]
    exact List.filter_true _
  have hdevices : devices params s = .ok (page q (matching q s)) := by
    refine devices_eq_ok.mpr ⟨q, hq, ?_, checkFound_eq_ok.mpr fun _ => ⟨hcontains, hranges⟩, rfl⟩
    rw [hconditions]
    exact checkConditions_eq_ok.mpr ⟨Nat.zero_le _, fun _ _ => rfl⟩
  have hsingle : details {} r s = .ok (detailsPage none r q.page q.size s) := by
    have hadmits : AdmissibleDetails {} none r := ⟨rfl, hsorting⟩
    have hasks : r.AsksPage q.size q.page r := ⟨rfl, rfl, hpage, hsize⟩
    rw [details_eq hadmits hasks, if_neg (by simp)]
  refine ⟨_, _, hdevices, hsingle, ?_, ?_, ?_⟩
  · simp [page, detailsPage, detailRows, deviceRows, hmatching]
  · simp only [page, detailsPage, detailRows, deviceRows, hmatching, List.map_map]
    rfl
  · have hsame := (Query.reads_of_ofRequest hq).sorting_eq
    rw [h.sortBy, h.order] at hsame
    rw [items_page hdetails, hmatching, hsame, detailsPage, ← slice_map, ← slice_map,
      ids_detailRecords_none, List.map_map]
    rfl

/-! ## One identifier, and one exact value -/

/-- The column of an identifier that devices have themselves. -/
def ownColumn? : IdentifierKind → Option TextColumn
  | .imei => some .imei
  | .serialNumber => some .serialNumber
  | .state => some .state
  | .deviceId => none
  | .vin => none

/-- The filter by one value of one column. -/
def one (c : TextColumn) (v : String) : DeviceFilter :=
  { allowed := fun other => if other = c then [.whole v] else [] }

section

variable {kind : IdentifierKind} {c : TextColumn} {v : String}

theorem restricted_one (hkind : ownColumn? kind = some c) (v : String) :
    restricted (one c v) = [c] := by
  cases kind <;> cases hkind <;> rfl

theorem allowed_one (c : TextColumn) (v : String) : (one c v).allowed c = [.whole v] :=
  if_pos rfl

theorem fits_one (hkind : ownColumn? kind = some c) (v : String) : Fits (one c v) := by
  unfold Fits
  rw [restricted_one hkind, List.flatMap_singleton, allowed_one]
  show 1 ≤ maxValues
  decide

theorem byHeadUnit_own (hkind : ownColumn? kind = some c) (v : String) :
    byHeadUnit (some (kind, v)) = false := by
  cases kind <;> cases hkind <;> rfl

theorem check_of_single {selection : Selection} {given : IdentifierKind × String}
    (h : selection.single = .ok (some given)) : Selection.check given = .ok () := by
  obtain ⟨⟨⟩, hall, hone⟩ := bind_eq_ok.mp h
  have hpassed := forM_eq_ok.mp hall
  match hsupplied : selection.supplied with
  | [] =>
    rw [hsupplied] at hone
    cases hone
  | [only] =>
    rw [hsupplied] at hone hpassed
    cases hone
    exact hpassed given (List.mem_singleton_self given)
  | _ :: _ :: _ =>
    rw [hsupplied] at hone
    cases hone

theorem good_own (hkind : ownColumn? kind = some c) (h : Selection.check (kind, v) = .ok ()) :
    Good c (.whole v) := by
  refine ⟨rfl, fun himei => ?_, fun hserial => ?_⟩
  · subst himei
    cases kind <;> cases hkind
    exact h
  · subst hserial
    cases kind <;> cases hkind
    exact h

theorem foundBy_own (hkind : ownColumn? kind = some c) {d : Device} :
    d.FoundBy s (some (kind, v)) ↔ d.profile.get c = some v := by
  have hown : d.HasIdentifier s (kind, v) ↔ d.profile.get c = some v := by
    cases kind <;> cases hkind <;> exact Iff.rfl
  rw [← hown]
  simp [Device.FoundBy]

theorem found_own (hkind : ownColumn? kind = some c) :
    found (some (kind, v)) s = selected (one c v) s := by
  refine List.filter_congr fun d _ => ?_
  rw [Bool.eq_iff_iff, decide_eq_true_eq, foundBy_own hkind, restricted_one hkind]
  simp [allowed_one, Option.any_eq_true]

theorem ids_detailRecords_own (hn : s.Numbered) (hs : s.VinsHeld)
    (hkind : ownColumn? kind = some c) {r : PageRequest} (hsort : Text.filled? r.sortBy = none) :
    (detailRecords (some (kind, v)) r s).map (·.id) =
      (found (some (kind, v)) s).map (·.id) := by
  have hown := byHeadUnit_own hkind v
  have hdevices := map_device_of_not_byHeadUnit hs hown
  have hordered : (found (some (kind, v)) s).Pairwise fun d e => d.id < e.id :=
    hn.devices.ordered.sublist List.filter_sublist
  rw [← hdevices, List.pairwise_map] at hordered
  have hbyId : Sorting.ofRequest (sortFieldsFor (byHeadUnit (some (kind, v)))) r.sortBy r.order =
      .byId := by
    unfold Sorting.ofRequest
    rw [hsort]
    rfl
  rw [detailRecords, hbyId, Sorting.sort_of_ordered, ← hdevices, List.map_map, List.map_map]
  · rfl
  · exact hordered.imp fun h => decide_eq_true (Int.le_of_lt h)

/-- By an own identifier and by the same exact value the same devices are found, in the order of
their ids, or nothing is found by both. -/
theorem found_alike (hn : s.Numbered) (hs : s.VinsHeld) (hkind : ownColumn? kind = some c)
    {selection : Selection} {r : PageRequest}
    (hadmits : AdmissibleDetails selection (some (kind, v)) r)
    (hsort : Text.filled? r.sortBy = none) :
    (exactly (one c v) s = .error (.rejected .filterNotFound) ∧
      ∀ size k other, r.AsksPage size k other →
        details selection other s = .error (.rejected .detailsNotFound)) ∨
    ∃ listed records, exactly (one c v) s = .ok listed ∧ listed.map (·.id) = records.map (·.id) ∧
      ∀ size, minSize ≤ size → size ≤ maxSize → ∃ answers,
        Pages (r.AsksPage size) (fun other => details selection other s) DevicePage.items size
          records answers := by
  have hone := restricted_one hkind v
  have hgood : AllGood (one c v) := by
    unfold AllGood
    simp only [hone, List.mem_singleton, forall_eq, allowed_one]
    exact good_own hkind (check_of_single hadmits.single)
  have hanswer := exactly_of_good (s := s) (fits_one hkind v) (by simp [hone]) hgood
  rw [← found_own hkind] at hanswer
  have hrows := (detailRows_eq_nil hs : detailRows (some (kind, v)) s = [] ↔ _)
  by_cases hnone : found (some (kind, v)) s = []
  · refine .inl ⟨by rw [hanswer, if_pos hnone], fun size k other hasks => ?_⟩
    rw [details_eq hadmits hasks, if_pos ⟨rfl, hrows.mpr hnone⟩]
  · refine .inr ⟨_, detailRecords (some (kind, v)) r s, by rw [hanswer, if_neg hnone], ?_,
      fun size hlow hhigh => ⟨_, pages_details hadmits (fun _ h => hnone (hrows.mp h)) hlow hhigh⟩⟩
    rw [ids_detailRecords_own hn hs hkind hsort, List.map_map]
    rfl

end

end Listing

/-- After every run the listings agree. Without filters and without an identifier, devices and
details are the same on every page and in every order. By an identifier that devices have themselves
the details in their default order are those that have it as an exact value, or both find nothing. A
filter by exact values answers the same however often and in which order its values are listed,
except that it may refuse another one of several bad identifiers; and a filter of several columns
lists, in the order of the ids, what its columns list alone. -/
theorem Registry.listings_agree (link : Link) (run : List (Environment × Command)) :
    let s := (after { link := link } run).store
    (∀ (params : Params) (r : PageRequest), params.AsksAlike r →
      checkDetailsSorting false r.sortBy r.order = .ok () → ∀ k size, resolvePage r.page = .ok k →
      resolveSize r.size = .ok size →
      ∃ a b, devices params s = .ok a ∧ details {} r s = .ok b ∧ a.Agrees b) ∧
    (∀ (kind : IdentifierKind) (c : TextColumn) (v : String) (selection : Selection)
      (r : PageRequest), ownColumn? kind = some c →
      AdmissibleDetails selection (some (kind, v)) r → Text.filled? r.sortBy = none →
      (exactly (one c v) s = .error (.rejected .filterNotFound) ∧
        ∀ size k other, r.AsksPage size k other →
          details selection other s = .error (.rejected .detailsNotFound)) ∨
      ∃ listed records, exactly (one c v) s = .ok listed ∧
        listed.map (·.id) = records.map (·.id) ∧
        ∀ size, minSize ≤ size → size ≤ maxSize → ∃ answers,
          Pages (r.AsksPage size) (fun other => details selection other s) DevicePage.items size
            records answers) ∧
    (∀ f g, SameValues f g → Fits f → Fits g →
      exactly f s = exactly g s ∨ RefusedAlike (exactly f s) (exactly g s)) ∧
    ∀ f, Fits f → restricted f ≠ [] →
      (results f s).Pairwise (fun a b => a.id < b.id) ∧
      ∀ record, record ∈ results f s ↔ ∀ c ∈ restricted f, record ∈ results (only f c) s := by
  intro s
  have hn : s.Numbered := numbered_after run Store.numbered_empty
  have hs : s.VinsHeld := (linked_after link run).vins
  exact ⟨fun params r halike hsorting k size => agrees_devices_details halike hsorting,
    fun kind c v selection r hkind hadmits => found_alike hn hs hkind hadmits,
    fun f g => exactly_congr,
    fun f hfits hsome => ⟨results_ordered hn hfits, fun record => mem_results_iff hn hfits hsome⟩⟩

/-- Two devices, listed downwards by serial number, by an IMEI, and by two columns whose values are
listed twice. -/
theorem Registry.listings_agree_two_devices :
    let run := [(Sample.environment, Command.create "admin" [
      Sample.device "S12" "123" "VIN00000000000001",
      Sample.device "S34" "456" "VIN00000000000002"])]
    let s := (after {} run).store
    let r : PageRequest := { sortBy := some "serialNumber", order := some "Desc", size := some "1" }
    let params : Params := [("isDetailsRequired", some "TRUE"),
      ("sortByParam", some "serialNumber"), ("sortingOrder", some "Desc"), ("size", some "1")]
    let f : DeviceFilter := { allowed := fun c =>
      if c = .model then ["X", "M"] else if c = .serialNumber then ["S34"] else [] }
    let g : DeviceFilter := { allowed := fun c =>
      if c = .model then ["M", "X", "M"] else if c = .serialNumber then ["S34", "S34"] else [] }
    (∃ a b, devices params s = .ok a ∧ details {} r s = .ok b ∧ a.total = 2 ∧ a.Agrees b) ∧
    (∃ listed records, exactly (one .imei "456") s = .ok listed ∧
      listed.map (·.id) = records.map (·.id) ∧ ∃ answers,
        Pages (PageRequest.AsksPage {} 1) (fun other => details { imei := some "456" } other s)
          DevicePage.items 1 records answers) ∧
    exactly f s = exactly g s ∧ (results f s).map (·.id) = [2] ∧
      ∀ record, record ∈ results f s ↔ ∀ c ∈ restricted f, record ∈ results (only f c) s := by
  intro run s r params f g
  obtain ⟨hpages, hidentifier, hvalues, hcolumns⟩ := listings_agree {} run
  refine ⟨?_, ?_, ?_, by decide +kernel, ?_⟩
  · have halike : params.AsksAlike r := {
      unfiltered := by decide +kernel
      details := ⟨"TRUE", by decide +kernel, by decide +kernel⟩
      sortBy := by decide +kernel
      order := by decide +kernel
      page := by decide +kernel
      size := by decide +kernel }
    have htotal : (devices params s).toOption.map (·.total) = some 2 := by decide +kernel
    obtain ⟨a, b, ha, hb, hagrees⟩ := hpages params r halike (by decide +kernel) 1 1
      (by decide +kernel) (by decide +kernel)
    rw [ha] at htotal
    exact ⟨a, b, ha, hb, Option.some.inj htotal, hagrees⟩
  · have hfound : (exactly (one .imei "456") s).toOption.isSome = true := by decide +kernel
    have hadmits : AdmissibleDetails { imei := some "456" } (some (.imei, "456")) {} :=
      ⟨by decide +kernel, by decide +kernel⟩
    rcases hidentifier .imei .imei "456" _ _ rfl hadmits rfl with
      ⟨hnone, -⟩ | ⟨listed, records, hok, hids, hcut⟩
    · rw [show exactly (one .imei "456") s = _ from hnone] at hfound
      cases hfound
    · exact ⟨listed, records, hok, hids, hcut 1 (by decide) (by decide)⟩
  · have hsame : SameValues f g := by
      intro c _ v
      cases c <;> simp [f, g, or_comm]
    have hfound : (exactly f s).toOption.isSome = true := by decide +kernel
    refine (hvalues f g hsame (by decide +kernel) (by decide +kernel)).resolve_right ?_
    rintro ⟨_, -, _, -, _, -, hrefused, -⟩
    rw [hrefused] at hfound
    cases hfound
  · exact (hcolumns f (by decide +kernel) (by decide +kernel)).2

/-- Of two IMEIs that are both refused, the first is. -/
theorem Registry.first_is_refused :
    let f : DeviceFilter := { allowed := fun c => if c = .imei then ["12", "abc"] else [] }
    let g : DeviceFilter := { allowed := fun c => if c = .imei then ["abc", "12"] else [] }
    let s := (after {} []).store
    SameValues f g ∧ Fits f ∧ Fits g ∧ exactly f s = .error (.rejected .imeiTooShort) ∧
      exactly g s = .error (.rejected .imeiNotNumeric) := by
  intro f g s
  refine ⟨fun c _ v => ?_, by decide +kernel, by decide +kernel, by decide +kernel,
    by decide +kernel⟩
  cases c <;> simp [f, g, or_comm]

end DeviceRegistry
