import DeviceRegistry.Listing.Devices
import DeviceRegistry.Proofs.Store.Statements
import Mathlib.Data.List.Forall2
import Mathlib.Data.List.Nodup

/-!
# What a query is read from

A request that is accepted gives its fields and values in pairs, and the query has one filter for
each pair, in order. A field stands for the one entry of its table that is the same word, since no
two names of a table are.
-/

namespace DeviceRegistry

open Calendar

/-! ## Fields -/

namespace FieldTable

variable {α : Type} {table : FieldTable α}

/-- No two names of a table are the same word. -/
def Distinct (table : FieldTable α) : Prop :=
  (table.map fun e => Text.lower e.1).Nodup

theorem Distinct.eq_of_sameWord (h : table.Distinct) {field : String} {a b : String × α}
    (ha : a ∈ table) (hb : b ∈ table) (hfielda : Text.sameWord a.1 field = true)
    (hfieldb : Text.sameWord b.1 field = true) : a = b :=
  List.inj_on_of_nodup_map h ha hb
    ((Text.sameWord_iff.mp hfielda).trans (Text.sameWord_iff.mp hfieldb).symm)

theorem mem_of_resolve? {field : String} {e : String × α} (h : table.resolve? field = some e) :
    e ∈ table ∧ Text.sameWord e.1 field = true := by
  rcases Option.or_eq_some_iff.mp h with h | ⟨-, h⟩
  · have hsame : e.1 = field := by simpa using List.find?_some h
    exact ⟨List.mem_of_find?_eq_some h, hsame ▸ Text.sameWord_refl _⟩
  · exact ⟨List.mem_of_find?_eq_some h, by simpa using List.find?_some h⟩

theorem Distinct.resolve?_eq_some (h : table.Distinct) {field : String} {e : String × α} :
    table.resolve? field = some e ↔ e ∈ table ∧ Text.sameWord e.1 field = true := by
  refine ⟨mem_of_resolve?, fun ⟨he, hsame⟩ => ?_⟩
  have hsome : (table.resolve? field).isSome = true := by
    rw [resolve?, Option.isSome_or, Bool.or_eq_true]
    exact .inr (List.find?_isSome.mpr ⟨e, he, hsame⟩)
  obtain ⟨found, hfound⟩ := Option.isSome_iff_exists.mp hsome
  obtain ⟨hmem, hword⟩ := mem_of_resolve? hfound
  rw [hfound, h.eq_of_sameWord hmem he hword hsame]

end FieldTable

/-! ## Pairs -/

namespace Params

open Listing

theorem value?_filter (params : Params) {word : String} {kept : String × Option String → Bool}
    (h : ∀ e, Text.lower e.1 = word → kept e = true) :
    value? (params.filter kept) word = params.value? word := by
  rw [value?, ← List.filter_reverse, List.find?_filter, value?]
  congr 2
  funext e
  by_cases he : Text.lower e.1 = word
  · simp [he, h e he]
  · simp [he]

/-- The fields that a request lists under one word, each with the value that it lists at the same
place under another. -/
def pairs (params : Params) (fields values : String) : List (String × String) :=
  (splitList (params.value? fields)).zip (splitList (params.value? values))

/-- The fields to look into, and the values to look for. -/
def containsPairs (params : Params) : List (String × String) :=
  params.pairs "containslikefields" "containslikevalues"

/-- The date fields, and the ranges of time. -/
def rangePairs (params : Params) : List (String × String) :=
  params.pairs "rangefields" "rangevalues"

end Params

namespace Listing

theorem distinct_containsLikeFields : containsLikeFields.Distinct := by
  unfold FieldTable.Distinct
  decide +kernel

theorem distinct_rangeFields : rangeFields.Distinct := by
  unfold FieldTable.Distinct
  decide +kernel

theorem lookup_rangeFields {e : String × TextColumn} (h : e ∈ rangeFields) :
    rangeFields.lookup e.1 = some e.2 := by
  revert e
  decide +kernel

theorem checkPairs_eq_ok {α : Type} {table : FieldTable α} {cause : Rejection}
    {fields values : List String} :
    checkPairs table cause fields values = .ok () ↔
      fields.length = values.length ∧ ∀ field ∈ fields, ∃ e, table.resolve? field = some e := by
  unfold checkPairs
  rw [bind_eq_ok]
  constructor
  · rintro ⟨_, hlength, hall⟩
    refine ⟨by simpa using require_eq_ok.mp hlength, fun field hfield => ?_⟩
    exact Option.isSome_iff_exists.mp (List.all_eq_true.mp (require_eq_ok.mp hall) field hfield)
  · rintro ⟨hlength, hall⟩
    refine ⟨(), require_eq_ok.mpr (by simpa using hlength), require_eq_ok.mpr ?_⟩
    exact List.all_eq_true.mpr fun field hfield => Option.isSome_iff_exists.mpr (hall field hfield)

end Listing

/-- A contains-filter is read from a pair: the field stands for its column, and the value is
allowed there. -/
structure ContainsFilter.Reads (pair : String × String) (f : ContainsFilter) : Prop where
  field : Listing.containsLikeFields.resolve? pair.1 = some (f.field, f.column)
  value : f.value = pair.2
  allowed : f.valueAllowed = true

/-- A range filter is read from a pair: the field stands for its column, and the value writes the
two ends. -/
structure RangeFilter.Reads (pair : String × String) (f : RangeFilter) : Prop where
  field : Listing.rangeFields.resolve? pair.1 = some (f.field, f.column)
  value : f.value = pair.2
  written : Listing.isRange pair.2 = true
  ends : Listing.rangeStamps? pair.2 = some (f.low, f.high)

/-- If a function has a value with some relation for each member of a list, its values stand beside
the members in order. -/
theorem forall₂_filterMap {α β : Type} {R : α → β → Prop} {f : α → Option β} {l : List α}
    (h : ∀ a ∈ l, ∃ b, f a = some b ∧ R a b) : List.Forall₂ R l (l.filterMap f) := by
  induction l with
  | nil => exact .nil
  | cons a l ih =>
    obtain ⟨⟨b, hb, hab⟩, hrest⟩ := List.forall_mem_cons.mp h
    rw [List.filterMap_cons_some hb]
    exact .cons hab (ih hrest)

/-- Side by side, members of two lists that agree in a property have it all or not. -/
theorem forall_mem_iff_of_forall₂ {α β : Type} {R : α → β → Prop} {P : α → Prop} {Q : β → Prop}
    {l : List α} {m : List β} (h : List.Forall₂ R l m) (hPQ : ∀ a ∈ l, ∀ b, R a b → (Q b ↔ P a)) :
    (∀ b ∈ m, Q b) ↔ ∀ a ∈ l, P a := by
  induction h with
  | nil => simp
  | cons hab _ ih =>
    rw [List.forall_mem_cons, List.forall_mem_cons, hPQ _ (by simp) _ hab,
      ih fun a ha => hPQ a (List.mem_cons_of_mem _ ha)]

namespace Listing

variable {fields values : List String}

theorem reads_containsFilters (hcheck : checkContainsLike fields values = .ok ())
    (hallowed : ∀ f ∈ containsFilters fields values, f.valueAllowed = true) :
    List.Forall₂ ContainsFilter.Reads (fields.zip values) (containsFilters fields values) := by
  obtain ⟨-, hknown⟩ := checkPairs_eq_ok.mp hcheck
  refine forall₂_filterMap fun pair hpair => ?_
  obtain ⟨e, he⟩ := hknown pair.1 (List.of_mem_zip hpair).1
  have hfilter : ((containsLikeFields.resolve? pair.1).map fun e =>
      ({ field := e.1, column := e.2, value := pair.2 } : ContainsFilter)) =
        some { field := e.1, column := e.2, value := pair.2 } := by
    rw [he]
    rfl
  exact ⟨_, hfilter, he, rfl, hallowed _ (List.mem_filterMap.mpr ⟨pair, hpair, hfilter⟩)⟩

theorem rangeFilter_eq_ok {e : String × TextColumn} (he : e ∈ rangeFields) {value : String}
    {low high : Stamp} (h : rangeStamps? value = some (low, high)) :
    rangeFilter e.1 value =
      .ok { field := e.1, column := e.2, value := value, low := low, high := high } := by
  unfold rangeStamps? at h
  simp only [bind, Option.bind_eq_some_iff, pure] at h
  obtain ⟨⟨first, second⟩, hends, low', hlow, high', hhigh, h⟩ := h
  cases h
  unfold rangeFilter
  rw [hends, lookup_rangeFields he]
  simp only [toOption_eq_some.mp hlow, toOption_eq_some.mp hhigh]
  rfl

theorem reads_rangeFilters (hcheck : checkRange fields values = .ok ()) :
    List.Forall₂ RangeFilter.Reads (fields.zip values) (rangeFilters fields values) := by
  obtain ⟨_, hpairs, hvalues⟩ := bind_eq_ok.mp hcheck
  obtain ⟨-, hknown⟩ := checkPairs_eq_ok.mp hpairs
  refine forall₂_filterMap fun pair hpair => ?_
  obtain ⟨hfield, hvalue⟩ := List.of_mem_zip hpair
  obtain ⟨e, he⟩ := hknown pair.1 hfield
  have hwritten := List.all_eq_true.mp (require_eq_ok.mp hvalues) pair.2 hvalue
  obtain ⟨⟨low, high⟩, hends⟩ :=
    Option.isSome_iff_exists.mp ((Bool.and_eq_true _ _).mp hwritten).2
  refine ⟨{ field := e.1, column := e.2, value := pair.2, low := low, high := high }, ?_,
    he, rfl, hwritten, hends⟩
  show ((rangeFields.resolve? pair.1).bind fun e => (rangeFilter e.1 pair.2).toOption) = _
  rw [he]
  exact toOption_eq_some.mpr (rangeFilter_eq_ok (FieldTable.mem_of_resolve? he).1 hends)

end Listing

/-! ## Requests -/

/-- A query is read from a request: its filters from the pairs, and the rest from one value each. -/
structure Query.Reads (params : Params) (q : Query) : Prop where
  contains : List.Forall₂ ContainsFilter.Reads params.containsPairs q.contains
  ranges : List.Forall₂ RangeFilter.Reads params.rangePairs q.ranges
  sortBy : q.sortBy = ((Text.filled? (Listing.sortParam? params)).bind
    Listing.detailsSortFields.resolve?).map (·.1)
  order : q.order = params.value? "sortingorder"
  switches : Listing.readSwitches (Listing.sortParam? params) (params.value? "sortingorder")
    (params.value? "isdetailsrequired") = .ok q.details
  page : Listing.resolvePage (params.value? "page") = .ok q.page
  size : Listing.resolveSize (params.value? "size") = .ok q.size

theorem Query.reads_of_ofRequest {params : Params} {q : Query} (h : ofRequest params = .ok q) :
    q.Reads params := by
  unfold ofRequest at h
  simp only [bind_eq_ok, checked_eq_ok] at h
  obtain ⟨details, hdetails, _, hcontains, _, hallowed, _, hranges, page, hpage, size, hsize, h⟩ :=
    h
  cases h
  exact {
    contains := Listing.reads_containsFilters hcontains
      (List.all_eq_true.mp (require_eq_ok.mp hallowed))
    ranges := Listing.reads_rangeFilters hranges
    sortBy := rfl
    order := rfl
    switches := hdetails
    page := hpage
    size := hsize }

/-! ## Listings -/

theorem RangeFilter.holds_iff {f : RangeFilter} {d : Device} :
    f.condition.holds d = true ↔
      ∃ text ∈ d.profile.get f.column, f.low.text ≤ text ∧ text ≤ f.high.text := by
  simp only [condition, Condition.holds]
  cases d.profile.get f.column <;> simp

namespace Listing

theorem checkConditions_eq_ok {conditions : List Condition} {s : Store} :
    checkConditions conditions s = .ok () ↔ conditions.length ≤ maxConditions ∧
      ∀ d ∈ s.devices.rows, d.meetsOverlong conditions = false := by
  unfold checkConditions
  split
  · exact iff_of_false nofun (by omega)
  · split
    · next hlong =>
      obtain ⟨d, hd, hlong⟩ := List.any_eq_true.mp hlong
      exact iff_of_false nofun fun h => by simp [h.2 d hd] at hlong
    · next hlong =>
      refine iff_of_true rfl ⟨by omega, fun d hd => ?_⟩
      rw [← Bool.not_eq_true]
      exact fun h => hlong (List.any_eq_true.mpr ⟨d, hd, h⟩)

theorem checkFound_eq_ok {q : Query} {found : List Device} :
    checkFound q found = .ok () ↔ (found = [] → q.contains = [] ∧ q.ranges = []) := by
  unfold checkFound
  cases found with
  | cons d found => exact iff_of_true rfl nofun
  | nil =>
    constructor
    · intro h _
      obtain ⟨_, hcontains, hranges⟩ := bind_eq_ok.mp h
      exact ⟨by simpa using require_eq_ok.mp hcontains, by simpa using require_eq_ok.mp hranges⟩
    · intro h
      obtain ⟨hcontains, hranges⟩ := h rfl
      rw [hcontains, hranges]
      rfl

/-- A listing is the page of a query that is read, whose conditions a statement takes, and that
finds something if it looks for anything. -/
theorem devices_eq_ok {params : Params} {s : Store} {a : DevicePage} :
    devices params s = .ok a ↔
      ∃ q, Query.ofRequest params = .ok q ∧ checkConditions q.conditions s = .ok () ∧
        checkFound q (matching q s) = .ok () ∧ a = page q (matching q s) := by
  unfold devices
  simp only [bind_eq_ok, checked_eq_ok]
  constructor
  · rintro ⟨q, hq, _, hconditions, _, hfound, ha⟩
    cases ha
    exact ⟨q, hq, hconditions, hfound, rfl⟩
  · rintro ⟨q, hq, hconditions, hfound, rfl⟩
    exact ⟨q, hq, (), hconditions, (), hfound, rfl⟩

end Listing

end DeviceRegistry
