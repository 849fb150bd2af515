import DeviceRegistry.Proofs.Listing.Order
import DeviceRegistry.Proofs.Listing.PageNumbers
import DeviceRegistry.Proofs.Listing.Reference

/-!
# Pages

The pages of one size, one after the other, are the rows (`cutsInto_slices`). A request that asks
for another page of a listing is answered if one page of it is, from the same rows in the same order
(`pages_partition`), and every page with an offset that a statement can take can be asked for. A
listing that is refused has no page at all.
-/

namespace DeviceRegistry

namespace Listing

/-! ## Slices -/

/-- The number of pages that some rows make up, the last of them perhaps in part. -/
def pageCount (total size : Nat) : Nat :=
  (total + size - 1) / size

/-- The pages of a size make up the rows: one after the other they are the rows, all but the last
are full, and those after the last are empty. -/
structure CutsInto {α : Type} (size : Nat) (rows : List α) (page : Nat → List α) : Prop where
  whole : (List.range' 1 (pageCount rows.length size)).flatMap page = rows
  full : ∀ k, 1 ≤ k → k < pageCount rows.length size → (page k).length = size
  beyond : ∀ k, pageCount rows.length size < k → page k = []

section

variable {α β : Type} {size : Nat}

/-- All rows are on the pages, and without the last page they would not be. -/
theorem pageCount_mul (hsize : 1 ≤ size) (total : Nat) :
    total ≤ pageCount total size * size ∧ pageCount total size * size < total + size := by
  have hdiv := Nat.div_add_mod' (total + size - 1) size
  have hmod := Nat.mod_lt (total + size - 1) hsize
  unfold pageCount
  omega

theorem flatMap_slice (size : Nat) (rows : List α) (n : Nat) :
    (List.range' 1 n).flatMap (fun k => slice k size rows) = rows.take (n * size) := by
  induction n with
  | zero => simp
  | succ n ih =>
    rw [List.range'_1_concat, List.flatMap_append, ih, Nat.succ_mul, List.take_add]
    simp [slice, offset]

theorem slice_map (f : α → β) (k size : Nat) (rows : List α) :
    slice k size (rows.map f) = (slice k size rows).map f := by
  rw [slice, slice, List.map_take, List.map_drop]

theorem cutsInto_slices (hsize : 1 ≤ size) (rows : List α) :
    CutsInto size rows fun k => slice k size rows := by
  obtain ⟨hall, hlast⟩ := pageCount_mul hsize rows.length
  refine ⟨?_, fun k hk hlt => ?_, fun k hlt => ?_⟩
  · rw [flatMap_slice, List.take_of_length_le hall]
  · have hnext := Nat.mul_le_mul_right size (show k - 1 + 2 ≤ pageCount rows.length size by omega)
    rw [Nat.add_mul] at hnext
    simp only [slice, offset, List.length_take, List.length_drop]
    omega
  · have hover := Nat.mul_le_mul_right size (show pageCount rows.length size ≤ k - 1 by omega)
    rw [slice, offset, List.drop_eq_nil_of_le (by omega), List.take_nil]

end

/-- The answers to the requests for the pages of one size make up some items: each request for a
page is answered so, and each page can be asked for unless its offset, at the largest size, is more
than a statement can take. -/
structure Pages {R A α : Type} (asks : Nat → R → Prop) (answer : R → Except Failure A)
    (items : A → List α) (size : Nat) (all : List α) (answers : Nat → A) : Prop where
  answered : ∀ k r, asks k r → answer r = .ok (answers k)
  askable : ∀ k, 1 ≤ k → (k - 1) * maxSize ≤ maxOffset → ∃ r, asks k r
  cut : CutsInto size all fun k => items (answers k)

end Listing

/-! ## Requests for other pages -/

open Listing

/-- A request asks for a page of the listing of another one: it agrees with it in all words besides
those for the page and its size. -/
structure Params.AsksPage (params : Params) (size k : Nat) (other : Params) : Prop where
  same : ∀ word, word ≠ "page" → word ≠ "size" → other.value? word = params.value? word
  page : resolvePage (other.value? "page") = .ok k
  size : resolveSize (other.value? "size") = .ok size

/-- The request with a page and its size in place of those it asks for. -/
def Params.withPage (page size : String) (params : Params) : Params :=
  params.filter (fun p => Text.lower p.1 != "page" && Text.lower p.1 != "size") ++
    [("page", some page), ("size", some size)]

theorem Params.value?_withPage (page size : String) (params : Params) (word : String) :
    (params.withPage page size).value? word =
      if word = "size" then some size else if word = "page" then some page
      else params.value? word := by
  have hsize : Text.lower "size" = "size" := by decide +kernel
  have hpage : Text.lower "page" = "page" := by decide +kernel
  unfold value? withPage
  simp only [List.reverse_append, List.reverse_cons, List.reverse_nil, List.nil_append,
    List.cons_append, List.find?_cons, hsize, hpage]
  by_cases hs : "size" = word
  · simp [hs]
  · by_cases hp : "page" = word
    · simp [hp, beq_eq_false_iff_ne.mpr hs, Ne.symm hs]
    · rw [beq_eq_false_iff_ne.mpr hs, beq_eq_false_iff_ne.mpr hp, if_neg (Ne.symm hs),
        if_neg (Ne.symm hp)]
      -- A text under the word is under neither of the two words.
      exact params.value?_filter fun e he => by simp [he, Ne.symm hs, Ne.symm hp]

theorem Params.asksPage_withPage (params : Params) {size k : Nat} (hlow : minSize ≤ size)
    (hhigh : size ≤ maxSize) (hpos : 1 ≤ k) (hoffset : (k - 1) * maxSize ≤ maxOffset) :
    params.AsksPage size k (params.withPage (toString k) (toString size)) := by
  refine ⟨fun word hpage hsize => ?_, ?_, ?_⟩
  · rw [value?_withPage, if_neg hsize, if_neg hpage]
  · rw [value?_withPage, if_neg (by decide), if_pos rfl]
    exact resolvePage_toString hpos hoffset
  · rw [value?_withPage, if_pos rfl]
    exact resolveSize_toString hlow hhigh

/-- A request for another page is read as the same query with that page. -/
theorem Params.AsksPage.ofRequest {params other : Params} {size k : Nat}
    (h : params.AsksPage size k other) {q : Query} (hq : Query.ofRequest params = .ok q) :
    Query.ofRequest other = .ok { q with page := k, size := size } := by
  have hsort : sortParam? other = sortParam? params := by
    rw [sortParam?, sortParam?, h.same _ (by decide) (by decide), h.same _ (by decide) (by decide)]
  unfold Query.ofRequest at hq ⊢
  simp only [bind_eq_ok] at hq
  obtain ⟨details, hdetails, _, hcontains, _, hallowed, _, hranges, page, -, size, -, hq⟩ := hq
  cases hq
  rw [hsort]
  simp only [bind_eq_ok, h.same "sortingorder" (by decide) (by decide),
    h.same "isdetailsrequired" (by decide) (by decide),
    h.same "containslikefields" (by decide) (by decide),
    h.same "containslikevalues" (by decide) (by decide),
    h.same "rangefields" (by decide) (by decide), h.same "rangevalues" (by decide) (by decide)]
  exact ⟨details, hdetails, (), hcontains, (), hallowed, (), hranges, k, h.page, _, h.size, rfl⟩

/-- A request for the history asks for a page of the listing of another one: it agrees with it in
the sorting. -/
structure PageRequest.AsksPage (r : PageRequest) (size k : Nat) (other : PageRequest) : Prop where
  sortBy : other.sortBy = r.sortBy
  order : other.order = r.order
  page : resolvePage other.page = .ok k
  size : resolveSize other.size = .ok size

theorem PageRequest.asksPage_with (r : PageRequest) {size k : Nat} (hlow : minSize ≤ size)
    (hhigh : size ≤ maxSize) (hpos : 1 ≤ k) (hoffset : (k - 1) * maxSize ≤ maxOffset) :
    r.AsksPage size k { r with page := toString k, size := toString size } :=
  ⟨rfl, rfl, resolvePage_toString hpos hoffset, resolveSize_toString hlow hhigh⟩

namespace Listing

/-! ## Listings -/

/-- A query that is not refused: a statement takes its conditions, and if it finds nothing it looks
for nothing. -/
structure Admits (q : Query) (s : Store) : Prop where
  few : q.conditions.length ≤ maxConditions
  short : ∀ d ∈ s.devices.rows, d.meetsOverlong q.conditions = false
  found : matching q s = [] → q.contains = [] ∧ q.ranges = []

/-- A listing is answered exactly if its query is not refused, whatever page is asked for. -/
theorem answered_iff_admits {params : Params} {q : Query} (hq : Query.ofRequest params = .ok q)
    {s : Store} : (∃ a, devices params s = .ok a) ↔ Admits q s := by
  simp only [devices_eq_ok, checkConditions_eq_ok, checkFound_eq_ok]
  constructor
  · rintro ⟨_, _, hq', ⟨hfew, hshort⟩, hfound, -⟩
    cases hq.symm.trans hq'
    exact ⟨hfew, hshort, hfound⟩
  · rintro ⟨hfew, hshort, hfound⟩
    exact ⟨_, q, hq, ⟨hfew, hshort⟩, hfound, rfl⟩

/-- With details the items of a page are a slice of all records in order; no rows make no items. -/
theorem items_page {q : Query} (hdetails : q.details = true) (found : List Device) :
    (page q found).items =
      slice q.page q.size ((q.sorting.sort Device.cell found).map Device.record) := by
  rw [slice_map]
  cases found with
  | nil => simp [page, slice, Sorting.sort]
  | cons d found => simp [page, hdetails]

theorem pages_devices {params : Params} {q : Query} (hq : Query.ofRequest params = .ok q)
    (hdetails : q.details = true) {s : Store} (hadmits : Admits q s) {size : Nat}
    (hlow : minSize ≤ size) (hhigh : size ≤ maxSize) :
    Pages (params.AsksPage size) (fun other => devices other s) DevicePage.items size
      ((q.sorting.sort Device.cell (matching q s)).map Device.record)
      fun k => page { q with page := k, size := size } (matching q s) := by
  refine ⟨fun k other hasks => ?_, fun k hpos hoffset => ?_, ?_⟩
  · exact devices_eq_ok.mpr ⟨_, hasks.ofRequest hq,
      checkConditions_eq_ok.mpr ⟨hadmits.few, hadmits.short⟩,
      checkFound_eq_ok.mpr hadmits.found, rfl⟩
  · exact ⟨_, params.asksPage_withPage hlow hhigh hpos hoffset⟩
  · simp only [items_page (show ({ q with page := _, size := size } : Query).details = true from
      hdetails)]
    exact cutsInto_slices hlow _

/-- The history entries of an IMEI. -/
def entries (imei : String) (s : Store) : List HistoryRow :=
  s.history.rows.filter fun h => h.profile.imei == some imei

/-- A page of the history of an IMEI. -/
def historyPage (imei : String) (r : PageRequest) (k size : Nat) (s : Store) : HistoryPage :=
  let sorting := Sorting.ofRequest historySortFields r.sortBy r.order
  { items := (slice k size (sorting.sort HistoryRow.cell (entries imei s))).map HistoryRow.entry
    total := (entries imei s).length
    page := k
    size := size }

/-- A request for the history of an IMEI that is not refused for another reason than its page. -/
structure AdmitsHistory (imei : String) (r : PageRequest) (s : Store) : Prop where
  filled : imei.isEmpty = false
  wellFormed : Identifier.checkImei (some imei) = .ok ()
  sorting : checkHistorySorting r.sortBy r.order = .ok ()
  found : entries imei s ≠ []

theorem history_eq_ok {imei : Option String} {r : PageRequest} {s : Store} {a : HistoryPage} :
    history imei r s = .ok a ↔
      ∃ wanted k size, imei = some wanted ∧ AdmitsHistory wanted r s ∧
        resolvePage r.page = .ok k ∧ resolveSize r.size = .ok size ∧
        a = historyPage wanted r k size s := by
  unfold history
  cases hfilled : Text.filled? imei with
  | none =>
    refine iff_of_false nofun ?_
    rintro ⟨wanted, k, size, himei, hadmits, -⟩
    rw [Text.filled?_eq_some.mpr ⟨himei, hadmits.filled⟩] at hfilled
    cases hfilled
  | some wanted =>
    obtain ⟨rfl, hwanted⟩ := Text.filled?_eq_some.mp hfilled
    simp only [bind_eq_ok, checked_eq_ok]
    constructor
    · rintro ⟨_, himei, _, hsorting, k, hpage, size, hsize, _, hfound, ha⟩
      cases ha
      have hsome := require_eq_ok.mp hfound
      exact ⟨wanted, k, size, rfl, ⟨hwanted, himei, hsorting, by simpa [entries] using hsome⟩,
        hpage, hsize, rfl⟩
    · rintro ⟨_, k, size, heq, hadmits, hpage, hsize, rfl⟩
      cases heq
      exact ⟨(), hadmits.wellFormed, (), hadmits.sorting, k, hpage, size, hsize, (),
        require_eq_ok.mpr (by simpa [entries] using hadmits.found), rfl⟩

theorem pages_history {imei : String} {r : PageRequest} {s : Store}
    (hadmits : AdmitsHistory imei r s) {size : Nat} (hlow : minSize ≤ size)
    (hhigh : size ≤ maxSize) :
    Pages (r.AsksPage size) (fun other => history (some imei) other s) HistoryPage.items size
      (((Sorting.ofRequest historySortFields r.sortBy r.order).sort HistoryRow.cell
        (entries imei s)).map HistoryRow.entry)
      fun k => historyPage imei r k size s := by
  refine ⟨fun k other hasks => ?_, fun k hpos hoffset => ?_, ?_⟩
  · refine history_eq_ok.mpr ⟨imei, k, size, rfl, { hadmits with sorting := ?_ }, hasks.page,
      hasks.size, ?_⟩
    · rw [hasks.sortBy, hasks.order]
      exact hadmits.sorting
    · unfold historyPage
      rw [hasks.sortBy, hasks.order]
  · exact ⟨_, r.asksPage_with hlow hhigh hpos hoffset⟩
  · simp only [historyPage, ← slice_map]
    exact cutsInto_slices hlow _

/-- In every store, a listing of devices with details is answered on all pages or on none, and it is
answered exactly if its query is not refused; the same holds of a listing of the history of an IMEI.
At each size the pages make up the rows that match, each once, in the order that is asked for, and
the totals and the counts by state are the same on all pages. -/
theorem pages_partition (s : Store) :
    (∀ (params : Params) (q : Query), Query.ofRequest params = .ok q → q.details = true →
      ((∃ a, devices params s = .ok a) ↔ Admits q s) ∧
      (Admits q s → ∃ sorting rows,
        Sorting.Asked detailsSortFields (sortParam? params) (params.value? "sortingorder") sorting ∧
        sorting.Lists Device.cell (matching q s) rows ∧
        ∀ size, minSize ≤ size → size ≤ maxSize → ∃ answers,
          Pages (params.AsksPage size) (fun other => devices other s) DevicePage.items size
            (rows.map Device.record) answers ∧
          ∀ k, (answers k).total = rows.length ∧
            (answers k).stateCount =
              StateCount.ofStates ((matching q s).map (·.profile.state)))) ∧
    ∀ (imei : Option String) (r : PageRequest),
      (∀ a, history imei r s = .ok a → ∃ wanted, imei = some wanted ∧ AdmitsHistory wanted r s) ∧
      ∀ wanted, imei = some wanted → AdmitsHistory wanted r s → ∃ sorting rows,
        Sorting.Asked historySortFields r.sortBy r.order sorting ∧
        sorting.Lists HistoryRow.cell (entries wanted s) rows ∧
        ∀ size, minSize ≤ size → size ≤ maxSize → ∃ answers,
          Pages (r.AsksPage size) (fun other => history imei other s) HistoryPage.items size
            (rows.map HistoryRow.entry) answers ∧
          ∀ k, (answers k).total = rows.length := by
  refine ⟨fun params q hq hdetails => ⟨answered_iff_admits hq, fun hadmits => ?_⟩,
    fun imei r => ⟨fun a ha => ?_, fun wanted hwanted hadmits => ?_⟩⟩
  · have hreads := Query.reads_of_ofRequest hq
    have hlists := q.sorting.lists_sort Device.cell (matching q s)
    refine ⟨q.sorting, _, ?_, hlists, fun size hlow hhigh =>
      ⟨_, pages_devices hq hdetails hadmits hlow hhigh,
        fun k => ⟨hlists.same.length_eq.symm, rfl⟩⟩⟩
    rw [hreads.sorting_eq]
    exact Sorting.asked_ofRequest fun _ => known_of_readSwitches hreads.switches
  · obtain ⟨wanted, _, _, hwanted, hadmits, -⟩ := history_eq_ok.mp ha
    exact ⟨wanted, hwanted, hadmits⟩
  · subst hwanted
    have hlists := (Sorting.ofRequest historySortFields r.sortBy r.order).lists_sort HistoryRow.cell
      (entries wanted s)
    refine ⟨_, _, ?_, hlists, fun size hlow hhigh =>
      ⟨_, pages_history hadmits hlow hhigh, fun k => hlists.same.length_eq.symm⟩⟩
    obtain ⟨_, hfield, -⟩ := bind_eq_ok.mp hadmits.sorting
    exact Sorting.asked_ofRequest fun _ => known_of_checkSortField hfield

/-- Three devices, sorted downwards by serial number, on pages of two; and one of them with two
entries in the history, on pages of one. -/
theorem pages_partition_three_devices :
    let run := [
      (Sample.environment, Command.create "admin" [Sample.device "S12" "123" "VIN00000000000001",
        Sample.device "S34" "456" "VIN00000000000002",
        Sample.device "S56" "789" "VIN00000000000003"]),
      (Sample.environment, Command.changeState { imei := some "123", state := some .stolen })]
    let s := (Registry.after {} run).store
    let params : Params := [("isDetailsRequired", some "true"), ("sortBy", some "serialNumber"),
      ("sortingOrder", some "DESC")]
    (∃ q, Query.ofRequest params = .ok q ∧ q.details = true ∧ Admits q s ∧
      ∃ (rows : List Device) (answers : Nat → DevicePage), rows.length = 3 ∧
        Pages (params.AsksPage 2) (fun other => devices other s) DevicePage.items 2
          (rows.map Device.record) answers) ∧
    AdmitsHistory "123" {} s ∧
      ∃ (rows : List HistoryRow) (answers : Nat → HistoryPage), rows.length = 2 ∧
        Pages (PageRequest.AsksPage {} 1) (fun other => history (some "123") other s)
          HistoryPage.items 1 (rows.map HistoryRow.entry) answers := by
  intro run s params
  have hread : (Query.ofRequest params).toOption.any (fun q => q.details &&
      decide (q.conditions.length ≤ maxConditions) &&
      s.devices.rows.all (fun d => !d.meetsOverlong q.conditions) &&
      (matching q s).length == 3) = true := by
    decide +kernel
  obtain ⟨q, hq, hread⟩ := (Option.any_eq_true _ _).mp hread
  simp only [Bool.and_eq_true, decide_eq_true_eq, List.all_eq_true, Bool.not_eq_true', beq_iff_eq]
    at hread
  obtain ⟨⟨⟨hdetails, hfew⟩, hshort⟩, hthree⟩ := hread
  have hadmits : Admits q s := ⟨hfew, hshort, fun hnone => by simp [hnone] at hthree⟩
  have htwo : (entries "123" s).length = 2 := by decide +kernel
  have hadmitsHistory : AdmitsHistory "123" {} s := {
    filled := by decide
    wellFormed := by decide +kernel
    sorting := by decide +kernel
    found := fun hnone => by simp [hnone] at htwo }
  obtain ⟨hdevices, hhistory⟩ := pages_partition s
  obtain ⟨_, rows, -, hlists, hpages⟩ :=
    (hdevices params q (toOption_eq_some.mp hq) hdetails).2 hadmits
  obtain ⟨_, entered, -, hentered, hentries⟩ := (hhistory (some "123") {}).2 _ rfl hadmitsHistory
  obtain ⟨answers, hanswers, -⟩ := hpages 2 (by decide) (by decide)
  obtain ⟨shown, hshown, -⟩ := hentries 1 (by decide) (by decide)
  exact ⟨⟨q, toOption_eq_some.mp hq, hdetails, hadmits, rows, answers,
    hlists.same.length_eq.trans hthree, hanswers⟩, hadmitsHistory, entered, shown,
    hentered.same.length_eq.trans htwo, hshown⟩

/-! ## Listings without pages -/

theorem Pages.first {R A α : Type} {asks : Nat → R → Prop} {answer : R → Except Failure A}
    {items : A → List α} {size : Nat} {all : List α} {answers : Nat → A}
    (h : Pages asks answer items size all answers) :
    ∃ r, asks 1 r ∧ answer r = .ok (answers 1) := by
  obtain ⟨r, hasks⟩ := h.askable 1 (Nat.le_refl 1) (by simp)
  exact ⟨r, hasks, h.answered 1 r hasks⟩

theorem admits_of_pages {params : Params} {q : Query} (hq : Query.ofRequest params = .ok q)
    {s : Store} {size : Nat} {all : List DeviceRecord} {answers : Nat → DevicePage}
    (h : Pages (params.AsksPage size) (fun other => devices other s) DevicePage.items size all
      answers) : Admits q s := by
  obtain ⟨other, hasks, hanswer⟩ := h.first
  have hadmits := (answered_iff_admits (hasks.ofRequest hq)).mp ⟨_, hanswer⟩
  exact ⟨hadmits.few, hadmits.short, hadmits.found⟩

theorem found_of_pages {imei : String} {r : PageRequest} {s : Store} {size : Nat}
    {all : List HistoryEntry} {answers : Nat → HistoryPage}
    (h : Pages (r.AsksPage size) (fun other => history (some imei) other s) HistoryPage.items size
      all answers) : entries imei s ≠ [] := by
  obtain ⟨other, -, hanswer⟩ := h.first
  obtain ⟨_, _, _, ⟨⟩, hadmits, -⟩ := history_eq_ok.mp hanswer
  exact hadmits.found

end Listing

namespace Sample

/-- A store with one device, of which a model is known. -/
def holding (model : String) : Store :=
  { devices := { rows := [{ id := 1, profile := { model := some model } }], lastId := 1 } }

theorem conditions_repeated {params : Params} {q : Query} (hq : Query.ofRequest params = .ok q)
    {times : Nat} {word : String}
    (hpairs : params.containsPairs = List.replicate times ("model", word))
    (hranges : params.rangePairs = []) :
    q.conditions = List.replicate times (.like .model (Text.Like.containing word)) := by
  have hreads := Query.reads_of_ofRequest hq
  have hmodel : containsLikeFields.resolve? "model" = some ("model", .text .model) := by
    decide +kernel
  have hcontains : ∀ f ∈ q.contains, f.condition = .like .model (Text.Like.containing word) := by
    refine (forall_mem_iff_of_forall₂ (P := fun _ => True) hreads.contains
      fun pair hpair f hf => iff_true_intro ?_).mpr fun _ _ => trivial
    rw [hpairs] at hpair
    obtain rfl := List.eq_of_mem_replicate hpair
    have hcolumn : f.column = .text .model := by
      have hfield := hf.field.symm.trans hmodel
      exact congrArg Prod.snd (Option.some.inj hfield)
    rw [ContainsFilter.condition, hcolumn, hf.value]
  have hnone : q.ranges = [] := by
    have hboth := hreads.ranges
    rw [hranges] at hboth
    exact List.forall₂_nil_left_iff.mp hboth
  rw [Query.conditions, hnone, List.map_nil, List.append_nil]
  refine List.eq_replicate_iff.mpr ⟨?_, List.forall_mem_map.mpr hcontains⟩
  rw [List.length_map, ← hreads.contains.length_eq, hpairs, List.length_replicate]

theorem matching_repeated {q : Query} {times : Nat} {word : String}
    (hq : q.conditions = List.replicate times (.like .model (Text.Like.containing word)))
    (hword : '\x00' ∉ word.toList) {s : Store}
    (hmodel : ∀ d ∈ s.devices.rows, d.profile.model = some word) :
    matching q s = s.devices.rows := by
  refine List.filter_eq_self.mpr fun d hd => List.all_eq_true.mpr fun c hc => ?_
  rw [hq] at hc
  obtain rfl := List.eq_of_mem_replicate hc
  have hheld : d.profile.get .model = some word := hmodel d hd
  simp only [Condition.holds, hheld]
  exact (Text.Like.holds_containing_iff hword hword).mpr (List.infix_refl _)

end Sample

namespace Listing

/-- A thousand pairs or more leave no pages, although all devices are found. -/
theorem not_pages_repeated {times : Nat} (h : maxConditions ≤ times) {s : Store}
    (hmodel : ∀ d ∈ s.devices.rows, d.profile.model = some "M") :
    let params := Sample.asking "true" (Sample.repeated "model" times) (Sample.repeated "M" times)
    ∃ q, Query.ofRequest params = .ok q ∧ q.details = true ∧ matching q s = s.devices.rows ∧
      ∀ size all answers, ¬Pages (params.AsksPage size) (fun other => devices other s)
        DevicePage.items size all answers := by
  intro params
  have hswitches : readSwitches none none (some "true") = .ok true := by decide +kernel
  obtain ⟨⟨q, hq, hdetails⟩, hpairs, hranges⟩ :=
    Sample.accepts_repeated hswitches (by decide : ',' ∉ "M".toList) (by decide) (by decide) times
  have hconditions := Sample.conditions_repeated hq hpairs hranges
  refine ⟨q, hq, hdetails, Sample.matching_repeated hconditions (by decide) hmodel,
    fun size all answers hpages => ?_⟩
  have hfew := (admits_of_pages hq hpages).few
  rw [hconditions, List.length_replicate] at hfew
  omega

/-- A model that makes a pattern too large leaves no pages, although the device is found by it. -/
theorem not_pages_overlong {model : String}
    (hlong : Text.Like.maxPatternBytes < model.toList.length)
    (hplain : ∀ c ∈ [',', ' ', '\x00'], c ∉ model.toList) :
    let params := Sample.asking "true" "model" model
    let s := Sample.holding model
    ∃ q, Query.ofRequest params = .ok q ∧ q.details = true ∧ matching q s = s.devices.rows ∧
      ∀ size all answers, ¬Pages (params.AsksPage size) (fun other => devices other s)
        DevicePage.items size all answers := by
  intro params s
  have hswitches : readSwitches none none (some "true") = .ok true := by decide +kernel
  have hne : model.toList ≠ [] := List.ne_nil_of_length_pos (Nat.zero_lt_of_lt hlong)
  obtain ⟨⟨q, hq, hdetails⟩, hpairs, hranges⟩ := Sample.accepts_repeated hswitches
    (hplain ',' (by simp)) (hplain ' ' (by simp)) hne 0
  have honce : ∀ word, Sample.repeated word 0 = word := fun _ => String.ofList_toList
  rw [honce, honce] at hq hpairs hranges
  have hconditions := Sample.conditions_repeated hq hpairs hranges
  have hmodel : ∀ d ∈ s.devices.rows, d.profile.model = some model :=
    List.forall_mem_singleton.mpr rfl
  refine ⟨q, hq, hdetails, Sample.matching_repeated hconditions (hplain '\x00' (by simp)) hmodel,
    fun size all answers hpages => ?_⟩
  have hshort := (admits_of_pages hq hpages).short _ (List.mem_singleton_self _)
  have hoverlong : Text.Like.isOverlong (Text.Like.containing model) = true :=
    Text.Like.isOverlong_containing (by omega)
  rw [hconditions, List.replicate_one, Device.meetsOverlong, Condition.isOverlong, hoverlong]
    at hshort
  cases hshort

/-- A listing that is accepted need not have pages, at no size: not with a thousand pairs, nor with
a model of fifty thousand and one characters, although the device is of this model; and neither if
no device has what is looked for, nor if an IMEI has no history. -/
theorem pages_need_not_be_answered :
    (let params := Sample.asking "true" (Sample.repeated "model" 999) (Sample.repeated "M" 999)
      let s := Sample.stored "M"
      s.devices.rows.length = 1 ∧
      ∃ q, Query.ofRequest params = .ok q ∧ q.details = true ∧ matching q s = s.devices.rows ∧
        ∀ size all answers, ¬Pages (params.AsksPage size) (fun other => devices other s)
          DevicePage.items size all answers) ∧
    (let model := String.ofList (List.replicate 50001 'M')
      let params := Sample.asking "true" "model" model
      let s := Sample.holding model
      s.devices.rows.length = 1 ∧
      ∃ q, Query.ofRequest params = .ok q ∧ q.details = true ∧ matching q s = s.devices.rows ∧
        ∀ size all answers, ¬Pages (params.AsksPage size) (fun other => devices other s)
          DevicePage.items size all answers) ∧
    (let params := Sample.asking "true" "model" "N"
      let s := Sample.stored "M"
      ∃ q, Query.ofRequest params = .ok q ∧ q.details = true ∧ matching q s = [] ∧
        ∀ size all answers, ¬Pages (params.AsksPage size) (fun other => devices other s)
          DevicePage.items size all answers) ∧
    Identifier.checkImei (some "999") = .ok () ∧ entries "999" (Sample.stored "M") = [] ∧
      ∀ size all answers, ¬Pages (PageRequest.AsksPage {} size)
        (fun other => history (some "999") other (Sample.stored "M")) HistoryPage.items size all
        answers := by
  have hnone : entries "999" (Sample.stored "M") = [] := by decide +kernel
  refine ⟨⟨by decide +kernel, not_pages_repeated (Nat.le_refl _) (by decide +kernel)⟩,
    ⟨rfl, not_pages_overlong ?_ fun c hc hmem => ?_⟩, ?_, by decide +kernel, hnone,
    fun size all answers hpages => found_of_pages hpages hnone⟩
  · rw [String.toList_ofList, List.length_replicate]
    decide
  · rw [String.toList_ofList] at hmem
    rw [List.eq_of_mem_replicate hmem] at hc
    revert hc
    decide
  · intro params s
    have hread : (Query.ofRequest params).toOption.any (fun q => q.details &&
        !q.contains.isEmpty && (matching q s).isEmpty) = true := by
      decide +kernel
    obtain ⟨q, hq, hread⟩ := (Option.any_eq_true _ _).mp hread
    simp only [Bool.and_eq_true, Bool.not_eq_true', List.isEmpty_iff] at hread
    obtain ⟨⟨hdetails, hsought⟩, hnone⟩ := hread
    refine ⟨q, toOption_eq_some.mp hq, hdetails, hnone, fun size all answers hpages => ?_⟩
    have hunsought := ((admits_of_pages (toOption_eq_some.mp hq) hpages).found hnone).1
    rw [hunsought] at hsought
    cases hsought

end Listing

end DeviceRegistry
