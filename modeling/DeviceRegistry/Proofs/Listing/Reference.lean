import DeviceRegistry.Proofs.Lifecycle.Runs
import DeviceRegistry.Proofs.Listing.Queries
import DeviceRegistry.Proofs.Listing.StateCounts
import DeviceRegistry.Proofs.Text.Patterns

/-!
# What a listing finds

A device answers a request if it has every value that the request looks for, and its dates lie in
the ranges that are given. This is said of the pairs of the request alone, without filters, patterns
or statements. A listing finds the devices that answer: it counts them, counts their states, and is
refused exactly if there are none although something was looked for.
-/

namespace DeviceRegistry

open Listing

/-- A device has what is looked for: a flag as the word says, or the value within a column, letter
for letter up to folding. -/
def FilterColumn.Has (fold : Char → Char) (d : Device) (value : String) : FilterColumn → Prop
  | .flag f => d.flag f = flagValue (Text.sameWord "true" value)
  | .text c => ∃ text ∈ d.profile.get c, value.toList.map fold <:+: text.toList.map fold

/-- The text in a column lies between the stored forms of the two ends of a range. -/
def TextColumn.LiesIn (d : Device) (range : String) (c : TextColumn) : Prop :=
  ∃ text ∈ d.profile.get c, ∃ ends ∈ rangeStamps? range, ends.1.text ≤ text ∧ text ≤ ends.2.text

/-- A device answers a request: it has every value in the column of its field, and every date lies
in its range. -/
def Device.Answers (fold : Char → Char) (params : Params) (d : Device) : Prop :=
  (∀ pair ∈ params.containsPairs, ∃ e ∈ containsLikeFields,
    Text.sameWord e.1 pair.1 = true ∧ e.2.Has fold d pair.2) ∧
  ∀ pair ∈ params.rangePairs, ∃ e ∈ rangeFields,
    Text.sameWord e.1 pair.1 = true ∧ e.2.LiesIn d pair.2

instance (fold : Char → Char) (d : Device) (value : String) (c : FilterColumn) :
    Decidable (c.Has fold d value) := by
  cases c <;> unfold FilterColumn.Has <;> infer_instance

instance (d : Device) (range : String) (c : TextColumn) : Decidable (c.LiesIn d range) := by
  unfold TextColumn.LiesIn
  infer_instance

instance (fold : Char → Char) (params : Params) (d : Device) :
    Decidable (d.Answers fold params) := by
  unfold Device.Answers
  infer_instance

/-- The devices that answer a request. -/
def Listing.answering (fold : Char → Char) (params : Params) (s : Store) : List Device :=
  s.devices.rows.filter fun d => d.Answers fold params

/-! ## Filters -/

section

variable {d : Device} {pair : String × String}

theorem ContainsFilter.Reads.holds_iff {f : ContainsFilter} (h : f.Reads pair)
    (stored : ∀ c, ∀ text ∈ d.profile.get c, '\x00' ∉ text.toList)
    (sought : '\x00' ∉ pair.2.toList) :
    f.condition.holds d = true ↔
      ∃ e ∈ containsLikeFields, Text.sameWord e.1 pair.1 = true ∧
        e.2.Has Text.Like.fold d pair.2 := by
  have hhas : f.condition.holds d = true ↔ f.column.Has Text.Like.fold d pair.2 := by
    obtain ⟨hfield, hvalue, -⟩ := h
    obtain ⟨field, column, value⟩ := f
    obtain rfl : value = pair.2 := hvalue
    cases column with
    | flag flag => simp [ContainsFilter.condition, Condition.holds, FilterColumn.Has]
    | text c =>
      simp only [ContainsFilter.condition, Condition.holds, FilterColumn.Has]
      cases htext : d.profile.get c with
      | none => simp
      | some text =>
        simp only [Option.mem_def, Option.some.injEq, exists_eq_left']
        exact Text.Like.holds_containing_iff sought (stored c text htext)
  obtain ⟨hmem, hword⟩ := FieldTable.mem_of_resolve? h.field
  rw [hhas]
  constructor
  · exact fun hhas => ⟨_, hmem, hword, hhas⟩
  · rintro ⟨e, he, hsame, hhas⟩
    rwa [distinct_containsLikeFields.eq_of_sameWord he hmem hsame hword] at hhas

theorem RangeFilter.Reads.holds_iff {f : RangeFilter} (h : f.Reads pair) :
    f.condition.holds d = true ↔
      ∃ e ∈ rangeFields, Text.sameWord e.1 pair.1 = true ∧ e.2.LiesIn d pair.2 := by
  have hlies : f.condition.holds d = true ↔ f.column.LiesIn d pair.2 := by
    simp [RangeFilter.holds_iff, TextColumn.LiesIn, h.ends]
  obtain ⟨hmem, hword⟩ := FieldTable.mem_of_resolve? h.field
  rw [hlies]
  constructor
  · exact fun hlies => ⟨_, hmem, hword, hlies⟩
  · rintro ⟨e, he, hsame, hlies⟩
    rwa [distinct_rangeFields.eq_of_sameWord he hmem hsame hword] at hlies

end

namespace Query

variable {params : Params} {q : Query} {s : Store}

theorem Reads.length_conditions (h : q.Reads params) :
    q.conditions.length = params.containsPairs.length + params.rangePairs.length := by
  rw [conditions, List.length_append, List.length_map, List.length_map, h.contains.length_eq,
    h.ranges.length_eq]

theorem Reads.meets_iff (h : q.Reads params) {d : Device}
    (stored : ∀ c, ∀ text ∈ d.profile.get c, '\x00' ∉ text.toList)
    (sought : ∀ pair ∈ params.containsPairs, '\x00' ∉ pair.2.toList) :
    d.meets q.conditions = true ↔ d.Answers Text.Like.fold params := by
  unfold Device.meets conditions Device.Answers
  rw [List.all_append, Bool.and_eq_true, List.all_eq_true, List.all_eq_true, List.forall_mem_map,
    List.forall_mem_map]
  refine and_congr ?_ ?_
  · exact forall_mem_iff_of_forall₂ h.contains fun pair hpair f hf =>
      hf.holds_iff stored (sought pair hpair)
  · exact forall_mem_iff_of_forall₂ h.ranges fun pair hpair f hf => hf.holds_iff

theorem Reads.matching_eq (h : q.Reads params)
    (stored : ∀ d ∈ s.devices.rows, ∀ c, ∀ text ∈ d.profile.get c, '\x00' ∉ text.toList)
    (sought : ∀ pair ∈ params.containsPairs, '\x00' ∉ pair.2.toList) :
    matching q s = answering Text.Like.fold params s := by
  refine List.filter_congr fun d hd => ?_
  rw [Bool.eq_iff_iff, h.meets_iff (stored d hd) sought, decide_eq_true_iff]

end Query

theorem Device.meetsOverlong_eq_false (d : Device) {conditions : List Condition}
    (h : ∀ c ∈ conditions, c.isOverlong = false) : d.meetsOverlong conditions = false := by
  induction conditions with
  | nil => rfl
  | cons c conditions ih =>
    obtain ⟨hc, hrest⟩ := List.forall_mem_cons.mp h
    rw [meetsOverlong, hc, ih hrest]
    simp

theorem Query.Reads.isOverlong_eq_false {params : Params} {q : Query} (h : q.Reads params)
    (sought : ∀ pair ∈ params.containsPairs,
      Text.Like.isOverlong (Text.Like.containing pair.2) = false) :
    ∀ c ∈ q.conditions, c.isOverlong = false := by
  have hcontains : ∀ f ∈ q.contains, f.condition.isOverlong = false := by
    refine (forall_mem_iff_of_forall₂ (P := fun _ => True) h.contains ?_).mpr fun _ _ => trivial
    intro pair hpair f hf
    refine iff_true_intro ?_
    unfold ContainsFilter.condition
    split
    · rfl
    · rw [hf.value]
      exact sought pair hpair
  intro c hc
  rcases List.mem_append.mp hc with hc | hc
  · obtain ⟨f, hf, rfl⟩ := List.mem_map.mp hc
    exact hcontains f hf
  · obtain ⟨f, -, rfl⟩ := List.mem_map.mp hc
    rfl

/-! ## Listings -/

namespace Listing

/-- A listing shows the devices that answer a request. If there are none although something was
looked for, it is refused with the values of the kind that was given; otherwise it counts them and
the states that they are stored in, and without details there is nothing else to see. -/
inductive ShowsAnswers (fold : Char → Char) (params : Params) (details : Bool) (s : Store) : Prop
  | uncontained (none : answering fold params s = []) (sought : params.containsPairs ≠ [])
      (refused : devices params s =
        .error (.rejected (.noMatch .containsLike (params.containsPairs.map (·.2)))))
  | outOfRange (none : answering fold params s = []) (unsought : params.containsPairs = [])
      (ranged : params.rangePairs ≠ [])
      (refused : devices params s =
        .error (.rejected (.noMatch .range (params.rangePairs.map (·.2)))))
  | shown {page : DevicePage}
      (some : answering fold params s ≠ [] ∨ params.containsPairs = [] ∧ params.rangePairs = [])
      (answered : devices params s = .ok page)
      (total : page.total = (answering fold params s).length)
      (counts : ∀ state ∈ StateCount.counted, page.stateCount.number state =
        (answering fold params s).countP fun d => d.profile.state == Option.some state.name)
      (plain : details = false →
        page.items = [] ∧ page.count = Option.some (answering fold params s).length)

section

variable {params : Params} {q : Query} {s : Store}

theorem devices_of_accepted (accepted : Query.ofRequest params = .ok q)
    (hlimits : checkConditions q.conditions s = .ok ()) :
    devices params s =
      (checked (checkFound q (matching q s))).map fun _ => page q (matching q s) := by
  unfold devices
  rw [accepted]
  show (checkConditions q.conditions s >>= _) = _
  rw [hlimits]
  show (checked (checkFound q (matching q s)) >>= _) = _
  cases checked (checkFound q (matching q s)) <;> rfl

theorem map_value_eq {α : Type} {R : String × String → α → Prop} {value : α → String}
    {pairs : List (String × String)} {filters : List α} (h : List.Forall₂ R pairs filters)
    (hvalue : ∀ pair f, R pair f → value f = pair.2) :
    filters.map value = pairs.map (·.2) := by
  induction h with
  | nil => rfl
  | cons hab _ ih => rw [List.map_cons, List.map_cons, hvalue _ _ hab, ih]

theorem isEmpty_eq {α β : Type} {R : α → β → Prop} {l : List α} {m : List β}
    (h : List.Forall₂ R l m) : m.isEmpty = l.isEmpty := by
  cases h <;> rfl

/-- What is found is refused if it is nothing although something was looked for. -/
theorem checkFound_eq (h : q.Reads params) (found : List Device) :
    checkFound q found =
      if found = [] ∧ params.containsPairs ≠ [] then
        .error (.noMatch .containsLike (params.containsPairs.map (·.2)))
      else if found = [] ∧ params.rangePairs ≠ [] then
        .error (.noMatch .range (params.rangePairs.map (·.2)))
      else .ok () := by
  unfold checkFound
  rw [map_value_eq h.contains fun _ _ hf => hf.value, map_value_eq h.ranges fun _ _ hf => hf.value,
    isEmpty_eq h.contains, isEmpty_eq h.ranges]
  cases found with
  | cons d found =>
    simp only [List.isEmpty_cons, Bool.not_false, Bool.true_or, reduceCtorEq, false_and, if_false]
    rfl
  | nil =>
    cases params.containsPairs with
    | cons pair pairs => rfl
    | nil => cases params.rangePairs <;> rfl

theorem devices_of_many (accepted : Query.ofRequest params = .ok q)
    (hmany : maxConditions < params.containsPairs.length + params.rangePairs.length) :
    devices params s = .error (.storage (.limit .conditions)) := by
  unfold devices
  rw [accepted]
  show (checkConditions q.conditions s >>= _) = _
  rw [checkConditions, (Query.reads_of_ofRequest accepted).length_conditions, if_pos hmany]
  rfl

end

/-- What a listing takes for granted: no text has a NUL, neither in a column nor in a value that is
looked for, and no pattern is too large. -/
structure Plain (params : Params) (s : Store) : Prop where
  stored : ∀ d ∈ s.devices.rows, ∀ c, ∀ text ∈ d.profile.get c, '\x00' ∉ text.toList
  sought : ∀ pair ∈ params.containsPairs, '\x00' ∉ pair.2.toList
  bounded : ∀ pair ∈ params.containsPairs,
    Text.Like.isOverlong (Text.Like.containing pair.2) = false

/-- A listing shows the devices that answer the request, as long as there are no more pairs than a
statement takes conditions. With more pairs it fails. -/
theorem devices_answer {params : Params} {q : Query} {s : Store}
    (accepted : Query.ofRequest params = .ok q) (plain : Plain params s) :
    (params.containsPairs.length + params.rangePairs.length ≤ maxConditions →
      ShowsAnswers Text.Like.fold params q.details s) ∧
    (maxConditions < params.containsPairs.length + params.rangePairs.length →
      devices params s = .error (.storage (.limit .conditions))) := by
  have hreads := Query.reads_of_ofRequest accepted
  have hmatching := hreads.matching_eq plain.stored plain.sought
  refine ⟨fun hfew => ?_, devices_of_many accepted⟩
  have hlimits : checkConditions q.conditions s = .ok () :=
    checkConditions_eq_ok.mpr ⟨hreads.length_conditions ▸ hfew,
      fun d _ => d.meetsOverlong_eq_false (hreads.isOverlong_eq_false plain.bounded)⟩
  have hdevices := devices_of_accepted accepted hlimits
  rw [checkFound_eq hreads, hmatching] at hdevices
  have hshown : (answering Text.Like.fold params s ≠ [] ∨
      params.containsPairs = [] ∧ params.rangePairs = []) →
      devices params s = .ok (page q (answering Text.Like.fold params s)) →
      ShowsAnswers Text.Like.fold params q.details s := by
    intro hsome hpage
    refine .shown hsome hpage rfl (fun state hstate => ?_) fun hdetails => ?_
    · show (StateCount.ofStates ((answering _ _ _).map (·.profile.state))).number state = _
      rw [StateCount.number_ofStates _ hstate, List.count_eq_countP, List.countP_map]
      rfl
    · simp [page, hdetails]
  by_cases hnone : answering Text.Like.fold params s = []
  · by_cases hcontains : params.containsPairs = []
    · rw [if_neg fun h => h.2 hcontains] at hdevices
      by_cases hranges : params.rangePairs = []
      · rw [if_neg fun h => h.2 hranges] at hdevices
        exact hshown (.inr ⟨hcontains, hranges⟩) hdevices
      · rw [if_pos ⟨hnone, hranges⟩] at hdevices
        exact .outOfRange hnone hcontains hranges hdevices
    · rw [if_pos ⟨hnone, hcontains⟩] at hdevices
      exact .uncontained hnone hcontains hdevices
  · rw [if_neg fun h => hnone h.1, if_neg fun h => hnone h.1] at hdevices
    exact hshown (.inl hnone) hdevices

end Listing

namespace Sample

/-- A store with one device of a model. -/
def stored (model : String) : Store :=
  let profile : RawProfile := {
    manufacturingDate := some "2020/01/02"
    recordDate := some "2020/01/03"
    model := some model
    serialNumber := some "S12" }
  let data : DeviceData := { profile := profile, vehicle := {} }
  (Registry.step environment (.create "admin" [data]) {}).2.store

/-- A request for devices by lists of fields and values, with the word for details. -/
def asking (details fields values : String) : Params := [
  ("isDetailsRequired", some details),
  ("containsLikeFields", some fields),
  ("containsLikeValues", some values)]

/-- A request for devices by lists of fields and values, without details. -/
def request (fields values : String) : Params :=
  asking "false" fields values

/-- A word written several times and once more, with commas between. -/
def repeated (word : String) (times : Nat) : String :=
  String.ofList ((List.replicate times (word.toList ++ [','])).flatten ++ word.toList)

theorem value?_asking (details fields values word : String) :
    (asking details fields values).value? word =
      if word = "containslikevalues" then some values
      else if word = "containslikefields" then some fields
      else if word = "isdetailsrequired" then some details
      else none := by
  have hdetails : Text.lower "isDetailsRequired" = "isdetailsrequired" := by decide +kernel
  have hfields : Text.lower "containsLikeFields" = "containslikefields" := by decide +kernel
  have hvalues : Text.lower "containsLikeValues" = "containslikevalues" := by decide +kernel
  unfold Params.value? asking
  simp only [List.reverse_cons, List.reverse_nil, List.nil_append, List.cons_append,
    List.find?_cons, List.find?_nil, hdetails, hfields, hvalues, eq_comm (a := word)]
  by_cases h₁ : "containslikevalues" = word
  · simp [h₁]
  · by_cases h₂ : "containslikefields" = word
    · simp [h₁, h₂, beq_eq_false_iff_ne.mpr h₁]
    · by_cases h₃ : "isdetailsrequired" = word
      · simp [h₁, h₂, h₃, beq_eq_false_iff_ne.mpr h₁, beq_eq_false_iff_ne.mpr h₂]
      · simp [h₁, h₂, h₃, beq_eq_false_iff_ne.mpr h₁, beq_eq_false_iff_ne.mpr h₂,
          beq_eq_false_iff_ne.mpr h₃]

theorem pieces_repeated {sep : Char} {word : List Char} (h : sep ∉ word) (times : Nat) :
    Text.pieces sep ((List.replicate times (word ++ [sep])).flatten ++ word) =
      List.replicate (times + 1) word := by
  induction times with
  | zero => exact Text.pieces_of_not_mem h
  | succ times ih =>
    rw [List.replicate_succ, List.flatten_cons, List.append_assoc, List.append_assoc,
      List.singleton_append, Text.pieces_append h, ih, ← List.replicate_succ]

theorem splitList_repeated {word : String} (hcomma : ',' ∉ word.toList) (hspace : ' ' ∉ word.toList)
    (hne : word.toList ≠ []) (times : Nat) :
    splitList (some (repeated word times)) = List.replicate (times + 1) word := by
  have hchars : (repeated word times).toList =
      (List.replicate times (word.toList ++ [','])).flatten ++ word.toList :=
    String.toList_ofList
  have hfull : (repeated word times).isEmpty = false := by
    rw [← Bool.not_eq_true, String.isEmpty_iff]
    rintro heq
    rw [heq] at hchars
    simp [hne] at hchars
  have hkept : (repeated word times).toList.filter (· != ' ') = (repeated word times).toList := by
    refine List.filter_eq_self.mpr fun c hc => ?_
    have hword : c ∈ word.toList ∨ c = ',' := by
      rw [hchars, List.mem_append, List.mem_flatten] at hc
      rcases hc with ⟨piece, hpiece, hc⟩ | hc
      · rw [List.eq_of_mem_replicate hpiece] at hc
        simpa using hc
      · exact .inl hc
    rcases hword with hc | rfl
    · simpa using fun heq : c = ' ' => hspace (heq ▸ hc)
    · decide
  unfold splitList
  rw [Text.filled?_eq_some.mpr ⟨rfl, hfull⟩]
  simp only
  rw [hkept, Text.split, String.toList_ofList, hchars, pieces_repeated hcomma, List.map_replicate,
    String.ofList_toList]

section

variable {details : String} {shown : Bool} {word : String}

theorem accepts_repeated (hdetails : readSwitches none none (some details) = .ok shown)
    (hcomma : ',' ∉ word.toList) (hspace : ' ' ∉ word.toList) (hne : word.toList ≠ [])
    (times : Nat) :
    let params := asking details (repeated "model" times) (repeated word times)
    (∃ q, Query.ofRequest params = .ok q ∧ q.details = shown) ∧
      params.containsPairs = List.replicate (times + 1) ("model", word) ∧
      params.rangePairs = [] := by
  intro params
  have hfields : splitList (params.value? "containslikefields") =
      List.replicate (times + 1) "model" := by
    rw [value?_asking]
    exact splitList_repeated (by decide) (by decide) (by decide) times
  have hvalues : splitList (params.value? "containslikevalues") =
      List.replicate (times + 1) word := by
    rw [value?_asking]
    exact splitList_repeated hcomma hspace hne times
  have hnone : ∀ name ∈ ["sortby", "sortbyparam", "sortingorder", "rangefields", "rangevalues",
      "page", "size"], params.value? name = none := by
    intro name hname
    rw [value?_asking, if_neg, if_neg, if_neg] <;> rintro rfl <;> revert hname <;> decide
  have hranges : params.rangePairs = [] := by
    rw [Params.rangePairs, Params.pairs, hnone "rangefields" (by decide)]
    rfl
  refine ⟨?_, by rw [Params.containsPairs, Params.pairs, hfields, hvalues, List.zip_replicate'],
    hranges⟩
  have hword : params.value? "isdetailsrequired" = some details := by
    rw [value?_asking]
    rfl
  have hswitches : readSwitches (sortParam? params) (params.value? "sortingorder")
      (params.value? "isdetailsrequired") = .ok shown := by
    rw [sortParam?, hnone "sortby" (by decide), hnone "sortbyparam" (by decide),
      hnone "sortingorder" (by decide), hword]
    exact hdetails
  have hcheck : checkContainsLike (List.replicate (times + 1) "model")
      (List.replicate (times + 1) word) = .ok () := by
    refine checkPairs_eq_ok.mpr ⟨by simp, fun field hfield => ?_⟩
    rw [List.eq_of_mem_replicate hfield]
    exact ⟨("model", .text .model), by decide +kernel⟩
  have hallowed : ∀ f ∈ containsFilters (List.replicate (times + 1) "model")
      (List.replicate (times + 1) word), f.valueAllowed = true := by
    intro f hf
    obtain ⟨pair, hpair, hf⟩ := List.mem_filterMap.mp hf
    rw [List.zip_replicate'] at hpair
    have hmodel : containsLikeFields.resolve? "model" = some ("model", .text .model) := by
      decide +kernel
    rw [List.eq_of_mem_replicate hpair] at hf
    simp only [hmodel, Option.map_some, Option.some.injEq] at hf
    rw [← hf]
    rfl
  simp only [Query.ofRequest, bind_eq_ok, checked_eq_ok, hfields, hvalues]
  refine ⟨_, ⟨shown, hswitches, (), hcheck, (), require_eq_ok.mpr (List.all_eq_true.mpr hallowed),
    (), ?_, defaultPage, ?_, defaultSize, ?_, rfl⟩, rfl⟩
  · rw [hnone "rangefields" (by decide), hnone "rangevalues" (by decide)]
    rfl
  · rw [hnone "page" (by decide)]
    rfl
  · rw [hnone "size" (by decide)]
    rfl

end

end Sample

namespace Listing

/-- Two fields, one of them in small letters: the model contains a text with both wildcards, and the
device is not stolen. -/
theorem devices_answer_wildcards :
    let params := Sample.request "Model, isstolen" "a_%, FALSE"
    let s := Sample.stored "xA_%y"
    ∃ q, Query.ofRequest params = .ok q ∧ Plain params s ∧
      (answering Text.Like.fold params s).length = 1 ∧
      ShowsAnswers Text.Like.fold params q.details s := by
  intro params s
  have haccepted : (Query.ofRequest params).toOption.isSome = true := by decide +kernel
  obtain ⟨q, hq⟩ := Option.isSome_iff_exists.mp haccepted
  have hstored : ∀ d ∈ s.devices.rows, ∀ c ∈ TextColumn.all, ∀ text ∈ d.profile.get c,
      '\x00' ∉ text.toList := by
    decide +kernel
  have hplain : Plain params s := {
    stored := fun d hd c => hstored d hd c (TextColumn.mem_all c)
    sought := by decide +kernel
    bounded := by decide +kernel }
  exact ⟨q, toOption_eq_some.mp hq, hplain, by decide +kernel,
    (devices_answer (toOption_eq_some.mp hq) hplain).1 (by decide +kernel)⟩

theorem ShowsAnswers.ne_storage {fold : Char → Char} {params : Params} {details : Bool} {s : Store}
    (h : ShowsAnswers fold params details s) (cause : StorageFault) :
    devices params s ≠ .error (.storage cause) := by
  intro hfailed
  cases h with
  | uncontained none sought refused => cases refused.symm.trans hfailed
  | outOfRange none unsought ranged refused => cases refused.symm.trans hfailed
  | shown some answered total counts plain => cases answered.symm.trans hfailed

/-- A thousand pairs or more are too many, whatever is stored. -/
theorem not_shown_repeated {times : Nat} (h : maxConditions ≤ times) (fold : Char → Char)
    {s : Store}
    (stored : ∀ d ∈ s.devices.rows, ∀ c, ∀ text ∈ d.profile.get c, '\x00' ∉ text.toList) :
    let params := Sample.request (Sample.repeated "model" times) (Sample.repeated "M" times)
    ∃ q, Query.ofRequest params = .ok q ∧ Plain params s ∧
      ¬ShowsAnswers fold params q.details s := by
  intro params
  have hswitches : readSwitches none none (some "false") = .ok false := by decide +kernel
  obtain ⟨⟨q, hq, -⟩, hpairs, -⟩ :=
    Sample.accepts_repeated hswitches (by decide) (by decide) (by decide : "M".toList ≠ []) times
  replace hpairs : params.containsPairs = List.replicate (times + 1) ("model", "M") := hpairs
  have hpair : ∀ pair ∈ params.containsPairs, pair = ("model", "M") := by
    intro pair hpair
    rw [hpairs] at hpair
    exact List.eq_of_mem_replicate hpair
  refine ⟨q, hq, ⟨stored, fun pair hmem => ?_, fun pair hmem => ?_⟩, fun hshows => ?_⟩
  · rw [hpair pair hmem]
    decide
  · rw [hpair pair hmem]
    decide +kernel
  · refine hshows.ne_storage _ (devices_of_many hq ?_)
    rw [hpairs, List.length_replicate]
    omega

/-- Up to the case of ASCII letters alone, and without a bound on the number of pairs, a listing
need not show the answers: a device whose model is the replacement character is found by another
character that counts as it, and a listing by a thousand pairs fails. -/
theorem devices_need_not_answer :
    (let params := Sample.request "model" "\uFFFE"
      let s := Sample.stored "\uFFFD"
      ∃ q, Query.ofRequest params = .ok q ∧ Plain params s ∧
        ¬ShowsAnswers Char.toLower params q.details s) ∧
    let params := Sample.request (Sample.repeated "model" 999) (Sample.repeated "M" 999)
    let s := Sample.stored "M"
    ∃ q, Query.ofRequest params = .ok q ∧ Plain params s ∧
      ¬ShowsAnswers Char.toLower params q.details s := by
  have hM : ∀ d ∈ (Sample.stored "M").devices.rows, ∀ c ∈ TextColumn.all,
      ∀ text ∈ d.profile.get c, '\x00' ∉ text.toList := by
    decide +kernel
  refine ⟨?_, not_shown_repeated (Nat.le_refl _) _
    fun d hd c => hM d hd c (TextColumn.mem_all c)⟩
  intro params s
  have hstored : ∀ d ∈ s.devices.rows, ∀ c ∈ TextColumn.all, ∀ text ∈ d.profile.get c,
      '\x00' ∉ text.toList := by
    decide +kernel
  have haccepted : (Query.ofRequest params).toOption.isSome = true := by decide +kernel
  have hfound : (devices params s).toOption.isSome = true := by decide +kernel
  have hnone : answering Char.toLower params s = [] := by decide +kernel
  have hsought : params.containsPairs ≠ [] := by decide +kernel
  obtain ⟨q, hq⟩ := Option.isSome_iff_exists.mp haccepted
  refine ⟨q, toOption_eq_some.mp hq, ⟨fun d hd c => ?_, by decide +kernel, by decide +kernel⟩, ?_⟩
  · exact hstored d hd c (TextColumn.mem_all c)
  · intro hshows
    cases hshows with
    | uncontained none sought refused =>
      rw [refused] at hfound
      cases hfound
    | outOfRange none unsought ranged refused => exact hsought unsought
    | shown some answered total counts plain =>
      rcases some with hsome | ⟨hunsought, -⟩
      · exact hsome hnone
      · exact hsought hunsought

end Listing

end DeviceRegistry
