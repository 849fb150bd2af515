import DeviceRegistry.Proofs.Listing.Order
import DeviceRegistry.Proofs.Listing.Wording
import DeviceRegistry.Proofs.Text.Words

/-!
# The spelling of a request

The names of a request, the fields that it lists, its switches and the values of flags are words of
any case. Each of them can be lowered before it is read, so two requests that agree when they are
lowered, in any order, have the same statements or are refused alike
(`Query.statements_respelled`).
-/

namespace DeviceRegistry

/-! ## Lowered fields -/

theorem FieldTable.Distinct.resolve?_lower {α : Type} {table : FieldTable α} (h : table.Distinct)
    (field : String) : table.resolve? (Text.lower field) = table.resolve? field := by
  ext e
  rw [h.resolve?_eq_some, h.resolve?_eq_some, Text.sameWord_iff, Text.sameWord_iff,
    Text.lower_lower]

theorem FieldTable.Distinct.bind_resolve?_map_lower {α : Type} {table : FieldTable α}
    (h : table.Distinct) (field : Option String) :
    (field.map Text.lower).bind table.resolve? = field.bind table.resolve? := by
  cases field with
  | none => rfl
  | some field => exact h.resolve?_lower field

theorem Direction.ofWord?_lower (word : String) : ofWord? (Text.lower word) = ofWord? word := by
  simp only [ofWord?, Text.sameWord_lower]

theorem Direction.ofRequest_map_lower (order : Option String) :
    ofRequest (order.map Text.lower) = ofRequest order := by
  cases order with
  | none => rfl
  | some word => simp only [ofRequest, Option.map_some, Option.bind_some, ofWord?_lower]

theorem Sorting.ofRequest_map_lower (fields : FieldTable Column) (sortBy order : Option String) :
    ofRequest fields sortBy (order.map Text.lower) = ofRequest fields sortBy order := by
  simp only [ofRequest, Direction.ofRequest_map_lower]

namespace Listing

theorem readSwitches_map_lower (sortBy order details : Option String) :
    readSwitches (sortBy.map Text.lower) (order.map Text.lower) (details.map Text.lower) =
      readSwitches sortBy order details := by
  simp only [readSwitches, Text.filled?_map_lower]
  cases Text.filled? sortBy <;> cases Text.filled? order <;> cases Text.filled? details <;>
    simp only [Option.map_none, Option.map_some, FieldTable.contains,
      distinct_detailsSortFields.resolve?_lower, Direction.ofWord?_lower, Text.sameWord_lower]

theorem splitList_map_lower (value : Option String) :
    splitList (value.map Text.lower) = (splitList value).map Text.lower := by
  have hcomma : ∀ c, Text.lowerChar c = ',' ↔ c = ',' := fun c =>
    Text.lowerChar_eq_iff (by decide) (by decide)
  have hspace : ∀ c, Text.lowerChar c = ' ' ↔ c = ' ' := fun c =>
    Text.lowerChar_eq_iff (by decide) (by decide)
  unfold splitList
  rw [Text.filled?_map_lower]
  cases Text.filled? value with
  | none => rfl
  | some s =>
    have hfilter : (Text.lower s).toList.filter (· != ' ') =
        (s.toList.filter (· != ' ')).map Text.lowerChar := by
      rw [Text.toList_lower, List.filter_map]
      congr 2
      funext c
      rw [Function.comp_apply, bne, bne, beq_eq_decide, beq_eq_decide,
        decide_eq_decide.mpr (hspace c)]
    rw [Option.map_some, ← Text.split_lower hcomma, Text.lower_ofList, ← hfilter]

theorem checkPairs_map_lower {α : Type} {table : FieldTable α} (h : table.Distinct)
    (cause : Rejection) (fields values : List String) :
    checkPairs table cause (fields.map Text.lower) values =
      checkPairs table cause fields values := by
  have hcontains : table.contains ∘ Text.lower = table.contains := by
    funext field
    rw [Function.comp_apply, FieldTable.contains, FieldTable.contains, h.resolve?_lower]
  rw [checkPairs, checkPairs, List.length_map, List.all_map, hcontains]

theorem containsFilters_map_lower (fields values : List String) :
    containsFilters (fields.map Text.lower) values = containsFilters fields values := by
  unfold containsFilters
  rw [List.zip_map_left, List.filterMap_map]
  refine List.filterMap_congr fun ⟨field, value⟩ _ => ?_
  show (containsLikeFields.resolve? (Text.lower field)).map _ = _
  rw [distinct_containsLikeFields.resolve?_lower]
  rfl

theorem rangeFilters_map_lower (fields values : List String) :
    rangeFilters (fields.map Text.lower) values = rangeFilters fields values := by
  unfold rangeFilters
  rw [List.zip_map_left, List.filterMap_map]
  refine List.filterMap_congr fun ⟨field, value⟩ _ => ?_
  show (rangeFields.resolve? (Text.lower field)).bind _ = _
  rw [distinct_rangeFields.resolve?_lower]
  rfl

/-! ## The values of flags -/

/-- A field that stands for a flag. -/
def isFlagField (field : String) : Bool :=
  Text.sameWord "isStolen" field || Text.sameWord "isFaulty" field

/-- The values of some fields, those of flags lowered. -/
def lowerFlags : List String → List String → List String
  | field :: fields, value :: values =>
    (if isFlagField field then Text.lower value else value) :: lowerFlags fields values
  | _, values => values

theorem length_lowerFlags (fields values : List String) :
    (lowerFlags fields values).length = values.length := by
  induction values generalizing fields with
  | nil => cases fields <;> rfl
  | cons value values ih =>
    cases fields with
    | nil => rfl
    | cons field fields => simp [lowerFlags, ih]

theorem isFlagField_eq {field : String} {e : String × FilterColumn}
    (h : containsLikeFields.resolve? field = some e) :
    isFlagField field = match e.2 with
      | .flag _ => true
      | .text _ => false := by
  obtain ⟨he, hsame⟩ := FieldTable.mem_of_resolve? h
  have hflag : ∀ e ∈ containsLikeFields, isFlagField e.1 = match e.2 with
      | .flag _ => true
      | .text _ => false := by
    decide +kernel
  rw [← hflag e he, isFlagField, isFlagField, Text.sameWord, Text.sameWord,
    ← Text.sameWord_iff.mp hsame]
  rfl

end Listing

/-- A filter whose value is lowered if it is that of a flag. -/
def ContainsFilter.lowered (f : ContainsFilter) : ContainsFilter :=
  match f.column with
  | .flag _ => { f with value := Text.lower f.value }
  | .text _ => f

theorem ContainsFilter.condition_lowered (f : ContainsFilter) :
    f.lowered.condition = f.condition := by
  obtain ⟨field, column | flag, value⟩ := f
  · rfl
  · simp only [lowered, condition, Text.sameWord_lower]

theorem ContainsFilter.valueAllowed_lowered (f : ContainsFilter) :
    f.lowered.valueAllowed = f.valueAllowed := by
  obtain ⟨field, column | flag, value⟩ := f
  · rfl
  · simp only [lowered, valueAllowed, Text.sameWord_lower]

namespace Listing

theorem map_lowered_containsFilters (fields values : List String) :
    (containsFilters fields values).map ContainsFilter.lowered =
      containsFilters fields (lowerFlags fields values) := by
  induction fields generalizing values with
  | nil => rfl
  | cons field fields ih =>
    cases values with
    | nil => rfl
    | cons value values =>
      have ih := ih values
      simp only [containsFilters] at ih
      simp only [containsFilters, lowerFlags, List.zip_cons_cons, List.filterMap_cons]
      cases hfound : containsLikeFields.resolve? field with
      | none => exact ih
      | some e =>
        simp only [Option.map_some, List.map_cons, ih, isFlagField_eq hfound]
        congr 1
        obtain ⟨name, column | flag⟩ := e <;> rfl

/-- Values that agree when those of flags are lowered set the same conditions. -/
theorem conditions_containsFilters {fields fields' values values' : List String}
    (hfields : fields.map Text.lower = fields'.map Text.lower)
    (hvalues : lowerFlags fields values = lowerFlags fields values') :
    (containsFilters fields values).map (·.condition) =
        (containsFilters fields' values').map (·.condition) ∧
      (containsFilters fields values).all (·.valueAllowed) =
        (containsFilters fields' values').all (·.valueAllowed) := by
  have hlowered : (containsFilters fields values).map ContainsFilter.lowered =
      (containsFilters fields' values').map ContainsFilter.lowered := by
    rw [map_lowered_containsFilters, hvalues, ← map_lowered_containsFilters,
      ← containsFilters_map_lower, hfields, containsFilters_map_lower]
  have hcondition : ∀ filters : List ContainsFilter,
      filters.map (·.condition) = (filters.map ContainsFilter.lowered).map (·.condition) := by
    intro filters
    rw [List.map_map]
    exact List.map_congr_left fun f _ => f.condition_lowered.symm
  have hallowed : ∀ filters : List ContainsFilter, filters.all (·.valueAllowed) =
      (filters.map ContainsFilter.lowered).all (·.valueAllowed) := by
    intro filters
    rw [List.all_map]
    congr 1
    funext f
    exact f.valueAllowed_lowered.symm
  rw [hcondition, hlowered, ← hcondition, hallowed, hlowered, ← hallowed]
  exact ⟨rfl, rfl⟩

end Listing

/-! ## Requests -/

namespace Params

/-- The words that name the entries of a request. -/
def words : List String :=
  ["sortby", "sortbyparam", "sortingorder", "isdetailsrequired", "containslikefields",
    "containslikevalues", "rangefields", "rangevalues", "page", "size"]

/-- The words whose entries hold words of any case. -/
def caselessWords : List String :=
  ["sortby", "sortbyparam", "sortingorder", "isdetailsrequired", "containslikefields",
    "rangefields"]

/-- No two names are the same word. -/
def Distinct (params : Params) : Prop :=
  (params.map fun e => Text.lower e.1).Nodup

instance (params : Params) : Decidable params.Distinct :=
  inferInstanceAs (Decidable (List.Nodup _))

/-- Two values under one word differ at most in case: those that are words, and those that list the
values of some fields, where the field is a flag. -/
def SameValue (fields : List String) (word : String) (v w : Option String) : Prop :=
  if word ∈ caselessWords then v.map Text.lower = w.map Text.lower
  else if word = "containslikevalues" then
    Listing.lowerFlags fields (Listing.splitList v) =
      Listing.lowerFlags fields (Listing.splitList w)
  else v = w

instance (fields : List String) (word : String) (v w : Option String) :
    Decidable (SameValue fields word v w) :=
  inferInstanceAs (Decidable (
    if word ∈ caselessWords then v.map Text.lower = w.map Text.lower
    else if word = "containslikevalues" then
      Listing.lowerFlags fields (Listing.splitList v) =
        Listing.lowerFlags fields (Listing.splitList w)
    else v = w))

/-- Two entries under one word whose values differ at most in case. -/
def SameEntry (fields : List String) (e f : String × Option String) : Prop :=
  Text.lower e.1 = Text.lower f.1 ∧ SameValue fields (Text.lower e.1) e.2 f.2

instance (fields : List String) (e f : String × Option String) :
    Decidable (SameEntry fields e f) :=
  inferInstanceAs (Decidable (_ ∧ _))

/-- Two requests that differ at most in the order of their entries and in the case of names, listed
fields, switches and the values of flags. -/
def Respelled (p q : Params) : Prop :=
  ∃ r : Params, List.Perm p r ∧ List.Forall₂
    (SameEntry (Listing.splitList (p.value? "containslikefields"))) r q

/-- The last entry whose name is a word. -/
def under? (params : Params) (word : String) : Option (String × Option String) :=
  params.reverse.find? fun e => Text.lower e.1 == word

theorem value?_eq (params : Params) (word : String) :
    params.value? word = (params.under? word).bind (·.2) :=
  rfl

variable {params p q : Params} {word : String}

theorem lower_of_under? {e : String × Option String} (h : params.under? word = some e) :
    Text.lower e.1 = word := by
  simpa using List.find?_some h

theorem Distinct.under?_eq_some (h : params.Distinct) {e : String × Option String} :
    params.under? word = some e ↔ e ∈ params ∧ Text.lower e.1 = word := by
  constructor
  · intro he
    exact ⟨List.mem_reverse.mp (List.mem_of_find?_eq_some he), lower_of_under? he⟩
  · rintro ⟨he, hword⟩
    have hsome : (params.under? word).isSome = true :=
      List.find?_isSome.mpr ⟨e, List.mem_reverse.mpr he, by simpa using hword⟩
    obtain ⟨f, hf⟩ := Option.isSome_iff_exists.mp hsome
    have hmem := List.mem_reverse.mp (List.mem_of_find?_eq_some hf)
    rw [hf, List.inj_on_of_nodup_map h hmem he ((lower_of_under? hf).trans hword.symm)]

theorem Distinct.under?_perm (h : p.Distinct) (hperm : List.Perm p q) :
    p.under? word = q.under? word := by
  have hq : q.Distinct := (hperm.map _).nodup_iff.mp h
  ext e
  rw [h.under?_eq_some, hq.under?_eq_some, hperm.mem_iff]

end Params

/-- Side by side, lists whose members agree in a property have their first member with it side by
side. -/
theorem rel_find?_of_forall₂ {α β : Type} {R : α → β → Prop} {f : α → Bool} {g : β → Bool}
    {l : List α} {m : List β} (h : List.Forall₂ R l m) (hfg : ∀ a b, R a b → f a = g b) :
    Option.Rel R (l.find? f) (m.find? g) := by
  induction h with
  | nil => exact .none
  | @cons a b l m hab _ ih =>
    rw [List.find?_cons, List.find?_cons, hfg a b hab]
    cases g b with
    | true => exact .some hab
    | false => exact ih

namespace Params

variable {params p q : Params} {word : String}

theorem SameValue.refl (fields : List String) (word : String) (v : Option String) :
    SameValue fields word v v := by
  unfold SameValue
  split
  · rfl
  · split <;> rfl

theorem SameValue.lowered {fields : List String} {v w : Option String}
    (h : SameValue fields word v w) (hword : word ∈ caselessWords) :
    v.map Text.lower = w.map Text.lower := by
  rwa [SameValue, if_pos hword] at h

theorem SameValue.listed {fields : List String} {v w : Option String}
    (h : SameValue fields "containslikevalues" v w) :
    Listing.lowerFlags fields (Listing.splitList v) =
      Listing.lowerFlags fields (Listing.splitList w) := by
  rwa [SameValue, if_neg (by decide +kernel), if_pos rfl] at h

theorem SameValue.eq {fields : List String} {v w : Option String}
    (h : SameValue fields word v w) (hword : word ∉ caselessWords)
    (hvalues : word ≠ "containslikevalues") : v = w := by
  rwa [SameValue, if_neg hword, if_neg hvalues] at h

theorem Respelled.value? (h : p.Respelled q) (hp : p.Distinct) (word : String) :
    SameValue (Listing.splitList (p.value? "containslikefields")) word (p.value? word)
      (q.value? word) := by
  obtain ⟨r, hperm, hentries⟩ := h
  have hfound : Option.Rel (SameEntry (Listing.splitList (p.value? "containslikefields")))
      (r.under? word) (q.under? word) :=
    rel_find?_of_forall₂ (List.forall₂_reverse_iff.mpr hentries) fun e f h => by rw [h.1]
  rw [value?_eq p word, value?_eq q word, hp.under?_perm hperm]
  generalize hr : r.under? word = e at hfound ⊢
  generalize q.under? word = f at hfound ⊢
  cases hfound with
  | none => exact .refl _ _ _
  | some h =>
    have hsame := h.2
    rwa [lower_of_under? hr] at hsame

theorem map_lower_sortParam? (params : Params) :
    (Listing.sortParam? params).map Text.lower =
      (Text.filled? ((params.value? "sortby").map Text.lower)).or
        ((params.value? "sortbyparam").map Text.lower) := by
  rw [Listing.sortParam?, Text.filled?_map_lower]
  cases Text.filled? (params.value? "sortby") <;> rfl

/-- Two requests give the same values when those that are read as words are lowered. -/
structure ReadAlike (p q : Params) : Prop where
  sortBy : (Listing.sortParam? p).map Text.lower = (Listing.sortParam? q).map Text.lower
  order : (p.value? "sortingorder").map Text.lower = (q.value? "sortingorder").map Text.lower
  details : (p.value? "isdetailsrequired").map Text.lower =
    (q.value? "isdetailsrequired").map Text.lower
  containsFields : (p.value? "containslikefields").map Text.lower =
    (q.value? "containslikefields").map Text.lower
  containsValues :
    Listing.lowerFlags (Listing.splitList (p.value? "containslikefields"))
        (Listing.splitList (p.value? "containslikevalues")) =
      Listing.lowerFlags (Listing.splitList (p.value? "containslikefields"))
        (Listing.splitList (q.value? "containslikevalues"))
  rangeFields : (p.value? "rangefields").map Text.lower = (q.value? "rangefields").map Text.lower
  rangeValues : p.value? "rangevalues" = q.value? "rangevalues"
  page : p.value? "page" = q.value? "page"
  size : p.value? "size" = q.value? "size"

theorem Respelled.readAlike (h : p.Respelled q) (hp : p.Distinct) : p.ReadAlike q where
  sortBy := by
    have hfirst : (p.value? "sortby").map Text.lower = (q.value? "sortby").map Text.lower :=
      (h.value? hp "sortby").lowered (by decide +kernel)
    have hsecond :
        (p.value? "sortbyparam").map Text.lower = (q.value? "sortbyparam").map Text.lower :=
      (h.value? hp "sortbyparam").lowered (by decide +kernel)
    rw [map_lower_sortParam?, map_lower_sortParam?, hfirst, hsecond]
  order := (h.value? hp "sortingorder").lowered (by decide +kernel)
  details := (h.value? hp "isdetailsrequired").lowered (by decide +kernel)
  containsFields := (h.value? hp "containslikefields").lowered (by decide +kernel)
  containsValues := (h.value? hp "containslikevalues").listed
  rangeFields := (h.value? hp "rangefields").lowered (by decide +kernel)
  rangeValues := (h.value? hp "rangevalues").eq (by decide +kernel) (by decide)
  page := (h.value? hp "page").eq (by decide +kernel) (by decide)
  size := (h.value? hp "size").eq (by decide +kernel) (by decide)

end Params

/-- What follows a step that does not fail settles what comes of it. -/
theorem map_bind_congr {ε α β γ : Type} {f : β → γ} (x : Except ε α) {g g' : α → Except ε β}
    (h : ∀ a, (g a).map f = (g' a).map f) : (x >>= g).map f = (x >>= g').map f := by
  cases x with
  | error => rfl
  | ok a => exact h a

namespace Query

open Listing

theorem statements_eq {q q' : Query} (hconditions : q.conditions = q'.conditions)
    (hsorting : q.sorting = q'.sorting) (hpage : q.page = q'.page) (hsize : q.size = q'.size) :
    q.statements = q'.statements := by
  unfold statements countStatement stateStatement pageStatement
  rw [hconditions, hsorting, hpage, hsize]

variable {p q : Params}

theorem map_statements_ofRequest (h : p.ReadAlike q) :
    (ofRequest p).map statements = (ofRequest q).map statements := by
  have hfields := congrArg splitList h.containsFields
  rw [splitList_map_lower, splitList_map_lower] at hfields
  have hranges := congrArg splitList h.rangeFields
  rw [splitList_map_lower, splitList_map_lower] at hranges
  have hlength := congrArg List.length h.containsValues
  rw [length_lowerFlags, length_lowerFlags] at hlength
  obtain ⟨hconditions, hallowed⟩ := conditions_containsFilters hfields h.containsValues
  have hswitches : readSwitches (sortParam? p) (p.value? "sortingorder")
      (p.value? "isdetailsrequired") = readSwitches (sortParam? q) (q.value? "sortingorder")
      (q.value? "isdetailsrequired") := by
    rw [← readSwitches_map_lower, h.sortBy, h.order, h.details, readSwitches_map_lower]
  have hcontains : checkContainsLike (splitList (p.value? "containslikefields"))
      (splitList (p.value? "containslikevalues")) =
        checkContainsLike (splitList (q.value? "containslikefields"))
          (splitList (q.value? "containslikevalues")) := by
    rw [checkContainsLike, ← checkPairs_map_lower distinct_containsLikeFields, hfields,
      checkPairs_map_lower distinct_containsLikeFields, checkPairs, hlength, checkContainsLike,
      checkPairs]
  have hrange : checkRange (splitList (p.value? "rangefields"))
      (splitList (p.value? "rangevalues")) =
        checkRange (splitList (q.value? "rangefields")) (splitList (q.value? "rangevalues")) := by
    rw [checkRange, ← checkPairs_map_lower distinct_rangeFields, hranges, h.rangeValues,
      checkPairs_map_lower distinct_rangeFields, checkRange]
  have hfilters : rangeFilters (splitList (p.value? "rangefields"))
      (splitList (p.value? "rangevalues")) =
        rangeFilters (splitList (q.value? "rangefields")) (splitList (q.value? "rangevalues")) := by
    rw [← rangeFilters_map_lower, hranges, h.rangeValues, rangeFilters_map_lower]
  have hsortBy : (Text.filled? (sortParam? p)).bind detailsSortFields.resolve? =
      (Text.filled? (sortParam? q)).bind detailsSortFields.resolve? := by
    rw [← distinct_detailsSortFields.bind_resolve?_map_lower, ← Text.filled?_map_lower, h.sortBy,
      Text.filled?_map_lower, distinct_detailsSortFields.bind_resolve?_map_lower]
  simp only [ofRequest, hswitches, hcontains, hallowed, hrange, hfilters, h.page, h.size]
  refine map_bind_congr _ fun details => map_bind_congr _ fun _ => map_bind_congr _ fun _ =>
    map_bind_congr _ fun _ => map_bind_congr _ fun page => map_bind_congr _ fun size => ?_
  refine congrArg Except.ok (statements_eq ?_ ?_ rfl rfl)
  · rw [conditions, conditions, hconditions]
  · rw [sorting, sorting, hsortBy, ← Sorting.ofRequest_map_lower, h.order,
      Sorting.ofRequest_map_lower]

theorem ofRequest_congr (h : ∀ word ∈ Params.words, p.value? word = q.value? word) :
    ofRequest p = ofRequest q := by
  simp only [Params.words, List.forall_mem_cons, List.not_mem_nil, false_imp_iff, implies_true,
    and_true] at h
  obtain ⟨h₁, h₂, h₃, h₄, h₅, h₆, h₇, h₈, h₉, h₁₀⟩ := h
  simp only [ofRequest, sortParam?, h₁, h₂, h₃, h₄, h₅, h₆, h₇, h₈, h₉, h₁₀]

/-- A request may be written in any case and its entries may stand in any order: it has the same
statements with the same values, or it is refused for the same cause. Entries under other names than
the known ones change nothing. -/
theorem statements_respelled :
    (∀ p q : Params, p.Distinct → p.Respelled q →
      (ofRequest p).map statements = (ofRequest q).map statements) ∧
    ∀ p : Params, ofRequest (p.filter fun e => Text.lower e.1 ∈ Params.words) = ofRequest p :=
  ⟨fun _ _ hp h => map_statements_ofRequest (h.readAlike hp),
    fun p => ofRequest_congr fun _ hword => p.value?_filter fun e he => by simp [he, hword]⟩

/-- A request for the stolen devices of a model in capitals and from back to front, and with an
entry that nothing reads. -/
theorem statements_respelled_stolen :
    let p : Params := [("sortBy", some "serialNumber"), ("sortingOrder", some "desc"),
      ("isDetailsRequired", some "true"), ("containsLikeFields", some "model, isStolen"),
      ("containsLikeValues", some "K2, true"), ("page", some "2")]
    let q : Params := [("PAGE", some "2"), ("CONTAINSLIKEVALUES", some "K2, TRUE"),
      ("CONTAINSLIKEFIELDS", some "MODEL, ISSTOLEN"), ("ISDETAILSREQUIRED", some "TRUE"),
      ("SORTINGORDER", some "DESC"), ("SORTBY", some "SERIALNUMBER")]
    ((ofRequest p).map statements).toOption.isSome = true ∧
      (ofRequest p).map statements = (ofRequest q).map statements ∧
      ofRequest (("colour", some "red") :: p) = ofRequest p := by
  intro p q
  obtain ⟨hcase, hunknown⟩ := statements_respelled
  have hrespelled : p.Respelled q :=
    ⟨p.reverse, p.reverse_perm.symm, by decide +kernel⟩
  exact ⟨by decide +kernel, hcase p q (by decide +kernel) hrespelled,
    (hunknown _).symm.trans (hunknown p)⟩

end Query

end DeviceRegistry
