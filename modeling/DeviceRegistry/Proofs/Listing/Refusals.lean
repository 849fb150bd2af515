import DeviceRegistry.Listing.Devices
import DeviceRegistry.Proofs.Store.Statements
import DeviceRegistry.Proofs.Text.Numerals

/-!
# How a listing fails over its request

The checks of a request refuse it, each with a cause of its own kind. Only the two numbers of a page
can fail without a refusal: one that is written in more digits than are read as a number is not read
at all. So a request that passes the checks before them fails so exactly if its page, or after a
good page its size, is overlong (`Listing.refused_or_overlong`).
-/

namespace DeviceRegistry

/-! ## Ways to fail -/

/-- A result fails in certain ways only, if it fails. -/
def FailsAs {ε α : Type} (P : ε → Prop) (x : Except ε α) : Prop :=
  ∀ e, x = .error e → P e

namespace FailsAs

variable {ε α β : Type} {P Q : ε → Prop}

theorem ok (a : α) : FailsAs P (.ok a) := nofun

theorem error {e : ε} (h : P e) : FailsAs P (.error e : Except ε α) := by
  rintro _ ⟨⟩
  exact h

theorem bind {x : Except ε α} {f : α → Except ε β} (hx : FailsAs P x)
    (hf : ∀ a, FailsAs P (f a)) : FailsAs P (x >>= f) := by
  intro e he
  rcases bind_eq_error.mp he with h | ⟨a, -, h⟩
  · exact hx e h
  · exact hf a e h

theorem mono {x : Except ε α} (hx : FailsAs P x) (h : ∀ e, P e → Q e) : FailsAs Q x :=
  fun e he => h e (hx e he)

theorem require (condition : Bool) {P : Rejection → Prop} {cause : Rejection} (h : P cause) :
    FailsAs P (require condition cause) := by
  unfold DeviceRegistry.require
  split
  · exact ok _
  · exact error h

theorem ifFilled {P : Rejection → Prop} (value : Option String) {check : String → Check}
    {next : Except Rejection α} (hcheck : ∀ s, FailsAs P (check s)) (hnext : FailsAs P next) :
    FailsAs P (match Text.filled? value with
      | some s => check s >>= fun _ => next
      | none => next) := by
  split
  · exact .bind (hcheck _) fun _ => hnext
  · exact hnext

end FailsAs

/-- A refusal for a cause of one of some kinds. -/
def Failure.IsRefusal (kinds : List ProblemKind) (e : Failure) : Prop :=
  ∃ cause, e = .rejected cause ∧ cause.problem.kind ∈ kinds

theorem checked_eq_error {α : Type} {x : Except Rejection α} {e : Failure} :
    checked x = .error e ↔ ∃ cause, x = .error cause ∧ e = .rejected cause := by
  cases x with
  | ok a => exact ⟨nofun, nofun⟩
  | error cause =>
    constructor
    · rintro ⟨⟩
      exact ⟨cause, rfl, rfl⟩
    · rintro ⟨_, ⟨⟩, rfl⟩
      rfl

theorem checked_ne_tooManyDigits {α : Type} (x : Except Rejection α) :
    checked x ≠ .error .tooManyDigits := by
  intro h
  obtain ⟨_, -, he⟩ := checked_eq_error.mp h
  cases he

theorem checked_bind_eq_tooManyDigits {α β : Type} {x : Except Rejection α}
    {f : α → Except Failure β} :
    (checked x >>= f) = .error .tooManyDigits ↔ ∃ a, x = .ok a ∧ f a = .error .tooManyDigits := by
  simp only [bind_eq_error, checked_ne_tooManyDigits, false_or, checked_eq_ok]

namespace Listing

/-! ## Numbers -/

/-- A number that is written in more digits than are read. -/
def Overlong (value : Option String) : Prop :=
  ∃ s, value = some s ∧ Text.isNumeric (Text.trim s) = true ∧
    Text.maxDigits < (Text.trim s).length

/-- A page cannot be read: it is overlong itself, or it is good and its size is overlong. -/
def Unreadable (page size : Option String) : Prop :=
  Overlong page ∨ (∃ k, resolvePage page = .ok k) ∧ Overlong size

theorem readNumber_eq_tooManyDigits {cause : Rejection} {s : String} :
    readNumber cause s = .error .tooManyDigits ↔
      Text.isNumeric (Text.trim s) = true ∧ Text.maxDigits < (Text.trim s).length := by
  unfold readNumber
  by_cases hnumeric : Text.isNumeric (Text.trim s) = true
  · by_cases hlong : Text.maxDigits < (Text.trim s).length <;> simp [hnumeric, hlong]
  · simp [hnumeric]

/-- The empty text is no number, and a filled one that is read needs no default. -/
theorem resolve_eq_tooManyDigits {cause : Rejection} {default : Nat}
    {accept : Nat → Except Failure Nat} (haccept : ∀ n, accept n ≠ .error .tooManyDigits)
    (value : Option String) :
    (match Text.filled? value with
      | none => Except.ok default
      | some s => readNumber cause s >>= accept) = .error .tooManyDigits ↔ Overlong value := by
  cases hfilled : Text.filled? value with
  | none =>
    refine iff_of_false nofun ?_
    rintro ⟨s, rfl, hnumeric, -⟩
    have hempty : s.isEmpty = true := by simpa [Text.filled?] using hfilled
    rw [String.isEmpty_iff.mp hempty] at hnumeric
    exact absurd hnumeric (by decide)
  | some s =>
    obtain ⟨rfl, -⟩ := Text.filled?_eq_some.mp hfilled
    simp only [bind_eq_error, readNumber_eq_tooManyDigits]
    constructor
    · rintro (h | ⟨n, -, h⟩)
      · exact ⟨s, rfl, h⟩
      · exact absurd h (haccept n)
    · rintro ⟨_, ⟨⟩, h⟩
      exact .inl h

theorem resolvePage_eq_tooManyDigits {value : Option String} :
    resolvePage value = .error .tooManyDigits ↔ Overlong value := by
  refine resolve_eq_tooManyDigits (fun page => ?_) value
  dsimp only
  split
  · rintro ⟨⟩
  · split <;> rintro ⟨⟩

theorem resolveSize_eq_tooManyDigits {value : Option String} :
    resolveSize value = .error .tooManyDigits ↔ Overlong value := by
  refine resolve_eq_tooManyDigits (fun size => ?_) value
  split <;> rintro ⟨⟩

theorem page_eq_tooManyDigits {α : Type} {page size : Option String}
    {f : Nat → Nat → Except Failure α} (hf : ∀ k n, f k n ≠ .error .tooManyDigits) :
    (resolvePage page >>= fun k => resolveSize size >>= fun n => f k n) = .error .tooManyDigits ↔
      Unreadable page size := by
  simp only [bind_eq_error, resolvePage_eq_tooManyDigits, resolveSize_eq_tooManyDigits, hf,
    and_false, exists_false, or_false, Unreadable, exists_and_right]

/-- The way in which a number of a page fails: it is refused in its kind, or not read. -/
def NumberFails (kind : ProblemKind) (e : Failure) : Prop :=
  e.IsRefusal [kind] ∨ e = .tooManyDigits

theorem numberFails_rejected {kind : ProblemKind} {cause : Rejection}
    (h : cause.problem.kind = kind) : NumberFails kind (.rejected cause) :=
  .inl ⟨cause, rfl, List.mem_singleton.mpr h⟩

theorem failsAs_readNumber {kind : ProblemKind} {cause : Rejection}
    (h : cause.problem.kind = kind) (s : String) :
    FailsAs (NumberFails kind) (readNumber cause s) := by
  unfold readNumber
  dsimp only
  split
  · exact .error (numberFails_rejected h)
  · split
    · exact .error (.inr rfl)
    · exact .ok _

theorem failsAs_resolvePage (value : Option String) :
    FailsAs (NumberFails .pageParameter) (resolvePage value) := by
  unfold resolvePage
  cases Text.filled? value with
  | none => exact .ok _
  | some s =>
    refine .bind (failsAs_readNumber rfl s) fun page => ?_
    dsimp only
    split
    · exact .error (numberFails_rejected rfl)
    · split
      · exact .error (numberFails_rejected rfl)
      · exact .ok _

theorem failsAs_resolveSize (value : Option String) :
    FailsAs (NumberFails .sizeParameter) (resolveSize value) := by
  unfold resolveSize
  cases Text.filled? value with
  | none => exact .ok _
  | some s =>
    refine .bind (failsAs_readNumber rfl s) fun size => ?_
    split
    · exact .ok _
    · exact .error (numberFails_rejected rfl)

/-! ## Queries -/

theorem failsAs_readSwitches (sortBy order details : Option String) :
    FailsAs (fun cause => cause.problem.kind = .invalidFilter)
      (readSwitches sortBy order details) := by
  unfold readSwitches
  dsimp only
  refine .ifFilled sortBy (fun _ => .require _ rfl) (.ifFilled order (fun _ => .require _ rfl) ?_)
  split
  · exact .bind (.require _ rfl) fun _ => .ok _
  · exact .error rfl

theorem failsAs_checkPairs {α : Type} (table : FieldTable α) {cause : Rejection}
    (h : cause.problem.kind = .invalidFilter) (fields values : List String) :
    FailsAs (fun cause => cause.problem.kind = .invalidFilter)
      (checkPairs table cause fields values) :=
  .bind (.require _ h) fun _ => .require _ h

theorem failsAs_checkRange (fields values : List String) :
    FailsAs (fun cause => cause.problem.kind = .invalidFilter) (checkRange fields values) :=
  .bind (failsAs_checkPairs _ rfl fields values) fun _ => .require _ rfl

end Listing

/-- The way in which reading a request fails: it is refused, or a number of its page is not read. -/
def Query.Fails (e : Failure) : Prop :=
  e.IsRefusal [.invalidFilter, .pageParameter, .sizeParameter] ∨ e = .tooManyDigits

theorem Query.fails_of_numberFails {kind : ProblemKind}
    (h : kind ∈ [ProblemKind.invalidFilter, .pageParameter, .sizeParameter]) {e : Failure}
    (he : Listing.NumberFails kind e) : Query.Fails e := by
  rcases he with ⟨cause, rfl, hcause⟩ | rfl
  · exact .inl ⟨cause, rfl, List.mem_singleton.mp hcause ▸ h⟩
  · exact .inr rfl

theorem Query.failsAs_checked {α : Type} {x : Except Rejection α}
    (h : FailsAs (fun cause => cause.problem.kind = .invalidFilter) x) :
    FailsAs Query.Fails (checked x) := by
  intro e he
  obtain ⟨cause, hcause, rfl⟩ := checked_eq_error.mp he
  exact .inl ⟨cause, rfl, by simp [h cause hcause]⟩

open Listing in
theorem Query.failsAs_ofRequest (params : Params) :
    FailsAs Query.Fails (Query.ofRequest params) := by
  unfold ofRequest
  refine .bind (failsAs_checked (failsAs_readSwitches _ _ _)) fun details =>
    .bind (failsAs_checked (failsAs_checkPairs _ rfl _ _)) fun _ =>
    .bind (failsAs_checked (.require _ rfl)) fun _ =>
    .bind (failsAs_checked (failsAs_checkRange _ _)) fun _ =>
    .bind ((failsAs_resolvePage _).mono fun e => fails_of_numberFails (by decide)) fun page =>
    .bind ((failsAs_resolveSize _).mono fun e => fails_of_numberFails (by decide)) fun size => .ok _

namespace Listing

/-- A request whose checks it passes, up to those of its page. -/
structure Admissible (params : Params) : Prop where
  switches : ∃ details, readSwitches (sortParam? params) (params.value? "sortingorder")
    (params.value? "isdetailsrequired") = .ok details
  contains : checkContainsLike (splitList (params.value? "containslikefields"))
    (splitList (params.value? "containslikevalues")) = .ok ()
  values : ∀ f ∈ containsFilters (splitList (params.value? "containslikefields"))
    (splitList (params.value? "containslikevalues")), f.valueAllowed = true
  ranges : checkRange (splitList (params.value? "rangefields"))
    (splitList (params.value? "rangevalues")) = .ok ()

/-- Reading a request that passes its other checks fails over its page if that cannot be read. -/
theorem ofRequest_eq_tooManyDigits {params : Params} :
    Query.ofRequest params = .error .tooManyDigits ↔
      Admissible params ∧ Unreadable (params.value? "page") (params.value? "size") := by
  unfold Query.ofRequest
  simp only [checked_bind_eq_tooManyDigits]
  constructor
  · rintro ⟨details, hswitches, _, hcontains, _, hvalues, _, hranges, hpage⟩
    rw [require_eq_ok, List.all_eq_true] at hvalues
    rw [page_eq_tooManyDigits fun _ _ => by rintro ⟨⟩] at hpage
    exact ⟨⟨⟨details, hswitches⟩, hcontains, hvalues, hranges⟩, hpage⟩
  · rintro ⟨⟨⟨details, hswitches⟩, hcontains, hvalues, hranges⟩, hpage⟩
    refine ⟨details, hswitches, (), hcontains, (), ?_, (), hranges, ?_⟩
    · rwa [require_eq_ok, List.all_eq_true]
    · rwa [page_eq_tooManyDigits fun _ _ => by rintro ⟨⟩]

/-! ## The two other listings with pages -/

/-- The way in which a listing fails over its request: it is refused, or a number of its page is not
read. -/
def Fails (e : Failure) : Prop :=
  (∃ cause, e = .rejected cause) ∨ e = .tooManyDigits

theorem failsAs_checked {α : Type} (x : Except Rejection α) : FailsAs Fails (checked x) := by
  intro e he
  obtain ⟨cause, -, rfl⟩ := checked_eq_error.mp he
  exact .inl ⟨cause, rfl⟩

theorem fails_of_numberFails {kind : ProblemKind} {e : Failure} (he : NumberFails kind e) :
    Fails e :=
  he.imp_left fun ⟨cause, h, _⟩ => ⟨cause, h⟩

theorem failsAs_history (imei : Option String) (r : PageRequest) (s : Store) :
    FailsAs Fails (history imei r s) := by
  unfold history
  split
  · exact .error (.inl ⟨_, rfl⟩)
  · exact .bind (failsAs_checked _) fun _ => .bind (failsAs_checked _) fun _ =>
      .bind ((failsAs_resolvePage _).mono fun _ => fails_of_numberFails) fun page =>
      .bind ((failsAs_resolveSize _).mono fun _ => fails_of_numberFails) fun size =>
      .bind (failsAs_checked _) fun _ => .ok _

theorem failsAs_details (selection : Selection) (r : PageRequest) (s : Store) :
    FailsAs Fails (details selection r s) :=
  .bind (failsAs_checked _) fun _ => .bind (failsAs_checked _) fun _ =>
    .bind ((failsAs_resolvePage _).mono fun _ => fails_of_numberFails) fun _ =>
    .bind ((failsAs_resolveSize _).mono fun _ => fails_of_numberFails) fun _ =>
    .bind (failsAs_checked _) fun _ => .ok _

/-- A request for the history of an IMEI that passes its checks, up to those of its page. -/
structure AdmissibleHistory (imei : Option String) (r : PageRequest) : Prop where
  filled : Text.isFilled imei = true
  imei : Identifier.checkImei imei = .ok ()
  sorting : checkHistorySorting r.sortBy r.order = .ok ()

/-- A request for details that passes its checks, up to those of its page. -/
structure AdmissibleDetails (selection : Selection) (given : Option (IdentifierKind × String))
    (r : PageRequest) : Prop where
  single : selection.single = .ok given
  sorting : checkDetailsSorting (byHeadUnit given) r.sortBy r.order = .ok ()

theorem checkedAnswer_ne_tooManyDigits {α : Type} (check : Check) (a : α) :
    (checked check >>= fun _ => pure a) ≠ .error .tooManyDigits := by
  intro h
  obtain ⟨_, -, h⟩ := checked_bind_eq_tooManyDigits.mp h
  cases h

theorem history_eq_tooManyDigits {imei : Option String} {r : PageRequest} {s : Store} :
    history imei r s = .error .tooManyDigits ↔
      AdmissibleHistory imei r ∧ Unreadable r.page r.size := by
  unfold history
  cases hfilled : Text.filled? imei with
  | none => exact iff_of_false nofun fun h => by simpa [Text.isFilled, hfilled] using h.1.filled
  | some wanted =>
    simp only [checked_bind_eq_tooManyDigits]
    constructor
    · rintro ⟨_, himei, _, hsorting, hpage⟩
      rw [page_eq_tooManyDigits fun _ _ => checkedAnswer_ne_tooManyDigits _ _] at hpage
      exact ⟨⟨by simp [Text.isFilled, hfilled], himei, hsorting⟩, hpage⟩
    · rintro ⟨⟨-, himei, hsorting⟩, hpage⟩
      refine ⟨(), himei, (), hsorting, ?_⟩
      rwa [page_eq_tooManyDigits fun _ _ => checkedAnswer_ne_tooManyDigits _ _]

theorem details_eq_tooManyDigits {selection : Selection} {r : PageRequest} {s : Store} :
    details selection r s = .error .tooManyDigits ↔
      (∃ given, AdmissibleDetails selection given r) ∧ Unreadable r.page r.size := by
  unfold details
  simp only [checked_bind_eq_tooManyDigits]
  constructor
  · rintro ⟨given, hsingle, _, hsorting, hpage⟩
    rw [page_eq_tooManyDigits fun _ _ => checkedAnswer_ne_tooManyDigits _ _] at hpage
    exact ⟨⟨given, hsingle, hsorting⟩, hpage⟩
  · rintro ⟨⟨given, hsingle, hsorting⟩, hpage⟩
    refine ⟨given, hsingle, (), hsorting, ?_⟩
    rwa [page_eq_tooManyDigits fun _ _ => checkedAnswer_ne_tooManyDigits _ _]

/-- Whatever a request holds, reading it gives a query, or refuses a filter, the page or the size,
or fails since a number of its page has too many digits. The last happens exactly if the request
passes its other checks and its page cannot be read. The two other listings with pages give a page,
refuse the request, or fail so under the same condition. -/
theorem refused_or_overlong (params : Params) (imei : Option String) (selection : Selection)
    (r : PageRequest) (s : Store) :
    (FailsAs Query.Fails (Query.ofRequest params) ∧
      (Query.ofRequest params = .error .tooManyDigits ↔
        Admissible params ∧ Unreadable (params.value? "page") (params.value? "size"))) ∧
    (FailsAs Fails (history imei r s) ∧
      (history imei r s = .error .tooManyDigits ↔
        AdmissibleHistory imei r ∧ Unreadable r.page r.size)) ∧
    (FailsAs Fails (details selection r s) ∧
      (details selection r s = .error .tooManyDigits ↔
        (∃ given, AdmissibleDetails selection given r) ∧ Unreadable r.page r.size)) :=
  ⟨⟨Query.failsAs_ofRequest params, ofRequest_eq_tooManyDigits⟩,
    ⟨failsAs_history imei r s, history_eq_tooManyDigits⟩,
    ⟨failsAs_details selection r s, details_eq_tooManyDigits⟩⟩

end Listing

/-! ## An overlong page -/

theorem Params.value?_concat (params : Params) {name word : String} (value : Option String)
    (h : Text.lower name = word) : (params ++ [(name, value)]).value? word = value := by
  simp [Params.value?, h]

/-- A number of many digits. -/
def Sample.ones (digits : Nat) : String :=
  String.ofList (List.replicate digits '1')

namespace Listing

theorem overlong_ones {digits : Nat} (h : Text.maxDigits < digits) :
    Overlong (some (Sample.ones digits)) := by
  have hchars : (Sample.ones digits).toList = List.replicate digits '1' := String.toList_ofList
  have hnumeric : Text.isNumeric (Sample.ones digits) = true := by
    rw [Text.isNumeric_iff, hchars]
    refine ⟨by simp; omega, fun c hc => ?_⟩
    rw [List.eq_of_mem_replicate hc]
    decide
  refine ⟨_, rfl, ?_, ?_⟩
  · rw [Text.trim_of_isNumeric hnumeric, hnumeric]
  · rw [Text.trim_of_isNumeric hnumeric, ← String.length_toList, hchars, List.length_replicate]
    exact h

/-- A page or a size of 4301 digits is no refusal in any of the three listings. -/
theorem overlong_not_refused :
    let page := some (Sample.ones 4301)
    Query.ofRequest [("isDetailsRequired", some "true"), ("page", page)] =
        .error .tooManyDigits ∧
      Query.ofRequest [("isDetailsRequired", some "true"), ("size", page)] =
        .error .tooManyDigits ∧
      history (some "123") { page := page } {} = .error .tooManyDigits ∧
      details {} { page := page } {} = .error .tooManyDigits := by
  intro page
  have hlong : Overlong page := overlong_ones (by decide)
  have hpage : Params.value? [("isDetailsRequired", some "true"), ("page", page)] "page" = page :=
    Params.value?_concat [_] page (by decide +kernel)
  have hsize : Params.value? [("isDetailsRequired", some "true"), ("size", page)] "size" = page :=
    Params.value?_concat [_] page (by decide +kernel)
  refine ⟨?_, ?_, ?_, ?_⟩
  · exact ofRequest_eq_tooManyDigits.mpr
      ⟨⟨⟨true, by decide +kernel⟩, by decide +kernel, by decide +kernel, by decide +kernel⟩,
        .inl (by rw [hpage]; exact hlong)⟩
  · exact ofRequest_eq_tooManyDigits.mpr
      ⟨⟨⟨true, by decide +kernel⟩, by decide +kernel, by decide +kernel, by decide +kernel⟩,
        .inr ⟨⟨1, by decide +kernel⟩, by rw [hsize]; exact hlong⟩⟩
  · exact history_eq_tooManyDigits.mpr
      ⟨⟨by decide, by decide +kernel, by decide +kernel⟩, .inl hlong⟩
  · exact details_eq_tooManyDigits.mpr
      ⟨⟨none, by decide +kernel, by decide +kernel⟩, .inl hlong⟩

end Listing

end DeviceRegistry
