import DeviceRegistry.Proofs.Listing.Queries
import Mathlib.Data.String.Basic

/-!
# The order of a listing

Sorting by a column keeps the rows and puts them in order (`Sorting.sort_lists`), since cells are in
a total order. The column is that of the one field that is the same word as the request's, and the
direction is downwards only if the request says so (`Sorting.Asked`).
-/

namespace DeviceRegistry

/-! ## Cells -/

namespace Cell

theorem le_total (a b : Cell) : a.le b = true ∨ b.le a = true := by
  cases a with
  | null => exact .inl rfl
  | int m =>
    cases b with
    | null => exact .inr rfl
    | int n => simpa [le] using Int.le_total m n
    | text t => exact .inl rfl
  | text s =>
    cases b with
    | null => exact .inr rfl
    | int n => exact .inr rfl
    | text t => simpa [le] using Std.le_total (a := s) (b := t)

theorem le_trans {a b c : Cell} (hab : a.le b = true) (hbc : b.le c = true) : a.le c = true := by
  cases a with
  | null => rfl
  | int m =>
    cases b with
    | null => cases hab
    | int n =>
      cases c with
      | null => cases hbc
      | int k => exact decide_eq_true ((of_decide_eq_true hab).trans (of_decide_eq_true hbc))
      | text t => rfl
    | text s =>
      cases c with
      | text t => rfl
      | _ => cases hbc
  | text s =>
    cases b with
    | text t =>
      cases c with
      | text u => exact decide_eq_true ((of_decide_eq_true hab).trans (of_decide_eq_true hbc))
      | _ => cases hbc
    | _ => cases hab

end Cell

namespace Sorting

theorem le_total (s : Sorting) (a b : Cell) : s.le a b = true ∨ s.le b a = true := by
  unfold le
  cases s.direction with
  | ascending => exact Cell.le_total a b
  | descending => exact Cell.le_total b a

theorem le_trans (s : Sorting) {a b c : Cell} (hab : s.le a b = true) (hbc : s.le b c = true) :
    s.le a c = true := by
  unfold le at *
  cases hdirection : s.direction with
  | ascending =>
    simp only [hdirection] at *
    exact Cell.le_trans hab hbc
  | descending =>
    simp only [hdirection] at *
    exact Cell.le_trans hbc hab

/-- Rows list others: they are the same, each as often as it is there, and in order. -/
structure Lists {α : Type} (s : Sorting) (cell : α → Column → Cell) (matching rows : List α) :
    Prop where
  same : rows.Perm matching
  ordered : rows.Pairwise fun a b => s.le (cell a s.column) (cell b s.column) = true

theorem lists_sort {α : Type} (s : Sorting) (cell : α → Column → Cell) (rows : List α) :
    s.Lists cell rows (s.sort cell rows) := by
  refine ⟨List.mergeSort_perm rows _, ?_⟩
  unfold sort
  refine List.pairwise_mergeSort (fun a b c => ?_) (fun a b => ?_) rows
  · exact s.le_trans
  · exact (Bool.or_eq_true _ _).mpr (s.le_total _ _)

/-! ## What a request asks for -/

/-- The sorting that a request asks for: by the id if it names no field, and otherwise by the column
of its field, downwards only if it says so. -/
inductive Asked (fields : FieldTable Column) (sortBy order : Option String) : Sorting → Prop
  | byId (unnamed : Text.filled? sortBy = none) :
      Asked fields sortBy order { column := .id, direction := .ascending }
  | byField {field name : String} {column : Column} {direction : Direction}
      (named : Text.filled? sortBy = some field) (listed : (name, column) ∈ fields)
      (same : Text.sameWord name field = true)
      (downwards : direction = .descending ↔
        ∃ word, order = some word ∧ Text.sameWord "desc" word = true) :
      Asked fields sortBy order { column := column, direction := direction }

end Sorting

theorem Direction.ofRequest_eq_descending {order : Option String} :
    Direction.ofRequest order = .descending ↔
      ∃ word, order = some word ∧ Text.sameWord "desc" word = true := by
  cases order with
  | none => exact iff_of_false nofun nofun
  | some word =>
    have hapart : Text.sameWord "desc" word = true → Text.sameWord "asc" word = false := by
      intro hdown
      rw [Bool.eq_false_iff]
      intro hup
      exact absurd ((Text.sameWord_iff.mp hdown).trans (Text.sameWord_iff.mp hup).symm)
        (by decide +kernel)
    cases hdown : Text.sameWord "desc" word with
    | true => simp [ofRequest, ofWord?, words, hdown, hapart hdown]
    | false => cases hup : Text.sameWord "asc" word <;> simp [ofRequest, ofWord?, words, hdown, hup]

/-- If the field is known, or none is given, the sorting is the one that is asked for. -/
theorem Sorting.asked_ofRequest {fields : FieldTable Column} {sortBy order : Option String}
    (known : ∀ field, Text.filled? sortBy = some field → fields.contains field = true) :
    Asked fields sortBy order (ofRequest fields sortBy order) := by
  unfold ofRequest
  cases hfield : Text.filled? sortBy with
  | none => exact .byId hfield
  | some field =>
    obtain ⟨e, he⟩ := Option.isSome_iff_exists.mp (known field hfield)
    obtain ⟨hlisted, hsame⟩ := FieldTable.mem_of_resolve? he
    simp only [Option.bind_some, he]
    exact .byField hfield hlisted hsame Direction.ofRequest_eq_descending

namespace Listing

theorem known_of_checkSortField {fields : FieldTable Column} {cause : Rejection}
    {sortBy : Option String} (h : checkSortField fields cause sortBy = .ok ()) {field : String}
    (hfield : Text.filled? sortBy = some field) : fields.contains field = true := by
  rw [checkSortField, hfield] at h
  exact require_eq_ok.mp h

theorem known_of_readSwitches {sortBy order details : Option String} {shown : Bool}
    (h : readSwitches sortBy order details = .ok shown) {field : String}
    (hfield : Text.filled? sortBy = some field) : detailsSortFields.contains field = true := by
  unfold readSwitches at h
  rw [hfield] at h
  obtain ⟨_, hknown, -⟩ := bind_eq_ok.mp h
  exact require_eq_ok.mp hknown

theorem distinct_detailsSortFields : detailsSortFields.Distinct := by
  unfold FieldTable.Distinct
  decide +kernel

theorem name_ne_of_mem_detailsSortFields {e : String × Column} (h : e ∈ detailsSortFields) :
    e.1.isEmpty = false := by
  revert e
  decide +kernel

theorem resolve?_name {e : String × Column} (h : e ∈ detailsSortFields) :
    (Text.filled? (some e.1)).bind detailsSortFields.resolve? = some e := by
  rw [Text.filled?_eq_some.mpr ⟨rfl, name_ne_of_mem_detailsSortFields h⟩]
  exact distinct_detailsSortFields.resolve?_eq_some.mpr ⟨h, Text.sameWord_refl _⟩

end Listing

open Listing in
/-- A query keeps the field in the spelling of the table, and that stands for the same column. -/
theorem Query.Reads.sorting_eq {params : Params} {q : Query} (h : q.Reads params) :
    q.sorting = Sorting.ofRequest detailsSortFields (sortParam? params)
      (params.value? "sortingorder") := by
  unfold sorting Sorting.ofRequest
  rw [h.sortBy, h.order]
  cases hfound : (Text.filled? (sortParam? params)).bind detailsSortFields.resolve? with
  | none => rfl
  | some e =>
    obtain ⟨field, -, he⟩ := Option.bind_eq_some_iff.mp hfound
    rw [Option.map_some, resolve?_name (FieldTable.mem_of_resolve? he).1]

end DeviceRegistry
