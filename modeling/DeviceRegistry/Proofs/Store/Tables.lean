import DeviceRegistry.Store.Basic
import DeviceRegistry.Store.Table
import Mathlib.Data.List.Nodup

/-!
# Numbered tables

A table is numbered if its rows stand in the order of their ids and every id is one that was given.
Appending a row under the next id, changing rows without their ids, removing rows and giving an id
away keep a table numbered. In a numbered table an id names one row, and the next id names none.
-/

namespace DeviceRegistry

namespace Table

variable {α : Type} {t : Table α} {id : α → Int}

theorem mem_mapWhere {which : α → Bool} {change : α → α} {b : α} :
    b ∈ (t.mapWhere which change).rows ↔
      ∃ a ∈ t.rows, (if which a then change a else a) = b := by
  simp [mapWhere]

theorem mem_append {row : Int → α} {b : α} :
    b ∈ (t.append row).rows ↔ b ∈ t.rows ∨ b = row t.nextId := by
  simp

theorem nodup_of_increasing {rows : List α} (h : rows.Pairwise fun a b => id a < id b) :
    (rows.map id).Nodup :=
  List.pairwise_map.mpr (h.imp Int.ne_of_lt)

theorem eq_of_increasing {rows : List α} (h : rows.Pairwise fun a b => id a < id b) {a b : α}
    (ha : a ∈ rows) (hb : b ∈ rows) (hab : id a = id b) : a = b :=
  List.inj_on_of_nodup_map (nodup_of_increasing h) ha hb hab

theorem filter_eq_of_increasing {rows : List α} (h : rows.Pairwise fun a b => id a < id b) {a : α}
    (ha : a ∈ rows) : (rows.filter fun b => id b == id a) = [a] := by
  induction rows with
  | nil => cases ha
  | cons b rows ih =>
    obtain ⟨hfirst, hrest⟩ := List.pairwise_cons.mp h
    rcases List.mem_cons.mp ha with rfl | ha
    · have hnone : (rows.filter fun b => id b == id a) = [] := by
        rw [List.filter_eq_nil_iff]
        intro b hb
        simpa using Ne.symm (Int.ne_of_lt (hfirst b hb))
      rw [List.filter_cons_of_pos (by simp), hnone]
    · have hne : id b ≠ id a := Int.ne_of_lt (hfirst a ha)
      rw [List.filter_cons_of_neg (by simpa using hne), ih hrest ha]

theorem exists_find? {rows : List α} {p : α → Bool} {a : α} (ha : a ∈ rows) (hp : p a = true) :
    ∃ b, rows.find? p = some b := by
  rw [← Option.isSome_iff_exists, List.find?_isSome]
  exact ⟨a, ha, hp⟩

/-- Where ids increase, the row that is found is the one with the least id that passes the test. -/
theorem find?_eq_some_of_increasing {rows : List α} (h : rows.Pairwise fun a b => id a < id b)
    {p : α → Bool} {a : α} :
    rows.find? p = some a ↔ a ∈ rows ∧ p a = true ∧ ∀ b ∈ rows, p b = true → id a ≤ id b := by
  have least : ∀ {c}, rows.find? p = some c → ∀ b ∈ rows, p b = true → id c ≤ id b := by
    intro c hc b hb hp
    obtain ⟨-, before, rest, rfl, hbefore⟩ := List.find?_eq_some_iff_append.mp hc
    have hrest := (List.pairwise_cons.mp (List.pairwise_append.mp h).2.1).1
    rcases List.mem_append.mp hb with hb | hb
    · exact absurd hp (by simpa using hbefore b hb)
    · rcases List.mem_cons.mp hb with rfl | hb
      · exact Int.le_refl _
      · exact Int.le_of_lt (hrest b hb)
  constructor
  · exact fun ha => ⟨List.mem_of_find?_eq_some ha, List.find?_some ha, least ha⟩
  · rintro ⟨ha, hp, hleast⟩
    obtain ⟨c, hc⟩ := exists_find? ha hp
    have hle := least hc a ha hp
    have hle' := hleast c (List.mem_of_find?_eq_some hc) (List.find?_some hc)
    rw [hc, eq_of_increasing h (List.mem_of_find?_eq_some hc) ha (Int.le_antisymm hle hle')]

/-- The rows are in the order of their ids, all of which were given. -/
structure Numbered (id : α → Int) (t : Table α) : Prop where
  ordered : t.rows.Pairwise fun a b => id a < id b
  given : ∀ a ∈ t.rows, 0 < id a ∧ id a ≤ t.lastId
  counted : 0 ≤ t.lastId

theorem numbered_empty (id : α → Int) : ({} : Table α).Numbered id :=
  ⟨List.Pairwise.nil, by simp, Int.le_refl 0⟩

namespace Numbered

theorem append (h : t.Numbered id) {f : Int → α} (hf : id (f t.nextId) = t.nextId) :
    (t.append f).Numbered id := by
  have hn : t.nextId = t.lastId + 1 := rfl
  have hc := h.counted
  refine ⟨?_, ?_, ?_⟩
  · rw [rows_append, List.pairwise_append]
    refine ⟨h.ordered, List.pairwise_singleton _ _, ?_⟩
    intro a ha b hb
    rw [List.mem_singleton.mp hb, hf]
    have := (h.given a ha).2
    omega
  · intro a ha
    rw [lastId_append]
    rcases mem_append.mp ha with ha | rfl
    · have := h.given a ha
      omega
    · rw [hf]
      omega
  · rw [lastId_append]
    omega

theorem mapWhere (h : t.Numbered id) {which : α → Bool} {change : α → α}
    (hid : ∀ a ∈ t.rows, which a = true → id (change a) = id a) :
    (t.mapWhere which change).Numbered id := by
  have same : ∀ a ∈ t.rows, id (if which a then change a else a) = id a := by
    intro a ha
    split
    · exact hid a ha ‹_›
    · rfl
  refine ⟨?_, ?_, h.counted⟩
  · show (t.rows.map _).Pairwise _
    rw [List.pairwise_map]
    refine h.ordered.imp_of_mem ?_
    intro a b ha hb hab
    rw [same a ha, same b hb]
    exact hab
  · intro b hb
    obtain ⟨a, ha, rfl⟩ := mem_mapWhere.mp hb
    rw [same a ha]
    exact h.given a ha

theorem removeWhere (h : t.Numbered id) (which : α → Bool) :
    (t.removeWhere which).Numbered id := by
  refine ⟨h.ordered.sublist List.filter_sublist, ?_, h.counted⟩
  intro a ha
  exact h.given a (mem_removeWhere.mp ha).1

theorem skipId (h : t.Numbered id) : t.skipId.Numbered id := by
  have hn : t.skipId.lastId = t.lastId + 1 := rfl
  have hc := h.counted
  refine ⟨h.ordered, ?_, by omega⟩
  intro a ha
  have := h.given a ha
  omega

theorem eq_of_id (h : t.Numbered id) {a b : α} (ha : a ∈ t.rows) (hb : b ∈ t.rows)
    (hab : id a = id b) : a = b :=
  eq_of_increasing h.ordered ha hb hab

theorem nodup_ids (h : t.Numbered id) : (t.rows.map id).Nodup :=
  nodup_of_increasing h.ordered

theorem length_removeWhere (h : t.Numbered id) {a : α} (ha : a ∈ t.rows) :
    (t.removeWhere fun b => id b == id a).rows.length + 1 = t.rows.length := by
  have hone : t.rows.countP (fun b => id b == id a) = 1 := by
    rw [← List.count_eq_one_of_mem h.nodup_ids (List.mem_map_of_mem ha), List.count, List.countP_map]
    rfl
  have hall := t.rows.length_eq_length_filter_add fun b => id b == id a
  rw [← List.countP_eq_length_filter, hone] at hall
  exact (Nat.add_comm _ _).trans hall.symm

theorem find?_id (h : t.Numbered id) {a : α} (ha : a ∈ t.rows) :
    (t.rows.find? fun b => id b == id a) = some a := by
  obtain ⟨b, hb⟩ : ∃ b, (t.rows.find? fun b => id b == id a) = some b :=
    exists_find? ha (by simp)
  have hid : id b = id a := by simpa using List.find?_some hb
  rw [hb, h.eq_of_id (List.mem_of_find?_eq_some hb) ha hid]

theorem id_ne_nextId (h : t.Numbered id) {a : α} (ha : a ∈ t.rows) : id a ≠ t.nextId := by
  have hn : t.nextId = t.lastId + 1 := rfl
  have := (h.given a ha).2
  omega

end Numbered

end Table

namespace Store

/-- All four tables are numbered. -/
structure Numbered (s : Store) : Prop where
  devices : s.devices.Numbered Device.id
  history : s.history.Numbered HistoryRow.id
  vins : s.vins.Numbered VinRow.id
  associations : s.associations.Numbered Association.id

theorem numbered_empty : ({} : Store).Numbered :=
  ⟨Table.numbered_empty _, Table.numbered_empty _, Table.numbered_empty _,
    Table.numbered_empty _⟩

theorem device?_of_mem {s : Store} (h : s.Numbered) {d : Device} (hd : d ∈ s.devices.rows) :
    s.device? d.id = some d :=
  h.devices.find?_id hd

theorem Numbered.eq_of_device? {s : Store} (h : s.Numbered) {d e : Device}
    (hd : d ∈ s.devices.rows) (he : s.device? d.id = some e) : d = e :=
  Option.some.inj ((device?_of_mem h hd).symm.trans he)

theorem mem_of_device? {s : Store} {id : Int} {d : Device} (h : s.device? id = some d) :
    d ∈ s.devices.rows ∧ d.id = id := by
  unfold device? at h
  exact ⟨List.mem_of_find?_eq_some h, by simpa using List.find?_some h⟩

end Store

end DeviceRegistry
