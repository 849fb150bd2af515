import DeviceRegistry.Proofs.Device.States
import DeviceRegistry.Proofs.Lifecycle.Effects
import Mathlib.Data.List.Chain

/-!
# Trails

The trail of an id is what the history says about it. `Trail` builds the trails that can be: one
starts when a device is provisioned, goes on with moves that the state before allows, and ends when
the device is deleted. So its entries follow one another, and the last of them shows what the device
shows.
-/

namespace DeviceRegistry

namespace Store

/-- What the history says about an id. -/
def trail (s : Store) (factoryId : Int) : List HistoryRow :=
  s.history.rows.filter (·.factoryId == factoryId)

section

variable {s : Store} {now : String} {r : DeviceRecord} {action : HistoryAction}

theorem mem_history_appendHistory {h : HistoryRow} :
    h ∈ (s.appendHistory now r action).history.rows ↔
      h ∈ s.history.rows ∨ h = s.snapshot now r action :=
  Table.mem_append

theorem trail_appendHistory :
    (s.appendHistory now r action).trail r.id = s.trail r.id ++ [s.snapshot now r action] := by
  unfold trail
  rw [history_appendHistory, List.filter_append]
  congr 1
  simp [snapshot]

theorem trail_appendHistory_of_ne {factoryId : Int} (hf : factoryId ≠ r.id) :
    (s.appendHistory now r action).trail factoryId = s.trail factoryId := by
  unfold trail
  rw [history_appendHistory, List.filter_append]
  simp [snapshot, Ne.symm hf]

end

theorem shows_snapshot {d : Device} {state : DeviceState} (h : d.Shows state) (s : Store)
    (now : String) (action : HistoryAction) : (s.snapshot now d.record action).Shows state := by
  refine ⟨h.name, ?_, ?_⟩
  · show flagValue (d.stolen != 0) = _
    rw [h.stolen, flagValue_bne_zero]
  · show flagValue (d.faulty != 0) = _
    rw [h.faulty, flagValue_bne_zero]

end Store

/-! ## Trails that can be -/

/-- The entries about one id, the oldest first, and the state that its device shows after them;
none after the device was deleted. -/
inductive Trail : List HistoryRow → Option DeviceState → Prop
  | provisioned {h : HistoryRow} (action : h.action = .provisioned)
      (shows' : h.Shows .provisioned) : Trail [h] (some .provisioned)
  | moved {rows : List HistoryRow} {h : HistoryRow} {current target : DeviceState}
      (earlier : Trail rows (some current)) (action : h.action = .updated)
      (allowed : current.allows target = true) (shows' : h.Shows target) :
      Trail (rows ++ [h]) (some target)
  | deleted {rows : List HistoryRow} {h : HistoryRow} (earlier : Trail rows (some .provisioned))
      (action : h.action = .deactivated) (shows' : h.Shows .provisioned) :
      Trail (rows ++ [h]) none

/-- An entry that may come right after another one about the same device: a move that the other one
allows, or a deletion of the provisioned device. -/
def HistoryRow.Follows (before after : HistoryRow) : Prop :=
  before.action ≠ .deactivated ∧
    ((after.action = .updated ∧ ∃ current target : DeviceState, before.Shows current ∧
        current.allows target = true ∧ after.Shows target) ∨
      (after.action = .deactivated ∧ before.Shows .provisioned ∧ after.Shows .provisioned))

/-- The first entry, and no other one, says that the device was provisioned. -/
def HistoryRow.Begins (rows : List HistoryRow) : Prop :=
  ∃ e rest, rows = e :: rest ∧ e.action = .provisioned ∧ e.Shows .provisioned ∧
    ∀ a ∈ rest, a.action ≠ .provisioned

theorem HistoryRow.Begins.concat {rows : List HistoryRow} {a : HistoryRow} (h : Begins rows)
    (ha : a.action ≠ .provisioned) : Begins (rows ++ [a]) := by
  obtain ⟨e, rest, rfl, he, hshows, hrest⟩ := h
  refine ⟨e, rest ++ [a], rfl, he, hshows, ?_⟩
  intro b hb
  rcases List.mem_append.mp hb with hb | hb
  · exact hrest b hb
  · rw [List.mem_singleton.mp hb]
    exact ha

namespace Trail

variable {rows : List HistoryRow} {state : Option DeviceState}

theorem begins (h : Trail rows state) : HistoryRow.Begins rows := by
  induction h with
  | provisioned action shows' => exact ⟨_, [], rfl, action, shows', by simp⟩
  | moved earlier action allowed shows' ih => exact ih.concat (by rw [action]; nofun)
  | deleted earlier action shows' ih => exact ih.concat (by rw [action]; nofun)

theorem not_deactivated {current : DeviceState} (h : Trail rows (some current)) :
    ∀ e ∈ rows, e.action ≠ .deactivated := by
  generalize hs : some current = state at h
  induction h generalizing current with
  | provisioned action shows' =>
    intro e he
    rw [List.mem_singleton.mp he, action]
    nofun
  | moved earlier action allowed shows' ih =>
    intro e he
    rcases List.mem_append.mp he with he | he
    · exact ih rfl e he
    · rw [List.mem_singleton.mp he, action]
      nofun
  | deleted earlier action shows' ih => cases hs

theorem newest {current : DeviceState} (h : Trail rows (some current)) :
    ∃ e, rows.getLast? = some e ∧ e.Shows current := by
  cases h with
  | provisioned action shows' => exact ⟨_, rfl, shows'⟩
  | moved earlier action allowed shows' => exact ⟨_, List.getLast?_concat, shows'⟩

theorem exists_deactivated (h : Trail rows none) : ∃ e ∈ rows, e.action = .deactivated := by
  cases h with
  | deleted earlier action shows' => exact ⟨_, by simp, action⟩

/-- A device is deleted as it was provisioned. -/
theorem shows_of_deactivated (h : Trail rows state) {e : HistoryRow} (he : e ∈ rows)
    (action : e.action = .deactivated) : e.Shows .provisioned := by
  cases h with
  | provisioned first shows' =>
    rw [List.mem_singleton.mp he]
    exact shows'
  | moved earlier moved allowed shows' =>
    exact absurd action ((earlier.moved moved allowed shows').not_deactivated e he)
  | deleted earlier deleted shows' =>
    rcases List.mem_append.mp he with he | he
    · exact absurd action (earlier.not_deactivated e he)
    · rw [List.mem_singleton.mp he]
      exact shows'

/-- An entry that may follow whatever shows the present state makes a chain longer. -/
theorem isChain_concat {current : DeviceState} {a : HistoryRow}
    (earlier : Trail rows (some current)) (hrows : rows.IsChain HistoryRow.Follows)
    (hnext : ∀ e : HistoryRow, e.action ≠ .deactivated → e.Shows current → e.Follows a) :
    (rows ++ [a]).IsChain HistoryRow.Follows := by
  obtain ⟨e, he, hshows⟩ := earlier.newest
  refine List.isChain_append.mpr ⟨hrows, List.isChain_singleton a, ?_⟩
  intro b hb c hc
  obtain rfl : e = b := Option.some.inj (he.symm.trans hb)
  obtain rfl : a = c := by simpa using hc
  exact hnext e (earlier.not_deactivated e (List.mem_of_getLast? he)) hshows

/-- Every entry but the first follows the one before it. -/
theorem isChain (h : Trail rows state) : rows.IsChain HistoryRow.Follows := by
  induction h with
  | provisioned action shows' => exact List.isChain_singleton _
  | @moved rows a current target earlier action allowed shows' ih =>
    exact earlier.isChain_concat ih fun e he hshows =>
      ⟨he, .inl ⟨action, current, target, hshows, allowed, shows'⟩⟩
  | deleted earlier action shows' ih =>
    exact earlier.isChain_concat ih fun e he hshows => ⟨he, .inr ⟨action, hshows, shows'⟩⟩

end Trail

end DeviceRegistry
