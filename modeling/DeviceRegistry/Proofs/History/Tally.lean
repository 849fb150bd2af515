import DeviceRegistry.Proofs.History.Chronicle

/-!
# Counting devices and entries

A run can be counted by what it did: how many devices it stored, how often it moved one and how many
it deleted. Step by step the tables agree with these numbers, so there are as many devices as were
stored and not deleted, and as many entries in the history as devices were stored, moved or deleted.
-/

namespace DeviceRegistry

/-- How many devices were stored, how many moves were made and how many devices were deleted. -/
structure Tally where
  stored : Nat := 0
  moves : Nat := 0
  deleted : Nat := 0
  deriving DecidableEq, Repr

namespace Tally

instance : Add Tally where
  add a b :=
    { stored := a.stored + b.stored, moves := a.moves + b.moves, deleted := a.deleted + b.deleted }

@[simp] theorem stored_add (a b : Tally) : (a + b).stored = a.stored + b.stored := rfl

@[simp] theorem moves_add (a b : Tally) : (a + b).moves = a.moves + b.moves := rfl

@[simp] theorem deleted_add (a b : Tally) : (a + b).deleted = a.deleted + b.deleted := rfl

/-- The numbers account for the rows of two stores, the second of which comes from the first. -/
structure Accounts (t : Tally) (s s' : Store) : Prop where
  devices : s'.devices.rows.length + t.deleted = s.devices.rows.length + t.stored
  history : s'.history.rows.length = s.history.rows.length + (t.stored + t.moves + t.deleted)

theorem accounts_refl (s : Store) : ({} : Tally).Accounts s s :=
  ⟨rfl, rfl⟩

theorem Accounts.trans {a b : Tally} {s₁ s₂ s₃ : Store} (h : a.Accounts s₁ s₂)
    (h' : b.Accounts s₂ s₃) : (a + b).Accounts s₁ s₃ := by
  have hdevices := h.devices
  have hdevices' := h'.devices
  have hhistory := h.history
  have hhistory' := h'.history
  constructor
  · simp only [stored_add, deleted_add]
    omega
  · simp only [stored_add, moves_add, deleted_add]
    omega

end Tally

/-- Of the devices of a store and some that were given new ids, the latter have new ids. -/
theorem Store.countP_new {s : Store} (hn : s.Numbered) {stored : List Device}
    (new : ∀ d ∈ stored, s.devices.lastId < d.id) :
    (s.devices.rows ++ stored).countP (s.devices.lastId < ·.id) = stored.length := by
  have hold : s.devices.rows.countP (s.devices.lastId < ·.id) = 0 := by
    rw [List.countP_eq_zero]
    intro d hd
    have hgiven := (hn.devices.given d hd).2
    simpa using hgiven
  have hnew : stored.countP (s.devices.lastId < ·.id) = stored.length := by
    rw [List.countP_eq_length]
    intro d hd
    simpa using new d hd
  rw [List.countP_append, hold, hnew, Nat.zero_add]

namespace Registry

/-- What a step counts for. A batch stores the devices that have new ids afterwards; a move is made
if it is answered; a deletion counts if its local part is completed. -/
def tallyStep (env : Environment) (c : Command) (r : Registry) : Tally :=
  match c with
  | .create .. =>
    { stored := (r.step env c).2.store.devices.rows.countP (r.store.devices.lastId < ·.id) }
  | .changeState _ => { moves := if (r.step env c).1.toOption.isSome then 1 else 0 }
  | .delete imei serialNumber =>
    { deleted := if Delete.commits env imei serialNumber r.store then 1 else 0 }
  | .update _ => {}
  | .attributes _ => {}
  | .associate .. => {}

/-- What a run counts for. -/
def tally (r : Registry) : List (Environment × Command) → Tally
  | [] => {}
  | (env, c) :: run => r.tallyStep env c + tally (r.step env c).2 run

theorem tallyStep_of_unrecorded {env : Environment} {c : Command} {r : Registry}
    (h : c.isRecorded = false) : r.tallyStep env c = {} := by
  cases c with
  | create => cases h
  | changeState => cases h
  | delete => cases h
  | update => rfl
  | attributes => rfl
  | associate => rfl

theorem accounts_step {r : Registry} (hn : r.store.Numbered) (env : Environment) (c : Command) :
    (r.tallyStep env c).Accounts r.store (r.step env c).2.store := by
  obtain ⟨entries, hhistory, henters⟩ := adds hn env c
  have hlength := congrArg List.length hhistory
  rw [List.length_append] at hlength
  cases henters with
  | @created actor records stored entries rows new found depicted answered =>
    have hcount := Store.countP_new hn new
    constructor
    · simp only [tallyStep, rows, hcount, List.length_append]
      omega
    · simp only [tallyStep, rows, hcount, hlength, depicted.length_eq]
      omega
  | moved answered kept found depicted =>
    simp only [tallyStep, answered]
    exact ⟨kept.length_eq, hlength⟩
  | refused answered same =>
    simp only [tallyStep, answered, same]
    exact Tally.accounts_refl r.store
  | @deleted imei serialNumber d h completed found rows depicted =>
    obtain ⟨hd, -⟩ := Store.mem_of_device? found
    have hdevices := hn.devices.length_removeWhere hd
    simp only [tallyStep, completed]
    refine ⟨?_, hlength⟩
    rw [rows]
    exact hdevices
  | kept incomplete same =>
    simp only [tallyStep, incomplete, same]
    exact Tally.accounts_refl r.store
  | silent unrecorded kept =>
    rw [tallyStep_of_unrecorded unrecorded]
    exact ⟨kept.length_eq, hlength⟩

/-- A run changes the tables by what it counts for. -/
theorem accounts_after {r : Registry} (hn : r.store.Numbered)
    (run : List (Environment × Command)) :
    (r.tally run).Accounts r.store (r.after run).store := by
  induction run generalizing r with
  | nil => exact Tally.accounts_refl r.store
  | cons e run ih =>
    obtain ⟨env, c⟩ := e
    exact (accounts_step hn env c).trans (ih (numbered_after [(env, c)] hn))

/-- The history of every run is complete and faithful, and nothing in it is lost: each step adds
the entries that it has to and leaves the others. So after a run there are as many devices as it
stored less those that it deleted, and an entry for each device stored, each move and each device
deleted. -/
theorem history_accounts (link : Link) :
    (∀ earlier env c,
      let r := after { link := link } earlier
      ∃ entries, (r.step env c).2.store.history.rows = r.store.history.rows ++ entries ∧
        Enters env r (r.step env c).1 (r.step env c).2 c entries) ∧
    ∀ run,
      let s := (after { link := link } run).store
      let t := tally { link := link } run
      s.devices.rows.length + t.deleted = t.stored ∧
        s.history.rows.length = t.stored + t.moves + t.deleted := by
  constructor
  · intro earlier env c
    exact adds (numbered_after earlier Store.numbered_empty) env c
  · intro run
    have haccounts := accounts_after (r := { link := link }) Store.numbered_empty run
    have hdevices := haccounts.devices
    have hhistory := haccounts.history
    rw [show ({ link := link } : Registry).store.devices.rows.length = 0 from rfl] at hdevices
    rw [show ({ link := link } : Registry).store.history.rows.length = 0 from rfl] at hhistory
    constructor
    · omega
    · omega

end Registry

end DeviceRegistry
