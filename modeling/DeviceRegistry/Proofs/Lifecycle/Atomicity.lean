import DeviceRegistry.Proofs.Device.States
import DeviceRegistry.Proofs.Lifecycle.Effects

/-!
# Failures

A command that fails leaves everything as it was, unless its local part was complete and only the
vehicle service failed afterwards. What a command does to the store does not depend on the vehicle
service at all, except for which devices of a batch are created. So no run leaves half of a change
behind: a moved or deleted device without its history entry, or a new number without the new values.
-/

namespace DeviceRegistry

/-- Only the dialogue after the local part can fail, and only if there is one. -/
theorem afterwards_eq_error {env : Environment} {dialogue : Operation Unit} {record : DeviceRecord}
    {r : Registry} {e : Failure} (h : (afterwards env dialogue record r).1 = .error e) :
    env.settings.synchronises = true ∧
      outcome dialogue r = (.error e, (afterwards env dialogue record r).2) := by
  unfold afterwards at h ⊢
  split at h
  · rename_i hon
    rw [if_pos hon]
    refine ⟨hon, Prod.ext ?_ rfl⟩
    cases hd : (outcome dialogue r).1 with
    | error e' =>
      rw [hd] at h
      exact congrArg Except.error (Except.error.inj h)
    | ok _ =>
      rw [hd] at h
      cases h
  · cases h

/-- What is left of an update that fails: everything as it was, or the complete local part, after
which the dialogue with the vehicle service failed. -/
inductive Update.Failed (env : Environment) (q : UpdateRequest) (r : Registry) (e : Failure)
    (r' : Registry) : Prop
  | undone (same : r' = r)
  | unsynchronised {p : Prepared} {record : DeviceRecord} {found d : Device}
      {vin sent : Option String} {s : Store} (on : env.settings.synchronises = true)
      (ready : prepare env.settings q = .ok p)
      (committed : commit env.settings p r.store = .ok ((record, sent), s))
      (chosen : r.store.deviceWith? (wanted p.current.shown) = some found)
      (stored : r.store.device? found.id = some d)
      (renumbers : Renumbers env.settings p found.id r.store vin)
      (complete : s = r.store.replaced (d.taking updateColumns p.replacement.shown) vin)
      (later : outcome (synchronise env p sent) { r with store := s } = (.error e, r'))
      (kept : r'.store = s)

/-- What is left of a deletion that fails, in the same way. -/
inductive Delete.Failed (env : Environment) (imei serialNumber : Option String) (r : Registry)
    (e : Failure) (r' : Registry) : Prop
  | undone (same : r' = r)
  | unsynchronised {record : DeviceRecord} {d : Device} {now : String} {vin : Option String}
      {s : Store} (on : env.settings.synchronises = true)
      (committed : commit env.settings env.now imei serialNumber r.store = .ok ((record, vin), s))
      (chosen : r.store.deviceWith? (Store.identifierValues imei serialNumber) = some d)
      (complete : s = r.store.deleted now d)
      (later : outcome (synchronise env vin) { r with store := s } = (.error e, r'))
      (kept : r'.store = s)

namespace Registry

variable (env : Environment) (r : Registry)

theorem failed_update {q : UpdateRequest} {e : Failure}
    (h : (r.step env (.update q)).1 = .error e) :
    Update.Failed env q r e (r.step env (.update q)).2 := by
  cases ready : Update.prepare env.settings q with
  | error cause => exact .undone (by rw [step_update, ready])
  | ok p =>
    cases committed : Update.commit env.settings p r.store with
    | error failure => exact .undone (by rw [step_update, ready]; simp only [committed])
    | ok x =>
      obtain ⟨⟨record, sent⟩, s⟩ := x
      obtain ⟨found, d, vin, hfound, hd, -, hvin, hs, -⟩ := Update.commit_eq_ok committed
      rw [step_update_of_commit env r ready committed] at h ⊢
      obtain ⟨hon, hlater⟩ := afterwards_eq_error h
      exact .unsynchronised hon ready committed hfound hd hvin hs hlater
        (store_afterwards env _ _ (Update.keepsStore_synchronise env p sent))

theorem failed_delete {imei serialNumber : Option String} {e : Failure}
    (h : (r.step env (.delete imei serialNumber)).1 = .error e) :
    Delete.Failed env imei serialNumber r e (r.step env (.delete imei serialNumber)).2 := by
  cases ready : Delete.checkIdentifiers imei serialNumber with
  | error cause => exact .undone (by rw [step_delete, ready])
  | ok _ =>
    cases committed : Delete.commit env.settings env.now imei serialNumber r.store with
    | error failure => exact .undone (by rw [step_delete, ready]; simp only [committed])
    | ok x =>
      obtain ⟨⟨record, vin⟩, s⟩ := x
      obtain ⟨d, _, stamp, hfound, -, -, -, -, -, -, hs, -⟩ := Delete.commit_eq_ok committed
      rw [step_delete_of_commit env r ready committed] at h ⊢
      obtain ⟨hon, hlater⟩ := afterwards_eq_error h
      exact .unsynchronised hon committed hfound hs hlater
        (store_afterwards env _ _ (Delete.keepsStore_synchronise env vin))

theorem failed_changeState {q : StateChange} {e : Failure}
    (h : (r.step env (.changeState q)).1 = .error e) : (r.step env (.changeState q)).2 = r := by
  rw [step_changeState] at h ⊢
  cases hchange : DeviceRegistry.changeState env.now q r.store with
  | error failure => rfl
  | ok x =>
    rw [hchange] at h
    cases h

theorem failed_attributes {q : AttributeUpdate} {e : Failure}
    (h : (r.step env (.attributes q)).1 = .error e) : (r.step env (.attributes q)).2 = r := by
  rw [step_attributes] at h ⊢
  cases hupdate : updateAttributes q r.store with
  | error failure => rfl
  | ok x =>
    rw [hupdate] at h
    cases h

end Registry

/-! ## Nothing half done -/

/-- The history got one more entry, about a device and what was done to it. -/
def Store.Recorded (s s' : Store) (d : Device) (action : HistoryAction) : Prop :=
  ∃ now, s'.history.rows = s.history.rows ++ [s.snapshot now d.record action]

/-- What a step did to the devices is complete. A device in another state has an entry about it in
the history, unless a change of attributes gave it the state, which touches neither its flags nor
the history. A device that is gone has a last entry and no number. A device with another number has
the new values of the update that gave it. -/
structure Accompanied (env : Environment) (c : Command) (s s' : Store) : Prop where
  state : ∀ d ∈ s.devices.rows, ∀ e ∈ s'.devices.rows, e.id = d.id →
    (e.profile.state, e.stolen, e.faulty) ≠ (d.profile.state, d.stolen, d.faulty) →
      s.Recorded s' e .updated ∨
        ∃ q t, c = .attributes q ∧ q.changes.state = some t ∧
          e.profile.state = some t.shown ∧ e.stolen = d.stolen ∧ e.faulty = d.faulty
  deletion : ∀ d ∈ s.devices.rows, (¬∃ e ∈ s'.devices.rows, e.id = d.id) →
    s.Recorded s' d .deactivated ∧ ∀ v ∈ s'.vins.rows, v.device ≠ d.id
  vin : ∀ d ∈ s.devices.rows, ∀ e ∈ s'.devices.rows, e.id = d.id → s'.vin? e.id ≠ s.vin? d.id →
    ∃ q p, c = .update q ∧ Update.prepare env.settings q = .ok p ∧
      e = d.taking updateColumns p.replacement.shown

namespace Accompanied

variable {env : Environment} {c : Command} {s s' : Store}

/-- Where every device stays with its number there is nothing to accompany. -/
theorem of_kept (hn : s'.Numbered)
    (h : ∀ d ∈ s.devices.rows, d ∈ s'.devices.rows ∧ s'.vin? d.id = s.vin? d.id) :
    Accompanied env c s s' := by
  refine ⟨?_, ?_, ?_⟩
  · intro d hd e he hid hne
    obtain rfl := hn.devices.eq_of_id he (h d hd).1 hid
    exact absurd rfl hne
  · intro d hd hgone
    exact absurd ⟨d, (h d hd).1, rfl⟩ hgone
  · intro d hd e he hid hne
    rw [hid] at hne
    exact absurd (h d hd).2 hne

/-- A device in a changed version: its state and its number have to be accounted for. -/
theorem of_changed (hn : s.Numbered) {a b : Device} (ha : a ∈ s.devices.rows) (hid : b.id = a.id)
    (hs : s'.devices = (s.withDevice b).devices)
    (hvins : ∀ x, x ≠ a.id → s'.vin? x = s.vin? x)
    (hstate : (b.profile.state, b.stolen, b.faulty) ≠ (a.profile.state, a.stolen, a.faulty) →
      s.Recorded s' b .updated ∨
        ∃ q t, c = .attributes q ∧ q.changes.state = some t ∧
          b.profile.state = some t.shown ∧ b.stolen = a.stolen ∧ b.faulty = a.faulty)
    (hvin : s'.vin? b.id ≠ s.vin? a.id →
      ∃ q p, c = .update q ∧ Update.prepare env.settings q = .ok p ∧
        b = a.taking updateColumns p.replacement.shown) :
    Accompanied env c s s' := by
  refine ⟨?_, ?_, ?_⟩
  · intro d hd e he hde hne
    rw [hs] at he
    rcases Store.mem_withDevice.mp he with ⟨rfl, _⟩ | ⟨he, _⟩
    · obtain rfl := hn.devices.eq_of_id ha hd (hid.symm.trans hde)
      exact hstate hne
    · obtain rfl := hn.devices.eq_of_id he hd hde
      exact absurd rfl hne
  · intro d hd hgone
    rw [hs] at hgone
    exact absurd (Store.exists_id_withDevice.mpr ⟨d, hd, rfl⟩) hgone
  · intro d hd e he hde hne
    rw [hs] at he
    rcases Store.mem_withDevice.mp he with ⟨rfl, _⟩ | ⟨he, hea⟩
    · obtain rfl := hn.devices.eq_of_id ha hd (hid.symm.trans hde)
      exact hvin hne
    · rw [hvins e.id (hid ▸ hea), hde] at hne
      exact absurd rfl hne

end Accompanied

theorem Effect.accompanied {env : Environment} {c : Command} {s s' : Store} (hn : s.Numbered)
    (h : Effect env s c s') : Accompanied env c s s' := by
  have hn' := h.numbered hn
  cases h with
  | created ready member fresh bound accepted =>
    refine .of_kept hn' fun d hd => ⟨Table.mem_append.mpr (.inl hd), ?_⟩
    exact Store.vin?_created (hn.devices.id_ne_nextId hd)
  | @moved q d current target now stored effective allowed headUnit =>
    exact .of_changed hn stored (Device.id_moved target d) rfl (fun _ _ => rfl)
      (fun _ => .inl ⟨now, rfl⟩) (fun hne => absurd rfl hne)
  | @replaced q p d vin ready stored effective renumbers =>
    refine .of_changed hn stored (Device.id_taking _ _ d) (Store.devices_replaced _ _ _)
      (fun x hx => Store.vin?_replaced_of_ne hx) ?_ (fun _ => ⟨q, p, rfl, ready, rfl⟩)
    intro hne
    rw [Device.state_taking state_not_mem_updateColumns] at hne
    exact absurd rfl hne
  | @deleted imei serialNumber d now stored deletable free =>
    refine ⟨?_, ?_, ?_⟩
    · intro a ha e he hid hne
      obtain rfl := hn.devices.eq_of_id (Store.mem_withoutDevice.mp he).1 ha hid
      exact absurd rfl hne
    · intro a ha hgone
      have hid : a.id = d.id := by
        by_contra hid
        exact hgone ⟨a, Store.mem_withoutDevice.mpr ⟨ha, hid⟩, rfl⟩
      obtain rfl := hn.devices.eq_of_id ha stored hid
      refine ⟨⟨now, rfl⟩, ?_⟩
      intro v hv
      simpa using (Table.mem_removeWhere.mp hv).2
    · intro a ha e he hid hne
      rw [← hid] at hne
      exact absurd (Store.vin?_withoutDevice_of_ne (Store.mem_withoutDevice.mp he).2) hne
  | @changed q p d ready stored named =>
    refine .of_changed hn stored (Device.id_taking _ _ d) rfl (fun _ _ => rfl) ?_
      (fun hne => absurd rfl hne)
    have hstate := Attributes.state_taking ready d
    intro hne
    cases hq : q.changes.state with
    | none =>
      rw [hq] at hstate
      rw [hstate] at hne
      exact absurd rfl hne
    | some t =>
      rw [hq] at hstate
      exact .inr ⟨q, t, rfl, hq, hstate, rfl, rfl⟩
  | associated stored => exact .of_kept hn' fun d hd => ⟨hd, rfl⟩

theorem Registry.accompanied_step {r : Registry} (hn : r.store.Numbered) (env : Environment)
    (c : Command) : Accompanied env c r.store (r.step env c).2.store := by
  by_cases hc : ∃ actor records, c = .create actor records
  · obtain ⟨actor, records, rfl⟩ := hc
    -- a batch is many transactions, but none of them touches a device that was there before
    have hkeep := (step_commits env (.create actor records) r).keep
      (P := fun s => s.Numbered ∧
        ∀ d ∈ r.store.devices.rows, d ∈ s.devices.rows ∧ s.vin? d.id = r.store.vin? d.id)
      (by
        rintro s s' h ⟨hs, hsame⟩
        have heffect := h.effect hs
        refine ⟨heffect.numbered hs, fun d hd => ?_⟩
        cases heffect with
        | created ready member fresh bound accepted =>
          obtain ⟨hmem, hvin⟩ := hsame d hd
          exact ⟨Table.mem_append.mpr (.inl hmem),
            (Store.vin?_created (hs.devices.id_ne_nextId hmem)).trans hvin⟩)
      ⟨hn, fun d hd => ⟨hd, rfl⟩⟩
    exact .of_kept hkeep.1 hkeep.2
  · obtain h | h := step_commit env r fun actor records h => hc ⟨actor, records, h⟩
    · rw [h]
      exact .of_kept hn fun d hd => ⟨hd, rfl⟩
    · exact (h.effect hn).accompanied hn

/-- What holds of the failures of commands, and of the replies that they get, in any store. -/
structure Registry.Atomic (env : Environment) (r : Registry) : Prop where
  changeState : ∀ q e, (r.step env (.changeState q)).1 = .error e →
    (r.step env (.changeState q)).2 = r
  attributes : ∀ q e, (r.step env (.attributes q)).1 = .error e →
    (r.step env (.attributes q)).2 = r
  update : ∀ q e, (r.step env (.update q)).1 = .error e →
    Update.Failed env q r e (r.step env (.update q)).2
  delete : ∀ imei serialNumber e, (r.step env (.delete imei serialNumber)).1 = .error e →
    Delete.Failed env imei serialNumber r e (r.step env (.delete imei serialNumber)).2
  updateReplies : ∀ q script link,
    (step { env with script := script } (.update q) { r with link := link }).2.store =
      (r.step env (.update q)).2.store
  deleteReplies : ∀ imei serialNumber script link,
    (step { env with script := script } (.delete imei serialNumber)
      { r with link := link }).2.store = (r.step env (.delete imei serialNumber)).2.store

theorem Registry.atomic (env : Environment) (r : Registry) : Atomic env r where
  changeState _ _ h := failed_changeState env r h
  attributes _ _ h := failed_attributes env r h
  update _ _ h := failed_update env r h
  delete _ _ _ h := failed_delete env r h
  updateReplies q script link := by
    rw [store_step_update, store_step_update]
  deleteReplies imei serialNumber script link := by
    rw [store_step_delete, store_step_delete]

/-- A failure leaves everything as it was or a complete local part, whatever the vehicle service
replies, and so every step of every run leaves each device with all that belongs to its change. -/
theorem Registry.atomic_and_accompanied :
    (∀ env r, Atomic env r) ∧
      ∀ link earlier env c, Accompanied env c (after { link := link } earlier).store
        (after { link := link } (earlier ++ [(env, c)])).store := by
  refine ⟨atomic, ?_⟩
  intro link earlier env c
  rw [after_concat]
  exact accompanied_step (numbered_after earlier Store.numbered_empty) env c

end DeviceRegistry
