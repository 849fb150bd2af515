import DeviceRegistry.Lifecycle.Command

/-!
# Outcomes

`outcome` runs an operation on a registry, or a dialogue on a link. A transaction changes only the
store, and not even that if it fails; a dialogue with the vehicle service changes only the link. So
a command is one transaction on the store, and for an update or a deletion a dialogue after it.
-/

namespace DeviceRegistry

/-- What a computation with a state gives, and the state it leaves. -/
def outcome {ε σ α : Type} (x : ExceptT ε (StateM σ) α) (s : σ) : Except ε α × σ :=
  (x.run s).run

section Outcome

variable {ε σ α β : Type}

theorem outcome_eq_of_ok {x : ExceptT ε (StateM σ) α} {s : σ} {a : α}
    (h : (outcome x s).1 = .ok a) : outcome x s = (.ok a, (outcome x s).2) :=
  Prod.ext h rfl

theorem outcome_bind (x : ExceptT ε (StateM σ) α) (f : α → ExceptT ε (StateM σ) β) (s : σ) :
    outcome (x >>= f) s =
      match outcome x s with
      | (.ok a, s') => outcome (f a) s'
      | (.error e, s') => (.error e, s') := by
  unfold outcome ExceptT.run
  simp only [bind, ExceptT.bind, ExceptT.mk, StateT.bind, ExceptT.bindCont]
  cases x s with
  | mk result s' => cases result <;> rfl

theorem outcome_bind_pure (x : ExceptT ε (StateM σ) α) (f : α → β) (s : σ) :
    outcome (x >>= fun a => pure (f a)) s = ((outcome x s).1.map f, (outcome x s).2) := by
  rw [outcome_bind]
  cases h : outcome x s with
  | mk result s' => cases result <;> rfl

theorem outcome_discard (x : ExceptT ε (StateM σ) α) (s : σ) :
    outcome (discard x) s = ((outcome x s).1.map fun _ => (), (outcome x s).2) :=
  outcome_bind_pure x (fun _ => ()) s

end Outcome

namespace Operation

variable {α β : Type}

/-- A transaction leaves the store that it gives, or everything as it was. -/
theorem outcome_transact (f : Store → Except Failure (α × Store)) (r : Registry) :
    outcome (transact f) r =
      match f r.store with
      | .ok (a, s) => (.ok a, { r with store := s })
      | .error e => (.error e, r) := by
  unfold transact
  rw [outcome_bind]
  show outcome (match f r.store with
    | .ok (a, store) => _
    | .error failure => _) r = _
  cases f r.store with
  | ok p => rfl
  | error e => rfl

/-- A dialogue leaves the link that it gives; an expected failure is a result. -/
theorem outcome_converse (dialogue : Exchange α) (r : Registry) :
    outcome (converse dialogue) r =
      ((match (outcome dialogue r.link).1 with
        | .ok a => .ok (.ok a)
        | .error (.sync cause) => .ok (.error cause)
        | .error (.fault fault) => .error (.exchange fault)),
        { r with link := (outcome dialogue r.link).2 }) := by
  unfold converse
  rw [outcome_bind]
  show outcome (do
    modify fun r' => { r' with link := (outcome dialogue r.link).2 }
    match (outcome dialogue r.link).1 with
    | .ok a => return .ok a
    | .error (.sync cause) => return .error cause
    | .error (.fault fault) => throw (.exchange fault) :
      Operation (Except SyncFailure α)) r = _
  cases (outcome dialogue r.link).1 with
  | ok a => rfl
  | error e => cases e <;> rfl

/-- The operation leaves the store as it was. -/
def KeepsStore (x : Operation α) : Prop :=
  ∀ r, (outcome x r).2.store = r.store

namespace KeepsStore

theorem pure (a : α) : KeepsStore (Pure.pure a) := fun _ => rfl

theorem throw (e : Failure) : KeepsStore (MonadExcept.throw e : Operation α) := fun _ => rfl

theorem bind {x : Operation α} {f : α → Operation β} (hx : KeepsStore x)
    (hf : ∀ a, KeepsStore (f a)) : KeepsStore (x >>= f) := by
  intro r
  have hstore := hx r
  rw [outcome_bind]
  cases h : outcome x r with
  | mk result r' =>
    rw [h] at hstore
    cases result with
    | error e => exact hstore
    | ok a => exact (hf a r').trans hstore

theorem converse (dialogue : Exchange α) : KeepsStore (Operation.converse dialogue) := by
  intro r
  rw [outcome_converse]

end KeepsStore

end Operation

/-! ## Commands -/

/-- The id of the record that an answer gives, if it gives a record. -/
def Answer.recordId? : Answer → Option Int
  | .record d => some d.id
  | .created _ => none
  | .rows _ => none
  | .id _ => none

theorem exists_record_of_recordId? {answer : Except Failure Answer} {id : Int}
    (h : answer.toOption.bind Answer.recordId? = some id) :
    ∃ record, answer = .ok (.record record) ∧ record.id = id := by
  cases answer with
  | error failure => cases h
  | ok answer =>
    cases answer with
    | record record => exact ⟨record, rfl, Option.some.inj h⟩
    | created => cases h
    | rows => cases h
    | id => cases h

section Commands

theorem step_eq_of_ok {env : Environment} {r : Registry} {c : Command} {answer : Answer}
    (h : (r.step env c).1 = .ok answer) : r.step env c = (.ok answer, (r.step env c).2) :=
  Prod.ext h rfl

variable (env : Environment) (r : Registry)

theorem batch_eq (actor : Option String) (turns : List (Environment × DeviceData)) :
    r.batch actor turns =
      match Create.prepareAll actor (turns.map (·.2)) with
      | .error cause => (.error (.rejected cause), r)
      | .ok ps => outcome (Create.createInTurn ((turns.map (·.1)).zip ps)) r := by
  show outcome (createDevicesInTurn actor turns) r = _
  unfold createDevicesInTurn
  cases Create.prepareAll actor (turns.map (·.2)) <;> rfl

theorem Create.map_snd_turns (records : List DeviceData) :
    (records.map fun data => (env, data)).map (·.2) = records := by
  simp [Function.comp_def]

/-- The command creates a batch whose records all come in one environment. -/
theorem step_create (actor : Option String) (records : List DeviceData) :
    r.step env (.create actor records) =
      ((r.batch actor (records.map fun data => (env, data))).1.map .created,
        (r.batch actor (records.map fun data => (env, data))).2) :=
  outcome_bind_pure (createDevices env actor records) _ r

theorem step_changeState (q : StateChange) :
    r.step env (.changeState q) =
      match changeState env.now q r.store with
      | .ok (d, s) => (.ok (.record d), { r with store := s })
      | .error e => (.error e, r) := by
  show outcome (Operation.transact _ >>= fun d => pure (Answer.record d)) r = _
  rw [outcome_bind_pure, Operation.outcome_transact]
  cases changeState env.now q r.store <;> rfl

theorem step_attributes (q : AttributeUpdate) :
    r.step env (.attributes q) =
      match updateAttributes q r.store with
      | .ok (n, s) => (.ok (.rows n), { r with store := s })
      | .error e => (.error e, r) := by
  show outcome (Operation.transact _ >>= fun n => pure (Answer.rows n)) r = _
  rw [outcome_bind_pure, Operation.outcome_transact]
  cases updateAttributes q r.store <;> rfl

theorem step_associate (device : Option Int) (headUnit : Option String) :
    r.step env (.associate device headUnit) =
      match associate device headUnit r.store with
      | .ok (id, s) => (.ok (.id id), { r with store := s })
      | .error e => (.error e, r) := by
  show outcome (Operation.transact _ >>= fun id => pure (Answer.id id)) r = _
  rw [outcome_bind_pure, Operation.outcome_transact]
  cases associate device headUnit r.store <;> rfl

/-- What follows the local part of an update or a deletion: a dialogue if the vehicle service is
kept in step, and then the answer. -/
def afterwards (dialogue : Operation Unit) (record : DeviceRecord) (r : Registry) :
    Except Failure Answer × Registry :=
  if env.settings.synchronises then
    ((outcome dialogue r).1.map fun _ => .record record, (outcome dialogue r).2)
  else (.ok (.record record), r)

theorem outcome_afterwards (dialogue : Operation Unit) (record : DeviceRecord) :
    outcome (do
      let d ← (do
        if env.settings.synchronises then dialogue
        pure record : Operation DeviceRecord)
      pure (Answer.record d)) r = afterwards env dialogue record r := by
  rw [outcome_bind_pure]
  unfold afterwards
  split
  · rw [outcome_bind_pure]
    cases (outcome dialogue r).1 <;> rfl
  · rfl

theorem step_update (q : UpdateRequest) :
    r.step env (.update q) =
      match Update.prepare env.settings q with
      | .error cause => (.error (.rejected cause), r)
      | .ok p =>
        match Update.commit env.settings p r.store with
        | .error e => (.error e, r)
        | .ok ((record, vin), s) =>
          afterwards env (Update.synchronise env p vin) record { r with store := s } := by
  show outcome (updateDevice env q >>= fun d => pure (Answer.record d)) r = _
  unfold updateDevice
  cases Update.prepare env.settings q with
  | error cause => rfl
  | ok p =>
    simp only
    rw [bind_assoc, outcome_bind, Operation.outcome_transact]
    cases Update.commit env.settings p r.store with
    | error e => rfl
    | ok x => exact outcome_afterwards env _ _ _

theorem step_update_of_commit {q : UpdateRequest} {p : Update.Prepared} {record : DeviceRecord}
    {sent : Option String} {s : Store} (ready : Update.prepare env.settings q = .ok p)
    (committed : Update.commit env.settings p r.store = .ok ((record, sent), s)) :
    r.step env (.update q) =
      afterwards env (Update.synchronise env p sent) record { r with store := s } := by
  rw [step_update, ready]
  simp only [committed]

theorem step_delete (imei serialNumber : Option String) :
    r.step env (.delete imei serialNumber) =
      match Delete.checkIdentifiers imei serialNumber with
      | .error cause => (.error (.rejected cause), r)
      | .ok () =>
        match Delete.commit env.settings env.now imei serialNumber r.store with
        | .error e => (.error e, r)
        | .ok ((record, vin), s) =>
          afterwards env (Delete.synchronise env vin) record { r with store := s } := by
  show outcome (deleteDevice env imei serialNumber >>= fun d => pure (Answer.record d)) r = _
  unfold deleteDevice
  cases Delete.checkIdentifiers imei serialNumber with
  | error cause => rfl
  | ok _ =>
    simp only
    rw [bind_assoc, outcome_bind, Operation.outcome_transact]
    cases Delete.commit env.settings env.now imei serialNumber r.store with
    | error e => rfl
    | ok x => exact outcome_afterwards env _ _ _

theorem step_delete_of_commit {imei serialNumber : Option String} {record : DeviceRecord}
    {vin : Option String} {s : Store} (ready : Delete.checkIdentifiers imei serialNumber = .ok ())
    (committed : Delete.commit env.settings env.now imei serialNumber r.store =
      .ok ((record, vin), s)) :
    r.step env (.delete imei serialNumber) =
      afterwards env (Delete.synchronise env vin) record { r with store := s } := by
  rw [step_delete, ready]
  simp only [committed]

end Commands

end DeviceRegistry
