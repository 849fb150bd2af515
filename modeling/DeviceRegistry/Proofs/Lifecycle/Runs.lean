import DeviceRegistry.Proofs.Lifecycle.Operations
import DeviceRegistry.Proofs.Lifecycle.Transactions
import Mathlib.Data.List.Induction
import Mathlib.Logic.Relation

/-!
# Runs as sequences of transactions

`Commit` says what one transaction of a command does to the store. A step of a run is a sequence of
such transactions, at most one unless devices are created, so a property of stores that every
transaction keeps holds after every run (`store_after`).
-/

namespace DeviceRegistry

/-- One transaction of a command takes a store to another. -/
inductive Commit (env : Environment) (s s' : Store) : Command → Prop
  | create {actor : Option String} {records : List DeviceData} {ps : List PreparedDevice}
      {p : PreparedDevice} {r : DeviceRecord} (ready : Create.prepareAll actor records = .ok ps)
      (member : p ∈ ps) (fresh : env.settings.checksVins = true → Create.checkNew p s = .ok ())
      (inserted : Create.insert env.now p s = .ok (r, s')) : Commit env s s' (.create actor records)
  | changeState {q : StateChange} {r : DeviceRecord}
      (moved : changeState env.now q s = .ok (r, s')) : Commit env s s' (.changeState q)
  | update {q : UpdateRequest} {p : Update.Prepared} {x : DeviceRecord × Option String}
      (ready : Update.prepare env.settings q = .ok p)
      (replaced : Update.commit env.settings p s = .ok (x, s')) : Commit env s s' (.update q)
  | delete {imei serialNumber : Option String} {x : DeviceRecord × Option String}
      (ready : Delete.checkIdentifiers imei serialNumber = .ok ())
      (deleted : Delete.commit env.settings env.now imei serialNumber s = .ok (x, s')) :
      Commit env s s' (.delete imei serialNumber)
  | attributes {q : AttributeUpdate} {n : Nat} (changed : updateAttributes q s = .ok (n, s')) :
      Commit env s s' (.attributes q)
  | associate {device : Option Int} {headUnit : Option String} {id : Int}
      (associated : associate device headUnit s = .ok (id, s')) :
      Commit env s s' (.associate device headUnit)

/-! ## Creating one device -/

namespace Create

theorem keepsStore_createVehicle (env : Environment) (p : PreparedDevice) (vin : RawText) :
    Operation.KeepsStore (createVehicle env p vin) := by
  unfold createVehicle
  refine .bind ?_ fun vehicle => .bind (.converse _) fun created => ?_
  · cases newVehicle env.now p vin with
    | error e => exact .throw e
    | ok vehicle => exact .pure vehicle
  · cases created <;> exact .pure _

/-- The transaction that stores a device, as the last part of creating it. -/
def storeDevice (env : Environment) (p : PreparedDevice) :
    Operation (Except RawText DeviceRecord) := do
  return .ok (← Operation.transact (insert env.now p))

/-- Creating one device after the checks: its vehicle first, if that is kept in step. -/
def createChecked (env : Environment) (p : PreparedDevice) :
    Operation (Except RawText DeviceRecord) := do
  match RawText.filled? p.vehicle.vin with
  | some vin =>
    if env.settings.synchronises then
      if !(← createVehicle env p vin) then return .error vin
  | none => pure ()
  storeDevice env p

theorem createOne_eq (env : Environment) (p : PreparedDevice) :
    createOne env p =
      if env.settings.checksVins then
        Operation.transact (fun s => do checkNew p s; return ((), s)) >>= fun _ =>
          createChecked env p
      else createChecked env p := rfl

/-- What creating one device leaves: the device inserted if its record is the result, and otherwise
the store as it was. -/
inductive Leaves (env : Environment) (p : PreparedDevice) (s s' : Store) :
    Except Failure (Except RawText DeviceRecord) → Prop
  | inserted {d : DeviceRecord} (inserted : insert env.now p s = .ok (d, s')) :
      Leaves env p s s' (.ok (.ok d))
  | leftOut {vin : RawText} (same : s' = s) : Leaves env p s s' (.ok (.error vin))
  | failed {e : Failure} (same : s' = s) : Leaves env p s s' (.error e)

section

variable (env : Environment) (p : PreparedDevice) (r : Registry)

theorem leaves_storeDevice :
    Leaves env p r.store (outcome (storeDevice env p) r).2.store
      (outcome (storeDevice env p) r).1 := by
  unfold storeDevice
  rw [outcome_bind_pure, Operation.outcome_transact]
  cases h : insert env.now p r.store with
  | error e => exact .failed rfl
  | ok x => exact .inserted h

theorem leaves_createChecked :
    Leaves env p r.store (outcome (createChecked env p) r).2.store
      (outcome (createChecked env p) r).1 := by
  unfold createChecked
  cases RawText.filled? p.vehicle.vin with
  | none => exact leaves_storeDevice env p r
  | some vin =>
    simp only
    split
    · have hstore := keepsStore_createVehicle env p vin r
      rw [outcome_bind]
      cases hv : outcome (createVehicle env p vin) r with
      | mk result r' =>
        rw [hv] at hstore
        cases result with
        | error e => exact .failed hstore
        | ok done =>
          cases done with
          | false => exact .leftOut hstore
          | true =>
            rw [← show r'.store = r.store from hstore]
            exact leaves_storeDevice env p r'
    · exact leaves_storeDevice env p r

theorem leaves_createOne :
    Leaves env p r.store (outcome (createOne env p) r).2.store (outcome (createOne env p) r).1 := by
  rw [createOne_eq]
  split
  · rw [outcome_bind, Operation.outcome_transact]
    cases checkNew p r.store with
    | error e => exact .failed rfl
    | ok _ => exact leaves_createChecked env p r
  · exact leaves_createChecked env p r

variable {env p r}

theorem checkNew_of_createOne {made : Except RawText DeviceRecord}
    (h : (outcome (createOne env p) r).1 = .ok made) (hon : env.settings.checksVins = true) :
    checkNew p r.store = .ok () := by
  rw [createOne_eq, if_pos hon, outcome_bind, Operation.outcome_transact] at h
  cases hnew : checkNew p r.store with
  | error e =>
    rw [hnew] at h
    cases h
  | ok _ => rfl

end

theorem outcome_createInTurn_cons (env : Environment) (p : PreparedDevice)
    (turns : List (Environment × PreparedDevice)) (r : Registry) :
    outcome (createInTurn ((env, p) :: turns)) r =
      match outcome (createOne env p) r with
      | (.ok made, r') =>
        ((outcome (createInTurn turns) r').1.map (CreateResult.cons made),
          (outcome (createInTurn turns) r').2)
      | (.error e, r') => (.error e, r') := by
  rw [createInTurn, outcome_bind]
  rcases outcome (createOne env p) r with ⟨_ | made, r'⟩
  · rfl
  · exact outcome_bind_pure _ _ _

end Create

/-! ## Commands -/

/-- Transactions of one command, one after the other. -/
abbrev Commits (env : Environment) (c : Command) : Store → Store → Prop :=
  Relation.ReflTransGen fun s s' => Commit env s s' c

/-- Transactions of a batch, each in the environment of a turn. -/
abbrev Create.Commits (actor : Option String) (turns : List (Environment × DeviceData)) :
    Store → Store → Prop :=
  Relation.ReflTransGen fun s s' =>
    ∃ t ∈ turns, Commit t.1 s s' (.create actor (turns.map (·.2)))

theorem Create.commits_createInTurn {actor : Option String}
    {turns : List (Environment × DeviceData)} {all : List PreparedDevice}
    (ready : prepareAll actor (turns.map (·.2)) = .ok all)
    {prepared : List (Environment × PreparedDevice)}
    (hprepared : ∀ q ∈ prepared, q.1 ∈ turns.map (·.1) ∧ q.2 ∈ all) (r : Registry) :
    Create.Commits actor turns r.store (outcome (createInTurn prepared) r).2.store := by
  induction prepared generalizing r with
  | nil => exact .refl
  | cons q prepared ih =>
    obtain ⟨env, p⟩ := q
    obtain ⟨⟨henv, hp⟩, hrest⟩ := List.forall_mem_cons.mp hprepared
    obtain ⟨t, ht, rfl⟩ := List.mem_map.mp henv
    have first : Create.Commits actor turns r.store (outcome (createOne t.1 p) r).2.store := by
      have hleaves := leaves_createOne t.1 p r
      generalize hresult : (outcome (createOne t.1 p) r).1 = result at hleaves
      cases hleaves with
      | inserted inserted =>
        exact .single ⟨t, ht, .create ready hp (checkNew_of_createOne hresult) inserted⟩
      | leftOut same => rw [same]
      | failed same => rw [same]
    rw [outcome_createInTurn_cons]
    cases hone : outcome (createOne t.1 p) r with
    | mk result r' =>
      rw [hone] at first
      cases result with
      | error e => exact first
      | ok made => exact first.trans (ih hrest r')

theorem Registry.batch_commits (r : Registry) (actor : Option String)
    (turns : List (Environment × DeviceData)) :
    Create.Commits actor turns r.store (r.batch actor turns).2.store := by
  rw [batch_eq]
  cases ready : Create.prepareAll actor (turns.map (·.2)) with
  | error cause => exact .refl
  | ok ps => exact Create.commits_createInTurn ready (fun _ hq => List.of_mem_zip hq) r

theorem store_afterwards (env : Environment) {dialogue : Operation Unit} (record : DeviceRecord)
    (r : Registry) (h : dialogue.KeepsStore) :
    (afterwards env dialogue record r).2.store = r.store := by
  unfold afterwards
  split
  · exact h r
  · rfl

theorem Update.keepsStore_synchronise (env : Environment) (p : Prepared) (vin : Option String) :
    Operation.KeepsStore (synchronise env p vin) := by
  unfold synchronise
  cases Text.filled? vin with
  | none => exact .throw _
  | some vin =>
    refine .bind (.converse _) fun result => ?_
    rcases result with _ | _ | _
    · exact .throw _
    · exact .throw _
    · exact .pure _

theorem Delete.keepsStore_synchronise (env : Environment) (vin : Option String) :
    Operation.KeepsStore (synchronise env vin) := by
  unfold synchronise
  refine .bind (.converse _) fun result => ?_
  rcases result with _ | _ | _
  · exact .throw _
  · exact .throw _
  · exact .pure _

namespace Registry

variable (env : Environment) (r : Registry)

theorem store_step_update (q : UpdateRequest) :
    (r.step env (.update q)).2.store =
      match Update.prepare env.settings q with
      | .error _ => r.store
      | .ok p =>
        match Update.commit env.settings p r.store with
        | .error _ => r.store
        | .ok x => x.2 := by
  cases ready : Update.prepare env.settings q with
  | error cause => rw [step_update, ready]
  | ok p =>
    simp only
    cases committed : Update.commit env.settings p r.store with
    | error failure => rw [step_update, ready]; simp only [committed]
    | ok x =>
      rw [step_update_of_commit env r ready committed]
      exact store_afterwards env _ _ (Update.keepsStore_synchronise env p x.1.2)

theorem store_step_delete (imei serialNumber : Option String) :
    (r.step env (.delete imei serialNumber)).2.store =
      match Delete.checkIdentifiers imei serialNumber with
      | .error _ => r.store
      | .ok () =>
        match Delete.commit env.settings env.now imei serialNumber r.store with
        | .error _ => r.store
        | .ok x => x.2 := by
  cases ready : Delete.checkIdentifiers imei serialNumber with
  | error cause => rw [step_delete, ready]
  | ok _ =>
    cases committed : Delete.commit env.settings env.now imei serialNumber r.store with
    | error failure => rw [step_delete, ready]; simp only [committed]
    | ok x =>
      rw [step_delete_of_commit env r ready committed]
      exact store_afterwards env _ _ (Delete.keepsStore_synchronise env x.1.2)

end Registry

/-- A step that creates no devices is one transaction, or none. -/
theorem step_commit (env : Environment) {c : Command} (r : Registry)
    (hc : ∀ actor records, c ≠ .create actor records) :
    (r.step env c).2.store = r.store ∨ Commit env r.store (r.step env c).2.store c := by
  cases c with
  | create actor records => exact absurd rfl (hc actor records)
  | changeState q =>
    rw [step_changeState]
    cases h : changeState env.now q r.store with
    | error e => exact .inl rfl
    | ok x => exact .inr (.changeState h)
  | update q =>
    rw [Registry.store_step_update]
    cases ready : Update.prepare env.settings q with
    | error cause => exact .inl rfl
    | ok p =>
      simp only
      cases h : Update.commit env.settings p r.store with
      | error e => exact .inl rfl
      | ok x => exact .inr (.update ready h)
  | delete imei serialNumber =>
    rw [Registry.store_step_delete]
    cases ready : Delete.checkIdentifiers imei serialNumber with
    | error cause => exact .inl rfl
    | ok _ =>
      simp only
      cases h : Delete.commit env.settings env.now imei serialNumber r.store with
      | error e => exact .inl rfl
      | ok x => exact .inr (.delete ready h)
  | attributes q =>
    rw [step_attributes]
    cases h : updateAttributes q r.store with
    | error e => exact .inl rfl
    | ok x => exact .inr (.attributes h)
  | associate device headUnit =>
    rw [step_associate]
    cases h : associate device headUnit r.store with
    | error e => exact .inl rfl
    | ok x => exact .inr (.associate h)

/-- A step of a run is a sequence of transactions of its command. -/
theorem step_commits (env : Environment) (c : Command) (r : Registry) :
    Commits env c r.store (r.step env c).2.store := by
  by_cases hc : ∃ actor records, c = .create actor records
  · obtain ⟨actor, records, rfl⟩ := hc
    rw [step_create]
    refine Relation.ReflTransGen.mono ?_ _ _
      (r.batch_commits actor (records.map fun data => (env, data)))
    rintro s s' ⟨_, ht, hcommit⟩
    obtain ⟨data, -, rfl⟩ := List.mem_map.mp ht
    rwa [Create.map_snd_turns] at hcommit
  · obtain h | h := step_commit env r fun actor records h => hc ⟨actor, records, h⟩
    · rw [h]
    · exact .single h

/-! ## Runs -/

theorem Commits.keep {P : Store → Prop} {env : Environment} {c : Command} {s s' : Store}
    (h : Commits env c s s') (keep : ∀ s s', Commit env s s' c → P s → P s') (hs : P s) : P s' := by
  induction h with
  | refl => exact hs
  | tail _ hstep ih => exact keep _ _ hstep ih

theorem Registry.after_append (r : Registry) (earlier later : List (Environment × Command)) :
    r.after (earlier ++ later) = (r.after earlier).after later :=
  List.foldl_append

theorem Registry.after_concat (r : Registry) (earlier : List (Environment × Command))
    (e : Environment × Command) :
    r.after (earlier ++ [e]) = ((r.after earlier).step e.1 e.2).2 :=
  after_append r earlier [e]

/-- What every step of a run keeps holds after every part of the run. -/
theorem Registry.after_of_prefix {P : Registry → Prop} {r : Registry} (hr : P r)
    {run : List (Environment × Command)}
    (keep : ∀ earlier e, earlier ++ [e] <+: run → P (r.after earlier) →
      P ((r.after earlier).step e.1 e.2).2)
    {earlier : List (Environment × Command)} (h : earlier <+: run) : P (r.after earlier) := by
  induction earlier using List.reverseRecOn with
  | nil => exact hr
  | append_singleton earlier e ih =>
    rw [after_concat]
    exact keep earlier e h (ih ((List.prefix_append earlier [e]).trans h))

theorem Registry.store_after {P : Store → Prop} {A : Environment × Command → Prop}
    (keep : ∀ e s s', A e → Commit e.1 s s' e.2 → P s → P s')
    {run : List (Environment × Command)} (hrun : ∀ e ∈ run, A e) {r : Registry}
    (hr : P r.store) : P (r.after run).store := by
  induction run generalizing r with
  | nil => exact hr
  | cons e run ih =>
    refine ih (fun e' he' => hrun e' (List.mem_cons_of_mem e he')) ?_
    exact (step_commits e.1 e.2 r).keep
      (fun s s' h hs => keep e s s' (hrun e (by simp)) h hs) hr

/-! ## Sample requests -/

namespace Sample

/-- A device with all columns that an update needs, and its vehicle. -/
def device (serialNumber imei vin : String) : DeviceData :=
  let profile : RawProfile := {
    manufacturingDate := some "2020/01/02"
    recordDate := some "2020/01/03"
    model := some "M"
    serialNumber := some serialNumber
    imei := some imei
    platformVersion := some "1"
    iccid := some "1"
    ssid := some "1"
    bssid := some "1"
    msisdn := some "1"
    imsi := some "1"
    factoryAdmin := some "admin" }
  let vehicle : VehicleData := {
    vin := some vin
    chassisNumber := some "C1"
    productionWeek := some "202001" }
  { profile := profile, vehicle := vehicle }

/-- A device that has no vehicle. -/
def deviceAlone (serialNumber imei : String) : DeviceData :=
  { device serialNumber imei "" with vehicle := {} }

/-- The standard settings, at some time. -/
def environment : Environment :=
  { settings := {}, script := Script.silent, now := ⟨1700000000000⟩ }

/-- A vehicle service that opens a session, knows no vehicles and accepts new ones. -/
def replies : Script
  | .login => .answer 200 (.json (.ofMembers [("sessionId", .str "S1")]))
  | .vehicles => .answer 200 (.json (.ofMembers [("representationObjects", .arr [])]))
  | .create =>
    .answer 200 (.json (.ofMembers [("actionResult", .arr [.ofMembers [("code", .int 0)]])]))
  | .update => .answer 200 (.json .null)
  | .delete => .answer 200 (.json .null)

/-- The integrated mode in step with that vehicle service. -/
def synchronised : Environment :=
  { environment with
    settings := { creationType := .vehicleIntegrated, vehicleService := { enabled := true } }
    script := replies }

/-- The integrated mode in step with the sample vehicle service, which replies otherwise to new
vehicles. -/
def answering (reply : Json) : Environment :=
  { synchronised with
    script := fun e => if e = .create then .answer 200 (.json reply) else replies e }

/-- That vehicle service while it refuses new vehicles. -/
def refusing : Environment :=
  answering (.ofMembers [("actionResult", .arr [.ofMembers [("code", .int 1)]])])

end Sample

end DeviceRegistry
