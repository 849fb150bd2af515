import DeviceRegistry.Proofs.Lifecycle.Batches
import DeviceRegistry.Proofs.Vehicle.Faults

/-!
# Batches that are broken off

A batch that is kept in step with the vehicle service leaves a device out whose vehicle is not
created there, and goes on. Over a reply of another shape than the expected one it breaks off at the
device that it has come to. The replies may change from one device to the next.
-/

namespace DeviceRegistry

/-! ## Failures that are not of the vehicle service -/

/-- A result that does not fail over a dialogue with the vehicle service. -/
def IsLocal {α : Type} (x : Except Failure α) : Prop :=
  ∀ fault, x ≠ .error (.exchange fault)

namespace IsLocal

variable {α β : Type}

theorem ok (a : α) : IsLocal (.ok a) := nofun

theorem checked (x : Except Rejection α) : IsLocal (checked x) := by
  cases x <;> nofun

theorem storedOr (cause : Rejection) (x : Except Violation α) : IsLocal (storedOr cause x) := by
  cases x <;> nofun

theorem bind {x : Except Failure α} {f : α → Except Failure β} (hx : IsLocal x)
    (hf : ∀ a, IsLocal (f a)) : IsLocal (x >>= f) := by
  cases x with
  | error e =>
    rintro fault ⟨⟩
    exact hx fault rfl
  | ok a => exact hf a

theorem map {x : Except Failure α} (f : α → β) (hx : IsLocal x) : IsLocal (x.map f) := by
  cases x with
  | error e =>
    rintro fault ⟨⟩
    exact hx fault rfl
  | ok a => nofun

theorem bindText? (value : Option RawText) : IsLocal (Store.bindText? value) := by
  cases value with
  | none => nofun
  | some t => cases t <;> nofun

theorem bindProfile (p : RawProfile) : IsLocal (Store.bindProfile p) := by
  unfold Store.bindProfile
  split <;> nofun

theorem timestamp (now : Calendar.Instant) : IsLocal (timestamp now) := by
  unfold DeviceRegistry.timestamp
  split <;> nofun

end IsLocal

/-! ## Checks and inserts -/

namespace Create

theorem isLocal_checkNew (p : PreparedDevice) (s : Store) : IsLocal (checkNew p s) := by
  unfold checkNew
  refine .bind (.bindText? _) fun serial => ?_
  rcases serial with _ | serial
  on_goal 2 => refine .bind (.checked _) fun _ => ?_
  all_goals
    refine .bind (.bindText? _) fun vin => ?_
    cases vin with
    | none => exact .ok _
    | some vin => exact .checked _

theorem isLocal_filledOr (now : Calendar.Instant) (otherwise : Calendar.Date → String)
    (value : Option RawText) : IsLocal (filledOr now otherwise value) := by
  unfold filledOr
  split
  · exact .ok _
  · exact .map _ (.timestamp now)

theorem isLocal_newVehicle (now : Calendar.Instant) (p : PreparedDevice) (vin : RawText) :
    IsLocal (newVehicle now p vin) :=
  .bind (isLocal_filledOr now _ _) fun _ => .bind (isLocal_filledOr now _ _) fun _ => .ok _

theorem isLocal_insert (now : Calendar.Instant) (p : PreparedDevice) (s : Store) :
    IsLocal (insert now p s) := by
  unfold insert
  refine .bind (.timestamp now) fun stamp => .bind (.bindProfile _) fun profile =>
    .bind (.storedOr _ _) fun made => .bind (.bindText? _) fun vin => ?_
  cases Text.filled? vin with
  | none => exact .bind (.ok _) fun _ => .ok _
  | some vin => exact .bind (.map _ (.storedOr _ _)) fun _ => .ok _

/-! ## One device -/

variable {env : Environment} {p : PreparedDevice} {r : Registry}

/-- Creating a device breaks off: it is new and its vehicle can be named, but the call that creates
the vehicle does not settle. -/
def BreaksOff (env : Environment) (p : PreparedDevice) (r : Registry) : Prop :=
  checkNew p r.store = .ok () ∧
    ∃ vin vehicle, RawText.filled? p.vehicle.vin = some vin ∧
      newVehicle env.now p vin = .ok vehicle ∧
      ¬env.network.HeaderFits r.link (env.network.CreationFits vehicle)

/-- What follows an operation does not matter if it fails over no dialogue. -/
theorem isLocal_outcome_bind {α β : Type} {x : Operation α} {f : α → Operation β}
    (hf : ∀ a r, IsLocal (outcome (f a) r).1) :
    IsLocal (outcome (x >>= f) r).1 ↔ IsLocal (outcome x r).1 := by
  rw [outcome_bind]
  rcases outcome x r with ⟨e | a, r'⟩
  · exact ⟨fun h fault heq => h fault (by cases heq; rfl),
      fun h fault heq => h fault (by cases heq; rfl)⟩
  · exact iff_of_true (hf a r') (.ok a)

theorem isLocal_transact {α : Type} {f : Store → Except Failure (α × Store)}
    (hf : ∀ s, IsLocal (f s)) (r : Registry) :
    IsLocal (outcome (Operation.transact f) r).1 := by
  have hlocal := hf r.store
  rw [Operation.outcome_transact]
  cases h : f r.store with
  | error e =>
    rintro fault ⟨⟩
    exact hlocal fault h
  | ok x => exact .ok _

theorem isLocal_storeDevice (r : Registry) : IsLocal (outcome (storeDevice env p) r).1 := by
  refine (isLocal_outcome_bind ?_).mpr (isLocal_transact (isLocal_insert env.now p) r)
  intro d r
  exact IsLocal.ok (Except.ok d)

theorem isLocal_converse {α : Type} {dialogue : Exchange α} :
    IsLocal (outcome (Operation.converse dialogue) r).1 ↔ Settles dialogue r.link := by
  unfold Settles
  rw [Operation.outcome_converse]
  cases (outcome dialogue r.link).1 with
  | ok a => exact iff_of_true nofun nofun
  | error e =>
    cases e with
    | sync cause => exact iff_of_true nofun nofun
    | fault fault => exact iff_of_false (fun h => h fault rfl) fun h => h fault rfl

theorem isLocal_createVehicle (hs : env.network.Sound) (vin : RawText) :
    IsLocal (outcome (createVehicle env p vin) r).1 ↔
      ∀ vehicle, newVehicle env.now p vin = .ok vehicle →
        env.network.HeaderFits r.link (env.network.CreationFits vehicle) := by
  have hnew := isLocal_newVehicle env.now p vin
  unfold createVehicle
  cases hvehicle : newVehicle env.now p vin with
  | error e =>
    refine iff_of_true ?_ fun vehicle h => nomatch h
    rintro fault ⟨⟩
    exact hnew fault hvehicle
  | ok vehicle =>
    rw [show (MonadExcept.ofExcept (.ok vehicle) : Operation NewVehicle) = pure vehicle from rfl,
      pure_bind]
    refine (isLocal_outcome_bind ?_).trans ?_
    · rintro (_ | done) r
      · exact IsLocal.ok false
      · exact IsLocal.ok done
    · rw [isLocal_converse, Network.settles_createVehicle hs]
      exact ⟨fun h _ hv => Except.ok.inj hv ▸ h, fun h => h vehicle rfl⟩

/-- In step with the vehicle service, creating a device fails over a dialogue exactly if it breaks
off. -/
theorem isLocal_createOne (hsync : env.settings.synchronises = true) (hs : env.network.Sound) :
    IsLocal (outcome (createOne env p) r).1 ↔ ¬BreaksOff env p r := by
  have hchecks : env.settings.checksVins = true := (Bool.and_eq_true _ _ ▸ hsync).1
  have hnew := isLocal_checkNew p r.store
  rw [createOne_eq, if_pos hchecks, outcome_bind, Operation.outcome_transact]
  unfold BreaksOff
  cases hcheck : checkNew p r.store with
  | error e =>
    refine iff_of_true ?_ fun h => nomatch h.1
    rintro fault ⟨⟩
    exact hnew fault hcheck
  | ok _ =>
    show IsLocal (outcome (createChecked env p) r).1 ↔ _
    unfold createChecked
    cases hvin : RawText.filled? p.vehicle.vin with
    | none =>
      refine iff_of_true (isLocal_storeDevice r) ?_
      rintro ⟨-, vin, vehicle, h, -⟩
      cases h
    | some vin =>
      simp only [hsync, ↓reduceIte]
      refine ((isLocal_outcome_bind ?_).trans (isLocal_createVehicle hs vin)).trans ?_
      · rintro (_ | _) r
        · exact IsLocal.ok (Except.error vin)
        · exact isLocal_storeDevice r
      · constructor
        · rintro h ⟨-, _, vehicle, ⟨⟩, hvehicle, hunfit⟩
          exact hunfit (h vehicle hvehicle)
        · intro h vehicle hvehicle
          by_contra hunfit
          exact h ⟨trivial, vin, vehicle, rfl, hvehicle, hunfit⟩

/-! ## Batches -/

/-- Every record of a batch is settled in its turn: it is created with its number, or it has a
number and is left out. -/
inductive Settled : List (Option RawText) → CreateResult → Prop
  | nil : Settled [] {}
  | created {vins : List (Option RawText)} {result : CreateResult} {d : DeviceRecord}
      (rest : Settled vins result) :
      Settled (d.vin.map .whole :: vins) (CreateResult.cons (.ok d) result)
  | leftOut {vins : List (Option RawText)} {result : CreateResult} {given : Option RawText}
      {vin : RawText} (filled : RawText.filled? given = some vin) (rest : Settled vins result) :
      Settled (given :: vins) (CreateResult.cons (.error vin) result)

theorem storeDevice_ne_leftOut {vin : RawText} :
    (outcome (storeDevice env p) r).1 ≠ .ok (.error vin) := by
  unfold storeDevice
  rw [outcome_bind_pure]
  cases (outcome (Operation.transact (insert env.now p)) r).1 <;> nofun

theorem filled_of_leftOut {vin : RawText} {r' : Registry}
    (h : outcome (createOne env p) r = (.ok (.error vin), r')) :
    RawText.filled? p.vehicle.vin = some vin ∧ env.settings.synchronises = true := by
  have hchecked : (outcome (createChecked env p) r).1 = .ok (.error vin) →
      RawText.filled? p.vehicle.vin = some vin ∧ env.settings.synchronises = true := by
    unfold createChecked
    cases RawText.filled? p.vehicle.vin with
    | none => exact fun h => absurd h storeDevice_ne_leftOut
    | some given =>
      simp only
      split
      · rw [outcome_bind]
        rcases outcome (createVehicle env p given) r with ⟨e | _ | _, r₁⟩
        · nofun
        · intro h
          cases h
          exact ⟨rfl, ‹_›⟩
        · exact fun h => absurd h storeDevice_ne_leftOut
      · exact fun h => absurd h storeDevice_ne_leftOut
  rw [createOne_eq] at h
  split at h
  · rw [outcome_bind, Operation.outcome_transact] at h
    cases hcheck : checkNew p r.store with
    | error e =>
      rw [hcheck] at h
      cases h
    | ok _ =>
      rw [hcheck] at h
      exact hchecked (congrArg Prod.fst h)
  · exact hchecked (congrArg Prod.fst h)

theorem vin_of_insert {now : Calendar.Instant} {s s' : Store} {d : DeviceRecord}
    (h : insert now p s = .ok (d, s')) : p.vehicle.vin = d.vin.map .whole := by
  obtain ⟨_, _, vin, -, -, hvin, -, -, rfl⟩ := insert_eq_ok h
  exact Store.bindText?_eq_ok hvin

theorem settled_createInTurn {turns : List (Environment × PreparedDevice)} {result : CreateResult}
    {r' : Registry} (h : outcome (createInTurn turns) r = (.ok result, r')) :
    Settled (turns.map (·.2.vehicle.vin)) result := by
  induction turns generalizing r result with
  | nil =>
    cases h
    exact .nil
  | cons turn turns ih =>
    obtain ⟨env, p⟩ := turn
    rw [outcome_createInTurn_cons] at h
    have hleaves := leaves_createOne env p r
    rcases hone : outcome (createOne env p) r with ⟨e | made, r₁⟩
    · rw [hone] at h
      cases h
    · rw [hone] at h hleaves
      simp only [Prod.mk.injEq] at h
      obtain ⟨rest, hrest, rfl⟩ := map_eq_ok.mp h.1
      have hsettled : Settled (turns.map (·.2.vehicle.vin)) rest :=
        ih (Prod.ext hrest h.2)
      cases hleaves with
      | inserted inserted =>
        rw [List.map_cons, vin_of_insert inserted]
        exact .created hsettled
      | leftOut same => exact .leftOut (filled_of_leftOut hone).1 hsettled

theorem vehicle_of_prepare {name : String} {data : DeviceData} {p : PreparedDevice}
    (h : prepare name data = .ok p) : p.vehicle = data.vehicle := by
  unfold prepare at h
  simp only [bind_eq_ok] at h
  obtain ⟨_, -, _, -, _, -, _, -, dated, -, h⟩ := h
  cases h
  rfl

theorem vins_of_ready {name : String} {turns : List (Environment × DeviceData)}
    {prepared : List (Environment × PreparedDevice)} (ready : ReadyInTurn name turns prepared) :
    prepared.map (·.2.vehicle.vin) = turns.map (·.2.vehicle.vin) := by
  induction ready with
  | nil => rfl
  | cons hfirst _ ih => rw [List.map_cons, List.map_cons, ih, vehicle_of_prepare hfirst.2]

theorem settled_batch {actor : Option String} {turns : List (Environment × DeviceData)}
    {result : CreateResult} {r' : Registry} (h : r.batch actor turns = (.ok result, r')) :
    Settled (turns.map (·.2.vehicle.vin)) result := by
  obtain ⟨name, prepared, -, -, hready, h⟩ := Registry.batch_eq_ok.mp h
  rw [← vins_of_ready hready]
  exact settled_createInTurn h

/-- A batch stops at a record: those before it are settled, and then creating this one in its turn
fails, over a dialogue if it breaks off and otherwise on its own. -/
inductive FailsAt (actor : Option String) (r : Registry)
    (before : List (Environment × DeviceData)) (t : Environment × DeviceData) (e : Failure) : Prop
  | intro {name : String} {p : PreparedDevice} {r₁ : Registry}
      (settled : before = [] ∧ r₁ = r ∨
        ∃ a, r.batch actor before = (.ok a, r₁) ∧ Settled (before.map (·.2.vehicle.vin)) a)
      (named : Text.filled? actor = some name) (ready : prepare name t.2 = .ok p)
      (cause : (∃ fault, e = .exchange fault) ↔ BreaksOff t.1 p r₁)

end Create

/-- Under a sound setup a call of the vehicle service breaks off exactly if a reply that it reads
does not have the shape that it takes for granted, or what it sends cannot be sent; in all other
cases it gives a value or an expected failure. In step with the vehicle service, whatever it replies
to each record, a batch that passes its checks settles every record, unless creating one of them
fails, and it fails over a dialogue exactly if the call that creates the vehicle breaks off. The
command is the batch whose records all come in one environment. -/
theorem Registry.breaks_off_iff (c : TimedCall) (link : Link) (actor : Option String)
    (turns : List (Environment × DeviceData)) (r : Registry) :
    (c.net.Sound → c.later.Sound → (Settles c.run link ↔ c.Fits link)) ∧
    ((∀ t ∈ turns, t.1.settings.synchronises = true ∧ t.1.network.Sound) →
      turns ≠ [] → (∀ t ∈ turns, Create.Passes actor t.2) →
      (∃ result r', r.batch actor turns = (.ok result, r') ∧
        Create.Settled (turns.map (·.2.vehicle.vin)) result) ∨
      ∃ e r' before t rest, r.batch actor turns = (.error e, r') ∧
        turns = before ++ t :: rest ∧ Create.FailsAt actor r before t e) ∧
    ∀ env records, r.step env (.create actor records) =
      ((r.batch actor (records.map fun data => (env, data))).1.map .created,
        (r.batch actor (records.map fun data => (env, data))).2) := by
  refine ⟨fun hnet hlater => TimedCall.settles_iff hnet hlater link, fun hs hne hall => ?_,
    fun env => step_create env r actor⟩
  rcases hbatch : r.batch actor turns with ⟨e | result, r'⟩
  · obtain ⟨before, t, rest, rfl, hstops⟩ := exists_stopsAt hne hall hbatch
    obtain @⟨name, p, r₁, settled, named, ready, failed, -⟩ := hstops
    obtain ⟨hsync, hsound⟩ := hs t (by simp)
    have hlocal := Create.isLocal_createOne (p := p) (r := r₁) hsync hsound
    rw [failed] at hlocal
    have hcause : (∃ fault, e = .exchange fault) ↔ Create.BreaksOff t.1 p r₁ := by
      constructor
      · rintro ⟨fault, rfl⟩
        by_contra hsettles
        exact hlocal.mpr hsettles fault rfl
      · intro hbreaks
        by_contra hnone
        exact hlocal.mp (fun fault heq => hnone ⟨fault, Except.error.inj heq⟩) hbreaks
    have hsettled : before = [] ∧ r₁ = r ∨
        ∃ a, r.batch actor before = (.ok a, r₁) ∧
          Create.Settled (before.map (·.2.vehicle.vin)) a :=
      settled.imp_right fun ⟨a, ha⟩ => ⟨a, ha, Create.settled_batch ha⟩
    exact .inr ⟨e, r', before, t, rest, rfl, rfl, .intro hsettled named ready hcause⟩
  · exact .inl ⟨result, r', rfl, Create.settled_batch hbatch⟩

/-! ## Sample replies -/

namespace Sample

theorem sound_synchronised : synchronised.network.Sound :=
  sound_network @isSendable_replies 1700000000

theorem sound_answering {reply : Json} (h : reply.isSendable = true) :
    (answering reply).network.Sound := by
  refine sound_network (fun e status v hreply => ?_) 1700000000
  simp only [answering] at hreply
  split at hreply
  · cases hreply
    exact h
  · exact isSendable_replies hreply

end Sample

namespace Registry

/-- A reply to a new vehicle that is a list breaks the call off and with it the batch: the device is
not reported, and the next one, which has no vehicle, is not created. -/
theorem create_breaks_off_over_list :
    let env := Sample.answering (.arr [])
    let records := [Sample.device "S12" "123" "VIN00000000000001", Sample.deviceAlone "S34" "456"]
    env.settings.synchronises = true ∧ env.network.Sound ∧
      (∀ data ∈ records, Create.Passes "admin" data) ∧
      ¬Settles (env.network.createVehicle { vin := some "VIN00000000000001" }) {} ∧
      (step env (.create "admin" records) {}).1 = .error (.exchange .notAnObject) ∧
      (step env (.create "admin" records) {}).2.store.devices.rows = [] := by
  intro env records
  have hpass : ∀ data ∈ records, Create.Passes "admin" data := by decide +kernel
  have hfault : (outcome (env.network.createVehicle { vin := some "VIN00000000000001" }) {}).1 =
      .error (.fault .notAnObject) := by
    decide +kernel
  have hstep : (step env (.create "admin" records) {}).1 = .error (.exchange .notAnObject) := by
    decide +kernel
  have hrows : (step env (.create "admin" records) {}).2.store.devices.rows = [] := by
    decide +kernel
  exact ⟨rfl, Sample.sound_answering (by decide +kernel), hpass, fun h => h _ hfault, hstep, hrows⟩

/-- Where the vehicle service refuses a vehicle in the expected shape, its device is left out, and
the next ones are created, with a vehicle that is accepted and without one; a list as a reply does
not fit the call. -/
theorem breaks_off_iff_over_refusal :
    let turns := [(Sample.refusing, Sample.device "S12" "123" "VIN00000000000001"),
      (Sample.synchronised, Sample.device "S34" "456" "VIN00000000000002"),
      (Sample.refusing, Sample.deviceAlone "S56" "789")]
    let net := (Sample.answering (.arr [])).network
    let call : TimedCall :=
      { call := .create { vin := some "VIN00000000000001" }, net := net, later := net }
    (∀ t ∈ turns, t.1.settings.synchronises = true ∧ t.1.network.Sound) ∧ turns ≠ [] ∧
      (∀ t ∈ turns, Create.Passes "admin" t.2) ∧
      (∃ result r', batch "admin" turns {} = (.ok result, r') ∧
        result.failedVins = [.whole "VIN00000000000001"] ∧
        result.created.map (fun d => (d.id, d.vin)) = [(1, some "VIN00000000000002"), (2, none)] ∧
        Create.Settled (turns.map (·.2.vehicle.vin)) result) ∧
      net.Sound ∧ ¬call.Fits {} := by
  intro turns net call
  obtain ⟨hcall, hbatch, -⟩ := breaks_off_iff call {} "admin" turns {}
  have hpass : ∀ t ∈ turns, Create.Passes "admin" t.2 := by decide +kernel
  have hrefusing : Sample.refusing.network.Sound := Sample.sound_answering (by decide +kernel)
  have hsound : ∀ t ∈ turns, t.1.settings.synchronises = true ∧ t.1.network.Sound := by
    simp only [turns, List.forall_mem_cons, List.not_mem_nil, false_implies, implies_true, and_true]
    exact ⟨⟨rfl, hrefusing⟩, ⟨rfl, Sample.sound_synchronised⟩, rfl, hrefusing⟩
  have hlist : net.Sound := Sample.sound_answering (by decide +kernel)
  have hanswer : ((batch "admin" turns {}).1.toOption.map fun result =>
      (result.failedVins, result.created.map fun d => (d.id, d.vin))) =
        some ([.whole "VIN00000000000001"], [(1, some "VIN00000000000002"), (2, none)]) := by
    decide +kernel
  have hfault : (outcome call.run {}).1 = .error (.fault .notAnObject) := by decide +kernel
  refine ⟨hsound, List.cons_ne_nil _ _, hpass, ?_, hlist, ?_⟩
  · rcases hbatch hsound (List.cons_ne_nil _ _) hpass with
      ⟨result, r', hsome, hsettled⟩ | ⟨e, r', _, _, _, hnone, -⟩
    · rw [hsome] at hanswer
      obtain ⟨hfailed, hcreated⟩ := Prod.mk.inj (Option.some.inj hanswer)
      exact ⟨result, r', hsome, hfailed, hcreated, hsettled⟩
    · rw [hnone] at hanswer
      cases hanswer
  · exact fun hfits => (hcall hlist hlist).mpr hfits _ hfault

end Registry

end DeviceRegistry
