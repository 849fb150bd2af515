import DeviceRegistry.Proofs.Lifecycle.Interruptions
import DeviceRegistry.Proofs.Vehicle.Turns

/-!
# The order of local and remote effects

A new device is announced to the vehicle service before it is stored, and it is stored only if the
reply in its turn accepts its vehicle. An update and a deletion are stored first, and the vehicle
service hears of them afterwards. So a request about a new device shows that the device passed every
check, and a request about a change shows that the change is in the store.
-/

namespace DeviceRegistry

theorem outcome_bind_eq_ok {ε σ α β : Type} {x : ExceptT ε (StateM σ) α}
    {f : α → ExceptT ε (StateM σ) β} {s s' : σ} {b : β}
    (h : outcome (x >>= f) s = (.ok b, s')) :
    ∃ a s₁, outcome x s = (.ok a, s₁) ∧ outcome (f a) s₁ = (.ok b, s') := by
  rw [outcome_bind] at h
  rcases hx : outcome x s with ⟨e | a, s₁⟩
  · rw [hx] at h
    cases h
  · rw [hx] at h
    exact ⟨a, s₁, rfl, h⟩

theorem Quiet.bind_eq_ok {α β : Type} {dialogue : Exchange α} (hquiet : Quiet dialogue)
    {next : α → Exchange β} {link link' : Link} {b : β}
    (h : outcome (dialogue >>= next) link = (.ok b, link')) :
    ∃ a, outcome dialogue link = (.ok a, link) ∧ outcome (next a) link = (.ok b, link') := by
  obtain ⟨a, link₁, ha, hnext⟩ := outcome_bind_eq_ok h
  obtain rfl : link₁ = link := by simpa [ha] using hquiet link
  exact ⟨a, ha, hnext⟩

/-! ## Accepted vehicles -/

/-- A result says that the vehicle is there: its code is zero, or its reason that the vehicle exists
already. -/
def Json.SaysCreated (result : Json) : Prop :=
  Network.isZero (result.member "code") = true ∨
    Network.reason result = .str (.whole Network.alreadyExists)

/-- A reply accepts a new vehicle: it is an answer with status 200 that can be read, and the first
of its results says that the vehicle is there. -/
def Reply.Accepts (reply : Reply) : Prop :=
  ∃ v result results, reply.value? = some v ∧
    v.member "actionResult" = .arr (result :: results) ∧ result.SaysCreated

namespace Network

variable {net : Network} {link link' : Link}

theorem isText_eq_true {s : String} {v : Json} : isText s v = true ↔ v = .str (.whole s) := by
  cases v <;> simp [isText]

theorem send_eq_ok {r : VehicleRequest} {status : Int} {body : ReplyBody}
    (h : outcome (net.send r) link = (.ok (status, body), link')) :
    link' = { link with sent := link.sent ++ [net.withQuery r] } ∧
      net.replyTo r.endpoint = .answer status body := by
  unfold send at h
  obtain ⟨_, -, h⟩ := (quiet_checkTarget net r).bind_eq_ok h
  obtain ⟨_, -, h⟩ := (Quiet.forM r.body quiet_checkValue).bind_eq_ok h
  obtain ⟨_, _, hsent, h⟩ := outcome_bind_eq_ok h
  cases hsent
  cases hreply : net.replyTo r.endpoint with
  | broken text =>
    rw [hreply] at h
    cases h
  | answer status' body' =>
    rw [hreply] at h
    cases body' with
    | text content =>
      cases h
      exact ⟨rfl, rfl⟩
    | json v =>
      obtain ⟨_, -, h⟩ := (quiet_checkValue v).bind_eq_ok h
      cases h
      exact ⟨rfl, rfl⟩

theorem read_eq_ok {e : Endpoint} {status : Int} {body : ReplyBody} {v : Json}
    (h : outcome (net.read e status body) link = (.ok v, link')) : body.value = .ok v := by
  unfold read at h
  split at h
  · rename_i w hvalue
    cases h
    exact hvalue
  · cases h
  · cases h

theorem member_eq_ok {name : String} {v w : Json}
    (h : outcome (member name v) link = (.ok w, link')) : w = v.member name := by
  cases v with
  | obj members =>
    cases h
    rfl
  | _ => cases h

/-- The first result of a reply is the first of a sequence, or no value of a reply at all. -/
theorem firstResult_eq_ok {results result : Json}
    (h : outcome (firstResult results) link = (.ok result, link')) :
    (∃ others, results = .arr (result :: others)) ∨ result = .obj [] ∨ ∃ t, result = .str t := by
  unfold firstResult at h
  split at h
  · cases h
    exact .inr (.inl rfl)
  · split at h
    · cases h
      exact .inl ⟨_, rfl⟩
    · cases h
      exact .inr (.inr ⟨_, rfl⟩)
    · cases h
    · cases h

theorem create_eq_ok_true {v : NewVehicle} {session : String}
    (h : outcome (net.create v session) link = (.ok true, link')) :
    link' = { link with sent := link.sent ++ [net.withQuery (creationRequest net v session)] } ∧
      (net.replyTo .create).Accepts := by
  unfold create at h
  obtain ⟨⟨status, body⟩, link₁, hsend, h⟩ := outcome_bind_eq_ok h
  obtain ⟨hsent, hreply⟩ := send_eq_ok hsend
  have hstatus : status = 200 := by
    by_contra hne
    simp only [ne_eq, hne, not_false_eq_true, ↓reduceIte] at h
    cases h
  subst hstatus
  simp only [ne_eq, not_true_eq_false, ↓reduceIte] at h
  obtain ⟨reply, hread, h⟩ := (quiet_read net _ _ _).bind_eq_ok h
  obtain ⟨results, hresults, h⟩ := (quiet_member _ _).bind_eq_ok h
  obtain ⟨result, hresult, h⟩ := (quiet_firstResult _).bind_eq_ok h
  obtain ⟨code, hcode, h⟩ := (quiet_member _ _).bind_eq_ok h
  have hcreated : result.SaysCreated ∧ link' = link₁ := by
    rw [member_eq_ok hcode] at h
    split at h
    · rename_i hzero
      cases h
      exact ⟨.inl hzero, rfl⟩
    · split at h
      · rename_i hreason
        cases h
        exact ⟨.inr (isText_eq_true.mp hreason), rfl⟩
      · cases h
  refine ⟨hcreated.2.trans hsent, reply, result, ?_⟩
  obtain ⟨others, hfirst⟩ | rfl | ⟨t, rfl⟩ := firstResult_eq_ok hresult
  · refine ⟨others, ?_, ?_, hcreated.1⟩
    · rw [show net.replyTo .create = .answer 200 body from hreply]
      simp [Reply.value?, read_eq_ok hread, Except.toOption]
    · rw [← hfirst, member_eq_ok hresults]
  · rcases hcreated.1 with hzero | hreason
    · cases hzero
    · cases hreason
  · cases hcode

/-! ## Announced vehicles -/

/-- What is sent about a new vehicle with a number, and whether it is accepted: logins alone, or
logins and the request to create it. -/
inductive Announces (net : Network) (vin : RawText) : List VehicleRequest → Bool → Prop
  | unasked {logins : List VehicleRequest}
      (only : ∀ q ∈ logins, q = net.withQuery net.loginRequest) : Announces net vin logins false
  | asked {logins : List VehicleRequest} {v : NewVehicle} {session : String} {accepted : Bool}
      (only : ∀ q ∈ logins, q = net.withQuery net.loginRequest) (named : v.vin = some vin)
      (reply : accepted = true → (net.replyTo .create).Accepts) :
      Announces net vin (logins ++ [net.withQuery (creationRequest net v session)]) accepted

theorem link_bind_quiet {α β : Type} {dialogue : Exchange α} {next : α → Exchange β}
    (hnext : ∀ a, Quiet (next a)) :
    (outcome (dialogue >>= next) link).2 = (outcome dialogue link).2 := by
  rw [outcome_bind]
  rcases outcome dialogue link with ⟨e | a, link'⟩
  · rfl
  · exact hnext a link'

theorem link_create (net : Network) (v : NewVehicle) (session : String) (link : Link) :
    (outcome (net.create v session) link).2 = link ∨
      (outcome (net.create v session) link).2 =
        { link with sent := link.sent ++ [net.withQuery (creationRequest net v session)] } := by
  have hrest : (outcome (net.create v session) link).2 =
      (outcome (net.send (creationRequest net v session)) link).2 := by
    refine link_bind_quiet fun reply => .ite (.pure _) ?_
    refine .bind (quiet_read net _ _ _) fun v => .bind (quiet_member _ _) fun _ =>
      .bind (quiet_firstResult _) fun _ => .bind (quiet_member _ _) fun code => ?_
    exact .ite (.pure _) (.ite (.pure _) (.throw _))
  rw [hrest]
  exact link_send net _ link

theorem announces_createVehicle (net : Network) {v : NewVehicle} {vin : RawText}
    (hv : v.vin = some vin) (link : Link) :
    ∃ requests accepted, (outcome (net.createVehicle v) link).2.sent = link.sent ++ requests ∧
      net.Announces vin requests accepted ∧
      ((outcome (net.createVehicle v) link).1 = .ok true → accepted = true) := by
  obtain ⟨logins, hlogins, honly⟩ :=
    sends_sessionHeader net (P := fun q => q = net.withQuery net.loginRequest) rfl link
  rw [createVehicle_eq, outcome_bind]
  rcases hheader : outcome net.sessionHeader link with ⟨e | session, link₁⟩
  · rw [hheader] at hlogins
    exact ⟨logins, false, hlogins, .unasked honly, nofun⟩
  replace hlogins : link₁.sent = link.sent ++ logins := by rw [← hlogins, hheader]
  have hasked : link₁.sent ++ [net.withQuery (creationRequest net v session)] =
      link.sent ++ (logins ++ [net.withQuery (creationRequest net v session)]) := by
    rw [hlogins, List.append_assoc]
  simp only
  rcases hmade : outcome (net.create v session) link₁ with ⟨made, link₂⟩
  by_cases htrue : made = .ok true
  · obtain ⟨rfl, haccepts⟩ := create_eq_ok_true (htrue ▸ hmade)
    exact ⟨_, true, hasked, .asked honly hv fun _ => haccepts, fun _ => rfl⟩
  · obtain hlink | hlink := link_create net v session link₁
    · rw [hmade] at hlink
      obtain rfl : link₂ = link₁ := hlink
      exact ⟨logins, false, hlogins, .unasked honly, fun h => absurd h htrue⟩
    · rw [hmade] at hlink
      obtain rfl : link₂ = _ := hlink
      exact ⟨_, false, hasked, .asked honly hv nofun, fun h => absurd h htrue⟩

end Network

/-! ## Creating one device -/

namespace Create

theorem serialNumber_of_prepare {name : String} {data : DeviceData} {p : PreparedDevice}
    (h : prepare name data = .ok p) :
    p.profile.serialNumber = data.profile.serialNumber ∧
      (RawText.filled? data.profile.serialNumber).isSome = true := by
  unfold prepare at h
  simp only [bind_eq_ok] at h
  obtain ⟨_, hmandatory, _, -, _, -, _, -, dated, hdated, h⟩ := h
  cases h
  unfold RawProfile.withStoredDates at hdated
  simp only [bind_eq_ok] at hdated
  obtain ⟨_, -, _, -, hdated⟩ := hdated
  cases hdated
  refine ⟨rfl, ?_⟩
  have hall := require_eq_ok.mp hmandatory
  exact List.all_eq_true.mp hall .serialNumber (by decide)

theorem filled?_of_bindText? {value : Option RawText} {bound : Option String}
    (h : Store.bindText? value = .ok bound) :
    RawText.filled? value = (Text.filled? bound).map .whole := by
  rw [Store.bindText?_eq_ok h]
  cases bound with
  | none => rfl
  | some s =>
    by_cases hs : s.isEmpty = true <;> simp [RawText.filled?, Text.filled?, Option.filter, hs]

theorem whole_of_bindText? {value : Option RawText} {t : RawText}
    (ht : RawText.filled? value = some t) {bound : Option String}
    (h : Store.bindText? (some t) = .ok bound) :
    ∃ s, value = some (.whole s) ∧ bound = some s ∧ s.isEmpty = false := by
  obtain ⟨hvalue, hfull⟩ := Option.filter_eq_some_iff.mp ht
  cases t with
  | broken codes => cases h
  | whole s =>
    cases h
    exact ⟨s, hvalue, rfl, by simpa using hfull⟩

/-- A device with a serial number and a vehicle identification number that is new has both of them
whole, and neither is stored. -/
theorem checkNew_eq_ok {p : PreparedDevice} {s : Store} (h : checkNew p s = .ok ())
    (hserial : (RawText.filled? p.profile.serialNumber).isSome = true) {vin : RawText}
    (hvin : RawText.filled? p.vehicle.vin = some vin) :
    ∃ serial number, p.profile.serialNumber = some (.whole serial) ∧
      s.hasSerialNumber serial = false ∧ p.vehicle.vin = some (.whole number) ∧
      vin = .whole number ∧ number.isEmpty = false ∧ s.hasVin number = false := by
  obtain ⟨given, hgiven⟩ := Option.isSome_iff_exists.mp hserial
  unfold checkNew at h
  rw [hgiven, hvin] at h
  obtain ⟨bound, hbound, h⟩ := bind_eq_ok.mp h
  obtain ⟨serial, hserial, rfl, -⟩ := whole_of_bindText? hgiven hbound
  obtain ⟨_, hnewSerial, h⟩ := bind_eq_ok.mp h
  obtain ⟨bound, hbound, h⟩ := bind_eq_ok.mp h
  obtain ⟨number, hnumber, rfl, hfull⟩ := whole_of_bindText? hvin hbound
  have hwhole : vin = .whole number := by
    obtain ⟨hvalue, -⟩ := Option.filter_eq_some_iff.mp hvin
    exact Option.some.inj (hvalue.symm.trans hnumber)
  refine ⟨serial, number, hserial, ?_, hnumber, hwhole, hfull, ?_⟩
  · simpa using require_eq_ok.mp (checked_eq_ok.mp hnewSerial)
  · simpa using require_eq_ok.mp (checked_eq_ok.mp h)

/-- A store with the device of a record, its number if it has one, and its first history entry. -/
def Stores (data : DeviceData) (vin : Option String) (s s' : Store) : Prop :=
  ∃ name p now, prepare name data = .ok p ∧ s' = s.created now p.profile.shown vin

/-- What comes of a record in step with the vehicle service, in the registry that the records before
it left. Without a number nothing is sent about it. Otherwise it is refused and nothing happens, or
it is announced: then neither its serial number nor its number was stored, and it is stored only if
it is accepted. -/
inductive Settles (env : Environment) (data : DeviceData) (r r' : Registry) : Prop
  | unnumbered (number : RawText.filled? data.vehicle.vin = none) (silent : r'.link = r.link)
      (stored : r'.store = r.store ∨ Stores data none r.store r'.store)
  | refused (same : r' = r)
  | announced {serial number : String} {requests : List VehicleRequest} {accepted : Bool}
      (serialNumber : data.profile.serialNumber = some (.whole serial))
      (vin : data.vehicle.vin = some (.whole number))
      (newSerialNumber : r.store.hasSerialNumber serial = false)
      (newVin : r.store.hasVin number = false)
      (sent : r'.link.sent = r.link.sent ++ requests)
      (announced : env.network.Announces (.whole number) requests accepted)
      (stored : r'.store = r.store ∨
        accepted = true ∧ Stores data (some number) r.store r'.store)

section

variable {env : Environment} {data : DeviceData} {name : String} {p : PreparedDevice}

/-- The transaction that stores a device sends nothing, and does nothing else if it fails. -/
theorem storeDevice_cases (env : Environment) (ready : prepare name data = .ok p) (r : Registry) :
    (outcome (storeDevice env p) r).2 = r ∨
      ∃ vin, Store.bindText? data.vehicle.vin = .ok vin ∧
        (outcome (storeDevice env p) r).2.link = r.link ∧
        Stores data (Text.filled? vin) r.store (outcome (storeDevice env p) r).2.store := by
  unfold storeDevice
  rw [outcome_bind_pure, Operation.outcome_transact]
  cases hinsert : insert env.now p r.store with
  | error e => exact .inl rfl
  | ok x =>
    obtain ⟨stamp, profile, vin, -, hprofile, hvin, -, hstore, -⟩ := insert_eq_ok hinsert
    obtain rfl := Store.bindProfile_eq_ok hprofile
    rw [vehicle_of_prepare ready] at hvin
    exact .inr ⟨vin, hvin, rfl, name, p, stamp.text, ready, hstore⟩

theorem outcome_createVehicle {vehicle : NewVehicle} {vin : RawText}
    (hnew : newVehicle env.now p vin = .ok vehicle) (r : Registry) :
    ∃ requests accepted,
      (outcome (createVehicle env p vin) r).2.store = r.store ∧
      (outcome (createVehicle env p vin) r).2.link.sent = r.link.sent ++ requests ∧
      env.network.Announces vin requests accepted ∧
      ((outcome (createVehicle env p vin) r).1 = .ok true → accepted = true) := by
  have hvin : vehicle.vin = some vin := by
    unfold newVehicle at hnew
    obtain ⟨week, -, hnew⟩ := bind_eq_ok.mp hnew
    obtain ⟨year, -, hnew⟩ := bind_eq_ok.mp hnew
    cases hnew
    rfl
  obtain ⟨requests, accepted, hsent, hannounces, haccepted⟩ :=
    env.network.announces_createVehicle hvin r.link
  refine ⟨requests, accepted, keepsStore_createVehicle env p vin r, ?_⟩
  unfold createVehicle
  have hpure : (MonadExcept.ofExcept (.ok vehicle) : Operation NewVehicle) = pure vehicle := rfl
  rw [hnew, hpure, pure_bind, outcome_bind, Operation.outcome_converse]
  rcases hmade : outcome (env.network.createVehicle vehicle) r.link with ⟨made, link⟩
  rw [hmade] at hsent haccepted
  rcases made with (cause | fault) | done
  · exact ⟨hsent, hannounces, nofun⟩
  · exact ⟨hsent, hannounces, nofun⟩
  · refine ⟨hsent, hannounces, fun h => haccepted ?_⟩
    cases h
    rfl

theorem settles_createChecked (ready : prepare name data = .ok p)
    (hsync : env.settings.synchronises = true) {r : Registry}
    (hnew : checkNew p r.store = .ok ()) :
    Settles env data r (outcome (createChecked env p) r).2 := by
  have hvehicle := vehicle_of_prepare ready
  obtain ⟨hsame, hserial⟩ := serialNumber_of_prepare ready
  unfold createChecked
  cases hfilled : RawText.filled? p.vehicle.vin with
  | none =>
    rw [hvehicle] at hfilled
    obtain hsame | ⟨vin, hvin, hlink, hstores⟩ := storeDevice_cases env ready r
    · exact .refused hsame
    · rw [filled?_of_bindText? hvin, Option.map_eq_none_iff] at hfilled
      rw [hfilled] at hstores
      exact .unnumbered (by rw [filled?_of_bindText? hvin, hfilled]; rfl) hlink (.inr hstores)
  | some vin =>
    obtain ⟨serial, number, hserialNumber, hnewSerial, hnumber, rfl, hfull, hnewVin⟩ :=
      checkNew_eq_ok hnew (hsame ▸ hserial) hfilled
    rw [hvehicle] at hnumber
    rw [hsame] at hserialNumber
    simp only [hsync, ↓reduceIte]
    cases hready : newVehicle env.now p (.whole number) with
    | error e =>
      have hfail : outcome (createVehicle env p (.whole number)) r = (.error e, r) := by
        unfold createVehicle
        rw [hready]
        rfl
      rw [outcome_bind, hfail]
      exact .refused rfl
    | ok vehicle =>
      obtain ⟨requests, accepted, hstore, hsent, hannounces, haccepted⟩ :=
        outcome_createVehicle hready r
      rw [outcome_bind]
      rcases hmade : outcome (createVehicle env p (.whole number)) r with ⟨made, r₁⟩
      rw [hmade] at hstore hsent haccepted
      rcases made with e | _ | _
      · exact .announced hserialNumber hnumber hnewSerial hnewVin hsent hannounces (.inl hstore)
      · exact .announced hserialNumber hnumber hnewSerial hnewVin hsent hannounces (.inl hstore)
      · show Settles env data r (outcome (storeDevice env p) r₁).2
        obtain hsame | ⟨vin, hvin, hlink, hstores⟩ := storeDevice_cases env ready r₁
        · rw [hsame]
          exact .announced hserialNumber hnumber hnewSerial hnewVin hsent hannounces (.inl hstore)
        · refine .announced hserialNumber hnumber hnewSerial hnewVin (by rw [hlink]; exact hsent)
            hannounces (.inr ⟨haccepted rfl, ?_⟩)
          rw [hnumber] at hvin
          cases hvin
          rw [← show r₁.store = r.store from hstore]
          rwa [show Text.filled? (some number) = some number from
            Text.filled?_eq_some.mpr ⟨rfl, hfull⟩] at hstores

theorem settles_createOne (ready : prepare name data = .ok p)
    (hsync : env.settings.synchronises = true) (r : Registry) :
    Settles env data r (outcome (createOne env p) r).2 := by
  have hchecks : env.settings.checksVins = true := (Bool.and_eq_true _ _ ▸ hsync).1
  rw [createOne_eq, if_pos hchecks, outcome_bind, Operation.outcome_transact]
  cases hnew : checkNew p r.store with
  | error e => exact .refused rfl
  | ok _ => exact settles_createChecked ready hsync hnew

/-- The records of a batch are settled in turn, each in its own environment and in the registry that
the ones before it left. The batch may stop at any record, and nothing about that one is stored. -/
inductive SettlesInTurn : List (Environment × DeviceData) → Registry → Registry → Prop
  | done {r : Registry} : SettlesInTurn [] r r
  | stopped {t : Environment × DeviceData} {rest : List (Environment × DeviceData)}
      {r r' : Registry} (last : Settles t.1 t.2 r r') (kept : r'.store = r.store) :
      SettlesInTurn (t :: rest) r r'
  | next {t : Environment × DeviceData} {rest : List (Environment × DeviceData)}
      {r r₁ r₂ : Registry} (first : Settles t.1 t.2 r r₁) (others : SettlesInTurn rest r₁ r₂) :
      SettlesInTurn (t :: rest) r r₂

theorem settlesInTurn_createInTurn {name : String} {turns : List (Environment × DeviceData)}
    {prepared : List (Environment × PreparedDevice)} (ready : ReadyInTurn name turns prepared)
    (hsync : ∀ t ∈ turns, t.1.settings.synchronises = true) (r : Registry) :
    SettlesInTurn turns r (outcome (createInTurn prepared) r).2 := by
  induction ready generalizing r with
  | nil => exact .done
  | @cons t q turns prepared hfirst _ ih =>
    obtain ⟨env, p⟩ := q
    obtain ⟨rfl, hp⟩ := hfirst
    obtain ⟨hon, hrest⟩ := List.forall_mem_cons.mp hsync
    have hsettles := settles_createOne hp hon r
    have hleaves := leaves_createOne t.1 p r
    rw [outcome_createInTurn_cons]
    rcases hone : outcome (createOne t.1 p) r with ⟨e | made, r₁⟩
    · rw [hone] at hsettles hleaves
      cases hleaves with
      | failed same => exact .stopped hsettles same
    · rw [hone] at hsettles
      exact .next hsettles (ih hrest r₁)

end

end Create

/-! ## Telling afterwards -/

/-- A lookup asks for the vehicle with a number, and other requests are free. -/
def VehicleRequest.LooksUp (vin : String) (q : VehicleRequest) : Prop :=
  q.endpoint = .vehicles → q.query = [("vin", vin)]

theorem Network.sends_deleteVehicle (net : Network) (vin : String) :
    Sends (VehicleRequest.LooksUp vin) (net.deleteVehicle (some (.whole vin))) := by
  have hother : ∀ q : VehicleRequest, q.endpoint ≠ .vehicles →
      VehicleRequest.LooksUp vin (net.withQuery q) :=
    fun q hq h => absurd (by rwa [endpoint_withQuery] at h) hq
  unfold deleteVehicle
  refine .bind (sends_findVehicle net (hother _ nofun) fun session _ => rfl) fun id => ?_
  cases id with
  | none => exact .of_quiet (.pure _)
  | some id =>
    refine .bind (sends_sessionHeader net (hother _ nofun)) fun session => ?_
    exact .bind (sends_send net (r := deletionRequest id session) (hother _ nofun)) fun _ =>
      .of_quiet (.pure _)

/-- A deletion was in the store before the vehicle service heard of it, and every lookup carries the
number that the deleted device had. -/
inductive Delete.TellsAfter (env : Environment) (imei serialNumber : Option String)
    (r r' : Registry) : Prop
  | intro {d : Device} {now vin : String} {record : DeviceRecord} {requests : List VehicleRequest}
      (inStep : env.settings.synchronises = true) (stored : d ∈ r.store.devices.rows)
      (found : d.has (Store.identifierValues imei serialNumber) = true)
      (numbered : r.store.vin? d.id = some vin)
      (told : r' = (afterwards env (synchronise env (some vin)) record
        { r with store := r.store.deleted now d }).2)
      (kept : r'.store = r.store.deleted now d)
      (sent : r'.link.sent = r.link.sent ++ requests)
      (lookups : ∀ q ∈ requests, q.LooksUp vin)

/-- A change was in the store before the vehicle service heard of it. -/
inductive Update.TellsAfter (env : Environment) (q : UpdateRequest) (r r' : Registry) : Prop
  | intro {p : Prepared} {d : Device} {vin told : Option String} {record : DeviceRecord}
      (inStep : env.settings.synchronises = true) (ready : prepare env.settings q = .ok p)
      (stored : d ∈ r.store.devices.rows)
      (told : r' = (afterwards env (synchronise env p told) record
        { r with store := r.store.replaced (d.taking updateColumns p.replacement.shown) vin }).2)
      (kept : r'.store = r.store.replaced (d.taking updateColumns p.replacement.shown) vin)

theorem Delete.link_synchronise (env : Environment) (vin : Option String) (r : Registry) :
    (outcome (synchronise env vin) r).2.link =
      (outcome (env.network.deleteVehicle (vin.map .whole)) r.link).2 := by
  unfold synchronise
  rw [outcome_bind, Operation.outcome_converse]
  rcases outcome (env.network.deleteVehicle (vin.map .whole)) r.link with
    ⟨(cause | fault) | _ | _, link⟩ <;> rfl

theorem Operation.link_transact {α : Type} (f : Store → Except Failure (α × Store))
    (r : Registry) : (outcome (transact f) r).2.link = r.link := by
  rw [outcome_transact]
  cases f r.store <;> rfl

namespace Registry

variable (env : Environment) (r : Registry)

theorem link_step_delete (imei serialNumber : Option String) :
    (r.step env (.delete imei serialNumber)).2.link = r.link ∨
      Delete.TellsAfter env imei serialNumber r (r.step env (.delete imei serialNumber)).2 := by
  cases ready : Delete.checkIdentifiers imei serialNumber with
  | error cause =>
    rw [step_delete, ready]
    exact .inl rfl
  | ok _ =>
    cases committed : Delete.commit env.settings env.now imei serialNumber r.store with
    | error e =>
      rw [step_delete, ready]
      simp only [committed, true_or]
    | ok x =>
      obtain ⟨⟨record, sent⟩, s⟩ := x
      rw [step_delete_of_commit env r ready committed]
      cases hsync : env.settings.synchronises with
      | false => exact .inl (by simp [afterwards, hsync])
      | true =>
        obtain ⟨d, _, stamp, hwith, -, -, -, hsent, hgiven, -, rfl, -⟩ :=
          Delete.commit_eq_ok committed
        obtain ⟨vin, rfl⟩ := Option.isSome_iff_exists.mp (hgiven hsync)
        obtain ⟨hstored, hfound⟩ := Store.mem_of_deviceWith? hwith
        obtain ⟨requests, hrequests, hlookups⟩ :=
          Network.sends_deleteVehicle env.network vin r.link
        have hlink : (afterwards env (Delete.synchronise env (some vin)) record
            { r with store := r.store.deleted stamp.text d }).2.link =
              (outcome (env.network.deleteVehicle (some (.whole vin))) r.link).2 := by
          unfold afterwards
          rw [if_pos hsync]
          exact Delete.link_synchronise env (some vin) _
        exact .inr (.intro hsync hstored hfound (Text.filled?_eq_some.mp hsent.symm).1 rfl
          (store_afterwards env _ _ (Delete.keepsStore_synchronise env _))
          (by rw [hlink]; exact hrequests) hlookups)

theorem link_step_update (q : UpdateRequest) :
    (r.step env (.update q)).2.link = r.link ∨
      Update.TellsAfter env q r (r.step env (.update q)).2 := by
  cases ready : Update.prepare env.settings q with
  | error cause =>
    rw [step_update, ready]
    exact .inl rfl
  | ok p =>
    cases committed : Update.commit env.settings p r.store with
    | error e =>
      rw [step_update, ready]
      simp only [committed, true_or]
    | ok x =>
      obtain ⟨⟨record, sent⟩, s⟩ := x
      rw [step_update_of_commit env r ready committed]
      cases hsync : env.settings.synchronises with
      | false => exact .inl (by simp [afterwards, hsync])
      | true =>
        obtain ⟨found, d, vin, -, hd, -, -, rfl, -, -⟩ := Update.commit_eq_ok committed
        exact .inr (.intro hsync ready (Store.mem_of_device? hd).1 rfl
          (store_afterwards env _ _ (Update.keepsStore_synchronise env p sent)))

variable {env}

theorem link_createOne (hoff : env.settings.synchronises = false) (p : PreparedDevice) :
    (outcome (Create.createOne env p) r).2.link = r.link := by
  have hchecked : ∀ r', (outcome (Create.createChecked env p) r').2.link = r'.link := by
    intro r'
    have hstore : (outcome (Create.storeDevice env p) r').2.link = r'.link := by
      unfold Create.storeDevice
      rw [outcome_bind_pure]
      exact Operation.link_transact _ r'
    unfold Create.createChecked
    cases RawText.filled? p.vehicle.vin with
    | none => exact hstore
    | some vin =>
      simp only [hoff, Bool.false_eq_true, ↓reduceIte]
      exact hstore
  rw [Create.createOne_eq]
  split
  · rw [outcome_bind, Operation.outcome_transact]
    cases Create.checkNew p r.store with
    | error e => rfl
    | ok _ => exact hchecked r
  · exact hchecked r

theorem link_createInTurn {turns : List (Environment × PreparedDevice)}
    (hoff : ∀ t ∈ turns, t.1.settings.synchronises = false) :
    (outcome (Create.createInTurn turns) r).2.link = r.link := by
  induction turns generalizing r with
  | nil => rfl
  | cons turn turns ih =>
    obtain ⟨env, p⟩ := turn
    obtain ⟨hfirst, hrest⟩ := List.forall_mem_cons.mp hoff
    have hlink := link_createOne r hfirst p
    rw [Create.outcome_createInTurn_cons]
    rcases hone : outcome (Create.createOne env p) r with ⟨e | made, r₁⟩
    · rw [hone] at hlink
      exact hlink
    · rw [hone] at hlink
      exact (ih r₁ hrest).trans hlink

theorem link_batch (actor : Option String) {turns : List (Environment × DeviceData)}
    (hoff : ∀ t ∈ turns, t.1.settings.synchronises = false) :
    (r.batch actor turns).2.link = r.link := by
  obtain ⟨_, hrefused, -⟩ | ⟨_, prepared, -, -, hready, hbatch⟩ := batch_cases r actor turns
  · rw [hrefused]
  · rw [hbatch]
    refine link_createInTurn r fun q hq => ?_
    obtain ⟨t, ht, henv, -⟩ := exists_mem_of_forall₂ hready hq
    rw [henv]
    exact hoff t ht

theorem link_step_of_not_synchronises (hoff : env.settings.synchronises = false) (c : Command) :
    (r.step env c).2.link = r.link := by
  cases c with
  | create actor records =>
    rw [step_create]
    exact link_batch r actor (List.forall_mem_map.mpr fun _ _ => hoff)
  | changeState q =>
    rw [step_changeState]
    cases changeState env.now q r.store <;> rfl
  | update q =>
    obtain hsame | ⟨hon, -⟩ := link_step_update env r q
    · exact hsame
    · rw [hoff] at hon
      cases hon
  | delete imei serialNumber =>
    obtain hsame | ⟨hon, -⟩ := link_step_delete env r imei serialNumber
    · exact hsame
    · rw [hoff] at hon
      cases hon
  | attributes q =>
    rw [step_attributes]
    cases updateAttributes q r.store <;> rfl
  | associate device headUnit =>
    rw [step_associate]
    cases associate device headUnit r.store <;> rfl

theorem settlesInTurn_batch (actor : Option String) {turns : List (Environment × DeviceData)}
    (hsync : ∀ t ∈ turns, t.1.settings.synchronises = true) :
    (r.batch actor turns).2 = r ∨
      (∀ t ∈ turns, Create.Passes actor t.2) ∧
        Create.SettlesInTurn turns r (r.batch actor turns).2 := by
  obtain ⟨_, hrefused, -⟩ | ⟨name, prepared, hname, -, hready, hbatch⟩ := batch_cases r actor turns
  · rw [hrefused]
    exact .inl rfl
  · rw [hbatch]
    exact .inr ⟨Create.passes_of_ready hname hready,
      Create.settlesInTurn_createInTurn hready hsync r⟩

/-- The order of local and remote effects. In step with the vehicle service, whatever it replies to
each record, a batch does nothing before all its records have passed their checks; then each of them
is settled in turn: announced once at most, if it is new, and stored only if the reply in its turn
accepts its vehicle. A deletion and an update send nothing unless they are in the store, and a
deletion asks for the number that the device had. Out of step with the vehicle service nothing is
ever sent. The command to create devices is the batch whose records all come in one environment. -/
theorem effects_in_order (env : Environment) (r : Registry) :
    (∀ actor turns, (∀ t ∈ turns, t.1.settings.synchronises = true) →
      (r.batch actor turns).2 = r ∨
        (∀ t ∈ turns, Create.Passes actor t.2) ∧
          Create.SettlesInTurn turns r (r.batch actor turns).2) ∧
    (∀ imei serialNumber, (r.step env (.delete imei serialNumber)).2.link = r.link ∨
      Delete.TellsAfter env imei serialNumber r (r.step env (.delete imei serialNumber)).2) ∧
    (∀ q, (r.step env (.update q)).2.link = r.link ∨
      Update.TellsAfter env q r (r.step env (.update q)).2) ∧
    (∀ actor turns, (∀ t ∈ turns, t.1.settings.synchronises = false) →
      (r.batch actor turns).2.link = r.link) ∧
    (env.settings.synchronises = false → ∀ c, (r.step env c).2.link = r.link) ∧
    ∀ actor records, (r.step env (.create actor records)).2 =
      (r.batch actor (records.map fun data => (env, data))).2 :=
  ⟨fun actor _ => settlesInTurn_batch r actor, link_step_delete env r, link_step_update env r,
    fun actor _ => link_batch r actor, link_step_of_not_synchronises r,
    fun actor records => congrArg Prod.snd (step_create env r actor records)⟩

/-- Of a batch the first device is announced and stored, the second one is announced and refused,
and the third one asks for the number of the first and is not announced. Then the first is deleted,
and out of step nothing is sent about it. -/
theorem effects_in_order_mixed_replies :
    let env := Sample.synchronised
    let first := Sample.device "S12" "123" "VIN00000000000001"
    let second := Sample.device "S34" "456" "VIN00000000000002"
    let again := Sample.device "S56" "789" "VIN00000000000001"
    let turns := [(env, first), (Sample.refusing, second), (env, again)]
    let r := (batch "admin" turns {}).2
    let left := (r.step env (.delete "123" none)).2
    ((∀ t ∈ turns, t.1.settings.synchronises = true) ∧
      r.store.devices.rows.length = 1 ∧ r.link.sent.length = 3 ∧
      Create.SettlesInTurn turns {} r) ∧
    (left.link.sent.length = 4 ∧ Delete.TellsAfter env "123" none r left) ∧
    (batch "admin" [(Sample.environment, first)] {}).2.link = {} ∧
    (step Sample.environment (.create "admin" [first]) {}).2.link = {} := by
  intro env first second again turns r left
  obtain ⟨creates, -, -, silentBatch, -, -⟩ := effects_in_order env {}
  obtain ⟨-, deletes, -, -, -, -⟩ := effects_in_order env r
  obtain ⟨-, -, -, -, silent, -⟩ := effects_in_order Sample.environment {}
  have hsync : ∀ t ∈ turns, t.1.settings.synchronises = true := by decide +kernel
  have hcreated : r.store.devices.rows.length = 1 ∧ r.link.sent.length = 3 := by decide +kernel
  have hdeleted : left.link.sent.length = 4 := by decide +kernel
  refine ⟨⟨hsync, hcreated.1, hcreated.2, ?_⟩, ⟨hdeleted, ?_⟩,
    silentBatch "admin" [(Sample.environment, first)] (by decide +kernel), silent (by decide) _⟩
  · obtain hsame | ⟨-, hsettles⟩ := creates "admin" turns hsync
    · have hsame : r = {} := hsame
      rw [hsame] at hcreated
      exact absurd hcreated.1 (by decide)
    · exact hsettles
  · obtain hsame | htells := deletes "123" none
    · have hsame : left.link = r.link := hsame
      rw [hsame, hcreated.2] at hdeleted
      cases hdeleted
    · exact htells

end Registry

end DeviceRegistry
