import DeviceRegistry.Proofs.Lifecycle.Runs
import DeviceRegistry.Proofs.Vehicle.Requests

/-!
# What calls come to

Under a sound setup it depends on the replies and on the session alone what becomes of a call. Its
time is that of its headers: changing and deleting a vehicle take a header twice, and the service
may have changed in between. A `TimedCall` has both times of it.
-/

namespace DeviceRegistry

/-! ## Replies -/

namespace Reply

/-- The value that a reply brings, if it is an answer with status 200 that can be read. -/
def value? : Reply → Option Json
  | .answer status body => if status = 200 then body.value.toOption else none
  | .broken _ => none

/-- What an answer with status 200 brings can be read or is no value, and has a property if it can
be read. -/
def Fits (P : Json → Prop) (r : Reply) : Prop :=
  ∀ body, r = .answer 200 body →
    body.value ≠ .error (.unread .tooDeep) ∧ ∀ v, body.value = .ok v → P v

namespace Fits

variable {P : Json → Prop}

theorem of_broken (text : String) : (broken text).Fits P :=
  nofun

theorem of_status {status : Int} (h : status ≠ 200) (body : ReplyBody) :
    (answer status body).Fits P := by
  rintro _ ⟨⟩
  exact absurd rfl h

theorem answer_iff {body : ReplyBody} :
    (answer 200 body).Fits P ↔
      body.value ≠ .error (.unread .tooDeep) ∧ ∀ v, body.value = .ok v → P v := by
  constructor
  · exact fun h => h body rfl
  · rintro h _ ⟨⟩
    exact h

end Fits

end Reply

/-- The value is an object. -/
def Json.isObject : Json → Bool
  | .obj _ => true
  | _ => false

namespace Network

variable {net : Network} {link : Link}

/-- The setup keeps no request from being sent: every path can be asked for, the time of a session
is a number, and what a login says of the user can be sent. A reply that is given as a value is one
that can be sent. -/
structure Sound (net : Network) : Prop where
  paths : ∀ e, ∃ path, net.service.path? e = some path ∧ Http.targetFault? path = none
  lifetime : net.service.sessionSeconds.isSome = true
  user : (credentials net.service).isSendable = true
  replies : ∀ e status v, net.script e = .answer status (.json v) → v.isSendable = true

/-! ## Sending requests -/

/-- The names and values of a query as they are checked. -/
def rawQuery (r : VehicleRequest) : List (RawText × RawText) :=
  r.query.map fun (name, value) => (.whole name, .whole value)

theorem checkTarget_eq (hs : net.Sound) {r : VehicleRequest}
    (hquery : Http.queryFault? (rawQuery r) = none) : net.checkTarget r = pure ⟨⟩ := by
  obtain ⟨path, hpath, hfault⟩ := hs.paths r.endpoint
  unfold rawQuery at hquery
  unfold checkTarget
  simp only [hpath, hfault, hquery]
  rfl

theorem queryFault?_nil : Http.queryFault? [] = none := by
  decide +kernel

theorem checkValue_eq {v : Json} (h : v.isSendable = true) : checkValue v = pure ⟨⟩ := by
  obtain ⟨hfinite, hwhole⟩ := (Bool.and_eq_true _ _).mp h
  simp [checkValue, hfinite, hwhole]

theorem Sound.isSendable_of_replyTo (hs : net.Sound) {e : Endpoint} {status : Int} {v : Json}
    (h : net.replyTo e = .answer status (.json v)) : v.isSendable = true := by
  unfold replyTo at h
  split at h
  · exact hs.replies _ _ _ h
  · cases h

/-- What sending a request gives, by the reply. -/
def received (net : Network) (e : Endpoint) : Except ExchangeFailure (Int × ReplyBody) :=
  match net.replyTo e with
  | .answer status body => .ok (status, body)
  | .broken text => .error (.sync (.transport (net.path e) text))

theorem outcome_send (hs : net.Sound) {r : VehicleRequest}
    (hquery : Http.queryFault? (rawQuery r) = none)
    (hbody : ∀ v, r.body = some v → v.isSendable = true) (link : Link) :
    outcome (net.send r) link =
      (net.received r.endpoint, { link with sent := link.sent ++ [net.withQuery r] }) := by
  have hvalue : r.body.forM checkValue = pure ⟨⟩ := by
    cases hr : r.body with
    | none => rfl
    | some v => exact checkValue_eq (hbody v hr)
  unfold send received
  rw [checkTarget_eq hs hquery, pure_bind, hvalue, pure_bind, outcome_bind]
  show outcome (match net.replyTo r.endpoint with
    | .answer status body => _
    | .broken text => _) { link with sent := link.sent ++ [net.withQuery r] } = _
  cases hreply : net.replyTo r.endpoint with
  | broken text => rfl
  | answer status body =>
    cases body with
    | text content => rfl
    | json v =>
      simp only [checkValue_eq (hs.isSendable_of_replyTo hreply)]
      rfl

/-! ## Reading replies -/

theorem read_of_ok {body : ReplyBody} {v : Json} (h : body.value = .ok v) (e : Endpoint)
    (status : Int) : net.read e status body = pure v := by
  unfold read
  rw [h]

theorem read_of_tooDeep {body : ReplyBody} (h : body.value = .error (.unread .tooDeep))
    (e : Endpoint) (status : Int) : net.read e status body = Exchange.reject .replyTooDeep := by
  unfold read
  rw [h]

theorem read_of_error {body : ReplyBody} {cause : Json.DecodeError} (h : body.value = .error cause)
    (hcause : cause ≠ .unread .tooDeep) (e : Endpoint) (status : Int) :
    net.read e status body = Exchange.fail (.unreadable (net.path e) status) := by
  unfold read
  rw [h]
  split
  · rename_i heq
    cases heq
  · rename_i heq
    cases heq
    exact absurd rfl hcause
  · rfl

theorem member_of_isObject {v : Json} (h : v.isObject = true) (name : String) :
    member name v = pure (v.member name) := by
  cases v with
  | obj members => rfl
  | _ => cases h

theorem member_of_not_isObject {v : Json} (h : v.isObject = false) (name : String) :
    member name v = Exchange.reject .notAnObject := by
  cases v with
  | obj members => cases h
  | _ => rfl

theorem member_eq_null {v : Json} (h : v.isObject = false) (name : String) :
    v.member name = .null := by
  cases v with
  | obj members => cases h
  | _ => rfl

/-! ## Sessions -/

/-- A session is younger than the time of a session. -/
def serves (net : Network) (session : Session) : Bool :=
  net.service.sessionSeconds.any (session.serves net.now)

/-- The open session if its time is not up. -/
def held? (net : Network) (link : Link) : Option Session :=
  link.session.filter net.serves

/-- The session id that the reply to a login brings, if it brings one. -/
def granted? (net : Network) : Option Json :=
  ((net.replyTo .login).value?.map (·.member "sessionId")).filter (!·.isEmpty)

theorem outcome_openSession? (hs : net.Sound) (link : Link) :
    outcome net.openSession? link = (.ok ((net.held? link).map (·.id)), link) := by
  obtain ⟨seconds, hseconds⟩ := Option.isSome_iff_exists.mp hs.lifetime
  obtain ⟨session, sent⟩ := link
  unfold openSession? held? serves
  rw [outcome_bind]
  simp only [hseconds]
  cases session with
  | none => rfl
  | some session =>
    show (Except.ok (if session.serves net.now seconds then some session.id else none), _) = _
    cases hserves : session.serves net.now seconds with
    | true => simp [Option.filter, hserves]
    | false => simp [Option.filter, hserves]

theorem outcome_send_login (hs : net.Sound) (link : Link) :
    outcome (net.send net.loginRequest) link =
      (net.received .login,
        { link with sent := link.sent ++ [net.withQuery net.loginRequest] }) :=
  outcome_send (r := net.loginRequest) hs queryFault?_nil
    (fun v hv => by rw [← Option.some.inj hv]; exact hs.user) link

theorem outcome_login_of_held (hs : net.Sound) {session : Session}
    (h : net.held? link = some session) : outcome net.login link = (.ok session.id, link) := by
  unfold login
  rw [outcome_bind, outcome_openSession? hs, h]
  rfl

/-- How a login ends that has to ask: it opens a session if the reply brings an id, and otherwise
leaves the session as it was. It breaks off over a reply that does not have the expected shape. -/
inductive LogsIn (net : Network) (link : Link) : Except ExchangeFailure Json × Link → Prop
  | granted {id : Json} (granted : net.granted? = some id)
      (fits : (net.replyTo .login).Fits fun v => v.isObject = true) :
      LogsIn net link (.ok id,
        { session := some { id := id, since := net.now },
          sent := link.sent ++ [net.withQuery net.loginRequest] })
  | refused {cause : SyncFailure} (refused : net.granted? = none)
      (fits : (net.replyTo .login).Fits fun v => v.isObject = true) :
      LogsIn net link (.error (.sync cause),
        { link with sent := link.sent ++ [net.withQuery net.loginRequest] })
  | broken {fault : ExchangeFault} (refused : net.granted? = none)
      (unfit : ¬(net.replyTo .login).Fits fun v => v.isObject = true) :
      LogsIn net link (.error (.fault fault),
        { link with sent := link.sent ++ [net.withQuery net.loginRequest] })

theorem logsIn_login (hs : net.Sound) (h : net.held? link = none) :
    LogsIn net link (outcome net.login link) := by
  unfold login
  rw [outcome_bind, outcome_openSession? hs, h]
  show LogsIn net link (outcome (net.send net.loginRequest >>= _) link)
  rw [outcome_bind, outcome_send_login hs]
  unfold received
  cases hreply : net.replyTo .login with
  | broken text =>
    exact .refused (by simp [granted?, Reply.value?, hreply]) (by rw [hreply]; exact .of_broken _)
  | answer status body =>
    by_cases hstatus : status = 200
    · subst hstatus
      simp only [ne_eq, not_true_eq_false, ↓reduceIte]
      cases hvalue : body.value with
      | error cause =>
        have hnone : net.granted? = none := by
          simp [granted?, Reply.value?, hreply, hvalue, Except.toOption]
        by_cases hcause : cause = .unread .tooDeep
        · subst hcause
          rw [read_of_tooDeep hvalue]
          exact .broken hnone (by rw [hreply]; exact fun h => (h body rfl).1 hvalue)
        · rw [read_of_error hvalue hcause]
          refine .refused hnone ?_
          rw [hreply, Reply.Fits.answer_iff, hvalue]
          exact ⟨fun h => hcause (Except.error.inj h), nofun⟩
      | ok v =>
        have hgranted : net.granted? = (some (v.member "sessionId")).filter (!·.isEmpty) := by
          simp [granted?, Reply.value?, hreply, hvalue, Except.toOption]
        rw [read_of_ok hvalue, pure_bind]
        cases hobject : v.isObject with
        | false =>
          rw [member_eq_null hobject] at hgranted
          rw [member_of_not_isObject hobject]
          refine .broken hgranted ?_
          rw [hreply, Reply.Fits.answer_iff]
          exact fun h => absurd (h.2 v hvalue) (by simp [hobject])
        | true =>
          have hfits : (net.replyTo .login).Fits fun v => v.isObject = true := by
            rw [hreply, Reply.Fits.answer_iff, hvalue]
            refine ⟨nofun, fun w hw => ?_⟩
            cases hw
            exact hobject
          rw [member_of_isObject hobject, pure_bind]
          cases hempty : (v.member "sessionId").isEmpty with
          | true =>
            exact .refused (by simp [hgranted, Option.filter, hempty]) hfits
          | false =>
            exact .granted (by simp [hgranted, Option.filter, hempty]) hfits
    · simp only [ne_eq, hstatus, not_false_eq_true, ↓reduceIte]
      refine .refused ?_ ?_
      · simp [granted?, Reply.value?, hreply, hstatus]
      · rw [hreply]
        exact .of_status hstatus body

end Network

/-- The text of a header that a session id makes: that of an ASCII text. -/
def Json.headerText? : Json → Option String
  | .str t => t.string?.filter fun s => s.toList.all (·.toNat < 0x80)
  | _ => none

namespace Network

variable {net : Network} {link : Link}

/-- The session id that a header carries: that of the session that is held, or a new one. -/
def nextId? (net : Network) (link : Link) : Option Json :=
  match net.held? link with
  | some session => some session.id
  | none => net.granted?

theorem nextId?_eq_none :
    net.nextId? link = none ↔ net.held? link = none ∧ net.granted? = none := by
  unfold nextId?
  cases net.held? link with
  | some session => simp
  | none => simp

/-- A login gives the next session id if there is one, and otherwise fails. -/
theorem outcome_login (hs : net.Sound) (link : Link) :
    (∃ id link', net.nextId? link = some id ∧ outcome net.login link = (.ok id, link')) ∨
      net.nextId? link = none ∧ ∃ e link', outcome net.login link = (.error e, link') := by
  unfold nextId?
  cases hheld : net.held? link with
  | some session => exact .inl ⟨_, _, rfl, outcome_login_of_held hs hheld⟩
  | none =>
    have hlogin := logsIn_login hs hheld
    generalize outcome net.login link = result at hlogin
    cases hlogin with
    | granted granted fits => exact .inl ⟨_, _, granted, rfl⟩
    | refused refused fits => exact .inr ⟨refused, _, _, rfl⟩
    | broken refused unfit => exact .inr ⟨refused, _, _, rfl⟩

theorem outcome_sessionHeader_of_ok {id : Json} {link' : Link}
    (h : outcome net.login link = (.ok id, link')) :
    (∃ s, id.headerText? = some s ∧ outcome net.sessionHeader link = (.ok s, link')) ∨
      (id.headerText? = none ∧
        ∃ fault, outcome net.sessionHeader link = (.error (.fault fault), link')) := by
  unfold sessionHeader
  rw [outcome_bind, h]
  cases id with
  | str t =>
    simp only [Json.headerText?]
    cases t.string?.filter fun s => s.toList.all (·.toNat < 0x80) with
    | some s => exact .inl ⟨s, rfl, rfl⟩
    | none => exact .inr ⟨rfl, _, rfl⟩
  | _ => exact .inr ⟨rfl, _, rfl⟩

theorem outcome_sessionHeader_of_error {e : ExchangeFailure} {link' : Link}
    (h : outcome net.login link = (.error e, link')) :
    outcome net.sessionHeader link = (.error e, link') := by
  unfold sessionHeader
  rw [outcome_bind, h]

/-! ## Calls over a session -/

/-- What deleting a vehicle sends. -/
def deletionRequest (id : Json) (session : String) : VehicleRequest :=
  { endpoint := .delete, session := some session,
    body := some (.ofMembers [("vehicleIds", .arr [id])]) }

/-- What creating a vehicle sends. -/
def creationRequest (net : Network) (v : NewVehicle) (session : String) : VehicleRequest :=
  { endpoint := .create, session := some session, body := some (creation net.service v) }

/-- Looking a vehicle up over a session. -/
def lookup (net : Network) (vin : Option RawText) (session : String) : Exchange (Option Json) := do
  let value ← vinValue vin
  let (status, body) ← net.send (lookupRequest value session)
  if status ≠ 200 then return none
  let reply ← net.read .vehicles status body
  match ← firstWithVin vin (← listed (← member "representationObjects" reply)) with
  | .null => return none
  | id => return some id

theorem findVehicle_eq (net : Network) (vin : Option RawText) :
    net.findVehicle vin = net.sessionHeader >>= net.lookup vin := rfl

/-- Creating a vehicle over a session. -/
def create (net : Network) (v : NewVehicle) (session : String) : Exchange Bool := do
  let (status, body) ← net.send (creationRequest net v session)
  if status ≠ 200 then return false
  let reply ← net.read .create status body
  let result ← firstResult (← member "actionResult" reply)
  if isZero (← member "code" result) then return true
  if isText alreadyExists (reason result) then return true
  Exchange.fail (.vehicleRefused (net.path .create) (reason result).display)

theorem createVehicle_eq (net : Network) (v : NewVehicle) :
    net.createVehicle v = net.sessionHeader >>= net.create v := rfl

/-- Changing a vehicle after it was looked up. -/
def changeFound (net : Network) (id : Option Json) (v : VehicleChange) : Exchange Bool := do
  let session ← net.sessionHeader
  let (status, _) ← net.send (changeRequest id v session)
  return status == 200

/-- Deleting a vehicle after it was looked up. -/
def deleteFound (net : Network) (id : Json) : Exchange Bool := do
  let session ← net.sessionHeader
  let (status, _) ← net.send (deletionRequest id session)
  return status == 200

/-- Changing a vehicle at a service that may have changed since the vehicle was looked up. -/
def updateOver (net later : Network) (v : VehicleChange) : Exchange Bool := do
  later.changeFound (← net.findVehicle v.vin) v

/-- Deleting a vehicle at a service that may have changed since the vehicle was looked up. -/
def deleteOver (net later : Network) (vin : Option RawText) : Exchange Bool := do
  match ← net.findVehicle vin with
  | none => return false
  | some id => later.deleteFound id

theorem updateOver_self (v : VehicleChange) : net.updateOver net v = net.updateVehicle v := rfl

theorem deleteOver_self (vin : Option RawText) : net.deleteOver net vin = net.deleteVehicle vin :=
  rfl

end Network

/-- The calls of the vehicle service. -/
inductive VehicleCall where
  | login
  | find (vin : Option RawText)
  | create (vehicle : NewVehicle)
  | update (vehicle : VehicleChange)
  | delete (vin : Option RawText)

/-- A call, and the vehicle service at its first header and at its second one. -/
structure TimedCall where
  call : VehicleCall
  net : Network
  later : Network

/-- Makes a call; what it gives is left aside. -/
def TimedCall.run (c : TimedCall) : Exchange Unit :=
  match c.call with
  | .login => discard c.net.login
  | .find vin => discard (c.net.findVehicle vin)
  | .create vehicle => discard (c.net.createVehicle vehicle)
  | .update vehicle => discard (c.net.updateOver c.later vehicle)
  | .delete vin => discard (c.net.deleteOver c.later vin)

/-! ## Sample services -/

namespace Sample

/-- The sample vehicle service with other replies, at some second. -/
def network (script : Script) (second : Int) : Network :=
  { synchronised.network with script := script, now := ⟨1000 * second⟩ }

theorem sound_network {script : Script}
    (h : ∀ e status v, script e = .answer status (.json v) → v.isSendable = true) (second : Int) :
    (network script second).Sound where
  paths e := by cases e <;> exact ⟨_, rfl, by decide +kernel⟩
  lifetime := rfl
  user := by
    show (Network.credentials synchronised.network.service).isSendable = true
    decide +kernel
  replies := h

theorem isSendable_replies {e : Endpoint} {status : Int} {v : Json}
    (h : replies e = .answer status (.json v)) : v.isSendable = true := by
  cases e <;> cases h <;> decide +kernel

theorem isSendable_silent {e : Endpoint} {status : Int} {v : Json}
    (h : Script.silent e = .answer status (.json v)) : v.isSendable = true := by
  cases h

end Sample

end DeviceRegistry
