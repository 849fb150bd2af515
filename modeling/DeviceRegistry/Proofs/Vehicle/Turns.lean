import DeviceRegistry.Proofs.Vehicle.Calls

/-!
# Turns of a call

A call is one turn or two: at the start of each a header is needed, and what follows sends one
request over it at most. There are three ways for a turn to go: over the session that is held, over
a new one that a login opens, or not at all if the login brings no id.
-/

namespace DeviceRegistry

/-! ## Requests over a session -/

/-- Whatever the link, a dialogue sends one request at most, which is of one kind and carries one
header, and keeps the session. -/
def Asks (e : Endpoint) (session : String) {α : Type} (dialogue : Exchange α) : Prop :=
  ∀ link, ∃ asked, (outcome dialogue link).2 = { link with sent := link.sent ++ asked } ∧
    asked.length ≤ 1 ∧ ∀ r ∈ asked, r.endpoint = e ∧ r.session = some session

namespace Asks

variable {e : Endpoint} {session : String} {α β : Type}

theorem of_quiet {dialogue : Exchange α} (h : Quiet dialogue) : Asks e session dialogue := by
  intro link
  exact ⟨[], by rw [h link, List.append_nil], Nat.zero_le 1, nofun⟩

theorem bind_quiet {dialogue : Exchange α} {next : α → Exchange β} (h : Asks e session dialogue)
    (hnext : ∀ a, Quiet (next a)) : Asks e session (dialogue >>= next) := by
  intro link
  obtain ⟨asked, hlink, hone, hasked⟩ := h link
  refine ⟨asked, ?_, hone, hasked⟩
  rw [outcome_bind]
  generalize outcome dialogue link = made at hlink
  obtain ⟨_ | a, link'⟩ := made
  · exact hlink
  · exact (hnext a link').trans hlink

theorem of_quiet_bind {dialogue : Exchange α} {next : α → Exchange β} (h : Quiet dialogue)
    (hnext : ∀ a, Asks e session (next a)) : Asks e session (dialogue >>= next) := by
  intro link
  rcases h.outcome_bind next link with ⟨cause, hbind⟩ | ⟨a, -, hbind⟩
  · rw [hbind]
    exact ⟨[], by rw [List.append_nil], Nat.zero_le 1, nofun⟩
  · rw [hbind]
    exact hnext a link

theorem sends {P : VehicleRequest → Prop} {dialogue : Exchange α} (h : Asks e session dialogue)
    (hP : ∀ r, r.endpoint = e → P r) : Sends P dialogue := by
  intro link
  obtain ⟨asked, hlink, -, hasked⟩ := h link
  exact ⟨asked, by rw [hlink], fun r hr => hP r (hasked r hr).1⟩

end Asks

namespace Network

variable (net : Network)

@[simp] theorem endpoint_withQuery (r : VehicleRequest) :
    (net.withQuery r).endpoint = r.endpoint := by
  unfold withQuery
  split <;> rfl

@[simp] theorem body_withQuery (r : VehicleRequest) : (net.withQuery r).body = r.body := by
  unfold withQuery
  split <;> rfl

@[simp] theorem session_withQuery (r : VehicleRequest) : (net.withQuery r).session = r.session := by
  unfold withQuery
  split <;> rfl

theorem asks_send {r : VehicleRequest} {session : String} (h : r.session = some session) :
    Asks r.endpoint session (net.send r) := by
  intro link
  rcases link_send net r link with hlink | hlink
  · exact ⟨[], by rw [hlink, List.append_nil], Nat.zero_le 1, nofun⟩
  · refine ⟨[net.withQuery r], hlink, Nat.le_refl 1, fun a ha => ?_⟩
    rw [List.mem_singleton.mp ha]
    simp [h]

theorem asks_lookup (vin : Option RawText) (session : String) :
    Asks .vehicles session (net.lookup vin session) := by
  refine .of_quiet_bind (quiet_vinValue vin) fun value => ?_
  refine .bind_quiet (asks_send net (r := lookupRequest value session) rfl) fun reply => ?_
  refine .ite (.pure _) (.bind (quiet_read net _ _ _) fun v => .bind (quiet_member _ _) fun _ =>
    .bind (quiet_listed _) fun _ => .bind (quiet_firstWithVin _ _) fun id => ?_)
  split
  · exact .pure _
  · exact .pure _

theorem asks_create (v : NewVehicle) (session : String) :
    Asks .create session (net.create v session) := by
  refine .bind_quiet (asks_send net (r := creationRequest net v session) rfl) fun reply => ?_
  refine .ite (.pure _) (.bind (quiet_read net _ _ _) fun v => .bind (quiet_member _ _) fun _ =>
    .bind (quiet_firstResult _) fun _ => .bind (quiet_member _ _) fun code => ?_)
  exact .ite (.pure _) (.ite (.pure _) (.throw _))

end Network

/-! ## Turns -/

/-- A part of a call: the vehicle service at its header, and the link before and after it. -/
structure Turn where
  net : Network
  before : Link
  after : Link

namespace Turn

/-- The turn that a dialogue makes. -/
def of {α : Type} (net : Network) (dialogue : Exchange α) (link : Link) : Turn :=
  { net := net, before := link, after := (outcome dialogue link).2 }

/-- The requests that were sent in a turn. -/
def requests (t : Turn) : List VehicleRequest :=
  t.after.sent.drop t.before.sent.length

/-- What a login sends at the vehicle service of a turn. -/
def login (t : Turn) : VehicleRequest :=
  t.net.withQuery t.net.loginRequest

/-- The header of a turn is refused: no session is held, and the login brings no id. -/
def Refused (t : Turn) : Prop :=
  t.net.held? t.before = none ∧ t.net.granted? = none

/-- A turn sends one request of a kind at most, and that over a session with an id. -/
def Carries (e : Endpoint) (id : Json) (asked : List VehicleRequest) : Prop :=
  asked.length ≤ 1 ∧
    ∀ r ∈ asked, r.endpoint = e ∧ ∃ s, id.headerText? = some s ∧ r.session = some s

/-- How a turn goes: over the session that is held, over a new one, or not at all. -/
inductive Goes (e : Endpoint) (t : Turn) : Prop
  | held {session : Session} {asked : List VehicleRequest}
      (held : t.net.held? t.before = some session) (carries : Carries e session.id asked)
      (after : t.after = { t.before with sent := t.before.sent ++ asked })
  | opened {id : Json} {asked : List VehicleRequest} (needed : t.net.held? t.before = none)
      (granted : t.net.granted? = some id) (carries : Carries e id asked)
      (after : t.after =
        { session := some { id := id, since := t.net.now },
          sent := t.before.sent ++ t.login :: asked })
  | refused (needed : t.net.held? t.before = none) (refused : t.net.granted? = none)
      (after : t.after = { t.before with sent := t.before.sent ++ [t.login] })

theorem carries_nil (e : Endpoint) (id : Json) : Carries e id [] :=
  ⟨Nat.zero_le 1, nofun⟩

theorem goes_login {net : Network} (hs : net.Sound) (e : Endpoint) (link : Link) :
    Goes e (of net net.login link) := by
  cases hheld : net.held? link with
  | some session =>
    refine .held hheld (carries_nil e session.id) ?_
    rw [List.append_nil]
    exact congrArg Prod.snd (Network.outcome_login_of_held hs hheld)
  | none =>
    have hlogin := Network.logsIn_login hs hheld
    generalize houtcome : outcome net.login link = result at hlogin
    cases hlogin with
    | granted granted fits =>
      exact .opened hheld granted (carries_nil e _) (congrArg Prod.snd houtcome)
    | refused refused fits => exact .refused hheld refused (congrArg Prod.snd houtcome)
    | broken refused unfit => exact .refused hheld refused (congrArg Prod.snd houtcome)

/-- What follows a login goes over the id that it gives. -/
theorem carries_header {net : Network} {e : Endpoint} {α : Type} {rest : String → Exchange α}
    (hrest : ∀ s, Asks e s (rest s)) {link link' : Link} {id : Json}
    (h : outcome net.login link = (.ok id, link')) :
    ∃ asked, Carries e id asked ∧
      (outcome (net.sessionHeader >>= rest) link).2 =
        { link' with sent := link'.sent ++ asked } := by
  rcases Network.outcome_sessionHeader_of_ok h with ⟨s, hs, hheader⟩ | ⟨-, fault, hheader⟩
  · obtain ⟨asked, hlink, hone, hasked⟩ := hrest s link'
    refine ⟨asked, ⟨hone, fun r hr => ⟨(hasked r hr).1, s, hs, (hasked r hr).2⟩⟩, ?_⟩
    rw [outcome_bind, hheader]
    exact hlink
  · refine ⟨[], carries_nil e id, ?_⟩
    rw [outcome_bind, hheader, List.append_nil]

theorem goes_header {net : Network} (hs : net.Sound) {e : Endpoint} {α : Type}
    {rest : String → Exchange α} (hrest : ∀ s, Asks e s (rest s)) (link : Link) :
    Goes e (of net (net.sessionHeader >>= rest) link) := by
  cases hheld : net.held? link with
  | some session =>
    obtain ⟨asked, hcarries, hlink⟩ :=
      carries_header hrest (Network.outcome_login_of_held hs hheld)
    exact .held hheld hcarries hlink
  | none =>
    have hlogin := Network.logsIn_login hs hheld
    have hfailed : ∀ {cause link'}, outcome net.login link = (.error cause, link') →
        (outcome (net.sessionHeader >>= rest) link).2 = link' := by
      intro cause link' h
      rw [outcome_bind, Network.outcome_sessionHeader_of_error h]
    generalize houtcome : outcome net.login link = result at hlogin
    cases hlogin with
    | granted granted fits =>
      obtain ⟨asked, hcarries, hlink⟩ := carries_header hrest houtcome
      refine .opened hheld granted hcarries (hlink.trans ?_)
      simp [of, login]
    | refused refused fits => exact .refused hheld refused (hfailed houtcome)
    | broken refused unfit => exact .refused hheld refused (hfailed houtcome)

end Turn

namespace Network

variable {net : Network} (hs : net.Sound) (link : Link)

include hs

theorem goes_findVehicle (vin : Option RawText) :
    Turn.Goes .vehicles (.of net (net.findVehicle vin) link) := by
  rw [findVehicle_eq]
  exact Turn.goes_header hs (asks_lookup net vin) link

theorem goes_createVehicle (v : NewVehicle) :
    Turn.Goes .create (.of net (net.createVehicle v) link) := by
  rw [createVehicle_eq]
  exact Turn.goes_header hs (asks_create net v) link

theorem not_refused_of_findVehicle {vin : Option RawText} {link : Link} {id : Option Json}
    {link' : Link} (h : outcome (net.findVehicle vin) link = (.ok id, link')) :
    ¬(Turn.of net (net.findVehicle vin) link).Refused := by
  rintro ⟨hneeded, hrefused⟩
  have hnone : net.nextId? link = none := nextId?_eq_none.mpr ⟨hneeded, hrefused⟩
  rcases outcome_login hs link with ⟨id, _, hid, -⟩ | ⟨-, cause, link₁, hlogin⟩
  · rw [hnone] at hid
    cases hid
  · rw [findVehicle_eq, outcome_bind, outcome_sessionHeader_of_error hlogin] at h
    cases h

theorem goes_changeFound (id : Option Json) (v : VehicleChange) :
    Turn.Goes .update (.of net (net.changeFound id v) link) :=
  Turn.goes_header hs
    (fun s => .bind_quiet (asks_send net (r := changeRequest id v s) rfl) fun _ => .pure _) link

theorem goes_deleteFound (id : Json) :
    Turn.Goes .delete (.of net (net.deleteFound id) link) :=
  Turn.goes_header hs
    (fun s => .bind_quiet (asks_send net (r := deletionRequest id s) rfl) fun _ => .pure _) link

end Network

end DeviceRegistry
