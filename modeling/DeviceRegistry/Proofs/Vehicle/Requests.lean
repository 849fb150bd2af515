import DeviceRegistry.Proofs.Lifecycle.Operations

/-!
# The requests of a dialogue

A dialogue is `Quiet` if it leaves the link as it was; the checks before a request and the reading
of its reply are. `Sends P` says of a dialogue that it only adds requests with the property `P` to
those that were sent before. Both hold of a sequence of dialogues if they hold of each of them, and
so they follow the text of a call. In this way every request about a change of a vehicle is seen to
name its number.
-/

namespace DeviceRegistry

/-! ## Dialogues that send nothing -/

/-- Whatever the link, a dialogue leaves it as it was. -/
def Quiet {α : Type} (dialogue : Exchange α) : Prop :=
  ∀ link, (outcome dialogue link).2 = link

namespace Quiet

variable {α β : Type}

theorem pure (a : α) : Quiet (Pure.pure a : Exchange α) :=
  fun _ => rfl

theorem throw (e : ExchangeFailure) : Quiet (throw e : Exchange α) :=
  fun _ => rfl

/-- A quiet dialogue ends the sequence that it begins, or what follows begins where it began. -/
theorem outcome_bind {dialogue : Exchange α} (h : Quiet dialogue) (next : α → Exchange β)
    (link : Link) :
    (∃ e, outcome (dialogue >>= next) link = (.error e, link)) ∨
      ∃ a, outcome dialogue link = (.ok a, link) ∧
        outcome (dialogue >>= next) link = outcome (next a) link := by
  have hlink := h link
  rw [DeviceRegistry.outcome_bind]
  generalize outcome dialogue link = made at hlink
  obtain ⟨e | a, link'⟩ := made
  · obtain rfl : link' = link := hlink
    exact .inl ⟨e, rfl⟩
  · obtain rfl : link' = link := hlink
    exact .inr ⟨a, rfl, rfl⟩

theorem bind {dialogue : Exchange α} {next : α → Exchange β} (h : Quiet dialogue)
    (hnext : ∀ a, Quiet (next a)) : Quiet (dialogue >>= next) := by
  intro link
  rcases h.outcome_bind next link with ⟨e, hbind⟩ | ⟨a, -, hbind⟩
  · rw [hbind]
  · rw [hbind]
    exact hnext a link

theorem forM {γ : Type} {dialogue : γ → Exchange PUnit} (value : Option γ)
    (h : ∀ a, Quiet (dialogue a)) : Quiet (value.forM dialogue) := by
  cases value with
  | none => exact pure _
  | some a => exact h a

theorem ite {c : Prop} [Decidable c] {yes no : Exchange α} (hyes : Quiet yes) (hno : Quiet no) :
    Quiet (if c then yes else no) := by
  split
  · exact hyes
  · exact hno

theorem guard {c : Prop} [Decidable c] {first : Exchange PUnit} {next : PUnit → Exchange α}
    (h : Quiet first) (hnext : ∀ a, Quiet (next a)) :
    Quiet (if c then first >>= next else next ⟨⟩) :=
  .ite (.bind h hnext) (hnext _)

/-- What follows a change of the link leaves it as changed. -/
theorem link_modify {f : Link → Link} {next : PUnit → Exchange α} (h : Quiet (next ⟨⟩))
    (link : Link) : (outcome (modify f >>= next) link).2 = f link :=
  h (f link)

end Quiet

namespace Network

variable (net : Network)

theorem quiet_read (e : Endpoint) (status : Int) (body : ReplyBody) :
    Quiet (net.read e status body) := by
  unfold read
  split
  · exact .pure _
  · exact .throw _
  · exact .throw _

theorem quiet_member (name : String) (v : Json) : Quiet (member name v) := by
  unfold member
  split
  · exact .pure _
  · exact .throw _

theorem quiet_firstWithVin (vin : Option RawText) (vehicles : List Json) :
    Quiet (firstWithVin vin vehicles) := by
  induction vehicles with
  | nil => exact .pure _
  | cons vehicle vehicles ih =>
    refine .bind (quiet_member _ _) fun v => ?_
    exact .ite (quiet_member _ _) ih

theorem quiet_listed (v : Json) : Quiet (listed v) := by
  unfold listed
  split
  · exact .pure _
  · exact .pure _
  · exact .pure _
  · exact .ite (.pure _) (.throw _)

theorem quiet_firstResult (v : Json) : Quiet (firstResult v) := by
  unfold firstResult
  refine .ite (.pure _) ?_
  split
  · exact .pure _
  · exact .pure _
  · exact .throw _
  · exact .throw _

theorem quiet_vinValue (vin : Option RawText) : Quiet (vinValue vin) := by
  unfold vinValue
  split
  · exact .pure _
  · exact .throw _
  · exact .pure _

theorem quiet_checkTarget (r : VehicleRequest) : Quiet (net.checkTarget r) := by
  unfold checkTarget
  split
  · exact .bind (.throw _) fun _ => .forM _ fun _ => .throw _
  · exact .bind (.forM _ fun _ => .throw _) fun _ => .forM _ fun _ => .throw _

theorem quiet_checkValue (v : Json) : Quiet (checkValue v) := by
  unfold checkValue
  dsimp only
  refine .guard (.throw _) fun _ => ?_
  exact .ite (.throw _) (.pure _)

theorem quiet_openSession? : Quiet net.openSession? := by
  unfold openSession?
  refine .bind (fun _ => rfl) fun link => ?_
  split
  · exact .pure _
  · exact .throw _
  · exact .pure _

/-! ## Sending requests -/

theorem link_send (r : VehicleRequest) (link : Link) :
    (outcome (net.send r) link).2 = link ∨
      (outcome (net.send r) link).2 = { link with sent := link.sent ++ [net.withQuery r] } := by
  unfold send
  rcases (quiet_checkTarget net r).outcome_bind _ link with ⟨e, hbind⟩ | ⟨_, -, hbind⟩
  · exact .inl (by rw [hbind])
  rw [hbind]
  rcases (Quiet.forM r.body quiet_checkValue).outcome_bind _ link with ⟨e, hbind⟩ | ⟨_, -, hbind⟩
  · exact .inl (by rw [hbind])
  rw [hbind]
  refine .inr (Quiet.link_modify ?_ link)
  split
  · split
    · exact .bind (quiet_checkValue _) fun _ => .pure _
    · exact .pure _
  · exact .throw _

end Network

/-! ## Dialogues that send requests of a kind -/

/-- Whatever the link, a dialogue only adds requests with a property to those sent before. -/
def Sends (P : VehicleRequest → Prop) {α : Type} (dialogue : Exchange α) : Prop :=
  ∀ link, ∃ requests, (outcome dialogue link).2.sent = link.sent ++ requests ∧
    ∀ r ∈ requests, P r

namespace Sends

variable {P : VehicleRequest → Prop} {α β : Type}

theorem of_silent {dialogue : Exchange α} (h : ∀ link, (outcome dialogue link).2.sent = link.sent) :
    Sends P dialogue :=
  fun link => ⟨[], by rw [h, List.append_nil], by simp⟩

theorem of_quiet {dialogue : Exchange α} (h : Quiet dialogue) : Sends P dialogue :=
  of_silent fun link => congrArg Link.sent (h link)

/-- What follows a dialogue has to have the property only for what the dialogue can give. -/
theorem bind_of_ok {dialogue : Exchange α} {next : α → Exchange β} (h : Sends P dialogue)
    (hnext : ∀ {link a link'}, outcome dialogue link = (.ok a, link') → Sends P (next a)) :
    Sends P (dialogue >>= next) := by
  intro link
  obtain ⟨first, hfirst, hP⟩ := h link
  rw [outcome_bind]
  cases hd : outcome dialogue link with
  | mk result link' =>
    rw [hd] at hfirst
    cases result with
    | error e => exact ⟨first, hfirst, hP⟩
    | ok a =>
      obtain ⟨second, hsecond, hP'⟩ := hnext hd link'
      refine ⟨first ++ second, ?_, ?_⟩
      · rw [hsecond, hfirst, List.append_assoc]
      · intro r hr
        rcases List.mem_append.mp hr with hr | hr
        · exact hP r hr
        · exact hP' r hr

theorem bind {dialogue : Exchange α} {next : α → Exchange β} (h : Sends P dialogue)
    (hnext : ∀ a, Sends P (next a)) : Sends P (dialogue >>= next) :=
  h.bind_of_ok fun _ => hnext _

theorem imp {Q : VehicleRequest → Prop} {dialogue : Exchange α} (h : Sends P dialogue)
    (hPQ : ∀ r, P r → Q r) : Sends Q dialogue := by
  intro link
  obtain ⟨requests, hsent, hP⟩ := h link
  exact ⟨requests, hsent, fun r hr => hPQ r (hP r hr)⟩

theorem ite {c : Prop} [Decidable c] {yes no : Exchange α} (hyes : Sends P yes)
    (hno : Sends P no) : Sends P (if c then yes else no) := by
  split
  · exact hyes
  · exact hno

theorem guard {c : Prop} [Decidable c] {first : Exchange PUnit} {next : PUnit → Exchange α}
    (h : Quiet first) (hnext : ∀ a, Sends P (next a)) :
    Sends P (if c then first >>= next else next ⟨⟩) :=
  .ite (.bind (.of_quiet h) hnext) (hnext _)

end Sends

namespace Network

variable {P : VehicleRequest → Prop} (net : Network)

theorem sends_send {r : VehicleRequest} (h : P (net.withQuery r)) : Sends P (net.send r) := by
  intro link
  rcases link_send net r link with hlink | hlink
  · exact ⟨[], by rw [hlink, List.append_nil], by simp⟩
  · exact ⟨[net.withQuery r], by rw [hlink], by simpa using h⟩

/-! ## Sessions -/

/-- What a login sends. -/
def loginRequest : VehicleRequest :=
  { endpoint := .login, body := some (credentials net.service) }

theorem sends_sessionHeader (h : P (net.withQuery net.loginRequest)) :
    Sends P net.sessionHeader := by
  have hlogin : Sends P net.login := by
    unfold login
    refine .bind (.of_quiet (quiet_openSession? net)) fun id => ?_
    cases id with
    | some id => exact .of_quiet (.pure _)
    | none =>
      refine .bind (sends_send net h) fun reply => ?_
      dsimp only
      refine .guard (.throw _) fun _ => ?_
      refine .bind (.of_quiet (quiet_read net _ _ _)) fun v =>
        .bind (.of_quiet (quiet_member _ _)) fun id => ?_
      refine .guard (.throw _) fun _ => ?_
      exact .bind (.of_silent fun _ => rfl) fun _ => .of_quiet (.pure _)
  unfold sessionHeader
  refine .bind hlogin fun id => ?_
  split
  · split
    · exact .of_quiet (.pure _)
    · exact .of_quiet (.throw _)
  · exact .of_quiet (.throw _)

/-! ## Vehicles -/

/-- What looking up a vehicle sends. -/
def lookupRequest (vin session : String) : VehicleRequest :=
  { endpoint := .vehicles, query := [("vin", vin)], session := some session }

/-- What changing a vehicle sends. -/
def changeRequest (id : Option Json) (v : VehicleChange) (session : String) : VehicleRequest :=
  { endpoint := .update, session := some session, body := some (change id v) }

theorem sends_findVehicle {vin : String} (hlogin : P (net.withQuery net.loginRequest))
    (hlookup : ∀ session, P (net.withQuery (lookupRequest vin session))) :
    Sends P (net.findVehicle (some (.whole vin))) := by
  unfold findVehicle
  refine .bind (sends_sessionHeader net hlogin) fun session => ?_
  show Sends P (Pure.pure vin >>= _)
  rw [pure_bind]
  refine .bind (sends_send net (hlookup session)) fun reply => ?_
  dsimp only
  refine .of_quiet (.ite (.pure _) ?_)
  refine .bind (quiet_read net _ _ _) fun v => .bind (quiet_member _ _) fun vehicles =>
    .bind (quiet_listed _) fun vehicles => .bind (quiet_firstWithVin _ _) fun id => ?_
  split
  · exact .pure _
  · exact .pure _

theorem sends_updateVehicle {v : VehicleChange} {vin : String} (hv : v.vin = some (.whole vin))
    (hlogin : P (net.withQuery net.loginRequest))
    (hlookup : ∀ session, P (net.withQuery (lookupRequest vin session)))
    (hchange : ∀ id session, P (net.withQuery (changeRequest id v session))) :
    Sends P (net.updateVehicle v) := by
  unfold updateVehicle
  rw [hv]
  refine .bind (sends_findVehicle net hlogin hlookup) fun id => ?_
  refine .bind (sends_sessionHeader net hlogin) fun session => ?_
  exact .bind (sends_send net (hchange id session)) fun _ => .of_quiet (.pure _)

end Network

/-! ## Addressing a vehicle -/

/-- A request of an update names no other number than the given one: a login names none, a lookup
asks for it, and a change carries it. -/
def VehicleRequest.Addresses (vin : String) (r : VehicleRequest) : Prop :=
  match r.endpoint with
  | .login => True
  | .vehicles => r.query = [("vin", vin)]
  | .update => (r.body.map fun v => v.member "vin") = some (.str (.whole vin))
  | .create => False
  | .delete => False

theorem Network.addresses_withQuery {net : Network} {vin : String} {r : VehicleRequest}
    (h : r.Addresses vin) (hq : r.endpoint = .vehicles → r.query.isEmpty = false) :
    (net.withQuery r).Addresses vin := by
  unfold withQuery
  split
  · rename_i hempty
    obtain ⟨endpoint, query, session, body⟩ := r
    cases endpoint with
    | vehicles => exact absurd hempty (by simp [hq rfl])
    | login => trivial
    | update => exact h
    | create => exact h
    | delete => exact h
  · exact h

theorem Network.member_change (id : Option Json) (v : VehicleChange) :
    (change id v).member "vin" = .ofRawText? v.vin := by
  have hne : (RawText.whole "vin" == RawText.whole "id") = false := by decide
  simp [change, Json.ofMembers, Json.member, Json.member?, List.lookup_cons, hne]

/-- Changing a vehicle addresses the vehicle with its number alone. -/
theorem Network.updateVehicle_addresses (net : Network) {v : VehicleChange} {vin : String}
    (hv : v.vin = some (.whole vin)) :
    Sends (VehicleRequest.Addresses vin) (net.updateVehicle v) := by
  refine sends_updateVehicle net hv ?_ ?_ ?_
  · exact addresses_withQuery trivial nofun
  · intro session
    exact addresses_withQuery rfl fun _ => rfl
  · intro id session
    refine addresses_withQuery ?_ nofun
    show some ((change id v).member "vin") = _
    rw [member_change, hv]
    rfl

end DeviceRegistry
