import DeviceRegistry.Proofs.Lifecycle.EffectOrder

/-!
# The vehicle that a request names

A vehicle is changed and deleted by its id, and the id is looked up by the number first. The reply
to the lookup `Yields` the id of the first vehicle with that number, or it `Lacks` one: another
status, no such vehicle, or one whose id is null. A deletion names the id that the lookup yields and
is not sent if there is none. A change does not ask whether there is one, and then names null.
-/

namespace DeviceRegistry

/-! ## What the reply to a lookup says -/

namespace Json

/-- The elements of an array; any other value has none. -/
def elements : Json → List Json
  | .arr vs => vs
  | _ => []

end Json

namespace Network

/-- The first vehicle with a number among the listed ones. -/
def firstNamed? (vin : Option RawText) (vehicles : List Json) : Option Json :=
  vehicles.find? fun vehicle => namesVin vin (vehicle.member "vin")

/-- The first vehicle with a number that the reply to a lookup lists. -/
def listed? (net : Network) (vin : Option RawText) : Option Json :=
  (net.replyTo .vehicles).value?.bind fun reply =>
    firstNamed? vin (reply.member "representationObjects").elements

/-- The reply to a lookup yields an id: that of the first listed vehicle with the number. -/
def Yields (net : Network) (vin : Option RawText) (id : Json) : Prop :=
  id ≠ .null ∧ ∃ vehicle, net.listed? vin = some vehicle ∧ vehicle.member "id" = id

/-- The reply to a lookup yields no id. -/
inductive Lacks (net : Network) (vin : Option RawText) : Prop
  | refused {status : Int} {body : ReplyBody} (reply : net.replyTo .vehicles = .answer status body)
      (status_ne : status ≠ 200)
  | unlisted {reply : Json} (value : (net.replyTo .vehicles).value? = some reply)
      (unlisted : net.listed? vin = none)
  | idless {vehicle : Json} (listed : net.listed? vin = some vehicle)
      (null : vehicle.member "id" = .null)

/-- What a lookup may give: an id that the reply yields, or none if it lacks one. -/
inductive LookedUp (net : Network) (vin : Option RawText) : Option Json → Prop
  | found {id : Json} (yields : net.Yields vin id) : LookedUp net vin (some id)
  | unknown (lacks : net.Lacks vin) : LookedUp net vin none

variable {net : Network} {vin : Option RawText} {link link' : Link}

theorem Lacks.not_yields (h : net.Lacks vin) {id : Json} : ¬net.Yields vin id := by
  rintro ⟨hid, vehicle, hvehicle, rfl⟩
  cases h with
  | refused reply status_ne =>
    simp [listed?, Reply.value?, reply, status_ne] at hvehicle
  | unlisted value unlisted =>
    rw [unlisted] at hvehicle
    cases hvehicle
  | idless listed null =>
    rw [listed] at hvehicle
    cases hvehicle
    exact hid null

/-! ## Looking a vehicle up -/

theorem firstWithVin_eq_ok {vehicles : List Json} {id : Json}
    (h : outcome (firstWithVin vin vehicles) link = (.ok id, link')) :
    id = ((firstNamed? vin vehicles).map (·.member "id")).getD .null := by
  induction vehicles with
  | nil =>
    cases h
    rfl
  | cons vehicle vehicles ih =>
    unfold firstWithVin at h
    obtain ⟨number, hnumber, h⟩ := (quiet_member _ _).bind_eq_ok h
    obtain rfl := member_eq_ok hnumber
    unfold firstNamed?
    rw [List.find?_cons]
    cases hnames : namesVin vin (vehicle.member "vin") with
    | true =>
      rw [if_pos hnames] at h
      exact member_eq_ok h
    | false =>
      rw [if_neg (by simp [hnames])] at h
      exact ih h

theorem eq_nil_of_firstWithVin {vehicles : List Json} {id : Json}
    (hobjects : ∀ vehicle ∈ vehicles, vehicle.isObject = false)
    (h : outcome (firstWithVin vin vehicles) link = (.ok id, link')) : vehicles = [] := by
  cases vehicles with
  | nil => rfl
  | cons vehicle vehicles =>
    unfold firstWithVin at h
    rw [member_of_not_isObject (hobjects vehicle (List.mem_cons_self ..))] at h
    cases h

/-- A value without elements may be taken for a list of texts. -/
theorem listed_eq_ok {v : Json} {vehicles : List Json}
    (h : outcome (listed v) link = (.ok vehicles, link')) :
    vehicles = v.elements ∨
      v.elements = [] ∧ ∀ vehicle ∈ vehicles, vehicle.isObject = false := by
  unfold listed at h
  split at h
  · cases h
    exact .inl rfl
  · cases h
    exact .inr ⟨rfl, List.forall_mem_map.mpr fun _ _ => rfl⟩
  · cases h
    exact .inr ⟨rfl, List.forall_mem_map.mpr fun _ _ => rfl⟩
  · next harr _ _ =>
    split at h
    · cases h
      refine .inl ?_
      cases v with
      | arr items => exact absurd rfl (harr items)
      | _ => rfl
    · cases h

theorem search_eq_ok {v id : Json}
    (h : outcome (listed v >>= firstWithVin vin) link = (.ok id, link')) :
    id = ((firstNamed? vin v.elements).map (·.member "id")).getD .null := by
  obtain ⟨vehicles, hlisted, h⟩ := (quiet_listed v).bind_eq_ok h
  rcases listed_eq_ok hlisted with rfl | ⟨hnone, hobjects⟩
  · exact firstWithVin_eq_ok h
  · rw [hnone, ← eq_nil_of_firstWithVin hobjects h]
    exact firstWithVin_eq_ok h

/-- The search through a reply that can be read gives the id that the reply yields; it gives null if
the reply lacks one. -/
theorem lacks_or_yields {reply id : Json} (hvalue : (net.replyTo .vehicles).value? = some reply)
    (h : outcome (listed (reply.member "representationObjects") >>= firstWithVin vin) link =
      (.ok id, link')) : (id = .null → net.Lacks vin) ∧ (id ≠ .null → net.Yields vin id) := by
  have hid := search_eq_ok h
  have hlisted : net.listed? vin =
      firstNamed? vin (reply.member "representationObjects").elements := by
    simp [listed?, hvalue]
  rw [← hlisted] at hid
  cases hvehicle : net.listed? vin with
  | none =>
    rw [hvehicle] at hid
    exact ⟨fun _ => .unlisted hvalue hvehicle, fun hne => absurd hid hne⟩
  | some vehicle =>
    rw [hvehicle] at hid
    obtain rfl : id = vehicle.member "id" := hid
    exact ⟨.idless hvehicle, fun hne => ⟨hne, vehicle, hvehicle, rfl⟩⟩

theorem lookup_eq_ok {session : String} {found : Option Json}
    (h : outcome (net.lookup vin session) link = (.ok found, link')) : net.LookedUp vin found := by
  unfold lookup at h
  obtain ⟨value, -, h⟩ := (quiet_vinValue vin).bind_eq_ok h
  obtain ⟨⟨status, body⟩, link₁, hsend, h⟩ := outcome_bind_eq_ok h
  have hreply : net.replyTo .vehicles = .answer status body := (send_eq_ok hsend).2
  by_cases hstatus : status = 200
  · subst hstatus
    obtain ⟨reply, hread, h⟩ := (quiet_read net _ _ _).bind_eq_ok h
    have hvalue : (net.replyTo .vehicles).value? = some reply := by
      simp [Reply.value?, hreply, read_eq_ok hread, Except.toOption]
    obtain ⟨list, hlist, h⟩ := (quiet_member _ _).bind_eq_ok h
    obtain rfl := member_eq_ok hlist
    -- The reply is taken for a list and searched in one go.
    rw [← bind_assoc] at h
    obtain ⟨id, link₂, hsearch, h⟩ := outcome_bind_eq_ok h
    obtain ⟨hlacks, hyields⟩ := lacks_or_yields hvalue hsearch
    split at h
    · cases h
      exact .unknown (hlacks rfl)
    · next hne =>
      cases h
      exact .found (hyields hne)
  · simp only [ne_eq, hstatus, not_false_eq_true, ↓reduceIte] at h
    cases h
    exact .unknown (.refused hreply hstatus)

theorem findVehicle_eq_ok {found : Option Json}
    (h : outcome (net.findVehicle vin) link = (.ok found, link')) : net.LookedUp vin found := by
  rw [findVehicle_eq] at h
  obtain ⟨session, _, -, h⟩ := outcome_bind_eq_ok h
  exact lookup_eq_ok h

end Network

/-! ## Requests that name a vehicle -/

namespace VehicleRequest

/-- A request changes or deletes a vehicle. -/
def Acts (r : VehicleRequest) : Prop :=
  r.endpoint = .update ∨ r.endpoint = .delete

/-- A request that changes or deletes a vehicle names an id with a property. -/
def Names (P : Json → Prop) (r : VehicleRequest) : Prop :=
  match r.endpoint with
  | .update => ∃ id, r.body.map (·.member "id") = some id ∧ P id
  | .delete => ∃ id, r.body.map (·.member "vehicleIds") = some (.arr [id]) ∧ P id
  | _ => True

variable {P Q : Json → Prop} {r : VehicleRequest}

theorem Names.imp (h : ∀ id, P id → Q id) (hr : r.Names P) : r.Names Q := by
  unfold Names at hr ⊢
  split at hr
  · exact hr.imp fun id => And.imp_right (h id)
  · exact hr.imp fun id => And.imp_right (h id)
  · trivial

theorem names_of_not_acts (h : ¬r.Acts) : r.Names P := by
  unfold Acts at h
  unfold Names
  split
  · next hupdate => exact absurd (.inl hupdate) h
  · next hdelete => exact absurd (.inr hdelete) h
  · trivial

end VehicleRequest

/-- The requests that a dialogue sends. -/
def requestsOf {α : Type} (dialogue : Exchange α) (link : Link) : List VehicleRequest :=
  (outcome dialogue link).2.sent.drop link.sent.length

theorem requestsOf_eq {α β : Type} {dialogue : Exchange α} {other : Exchange β} {link : Link}
    (h : (outcome dialogue link).2 = (outcome other link).2) :
    requestsOf dialogue link = requestsOf other link := by
  unfold requestsOf
  rw [h]

theorem Sends.of_mem_requestsOf {P : VehicleRequest → Prop} {α : Type} {dialogue : Exchange α}
    (h : Sends P dialogue) {link : Link} {r : VehicleRequest} (hr : r ∈ requestsOf dialogue link) :
    P r := by
  obtain ⟨requests, hsent, hP⟩ := h link
  unfold requestsOf at hr
  rw [hsent, List.drop_left] at hr
  exact hP r hr

namespace Network

open VehicleRequest (names_of_not_acts)

variable (net later : Network)

theorem member_change_id (id : Option Json) (v : VehicleChange) :
    (change id v).member "id" = id.getD .null := by
  simp [change, Json.ofMembers, Json.member, Json.member?]

theorem member_deletion (id : Json) (session : String) :
    (deletionRequest id session).body.map (·.member "vehicleIds") = some (.arr [id]) := by
  simp [deletionRequest, Json.ofMembers, Json.member, Json.member?]

theorem not_acts_login : ¬(net.withQuery net.loginRequest).Acts := by
  unfold VehicleRequest.Acts
  rw [endpoint_withQuery]
  exact nofun

theorem findVehicle_sends (vin : Option RawText) :
    Sends (fun r => ¬r.Acts) (net.findVehicle vin) := by
  rw [findVehicle_eq]
  refine .bind (sends_sessionHeader net net.not_acts_login) fun session => ?_
  refine (asks_lookup net vin session).sends fun r hr => ?_
  unfold VehicleRequest.Acts
  rw [hr]
  exact nofun

theorem findVehicle_sends_names (P : Json → Prop) (vin : Option RawText) :
    Sends (VehicleRequest.Names P) (net.findVehicle vin) :=
  (net.findVehicle_sends vin).imp fun _ => names_of_not_acts

theorem changeFound_sends (id : Option Json) (v : VehicleChange) :
    Sends (VehicleRequest.Names (· = id.getD .null)) (later.changeFound id v) := by
  refine .bind (sends_sessionHeader later (names_of_not_acts later.not_acts_login)) fun session =>
    .bind (sends_send later ?_) fun _ => .of_quiet (.pure _)
  unfold VehicleRequest.Names
  rw [endpoint_withQuery, body_withQuery]
  exact ⟨_, congrArg some (member_change_id id v), rfl⟩

theorem deleteFound_sends (id : Json) :
    Sends (VehicleRequest.Names (· = id)) (later.deleteFound id) := by
  refine .bind (sends_sessionHeader later (names_of_not_acts later.not_acts_login)) fun session =>
    .bind (sends_send later ?_) fun _ => .of_quiet (.pure _)
  unfold VehicleRequest.Names
  rw [endpoint_withQuery, body_withQuery]
  exact ⟨id, member_deletion id session, rfl⟩

variable {net later} {link link' : Link}

theorem changeFound_eq_ok {id : Option Json} {v : VehicleChange} {done : Bool}
    (h : outcome (later.changeFound id v) link = (.ok done, link')) :
    ∃ asked session,
      link'.sent = link.sent ++ asked ++ [later.withQuery (changeRequest id v session)] := by
  unfold changeFound at h
  obtain ⟨session, link₁, hheader, h⟩ := outcome_bind_eq_ok h
  obtain ⟨reply, link₂, hsend, h⟩ := outcome_bind_eq_ok h
  cases h
  have hsends : Sends (fun _ => True) later.sessionHeader := sends_sessionHeader later trivial
  obtain ⟨asked, hasked, -⟩ := hsends link
  rw [hheader] at hasked
  rw [(send_eq_ok hsend).1]
  exact ⟨asked, session, congrArg (· ++ _) hasked⟩

/-! ## Changing and deleting a vehicle -/

theorem deleteOver_sends (vin : Option RawText) :
    Sends (VehicleRequest.Names (net.Yields vin)) (net.deleteOver later vin) := by
  refine .bind_of_ok (net.findVehicle_sends_names _ vin) fun h => ?_
  cases findVehicle_eq_ok h with
  | found yields => exact (later.deleteFound_sends _).imp fun _ => .imp fun _ hid => hid ▸ yields
  | unknown lacks => exact .of_quiet (.pure _)

theorem updateOver_sends (v : VehicleChange) :
    Sends (VehicleRequest.Names fun id => net.Yields v.vin id ∨ net.Lacks v.vin ∧ id = .null)
      (net.updateOver later v) := by
  refine .bind_of_ok (net.findVehicle_sends_names _ v.vin) fun {_ found _} h => ?_
  refine (later.changeFound_sends found v).imp fun _ => .imp ?_
  rintro id rfl
  cases findVehicle_eq_ok h with
  | found yields => exact .inl yields
  | unknown lacks => exact .inr ⟨lacks, rfl⟩

/-- What a call about a vehicle owes to the lookup: its requests name the id that the lookup yields.
If the lookup lacks one, the call is false and neither changes nor deletes a vehicle. -/
structure NamesVehicle (net : Network) (vin : Option RawText) (link : Link)
    (call : Exchange Bool) : Prop where
  named : ∀ r ∈ requestsOf call link, r.Names (net.Yields vin)
  unknown : net.Lacks vin → (outcome (net.findVehicle vin) link).1.isOk = true →
    (outcome call link).1 = .ok false ∧ ∀ r ∈ requestsOf call link, ¬r.Acts

theorem namesVehicle_deleteOver (vin : Option RawText) (link : Link) :
    net.NamesVehicle vin link (net.deleteOver later vin) where
  named _ hr := (deleteOver_sends vin).of_mem_requestsOf hr
  unknown lacks hok := by
    rcases hfind : outcome (net.findVehicle vin) link with ⟨e | found, link₁⟩
    · rw [hfind] at hok
      cases hok
    · cases findVehicle_eq_ok hfind with
      | found yields => exact absurd yields lacks.not_yields
      | unknown _ =>
        have hdelete : outcome (net.deleteOver later vin) link = (.ok false, link₁) := by
          unfold deleteOver
          rw [outcome_bind, hfind]
          rfl
        have hsame : (outcome (net.deleteOver later vin) link).2 =
            (outcome (net.findVehicle vin) link).2 := by
          rw [hdelete, hfind]
        rw [requestsOf_eq hsame]
        exact ⟨by rw [hdelete], fun _ hr => (net.findVehicle_sends vin).of_mem_requestsOf hr⟩

theorem acts_of_updateOver {v : VehicleChange} {done : Bool}
    (h : (outcome (net.updateOver later v) link).1 = .ok done) :
    ∃ r ∈ requestsOf (net.updateOver later v) link, r.Acts := by
  have h := outcome_eq_of_ok h
  obtain ⟨found, link₁, hfind, hchange⟩ := outcome_bind_eq_ok h
  obtain ⟨asked, session, hsent⟩ := changeFound_eq_ok hchange
  obtain ⟨before, hbefore, -⟩ := net.findVehicle_sends v.vin link
  rw [hfind] at hbefore
  refine ⟨later.withQuery (changeRequest found v session), ?_, .inl (by simp [changeRequest])⟩
  unfold requestsOf
  rw [hsent, hbefore, List.append_assoc, List.append_assoc, List.drop_left]
  simp

/-- A change owes nothing to the lookup if that lacks an id: it does not look at what was found. -/
theorem namesVehicle_updateOver (v : VehicleChange) (link : Link) :
    net.NamesVehicle v.vin link (net.updateOver later v) ↔
      ¬(net.Lacks v.vin ∧ (outcome (net.findVehicle v.vin) link).1.isOk = true) := by
  constructor
  · rintro ⟨-, hunknown⟩ ⟨lacks, hok⟩
    obtain ⟨hfalse, hnone⟩ := hunknown lacks hok
    obtain ⟨r, hr, hacts⟩ := acts_of_updateOver hfalse
    exact hnone r hr hacts
  · intro h
    refine ⟨fun r hr => ?_, fun lacks hok => absurd ⟨lacks, hok⟩ h⟩
    rcases hfind : outcome (net.findVehicle v.vin) link with ⟨e | found, link₁⟩
    -- A lookup that fails ends the call, whatever its reply lacks.
    · have hsame : (outcome (net.updateOver later v) link).2 =
          (outcome (net.findVehicle v.vin) link).2 := by
        unfold updateOver
        rw [outcome_bind, hfind]
      rw [requestsOf_eq hsame] at hr
      exact (net.findVehicle_sends_names _ v.vin).of_mem_requestsOf hr
    · have hok : (outcome (net.findVehicle v.vin) link).1.isOk = true := by
        rw [hfind]
        rfl
      refine ((updateOver_sends v).of_mem_requestsOf hr).imp fun id hid => ?_
      exact hid.resolve_right fun hnull => h ⟨hnull.1, hok⟩

/-- Every request that changes or deletes a vehicle names the id that the reply to the lookup
yields, except that a change names null if the reply lacks one. A deletion is false then and is not
sent. A change is sent all the same, so it keeps to the lookup exactly if the reply yields an id or
the lookup fails. -/
theorem calls_name_vehicle (net later : Network) (link : Link) (vin : Option RawText)
    (v : VehicleChange) :
    (∀ found, (outcome (net.findVehicle vin) link).1 = .ok found → net.LookedUp vin found) ∧
      net.NamesVehicle vin link (net.deleteOver later vin) ∧
      (net.NamesVehicle v.vin link (net.updateOver later v) ↔
        ¬(net.Lacks v.vin ∧ (outcome (net.findVehicle v.vin) link).1.isOk = true)) ∧
      ∀ r ∈ requestsOf (net.updateOver later v) link,
        r.Names fun id => net.Yields v.vin id ∨ net.Lacks v.vin ∧ id = .null :=
  ⟨fun _ h => findVehicle_eq_ok (outcome_eq_of_ok h), namesVehicle_deleteOver vin link,
    namesVehicle_updateOver v link, fun _ hr => (updateOver_sends v).of_mem_requestsOf hr⟩

/-- A vehicle that the service does not list is changed: the request names null, and the answer to
it counts. -/
theorem update_names_null :
    let net := Sample.network Sample.replies 0
    let v : VehicleChange := { vin := some "VIN00000000000001" }
    net.Lacks v.vin ∧ (outcome (net.updateVehicle v) {}).1 = .ok true ∧
      (∃ r ∈ requestsOf (net.updateVehicle v) {}, r.Acts ∧ r.Names (· = .null)) ∧
      ¬net.NamesVehicle v.vin {} (net.updateVehicle v) := by
  intro net v
  have hlacks : net.Lacks v.vin := .unlisted rfl rfl
  have hok : (outcome (net.findVehicle v.vin) {}).1.isOk = true := by decide +kernel
  have htrue : (outcome (net.updateOver net v) {}).1 = .ok true := by decide +kernel
  obtain ⟨r, hr, hacts⟩ := acts_of_updateOver htrue
  have hnames : r.Names (· = .null) := ((updateOver_sends v).of_mem_requestsOf hr).imp fun _ hid =>
    (hid.resolve_left hlacks.not_yields).2
  exact ⟨hlacks, htrue, ⟨r, hr, hacts, hnames⟩, fun h => (h.unknown hlacks hok).2 r hr hacts⟩

end Network

end DeviceRegistry
