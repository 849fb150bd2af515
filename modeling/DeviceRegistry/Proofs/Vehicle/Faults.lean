import DeviceRegistry.Proofs.Vehicle.Calls

/-!
# Replies that break a call off

A dialogue settles if it gives a value or an expected failure. Under a sound setup each call settles
exactly if the replies that it reads have the shape that it takes for granted and everything that it
sends can be sent: a reply that can be read but has another shape breaks the call off, and with it a
whole batch.
-/

namespace DeviceRegistry

/-- From a link, a dialogue gives a value or an expected failure. -/
def Settles {α : Type} (dialogue : Exchange α) (link : Link) : Prop :=
  ∀ fault, (outcome dialogue link).1 ≠ .error (.fault fault)

namespace Settles

variable {α β : Type} {link : Link}

theorem pure (a : α) : Settles (Pure.pure a : Exchange α) link := nofun

theorem fail (cause : SyncFailure) : Settles (Exchange.fail cause : Exchange α) link := nofun

theorem not_reject (fault : ExchangeFault) :
    ¬Settles (Exchange.reject fault : Exchange α) link :=
  fun h => h fault rfl

theorem bind_iff {dialogue : Exchange α} {next : α → Exchange β} :
    Settles (dialogue >>= next) link ↔
      Settles dialogue link ∧
        ∀ a link', outcome dialogue link = (.ok a, link') → Settles (next a) link' := by
  unfold Settles
  rw [outcome_bind]
  generalize outcome dialogue link = made
  obtain ⟨e | a, link'⟩ := made
  · simp only [ne_eq, Except.error.injEq, Prod.mk.injEq, reduceCtorEq, false_and, false_implies,
      implies_true, and_true]
  · constructor
    · rintro h
      refine ⟨nofun, ?_⟩
      rintro _ _ ⟨⟩
      exact h
    · exact fun h => h.2 a link' rfl

theorem discard_iff {dialogue : Exchange α} : Settles (discard dialogue) link ↔
    Settles dialogue link := by
  unfold Settles
  rw [outcome_discard]
  cases (outcome dialogue link).1 with
  | error e => simp [Except.map]
  | ok a => exact iff_of_true nofun nofun

end Settles

/-! ## Reading and sending -/

theorem RawText.codes_eq_nil {t : RawText} : t.codes = [] ↔ t.isEmpty = true := by
  unfold isEmpty codes
  cases t with
  | whole s => simp [shown]
  | broken codes => simp [shown]

namespace Network

variable {net : Network} {link : Link} {α : Type}

theorem settles_read_bind {e : Endpoint} {status : Int} {body : ReplyBody}
    {next : Json → Exchange α} :
    Settles (net.read e status body >>= next) link ↔
      body.value ≠ .error (.unread .tooDeep) ∧ ∀ v, body.value = .ok v → Settles (next v) link := by
  cases hvalue : body.value with
  | ok v =>
    rw [read_of_ok hvalue, pure_bind]
    exact ⟨fun h => ⟨nofun, fun _ hv => Except.ok.inj hv ▸ h⟩, fun h => h.2 v rfl⟩
  | error cause =>
    by_cases hcause : cause = .unread .tooDeep
    · subst hcause
      rw [read_of_tooDeep hvalue]
      exact iff_of_false (fun h => h .replyTooDeep rfl) fun h => h.1 rfl
    · rw [read_of_error hvalue hcause]
      exact iff_of_true nofun ⟨fun h => hcause (Except.error.inj h), nofun⟩

theorem settles_member {name : String} {v : Json} :
    Settles (member name v) link ↔ v.isObject = true := by
  cases hobject : v.isObject with
  | true =>
    rw [member_of_isObject hobject]
    exact iff_of_true (.pure _) rfl
  | false =>
    rw [member_of_not_isObject hobject]
    exact iff_of_false (Settles.not_reject _) nofun

theorem settles_member_bind {name : String} {v : Json} {next : Json → Exchange α} :
    Settles (member name v >>= next) link ↔
      v.isObject = true ∧ Settles (next (v.member name)) link := by
  cases hobject : v.isObject with
  | true =>
    rw [member_of_isObject hobject, pure_bind]
    exact ⟨fun h => ⟨rfl, h⟩, fun h => h.2⟩
  | false =>
    rw [member_of_not_isObject hobject]
    exact iff_of_false (fun h => h .notAnObject rfl) nofun

/-- The requests that can be sent: with a query that is not too long, and a body that is a value
for a reader. -/
def CanSend (r : VehicleRequest) : Prop :=
  Http.queryFault? (rawQuery r) = none ∧ ∀ v, r.body = some v → v.isSendable = true

theorem settles_checkTarget (hs : net.Sound) {r : VehicleRequest} :
    Settles (net.checkTarget r) link ↔ Http.queryFault? (rawQuery r) = none := by
  cases hquery : Http.queryFault? (rawQuery r) with
  | none =>
    rw [checkTarget_eq hs hquery]
    exact iff_of_true (.pure _) rfl
  | some fault =>
    obtain ⟨path, hpath, hfault⟩ := hs.paths r.endpoint
    unfold rawQuery at hquery
    unfold checkTarget
    simp only [hpath, hfault, hquery]
    exact iff_of_false (fun h => h (.target fault) rfl) nofun

theorem settles_checkValue {v : Json} :
    Settles (checkValue v) link ↔ v.isSendable = true := by
  unfold checkValue Json.isSendable
  cases v.isFinite with
  | false => exact iff_of_false (fun h => h .bodyNotFinite rfl) nofun
  | true =>
    cases v.isWhole with
    | false => exact iff_of_false (fun h => h .bodyNotWhole rfl) nofun
    | true => exact iff_of_true nofun rfl

theorem settles_send (hs : net.Sound) {r : VehicleRequest} :
    Settles (net.send r) link ↔ CanSend r := by
  constructor
  · intro h
    unfold send at h
    have hquery := (settles_checkTarget hs).mp (Settles.bind_iff.mp h).1
    rw [checkTarget_eq hs hquery, pure_bind] at h
    refine ⟨hquery, fun v hv => ?_⟩
    have hbody := (Settles.bind_iff.mp h).1
    rw [hv] at hbody
    exact settles_checkValue.mp hbody
  · rintro ⟨hquery, hbody⟩ fault
    rw [outcome_send hs hquery hbody]
    unfold received
    split <;> nofun

theorem settles_send_bind (hs : net.Sound) {r : VehicleRequest}
    {next : Int × ReplyBody → Exchange α} :
    Settles (net.send r >>= next) link ↔
      CanSend r ∧ ∀ status body, net.replyTo r.endpoint = .answer status body →
        Settles (next (status, body)) { link with sent := link.sent ++ [net.withQuery r] } := by
  rw [Settles.bind_iff, settles_send hs]
  refine and_congr_right fun ⟨hquery, hbody⟩ => ?_
  rw [outcome_send hs hquery hbody]
  unfold received
  cases net.replyTo r.endpoint with
  | broken text => exact iff_of_true nofun nofun
  | answer status body =>
    constructor
    · rintro h _ _ ⟨⟩
      exact h _ _ rfl
    · rintro h _ _ ⟨⟩
      exact h status body rfl

/-- What is read of a reply with status 200; another answer is the end. -/
theorem settles_answer (hs : net.Sound) {r : VehicleRequest} {other : Exchange α}
    {next : Json → Exchange α} {P : Json → Prop} (hother : ∀ link, Settles other link)
    (hnext : ∀ v link, Settles (next v) link ↔ P v) :
    Settles (net.send r >>= fun (status, body) =>
        if status ≠ 200 then other else net.read r.endpoint status body >>= next) link ↔
      CanSend r ∧ (net.replyTo r.endpoint).Fits P := by
  rw [settles_send_bind hs]
  refine and_congr_right fun _ => ?_
  cases net.replyTo r.endpoint with
  | broken text => exact iff_of_true nofun (.of_broken text)
  | answer status body =>
    by_cases hstatus : status = 200
    · subst hstatus
      rw [Reply.Fits.answer_iff]
      constructor
      · intro h
        have hread := h 200 body rfl
        simp only [ne_eq, not_true_eq_false, ↓reduceIte, settles_read_bind, hnext] at hread
        exact hread
      · rintro h _ _ ⟨⟩
        simp only [ne_eq, not_true_eq_false, ↓reduceIte, settles_read_bind, hnext]
        exact h
    · refine iff_of_true ?_ (.of_status hstatus body)
      rintro _ _ ⟨⟩
      simp only [ne_eq, hstatus, not_false_eq_true, ↓reduceIte]
      exact hother _

/-! ## Headers -/

/-- The reply to a login that has to ask is an object, if it can be read. -/
def LoginFits (net : Network) (link : Link) : Prop :=
  net.held? link = none → (net.replyTo .login).Fits fun v => v.isObject = true

/-- A header can be had or is refused, and in the first case what comes after it fits. -/
def HeaderFits (net : Network) (link : Link) (rest : Prop) : Prop :=
  net.LoginFits link ∧
    ∀ id, net.nextId? link = some id → id.headerText?.isSome = true ∧ rest

theorem settles_login (hs : net.Sound) : Settles net.login link ↔ net.LoginFits link := by
  unfold LoginFits
  cases hheld : net.held? link with
  | some session =>
    refine iff_of_true (fun fault => ?_) nofun
    rw [outcome_login_of_held hs hheld]
    nofun
  | none =>
    have hlogin := logsIn_login hs hheld
    unfold Settles
    generalize outcome net.login link = result at hlogin
    cases hlogin with
    | granted granted fits => exact iff_of_true nofun fun _ => fits
    | refused refused fits => exact iff_of_true nofun fun _ => fits
    | broken refused unfit => exact iff_of_false (fun h => h _ rfl) fun h => unfit (h rfl)

theorem settles_header_bind (hs : net.Sound) {next : String → Exchange α} {rest : Prop}
    (hnext : ∀ s link, Settles (next s) link ↔ rest) :
    Settles (net.sessionHeader >>= next) link ↔ net.HeaderFits link rest := by
  rcases outcome_login hs link with ⟨id, link', hid, hlogin⟩ | ⟨hid, e, link', hlogin⟩
  · have hsettles : net.LoginFits link :=
      (settles_login hs).mp fun fault => by rw [hlogin]; nofun
    unfold HeaderFits
    rw [hid, and_iff_right hsettles]
    rcases outcome_sessionHeader_of_ok hlogin with ⟨s, hs', hheader⟩ | ⟨hnone, fault, hheader⟩
    · rw [Settles.bind_iff, hheader]
      constructor
      · rintro ⟨-, h⟩ _ ⟨⟩
        exact ⟨by rw [hs']; rfl, (hnext s link').mp (h s link' rfl)⟩
      · intro h
        refine ⟨fun fault => by rw [hheader]; nofun, ?_⟩
        rintro _ _ ⟨⟩
        exact (hnext s link').mpr (h id rfl).2
    · refine iff_of_false (fun h => ?_) fun h => ?_
      · exact (Settles.bind_iff.mp h).1 fault (by rw [hheader])
      · have hsome := (h id rfl).1
        rw [hnone] at hsome
        cases hsome
  · have hheader := outcome_sessionHeader_of_error hlogin
    unfold HeaderFits
    rw [← settles_login hs, hid, Settles.bind_iff, hheader]
    unfold Settles
    rw [hheader, hlogin]
    simp

/-! ## Looking a vehicle up -/

/-- The number of a vehicle as a query carries it, if it can. -/
def vinText? : Option RawText → Option String
  | some t => t.string?
  | none => some ""

/-- Up to the first vehicle with a number, all listed ones are objects. -/
def Searchable (vin : Option RawText) : List Json → Prop
  | [] => True
  | v :: vs => v.isObject = true ∧ (namesVin vin (v.member "vin") = false → Searchable vin vs)

/-- A list of vehicles that can be searched for a number. -/
def ListFits (vin : Option RawText) (v : Json) : Prop :=
  v.isEmpty = true ∨ ∃ vehicles, v = .arr vehicles ∧ Searchable vin vehicles

/-- The number can be asked for, and the reply holds a list of vehicles that can be searched. -/
def LookupFits (net : Network) (vin : Option RawText) : Prop :=
  ∃ value, vinText? vin = some value ∧
    Http.queryFault? [(.whole "vin", .whole value)] = none ∧
    (net.replyTo .vehicles).Fits fun v =>
      v.isObject = true ∧ ListFits vin (v.member "representationObjects")

theorem settles_firstWithVin {vin : Option RawText} {vehicles : List Json} :
    Settles (firstWithVin vin vehicles) link ↔ Searchable vin vehicles := by
  induction vehicles with
  | nil => exact iff_of_true (.pure _) trivial
  | cons v vs ih =>
    unfold firstWithVin Searchable
    rw [settles_member_bind]
    refine and_congr_right fun hobject => ?_
    cases hnames : namesVin vin (v.member "vin") with
    | true =>
      simp only [↓reduceIte]
      exact iff_of_true (settles_member.mpr hobject) nofun
    | false =>
      simp only [Bool.false_eq_true, ↓reduceIte]
      rw [ih]
      exact ⟨fun h _ => h, fun h => h trivial⟩

/-- Texts are no objects, so only an empty list of them can be searched. -/
theorem searchable_map_str {β : Type} {vin : Option RawText} {items : List β} {text : β → RawText} :
    Searchable vin (items.map fun b => .str (text b)) ↔ items = [] := by
  cases items with
  | nil => exact iff_of_true trivial rfl
  | cons b items => exact iff_of_false (fun h => nomatch h.1) nofun

theorem settles_search {vin : Option RawText} {v : Json} {next : Json → Exchange α}
    (hnext : ∀ id link, Settles (next id) link) :
    Settles (listed v >>= fun vehicles => firstWithVin vin vehicles >>= next) link ↔
      ListFits vin v := by
  have hsearch : ∀ vehicles, Settles (firstWithVin vin vehicles >>= next) link ↔
      Searchable vin vehicles := by
    intro vehicles
    rw [Settles.bind_iff, settles_firstWithVin]
    exact and_iff_left fun id link' _ => hnext id link'
  have hother : listed v = (if v.isEmpty then pure [] else Exchange.reject .notASequence) →
      (∀ vehicles, v ≠ .arr vehicles) →
      (Settles (listed v >>= fun vehicles => firstWithVin vin vehicles >>= next) link ↔
        ListFits vin v) := by
    intro hlisted harr
    rw [hlisted]
    cases hempty : v.isEmpty with
    | true =>
      rw [if_pos rfl, pure_bind, hsearch]
      exact iff_of_true trivial (.inl hempty)
    | false =>
      refine iff_of_false (fun h => h .notASequence rfl) ?_
      rintro (h | ⟨vehicles, hvehicles, -⟩)
      · rw [hempty] at h
        cases h
      · exact harr vehicles hvehicles
  cases v with
  | arr vehicles =>
    show Settles (pure vehicles >>= _) link ↔ _
    rw [pure_bind, hsearch]
    constructor
    · exact fun h => .inr ⟨vehicles, rfl, h⟩
    · rintro (h | ⟨_, ⟨⟩, h⟩)
      · rw [List.isEmpty_iff.mp h]
        trivial
      · exact h
  | str t =>
    show Settles (pure _ >>= _) link ↔ _
    rw [pure_bind, hsearch, searchable_map_str, RawText.codes_eq_nil]
    constructor
    · exact .inl
    · rintro (h | ⟨_, ⟨⟩, _⟩)
      exact h
  | obj members =>
    show Settles (pure _ >>= _) link ↔ _
    rw [pure_bind, hsearch, searchable_map_str]
    constructor
    · rintro rfl
      exact .inl rfl
    · rintro (h | ⟨_, ⟨⟩, _⟩)
      exact List.isEmpty_iff.mp h
  | _ => exact hother rfl nofun

theorem settles_lookup (hs : net.Sound) {vin : Option RawText} (session : String) :
    Settles (net.lookup vin session) link ↔ net.LookupFits vin := by
  have hvalue : ∀ value, vinValue vin = pure value → vinText? vin = some value →
      (Settles (net.lookup vin session) link ↔ net.LookupFits vin) := by
    intro value hvalue htext
    unfold lookup
    rw [hvalue, pure_bind]
    refine (settles_answer (r := lookupRequest value session)
      (P := fun v => v.isObject = true ∧ ListFits vin (v.member "representationObjects")) hs
      (fun _ => .pure _) fun v link => ?_).trans ?_
    · rw [settles_member_bind]
      refine and_congr_right fun _ => settles_search fun id link => ?_
      split <;> exact .pure _
    · constructor
      · rintro ⟨⟨hquery, -⟩, hfits⟩
        exact ⟨value, htext, hquery, hfits⟩
      · rintro ⟨other, hother, hquery, hfits⟩
        obtain rfl : other = value := Option.some.inj (hother.symm.trans htext)
        exact ⟨⟨hquery, nofun⟩, hfits⟩
  cases vin with
  | none => exact hvalue "" rfl rfl
  | some t =>
    cases t with
    | whole text => exact hvalue text rfl rfl
    | broken codes => exact iff_of_false (fun h => h .vinNotWhole rfl) nofun

theorem settles_findVehicle (hs : net.Sound) {vin : Option RawText} :
    Settles (net.findVehicle vin) link ↔ net.HeaderFits link (net.LookupFits vin) := by
  rw [findVehicle_eq]
  exact settles_header_bind hs fun s _ => settles_lookup hs s

/-! ## Creating a vehicle -/

/-- No results, or a list of which the first is an object. -/
def ResultsFit (v : Json) : Prop :=
  v.isEmpty = true ∨ ∃ result rest, v = .arr (result :: rest) ∧ result.isObject = true

/-- The vehicle can be sent, and the reply holds results of which the first can be read. -/
def CreationFits (net : Network) (v : NewVehicle) : Prop :=
  (creation net.service v).isSendable = true ∧
    (net.replyTo .create).Fits fun v =>
      v.isObject = true ∧ ResultsFit (v.member "actionResult")

theorem settles_results {v : Json} {next : Json → Json → Exchange α}
    (hnext : ∀ result code link, Settles (next result code) link) :
    Settles (firstResult v >>= fun result => member "code" result >>= next result) link ↔
      ResultsFit v := by
  unfold firstResult ResultsFit
  cases hempty : v.isEmpty with
  | true =>
    rw [if_pos rfl, pure_bind, settles_member_bind]
    exact iff_of_true ⟨rfl, hnext _ _ _⟩ (.inl rfl)
  | false =>
    rw [if_neg Bool.false_ne_true]
    have hunfit : ∀ {fault}, ¬Settles (Exchange.reject fault >>= fun result =>
        member "code" result >>= next result) link := fun h => h _ rfl
    cases v with
    | arr items =>
      cases items with
      | nil => cases hempty
      | cons result rest =>
        rw [pure_bind, settles_member_bind]
        constructor
        · exact fun h => .inr ⟨result, rest, rfl, h.1⟩
        · rintro (h | ⟨_, _, ⟨⟩, hobject⟩)
          · cases h
          · exact ⟨hobject, hnext _ _ _⟩
    | str t => exact iff_of_false (fun h => h .notAnObject rfl) (by simp)
    | _ => exact iff_of_false hunfit (by simp)

theorem settles_create (hs : net.Sound) {v : NewVehicle} (session : String) :
    Settles (net.create v session) link ↔ net.CreationFits v := by
  refine (settles_answer (r := creationRequest net v session)
    (P := fun v => v.isObject = true ∧ ResultsFit (v.member "actionResult")) hs
    (fun _ => .pure _) fun v link => ?_).trans ?_
  · rw [settles_member_bind]
    refine and_congr_right fun _ => settles_results fun result code link => ?_
    split
    · exact .pure _
    · split
      · exact .pure _
      · exact .fail _
  · constructor
    · rintro ⟨⟨-, hbody⟩, hfits⟩
      exact ⟨hbody _ rfl, hfits⟩
    · rintro ⟨hbody, hfits⟩
      exact ⟨⟨queryFault?_nil, fun v hv => by rw [← Option.some.inj hv]; exact hbody⟩, hfits⟩

theorem settles_createVehicle (hs : net.Sound) {v : NewVehicle} :
    Settles (net.createVehicle v) link ↔ net.HeaderFits link (net.CreationFits v) := by
  rw [createVehicle_eq]
  exact settles_header_bind hs fun s _ => settles_create hs s

/-! ## Changing and deleting a vehicle -/

/-- Of a request without a query only the body has to be one that can be sent. -/
theorem settles_status (hs : net.Sound) {r : VehicleRequest} {body : Json} (hquery : r.query = [])
    (hbody : r.body = some body) :
    Settles (net.send r >>= fun (status, _) => pure (status == 200)) link ↔
      body.isSendable = true := by
  rw [settles_send_bind hs, and_iff_left fun _ _ _ => .pure _, CanSend, rawQuery, hquery, hbody]
  constructor
  · exact fun h => h.2 body rfl
  · exact fun h => ⟨queryFault?_nil, fun v hv => by rw [← Option.some.inj hv]; exact h⟩

theorem settles_changeFound (hs : net.Sound) {id : Option Json} {v : VehicleChange} :
    Settles (net.changeFound id v) link ↔
      net.HeaderFits link ((change id v).isSendable = true) :=
  settles_header_bind hs fun s _ => settles_status (r := changeRequest id v s) hs rfl rfl

theorem settles_deleteFound (hs : net.Sound) {id : Json} :
    Settles (net.deleteFound id) link ↔
      net.HeaderFits link ((Json.ofMembers [("vehicleIds", .arr [id])]).isSendable = true) :=
  settles_header_bind hs fun s _ => settles_status (r := deletionRequest id s) hs rfl rfl

end Network

/-! ## Calls -/

open Network in
/-- The replies that a call reads have the shape that it takes for granted, and what it sends can be
sent. What comes of an update or a deletion after the lookup depends on the id that was found. -/
def TimedCall.Fits (c : TimedCall) (link : Link) : Prop :=
  match c.call with
  | .login => c.net.LoginFits link
  | .find vin => c.net.HeaderFits link (c.net.LookupFits vin)
  | .create vehicle => c.net.HeaderFits link (c.net.CreationFits vehicle)
  | .update vehicle =>
    c.net.HeaderFits link (c.net.LookupFits vehicle.vin) ∧
      ∀ id link', outcome (c.net.findVehicle vehicle.vin) link = (.ok id, link') →
        c.later.HeaderFits link' ((change id vehicle).isSendable = true)
  | .delete vin =>
    c.net.HeaderFits link (c.net.LookupFits vin) ∧
      ∀ id link', outcome (c.net.findVehicle vin) link = (.ok (some id), link') →
        c.later.HeaderFits link' ((Json.ofMembers [("vehicleIds", .arr [id])]).isSendable = true)

theorem TimedCall.settles_iff {c : TimedCall} (hnet : c.net.Sound) (hlater : c.later.Sound)
    (link : Link) : Settles c.run link ↔ c.Fits link := by
  obtain ⟨call, net, later⟩ := c
  cases call with
  | login => exact Settles.discard_iff.trans (Network.settles_login hnet)
  | find vin => exact Settles.discard_iff.trans (Network.settles_findVehicle hnet)
  | create vehicle => exact Settles.discard_iff.trans (Network.settles_createVehicle hnet)
  | update vehicle =>
    refine Settles.discard_iff.trans ?_
    unfold Network.updateOver
    rw [Settles.bind_iff, Network.settles_findVehicle hnet]
    refine and_congr_right fun _ => forall₃_congr fun id link' _ => ?_
    exact Network.settles_changeFound hlater
  | delete vin =>
    refine Settles.discard_iff.trans ?_
    unfold Network.deleteOver
    rw [Settles.bind_iff, Network.settles_findVehicle hnet]
    refine and_congr_right fun _ => ?_
    constructor
    · exact fun h id link' hfound => (Network.settles_deleteFound hlater).mp (h (some id) link' hfound)
    · rintro h (_ | id) link' hfound
      · exact .pure _
      · exact (Network.settles_deleteFound hlater).mpr (h id link' hfound)

end DeviceRegistry
