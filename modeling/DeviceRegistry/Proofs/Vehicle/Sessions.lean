import DeviceRegistry.Proofs.Vehicle.Turns
import Mathlib.Data.List.Induction

/-!
# Sessions over sequences of calls

A turn logs in exactly if no session is held whose time is not up. So the open session is always
that of the last login that brought an id, whatever failed since then, and every other request
carries the id of that session.
-/

namespace DeviceRegistry

/-! ## The log of requests -/

/-- A request that was sent, and the vehicle service at the time. -/
structure LogEntry where
  net : Network
  request : VehicleRequest

/-- The session that an entry opens: that of a login whose reply brings an id. -/
def LogEntry.session? (x : LogEntry) : Option Session :=
  if x.request.endpoint = .login then x.net.granted?.map fun id => { id := id, since := x.net.now }
  else none

/-- The session of the last login of a log that opened one. -/
def lastSession (log : List LogEntry) : Option Session :=
  log.foldl (fun last x => x.session?.or last) none

theorem lastSession_concat (log : List LogEntry) (x : LogEntry) :
    lastSession (log ++ [x]) = x.session?.or (lastSession log) := by
  simp [lastSession]

theorem lastSession_append_of_none {log more : List LogEntry}
    (h : ∀ x ∈ more, x.session? = none) : lastSession (log ++ more) = lastSession log := by
  induction more using List.reverseRecOn with
  | nil => rw [List.append_nil]
  | append_singleton more x ih =>
    rw [← List.append_assoc, lastSession_concat, h x (by simp), Option.none_or]
    exact ih fun y hy => h y (List.mem_append_left _ hy)

namespace Turn

variable {e : Endpoint} {t : Turn}

/-- What a turn adds to the log. -/
def log (t : Turn) : List LogEntry :=
  t.requests.map fun r => { net := t.net, request := r }

/-- What holds of a turn after a log. The session before it is the one that was opened last. Every
request but a login carries the id of the session that was opened last before it, in this turn or
with time left. The turn logs in exactly if there is no such session; if the login brings no id,
nothing else is sent and the session stays. -/
structure Keeps (past : List LogEntry) (t : Turn) : Prop where
  cached : t.before.session = lastSession past
  carried : ∀ xs x ys, t.log = xs ++ x :: ys → x.request.endpoint ≠ .login →
    ∃ session s, lastSession (past ++ xs) = some session ∧ session.id.headerText? = some s ∧
      x.request.session = some s ∧
      ((∃ opening ∈ xs, opening.session? = some session) ∨ t.net.serves session = true)
  logins : t.requests.filter (·.endpoint == .login) =
    if (lastSession past).any t.net.serves then [] else [t.login]
  refused : (lastSession past).any t.net.serves = false → t.net.granted? = none →
    t.requests = [t.login] ∧ t.after.session = t.before.session

theorem Carries.endpoint_ne {id : Json} {asked : List VehicleRequest} (h : Carries e id asked)
    (he : e ≠ .login) {r : VehicleRequest} (hr : r ∈ asked) : r.endpoint ≠ .login := by
  rw [(h.2 r hr).1]
  exact he

theorem Carries.session?_eq_none {id : Json} {asked : List VehicleRequest} (h : Carries e id asked)
    (he : e ≠ .login) {net : Network} {x : LogEntry}
    (hx : x ∈ asked.map fun r => ({ net := net, request := r } : LogEntry)) : x.session? = none := by
  obtain ⟨r, hr, rfl⟩ := List.mem_map.mp hx
  exact if_neg (h.endpoint_ne he hr)

theorem Carries.filter_login {id : Json} {asked : List VehicleRequest} (h : Carries e id asked)
    (he : e ≠ .login) : asked.filter (·.endpoint == .login) = [] := by
  rw [List.filter_eq_nil_iff]
  intro r hr
  simpa using h.endpoint_ne he hr

theorem Carries.of_append {id : Json} {asked : List VehicleRequest} (h : Carries e id asked)
    {net : Network} {xs ys : List LogEntry} {x : LogEntry}
    (hlog : (asked.map fun r => ({ net := net, request := r } : LogEntry)) = xs ++ x :: ys) :
    xs = [] ∧ ∃ s, id.headerText? = some s ∧ x.request.session = some s := by
  have hlength := congrArg List.length hlog
  rw [List.length_map, List.length_append, List.length_cons] at hlength
  have hone := h.1
  have hx : x ∈ asked.map fun r => ({ net := net, request := r } : LogEntry) := by
    rw [hlog]
    exact List.mem_append_right _ List.mem_cons_self
  obtain ⟨r, hr, rfl⟩ := List.mem_map.mp hx
  exact ⟨List.length_eq_zero_iff.mp (by omega), (h.2 r hr).2⟩

@[simp] theorem endpoint_login (t : Turn) : t.login.endpoint = .login :=
  Network.endpoint_withQuery _ _

theorem session?_login (t : Turn) :
    LogEntry.session? { net := t.net, request := t.login } =
      t.net.granted?.map fun id => { id := id, since := t.net.now } :=
  if_pos t.endpoint_login

theorem requests_eq {asked : List VehicleRequest}
    (h : t.after.sent = t.before.sent ++ asked) : t.requests = asked := by
  rw [requests, h, List.drop_left]

theorem held?_eq_some {net : Network} {link : Link} {session : Session} :
    net.held? link = some session ↔ link.session = some session ∧ net.serves session = true :=
  Option.filter_eq_some_iff

theorem held?_eq_none {net : Network} {link : Link} :
    net.held? link = none ↔ link.session.any net.serves = false := by
  unfold Network.held?
  cases link.session with
  | none => simp
  | some session => simp [Option.filter]

/-- What the link keeps after a turn is the session that was opened last. -/
theorem Goes.session_after (h : t.Goes e) (he : e ≠ .login) {past : List LogEntry}
    (cached : t.before.session = lastSession past) :
    t.after.session = lastSession (past ++ t.log) := by
  cases h with
  | @held session asked held carries after =>
    have hlog : t.log = asked.map fun r => { net := t.net, request := r } := by
      rw [log, requests_eq (congrArg Link.sent after)]
    rw [after, hlog, lastSession_append_of_none fun x hx => carries.session?_eq_none he hx]
    exact cached
  | @opened id asked needed granted carries after =>
    have hlog : t.log = { net := t.net, request := t.login } ::
        asked.map fun r => { net := t.net, request := r } := by
      rw [log, requests_eq (congrArg Link.sent after), List.map_cons]
    rw [after, hlog, List.append_cons past,
      lastSession_append_of_none fun x hx => carries.session?_eq_none he hx, lastSession_concat,
      session?_login, granted]
    rfl
  | refused needed refused after =>
    have hlog : t.log = [{ net := t.net, request := t.login }] := by
      rw [log, requests_eq (congrArg Link.sent after), List.map_singleton]
    rw [after, hlog, lastSession_concat, session?_login, refused]
    exact cached

/-- What follows a login in its turn carries the id that the login brought. -/
theorem Carries.of_login_cons {id : Json} {asked : List VehicleRequest} (h : Carries e id asked)
    (granted : t.net.granted? = some id) (past : List LogEntry) {xs ys : List LogEntry}
    {x : LogEntry} (hx : x.request.endpoint ≠ .login)
    (hlog : ((t.login :: asked).map fun r => ({ net := t.net, request := r } : LogEntry)) =
      xs ++ x :: ys) :
    ∃ session s, lastSession (past ++ xs) = some session ∧ session.id.headerText? = some s ∧
      x.request.session = some s ∧ ∃ opening ∈ xs, opening.session? = some session := by
  rw [List.map_cons] at hlog
  -- The first entry is the login, so another one comes after it.
  cases xs with
  | nil =>
    obtain ⟨rfl, -⟩ := List.cons.inj hlog
    exact absurd t.endpoint_login hx
  | cons opening xs =>
    obtain ⟨rfl, hmore⟩ := List.cons.inj hlog
    obtain ⟨rfl, s, hs, hcarries⟩ := h.of_append hmore
    have hopens : LogEntry.session? { net := t.net, request := t.login } =
        some { id := id, since := t.net.now } := by
      rw [session?_login, granted]
      rfl
    refine ⟨{ id := id, since := t.net.now }, s, ?_, hs, hcarries,
      ⟨_, List.mem_singleton.mpr rfl, hopens⟩⟩
    rw [lastSession_concat, hopens]
    rfl

theorem Goes.keeps (h : t.Goes e) (he : e ≠ .login) {past : List LogEntry}
    (cached : t.before.session = lastSession past) : t.Keeps past := by
  cases h with
  | @held session asked held carries after =>
    have hrequests := requests_eq (congrArg Link.sent after)
    obtain ⟨hsession, hserves⟩ := held?_eq_some.mp held
    have hlast : (lastSession past).any t.net.serves = true := by
      rw [← cached, hsession]
      exact hserves
    refine ⟨cached, fun xs x ys hlog hx => ?_, ?_, fun h => ?_⟩
    · rw [log, hrequests] at hlog
      obtain ⟨rfl, s, hs, hcarries⟩ := carries.of_append hlog
      refine ⟨session, s, ?_, hs, hcarries, .inr hserves⟩
      rw [List.append_nil, ← cached, hsession]
    · rw [hrequests, hlast, carries.filter_login he]
      rfl
    · rw [hlast] at h
      cases h
  | @opened id asked needed granted carries after =>
    have hrequests : t.requests = t.login :: asked := requests_eq (congrArg Link.sent after)
    have hlast : (lastSession past).any t.net.serves = false := cached ▸ held?_eq_none.mp needed
    refine ⟨cached, fun xs x ys hlog hx => ?_, ?_, fun _ h => ?_⟩
    · rw [log, hrequests] at hlog
      obtain ⟨session, s, hsession, hs, hcarries, hopens⟩ :=
        carries.of_login_cons granted past hx hlog
      exact ⟨session, s, hsession, hs, hcarries, .inl hopens⟩
    · rw [hrequests, List.filter_cons_of_pos (by simp), carries.filter_login he, hlast]
      rfl
    · rw [granted] at h
      cases h
  | refused needed refused after =>
    have hrequests : t.requests = [t.login] := requests_eq (congrArg Link.sent after)
    have hlast : (lastSession past).any t.net.serves = false := cached ▸ held?_eq_none.mp needed
    refine ⟨cached, fun xs x ys hlog hx => ?_, ?_, fun _ _ => ⟨hrequests, by rw [after]⟩⟩
    · rw [log, hrequests, List.map_singleton] at hlog
      have hmem : x ∈ [({ net := t.net, request := t.login } : LogEntry)] := by
        rw [hlog]
        exact List.mem_append_right _ List.mem_cons_self
      rw [List.mem_singleton.mp hmem] at hx
      exact absurd t.endpoint_login hx
    · rw [hrequests, List.filter_cons_of_pos (by simp), hlast]
      rfl

end Turn

/-! ## Calls in turns -/

namespace Turn

/-- Turns that follow one another from one link to another. -/
def Path : Link → List Turn → Link → Prop
  | link, [], link' => link = link'
  | link, t :: ts, link' => t.before = link ∧ Path t.after ts link'

theorem Path.append {link₁ link₂ link₃ : Link} {ts us : List Turn} (h : Path link₁ ts link₂)
    (h' : Path link₂ us link₃) : Path link₁ (ts ++ us) link₃ := by
  induction ts generalizing link₁ with
  | nil =>
    obtain rfl : link₁ = link₂ := h
    exact h'
  | cons t ts ih => exact ⟨h.1, ih h.2⟩

end Turn

namespace TimedCall

/-- The turns of a call: one, and a second one if a vehicle is changed or deleted after it was
looked up. -/
def turns (c : TimedCall) (link : Link) : List Turn :=
  match c.call with
  | .login => [.of c.net c.net.login link]
  | .find vin => [.of c.net (c.net.findVehicle vin) link]
  | .create vehicle => [.of c.net (c.net.createVehicle vehicle) link]
  | .update vehicle =>
    .of c.net (c.net.findVehicle vehicle.vin) link ::
      match outcome (c.net.findVehicle vehicle.vin) link with
      | (.ok id, link') => [.of c.later (c.later.changeFound id vehicle) link']
      | (.error _, _) => []
  | .delete vin =>
    .of c.net (c.net.findVehicle vin) link ::
      match outcome (c.net.findVehicle vin) link with
      | (.ok (some id), link') => [.of c.later (c.later.deleteFound id) link']
      | (_, _) => []

theorem path_turns (c : TimedCall) (link : Link) :
    Turn.Path link (c.turns link) (outcome c.run link).2 := by
  obtain ⟨call, net, later⟩ := c
  cases call with
  | login => exact ⟨rfl, congrArg Prod.snd (outcome_discard _ _).symm⟩
  | find vin => exact ⟨rfl, congrArg Prod.snd (outcome_discard _ _).symm⟩
  | create vehicle => exact ⟨rfl, congrArg Prod.snd (outcome_discard _ _).symm⟩
  | update vehicle =>
    refine ⟨rfl, ?_⟩
    simp only [run, outcome_discard, Network.updateOver, outcome_bind, Turn.of]
    rcases outcome (net.findVehicle vehicle.vin) link with ⟨_ | id, link'⟩
    · rfl
    · exact ⟨rfl, rfl⟩
  | delete vin =>
    refine ⟨rfl, ?_⟩
    simp only [run, outcome_discard, Network.deleteOver, outcome_bind, Turn.of]
    rcases outcome (net.findVehicle vin) link with ⟨_ | _ | id, link'⟩
    · rfl
    · rfl
    · exact ⟨rfl, rfl⟩

/-- The turns that a call may take: one, or two about different things, the second only after a
header that was not refused. -/
inductive Takes : List Turn → Prop
  | one {t : Turn} {e : Endpoint} (goes : t.Goes e) (about : e ≠ .login) : Takes [t]
  | two {t u : Turn} {e e' : Endpoint} (goes : t.Goes e) (about : e ≠ .login) (goes' : u.Goes e')
      (about' : e' ≠ .login) (different : e ≠ e') (served : ¬t.Refused) : Takes [t, u]

theorem takes_turns {c : TimedCall} (hnet : c.net.Sound) (hlater : c.later.Sound) (link : Link) :
    Takes (c.turns link) := by
  obtain ⟨call, net, later⟩ := c
  cases call with
  | login => exact .one (Turn.goes_login hnet .vehicles link) nofun
  | find vin => exact .one (Network.goes_findVehicle hnet link vin) nofun
  | create vehicle => exact .one (Network.goes_createVehicle hnet link vehicle) nofun
  | update vehicle =>
    have hfind := Network.goes_findVehicle hnet link vehicle.vin
    simp only [turns]
    rcases hfound : outcome (net.findVehicle vehicle.vin) link with ⟨_ | id, link'⟩
    · exact .one hfind nofun
    · exact .two hfind nofun (Network.goes_changeFound hlater link' id vehicle) nofun nofun
        (Network.not_refused_of_findVehicle hnet hfound)
  | delete vin =>
    have hfind := Network.goes_findVehicle hnet link vin
    simp only [turns]
    rcases hfound : outcome (net.findVehicle vin) link with ⟨_ | _ | id, link'⟩
    · exact .one hfind nofun
    · exact .one hfind nofun
    · exact .two hfind nofun (Network.goes_deleteFound hlater link' id) nofun nofun
        (Network.not_refused_of_findVehicle hnet hfound)

end TimedCall

namespace Turn

variable {e : Endpoint} {t : Turn}

theorem Goes.sent_after (h : t.Goes e) : t.after.sent = t.before.sent ++ t.requests := by
  cases h with
  | held held carries after =>
    rw [requests_eq (congrArg Link.sent after), after]
  | opened needed granted carries after =>
    rw [requests_eq (congrArg Link.sent after), after]
  | refused needed refused after =>
    rw [requests_eq (congrArg Link.sent after), after]

theorem Carries.countP_le {id : Json} {asked : List VehicleRequest} (h : Carries e id asked)
    (e' : Endpoint) : asked.countP (·.endpoint == e') ≤ if e = e' then 1 else 0 := by
  split
  · exact Nat.le_trans List.countP_le_length h.1
  · rename_i hne
    rw [Nat.le_zero, List.countP_eq_zero]
    intro r hr
    simpa [(h.2 r hr).1] using hne

theorem Goes.countP_le (h : t.Goes e) {e' : Endpoint} (he' : e' ≠ .login) :
    t.requests.countP (·.endpoint == e') ≤ if e = e' then 1 else 0 := by
  have hlogin : ∀ asked, (t.login :: asked).countP (·.endpoint == e') =
      asked.countP (·.endpoint == e') :=
    fun asked => List.countP_cons_of_neg (by simpa using he'.symm)
  cases h with
  | held held carries after =>
    rw [requests_eq (congrArg Link.sent after)]
    exact carries.countP_le e'
  | opened needed granted carries after =>
    rw [requests_eq (congrArg Link.sent after), hlogin]
    exact carries.countP_le e'
  | refused needed refused after =>
    rw [requests_eq (congrArg Link.sent after), hlogin]
    exact Nat.zero_le _

/-- Along turns the open session is always the one that was opened last. -/
theorem Path.keeps {link link' : Link} {ts : List Turn} (h : Path link ts link')
    (hgoes : ∀ t ∈ ts, ∃ e, e ≠ .login ∧ t.Goes e) {past : List LogEntry}
    (cached : link.session = lastSession past) :
    (∀ earlier t later, ts = earlier ++ t :: later → t.Keeps (past ++ earlier.flatMap log)) ∧
      link'.session = lastSession (past ++ ts.flatMap log) ∧
      link'.sent = link.sent ++ ts.flatMap requests := by
  induction ts generalizing link past with
  | nil =>
    obtain rfl : link = link' := h
    refine ⟨fun earlier t later hts => by simp at hts, ?_, ?_⟩
    · rw [List.flatMap_nil, List.append_nil]
      exact cached
    · rw [List.flatMap_nil, List.append_nil]
  | cons t ts ih =>
    obtain ⟨rfl, hrest⟩ := h
    obtain ⟨e, he, hfirst⟩ := hgoes t List.mem_cons_self
    obtain ⟨hkeeps, hsession, hsent⟩ :=
      ih hrest (fun u hu => hgoes u (List.mem_cons_of_mem t hu)) (hfirst.session_after he cached)
    refine ⟨fun earlier u later hts => ?_, ?_, ?_⟩
    · cases earlier with
      | nil =>
        obtain ⟨rfl, -⟩ := List.cons.inj hts
        rw [List.flatMap_nil, List.append_nil]
        exact hfirst.keeps he cached
      | cons first earlier =>
        obtain ⟨rfl, hrest⟩ := List.cons.inj hts
        rw [List.flatMap_cons, ← List.append_assoc]
        exact hkeeps earlier u later hrest
    · rw [List.flatMap_cons, ← List.append_assoc]
      exact hsession
    · rw [List.flatMap_cons, ← List.append_assoc, ← hfirst.sent_after]
      exact hsent

end Turn

namespace TimedCall

theorem Takes.goes {ts : List Turn} (h : Takes ts) : ∀ t ∈ ts, ∃ e, e ≠ .login ∧ t.Goes e := by
  cases h with
  | one goes about =>
    intro t ht
    rw [List.mem_singleton.mp ht]
    exact ⟨_, about, goes⟩
  | two goes about goes' about' different served =>
    intro t ht
    rcases List.mem_cons.mp ht with rfl | ht
    · exact ⟨_, about, goes⟩
    · rw [List.mem_singleton.mp ht]
      exact ⟨_, about', goes'⟩

/-- A call asks for nothing twice, logins apart. -/
theorem Takes.countP_le {ts : List Turn} (h : Takes ts) {e : Endpoint} (he : e ≠ .login) :
    (ts.flatMap Turn.requests).countP (·.endpoint == e) ≤ 1 := by
  cases h with
  | @one t kind goes about =>
    have hle := goes.countP_le he
    rw [List.flatMap_singleton]
    split at hle
    · exact hle
    · exact Nat.le_trans hle (Nat.zero_le 1)
  | @two t u kind kind' goes about goes' about' different served =>
    have hle := goes.countP_le he
    have hle' := goes'.countP_le he
    rw [List.flatMap_cons, List.flatMap_singleton, List.countP_append]
    split at hle
    · rename_i hkind
      rw [if_neg fun h => different (hkind.trans h.symm)] at hle'
      omega
    · split at hle' <;> omega

/-- After a header that was refused, a call asks for nothing more. -/
theorem Takes.eq_nil_of_refused {t : Turn} {rest : List Turn} (h : Takes (t :: rest))
    (hrefused : t.Refused) : rest = [] := by
  cases h with
  | one goes about => rfl
  | two goes about goes' about' different served => exact absurd hrefused served

/-- The link after some calls. -/
def linkAfter (link : Link) (calls : List TimedCall) : Link :=
  calls.foldl (fun link c => (outcome c.run link).2) link

/-- The turns of some calls, one call after the other. -/
def allTurns (link : Link) : List TimedCall → List Turn
  | [] => []
  | c :: calls => c.turns link ++ allTurns (outcome c.run link).2 calls

variable {calls : List TimedCall}

theorem path_allTurns (link : Link) (calls : List TimedCall) :
    Turn.Path link (allTurns link calls) (linkAfter link calls) := by
  induction calls generalizing link with
  | nil => rfl
  | cons c calls ih => exact (c.path_turns link).append (ih _)

theorem goes_allTurns (hsound : ∀ c ∈ calls, c.net.Sound ∧ c.later.Sound) (link : Link) :
    ∀ t ∈ allTurns link calls, ∃ e, e ≠ .login ∧ t.Goes e := by
  induction calls generalizing link with
  | nil => simp [allTurns]
  | cons c calls ih =>
    intro t ht
    obtain ⟨hnet, hlater⟩ := hsound c List.mem_cons_self
    rcases List.mem_append.mp ht with ht | ht
    · exact (takes_turns hnet hlater link).goes t ht
    · exact ih (fun c hc => hsound c (List.mem_cons_of_mem _ hc)) _ t ht

/-- Over any sequence of calls, whatever the replies and however the time passes between the calls
and within them, the open session is that of the last login that brought an id; every turn keeps
what it has to; and each call asks for nothing twice, and for nothing more after a header that was
refused. -/
theorem sessions_kept (calls : List TimedCall)
    (hsound : ∀ c ∈ calls, c.net.Sound ∧ c.later.Sound) :
    let ts := allTurns {} calls
    (linkAfter {} calls).sent = ts.flatMap Turn.requests ∧
      (linkAfter {} calls).session = lastSession (ts.flatMap Turn.log) ∧
      (∀ earlier t later, ts = earlier ++ t :: later → t.Keeps (earlier.flatMap Turn.log)) ∧
      ∀ earlier c later, calls = earlier ++ c :: later →
        let own := c.turns (linkAfter {} earlier)
        (∀ e, e ≠ .login → (own.flatMap Turn.requests).countP (·.endpoint == e) ≤ 1) ∧
          ∀ t rest, own = t :: rest → t.Refused → rest = [] := by
  intro ts
  have hcached : ({} : Link).session = lastSession [] := rfl
  obtain ⟨hkeeps, hsession, hsent⟩ :=
    (path_allTurns {} calls).keeps (goes_allTurns hsound {}) hcached
  refine ⟨hsent, hsession, hkeeps, ?_⟩
  rintro earlier c later rfl own
  obtain ⟨hnet, hlater⟩ := hsound c (by simp)
  have htakes : Takes own := takes_turns hnet hlater (linkAfter {} earlier)
  refine ⟨fun e he => htakes.countP_le he, ?_⟩
  intro t rest hown hrefused
  rw [hown] at htakes
  exact htakes.eq_nil_of_refused hrefused

/-- A session of half an hour that is used again, runs out within an update, and runs out before a
creation whose login is refused; a lookup then logs in anew. -/
theorem sessions_kept_over_an_hour :
    let vin : Option RawText := some "VIN00000000000001"
    let calls : List TimedCall := [
      { call := .find vin, net := Sample.network Sample.replies 0,
        later := Sample.network Sample.replies 0 },
      { call := .update { vin := vin }, net := Sample.network Sample.replies 1799,
        later := Sample.network Sample.replies 1801 },
      { call := .create { vin := vin }, net := Sample.network Script.silent 3601,
        later := Sample.network Script.silent 3601 },
      { call := .find vin, net := Sample.network Sample.replies 3602,
        later := Sample.network Sample.replies 3602 }]
    (∀ c ∈ calls, c.net.Sound ∧ c.later.Sound) ∧
      (linkAfter {} calls).sent.map (·.endpoint) =
        [.login, .vehicles, .vehicles, .login, .update, .login, .login, .vehicles] ∧
      (linkAfter {} calls).session.map (·.since) = some ⟨3602000⟩ ∧
      (linkAfter {} calls).session = lastSession ((allTurns {} calls).flatMap Turn.log) := by
  intro vin calls
  have hsound : ∀ c ∈ calls, c.net.Sound ∧ c.later.Sound := by
    have hreplies := Sample.sound_network @Sample.isSendable_replies
    have hsilent := Sample.sound_network @Sample.isSendable_silent
    simp [calls, hreplies, hsilent]
  have hsent : (linkAfter {} calls).sent.map (·.endpoint) =
      [.login, .vehicles, .vehicles, .login, .update, .login, .login, .vehicles] := by
    decide +kernel
  have hsince : (linkAfter {} calls).session.map (·.since) = some ⟨3602000⟩ := by
    decide +kernel
  exact ⟨hsound, hsent, hsince, (sessions_kept calls hsound).2.1⟩

end TimedCall

end DeviceRegistry
