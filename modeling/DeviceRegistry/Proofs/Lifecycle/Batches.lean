import DeviceRegistry.Proofs.Lifecycle.Runs

/-!
# Batches

Creating a batch is creating its devices one after the other, each in the environment of its turn,
in the store that the earlier ones left and over the same link. So a batch in two parts does what
its parts do in turn, and what it leaves is what its records leave as batches of one. A batch that
passes its checks and fails nevertheless fails at one of its records: the records before it are
settled as if they had come alone, and of this one nothing is left in the store. A batch with a
record that does not pass its checks does nothing.
-/

namespace DeviceRegistry

/-! ## Lists of checked values -/

section

variable {ε α β : Type} {f : α → Except ε β} {R : α → β → Prop} {l : List α} {bs cs : List β}
  {b : β}

theorem mapM_eq_ok : l.mapM f = .ok bs ↔ List.Forall₂ (fun a b => f a = .ok b) l bs := by
  induction l generalizing bs with
  | nil =>
    rw [List.forall₂_nil_left_iff]
    exact ⟨fun h => (Except.ok.inj h).symm, fun h => h ▸ rfl⟩
  | cons a l ih =>
    simp only [List.mapM_cons, bind_eq_ok, List.forall₂_cons_left_iff]
    constructor
    · rintro ⟨b, hb, cs, hcs, h⟩
      exact ⟨b, cs, hb, ih.mp hcs, (Except.ok.inj h).symm⟩
    · rintro ⟨b, cs, hb, hcs, rfl⟩
      exact ⟨b, hb, cs, ih.mpr hcs, rfl⟩

theorem exists_forall₂_iff : (∃ bs, List.Forall₂ R l bs) ↔ ∀ a ∈ l, ∃ b, R a b := by
  induction l with
  | nil => exact iff_of_true ⟨[], .nil⟩ (by simp)
  | cons a l ih =>
    rw [List.forall_mem_cons, ← ih]
    constructor
    · rintro ⟨_, h⟩
      obtain ⟨b, bs, hb, hbs, -⟩ := List.forall₂_cons_left_iff.mp h
      exact ⟨⟨b, hb⟩, bs, hbs⟩
    · rintro ⟨⟨b, hb⟩, bs, hbs⟩
      exact ⟨b :: bs, .cons hb hbs⟩

/-- A value on the right belongs to one on the left, and those before it to those before. -/
theorem split_of_forall₂ (h : List.Forall₂ R l (bs ++ b :: cs)) :
    ∃ before a rest, l = before ++ a :: rest ∧ List.Forall₂ R before bs ∧ R a b := by
  induction bs generalizing l with
  | nil =>
    obtain ⟨a, rest, ha, -, rfl⟩ := List.forall₂_cons_right_iff.mp h
    exact ⟨[], a, rest, rfl, .nil, ha⟩
  | cons c bs ih =>
    obtain ⟨d, l, hd, hl, rfl⟩ := List.forall₂_cons_right_iff.mp h
    obtain ⟨before, a, rest, rfl, hbefore, ha⟩ := ih hl
    exact ⟨d :: before, a, rest, rfl, .cons hd hbefore, ha⟩

theorem exists_mem_of_forall₂ (h : List.Forall₂ R l bs) (hb : b ∈ bs) : ∃ a ∈ l, R a b := by
  obtain ⟨_, _, rfl⟩ := List.append_of_mem hb
  obtain ⟨_, a, _, rfl, -, ha⟩ := split_of_forall₂ h
  exact ⟨a, by simp, ha⟩

end

/-! ## Results one after the other -/

/-- The results of a batch, and after them those of another one. -/
instance : Append CreateResult where
  append a b :=
    { created := a.created ++ b.created, failedVins := a.failedVins ++ b.failedVins }

theorem CreateResult.empty_append (a : CreateResult) : ({} : CreateResult) ++ a = a := rfl

namespace Create

theorem CreateResult.cons_append (made : Except RawText DeviceRecord)
    (a b : DeviceRegistry.CreateResult) : cons made (a ++ b) = cons made a ++ b := by
  cases made <;> rfl

/-! ## Checks of a batch -/

/-- An actor may create a device from a record: its values pass all checks. -/
def Passes (actor : Option String) (data : DeviceData) : Prop :=
  ∃ name p, Text.filled? actor = some name ∧ prepare name data = .ok p

instance (actor : Option String) (data : DeviceData) : Decidable (Passes actor data) :=
  decidable_of_iff
    (((Text.filled? actor).bind fun name => (prepare name data).toOption).isSome = true) <| by
      simp only [Option.isSome_iff_exists, Option.bind_eq_some_iff, toOption_eq_some]
      exact ⟨fun ⟨p, name, h⟩ => ⟨name, p, h⟩, fun ⟨name, p, h⟩ => ⟨p, name, h⟩⟩

section

variable {actor : Option String} {records : List DeviceData} {ps : List PreparedDevice}

theorem prepareAll_eq_ok :
    prepareAll actor records = .ok ps ↔
      ∃ name, Text.filled? actor = some name ∧ records ≠ [] ∧
        List.Forall₂ (fun data p => prepare name data = .ok p) records ps := by
  unfold prepareAll
  cases Text.filled? actor with
  | none => exact ⟨nofun, fun ⟨_, h, _⟩ => nomatch h⟩
  | some name =>
    cases records with
    | nil => exact ⟨nofun, fun ⟨_, _, h, _⟩ => absurd rfl h⟩
    | cons data records =>
      constructor
      · exact fun h => ⟨name, rfl, List.cons_ne_nil _ _, mapM_eq_ok.mp h⟩
      · rintro ⟨_, hname, -, h⟩
        cases hname
        exact mapM_eq_ok.mpr h

theorem exists_prepare_of_mem (h : prepareAll actor records = .ok ps) {p : PreparedDevice}
    (hp : p ∈ ps) : ∃ name data, data ∈ records ∧ prepare name data = .ok p := by
  obtain ⟨name, -, -, hps⟩ := prepareAll_eq_ok.mp h
  obtain ⟨data, hdata, hready⟩ := exists_mem_of_forall₂ hps hp
  exact ⟨name, data, hdata, hready⟩

theorem exists_prepareAll_iff :
    (∃ ps, prepareAll actor records = .ok ps) ↔
      records ≠ [] ∧ ∀ data ∈ records, Passes actor data := by
  constructor
  · rintro ⟨ps, h⟩
    obtain ⟨name, hname, hne, hps⟩ := prepareAll_eq_ok.mp h
    refine ⟨hne, fun data hdata => ?_⟩
    obtain ⟨p, hp⟩ := exists_forall₂_iff.mp ⟨ps, hps⟩ data hdata
    exact ⟨name, p, hname, hp⟩
  · rintro ⟨hne, hall⟩
    obtain ⟨data, hdata⟩ := List.exists_mem_of_ne_nil records hne
    obtain ⟨name, -, hname, -⟩ := hall data hdata
    have heach : ∀ data ∈ records, ∃ p, prepare name data = .ok p := by
      intro data hdata
      obtain ⟨other, p, hother, hp⟩ := hall data hdata
      obtain rfl : other = name := Option.some.inj (hother.symm.trans hname)
      exact ⟨p, hp⟩
    obtain ⟨ps, hps⟩ := exists_forall₂_iff.mpr heach
    exact ⟨ps, prepareAll_eq_ok.mpr ⟨name, hname, hne, hps⟩⟩

end

/-! ## Devices one after the other -/

/-- The records of a batch are made ready to be stored, each in the environment of its turn. -/
abbrev ReadyInTurn (name : String) (turns : List (Environment × DeviceData))
    (prepared : List (Environment × PreparedDevice)) : Prop :=
  List.Forall₂ (fun t q => q.1 = t.1 ∧ prepare name t.2 = .ok q.2) turns prepared

theorem readyInTurn_iff {name : String} {turns : List (Environment × DeviceData)}
    {prepared : List (Environment × PreparedDevice)} :
    ReadyInTurn name turns prepared ↔
      ∃ ps, List.Forall₂ (fun data p => prepare name data = .ok p) (turns.map (·.2)) ps ∧
        (turns.map (·.1)).zip ps = prepared := by
  constructor
  · intro h
    induction h with
    | nil => exact ⟨[], .nil, rfl⟩
    | @cons t q _ _ hfirst _ ih =>
      obtain ⟨ps, hps, rfl⟩ := ih
      exact ⟨q.2 :: ps, .cons hfirst.2 hps, by simp [← hfirst.1]⟩
  · rintro ⟨ps, hps, rfl⟩
    induction turns generalizing ps with
    | nil => exact .nil
    | cons t turns ih =>
      obtain ⟨p, ps, hp, hrest, rfl⟩ := List.forall₂_cons_left_iff.mp hps
      exact .cons ⟨rfl, hp⟩ (ih ps hrest)

theorem passes_of_ready {actor : Option String} {name : String}
    {turns : List (Environment × DeviceData)} {prepared : List (Environment × PreparedDevice)}
    (hname : Text.filled? actor = some name) (ready : ReadyInTurn name turns prepared) :
    ∀ t ∈ turns, Passes actor t.2 := by
  intro t ht
  obtain ⟨q, -, hq⟩ := exists_forall₂_iff.mp ⟨prepared, ready⟩ t ht
  exact ⟨name, q.2, hname, hq⟩

variable {turns later : List (Environment × PreparedDevice)} {r : Registry}

theorem createInTurn_append :
    createInTurn (turns ++ later) = (do
      let a ← createInTurn turns
      let b ← createInTurn later
      return a ++ b) := by
  induction turns with
  | nil =>
    simp only [List.nil_append, createInTurn, pure_bind, CreateResult.empty_append, bind_pure]
  | cons turn turns ih =>
    simp only [List.cons_append, createInTurn, ih, bind_assoc, pure_bind, CreateResult.cons_append]

theorem outcome_createInTurn_append {a b : CreateResult} {r₁ r₂ : Registry}
    (ha : outcome (createInTurn turns) r = (.ok a, r₁))
    (hb : outcome (createInTurn later) r₁ = (.ok b, r₂)) :
    outcome (createInTurn (turns ++ later)) r = (.ok (a ++ b), r₂) := by
  rw [createInTurn_append, outcome_bind, ha]
  show outcome (createInTurn later >>= fun b => pure (a ++ b)) r₁ = _
  rw [outcome_bind_pure, hb]
  rfl

theorem exists_of_createInTurn_error {e : Failure} {r' : Registry}
    (h : outcome (createInTurn turns) r = (.error e, r')) :
    ∃ before env p rest a r₁, turns = before ++ (env, p) :: rest ∧
      outcome (createInTurn before) r = (.ok a, r₁) ∧
      outcome (createOne env p) r₁ = (.error e, r') := by
  induction turns generalizing r with
  | nil => cases h
  | cons turn turns ih =>
    obtain ⟨env, p⟩ := turn
    rw [outcome_createInTurn_cons] at h
    cases hone : outcome (createOne env p) r with
    | mk result r₁ =>
      rw [hone] at h
      cases result with
      | error e' =>
        cases h
        exact ⟨[], env, p, turns, {}, r, rfl, rfl, hone⟩
      | ok made =>
        simp only at h
        cases hrest : outcome (createInTurn turns) r₁ with
        | mk result r₂ =>
          rw [hrest] at h
          cases result with
          | ok a => cases h
          | error e' =>
            cases h
            obtain ⟨before, env', q, rest, a, r₃, rfl, hbefore, hq⟩ := ih hrest
            refine ⟨(env, p) :: before, env', q, rest, CreateResult.cons made a, r₃, rfl, ?_, hq⟩
            rw [outcome_createInTurn_cons, hone]
            simp only [hbefore]
            rfl

end Create

namespace Registry

variable {actor : Option String} {r : Registry} {turns : List (Environment × DeviceData)}

/-- A batch is refused and nothing happens, or its records are made ready and carried out in
turn. -/
theorem batch_cases (r : Registry) (actor : Option String)
    (turns : List (Environment × DeviceData)) :
    (∃ cause, r.batch actor turns = (.error (.rejected cause), r) ∧
        ¬(turns ≠ [] ∧ ∀ t ∈ turns, Create.Passes actor t.2)) ∨
      ∃ name prepared, Text.filled? actor = some name ∧ turns ≠ [] ∧
        Create.ReadyInTurn name turns prepared ∧
        r.batch actor turns = outcome (Create.createInTurn prepared) r := by
  rw [batch_eq]
  cases hps : Create.prepareAll actor (turns.map (·.2)) with
  | error cause =>
    refine .inl ⟨cause, rfl, fun ⟨hne, hall⟩ => ?_⟩
    obtain ⟨ps, hready⟩ :=
      Create.exists_prepareAll_iff.mpr ⟨by simpa using hne, List.forall_mem_map.mpr hall⟩
    rw [hps] at hready
    cases hready
  | ok ps =>
    obtain ⟨name, hname, hne, hready⟩ := Create.prepareAll_eq_ok.mp hps
    exact .inr ⟨name, _, hname, by simpa using hne, Create.readyInTurn_iff.mpr ⟨ps, hready, rfl⟩,
      rfl⟩

theorem batch_of_ready {name : String} {prepared : List (Environment × PreparedDevice)}
    (hname : Text.filled? actor = some name) (hne : turns ≠ [])
    (ready : Create.ReadyInTurn name turns prepared) :
    r.batch actor turns = outcome (Create.createInTurn prepared) r := by
  obtain ⟨ps, hps, rfl⟩ := Create.readyInTurn_iff.mp ready
  rw [batch_eq, Create.prepareAll_eq_ok.mpr ⟨name, hname, by simpa using hne, hps⟩]

theorem batch_eq_ok {a : CreateResult} {r' : Registry} :
    r.batch actor turns = (.ok a, r') ↔
      ∃ name prepared, Text.filled? actor = some name ∧ turns ≠ [] ∧
        Create.ReadyInTurn name turns prepared ∧
        outcome (Create.createInTurn prepared) r = (.ok a, r') := by
  constructor
  · intro h
    obtain ⟨_, hrefused, -⟩ | ⟨name, prepared, hname, hne, hready, hbatch⟩ :=
      batch_cases r actor turns
    · rw [hrefused] at h
      cases h
    · exact ⟨name, prepared, hname, hne, hready, hbatch ▸ h⟩
  · rintro ⟨name, prepared, hname, hne, hready, h⟩
    rw [batch_of_ready hname hne hready, h]

theorem batch_append {later : List (Environment × DeviceData)} {a b : CreateResult}
    {r₁ r₂ : Registry} (ha : r.batch actor turns = (.ok a, r₁))
    (hb : r₁.batch actor later = (.ok b, r₂)) :
    r.batch actor (turns ++ later) = (.ok (a ++ b), r₂) := by
  obtain ⟨name, prepared, hname, hne, hready, ha⟩ := batch_eq_ok.mp ha
  obtain ⟨other, prepared', hother, -, hready', hb⟩ := batch_eq_ok.mp hb
  obtain rfl : other = name := Option.some.inj (hother.symm.trans hname)
  exact batch_eq_ok.mpr ⟨other, prepared ++ prepared', hname, by simp [hne],
    List.rel_append hready hready', Create.outcome_createInTurn_append ha hb⟩

theorem batch_of_not_passes {before rest : List (Environment × DeviceData)}
    {t : Environment × DeviceData} (ht : ¬Create.Passes actor t.2) :
    ∃ cause, r.batch actor (before ++ t :: rest) = (.error (.rejected cause), r) := by
  obtain ⟨cause, hrefused, -⟩ | ⟨name, prepared, hname, -, hready, -⟩ :=
    batch_cases r actor (before ++ t :: rest)
  · exact ⟨cause, hrefused⟩
  · exact absurd (Create.passes_of_ready hname hready t (by simp)) ht

/-! ## Batches of one -/

theorem step_create_one {name : String} {env : Environment} {data : DeviceData}
    {p : PreparedDevice} (hname : Text.filled? actor = some name)
    (ready : Create.prepare name data = .ok p) :
    (r.step env (.create actor [data])).2 = (outcome (Create.createOne env p) r).2 := by
  have hready : Create.ReadyInTurn name [(env, data)] [(env, p)] := .cons ⟨rfl, ready⟩ .nil
  rw [step_create, List.map_singleton, batch_of_ready hname (List.cons_ne_nil _ _) hready,
    Create.outcome_createInTurn_cons]
  rcases outcome (Create.createOne env p) r with ⟨e | made, r'⟩ <;> rfl

theorem createInTurn_eq_after {name : String} {prepared : List (Environment × PreparedDevice)}
    (hname : Text.filled? actor = some name) (ready : Create.ReadyInTurn name turns prepared) :
    ∃ done rest, turns = done ++ rest ∧
      (outcome (Create.createInTurn prepared) r).2 =
        r.after (done.map fun t => (t.1, .create actor [t.2])) ∧
      ∀ a, (outcome (Create.createInTurn prepared) r).1 = .ok a → rest = [] := by
  induction ready generalizing r with
  | nil => exact ⟨[], [], rfl, rfl, fun _ _ => rfl⟩
  | @cons t q turns prepared hfirst _ ih =>
    obtain ⟨env, p⟩ := q
    obtain ⟨_, data⟩ := t
    obtain ⟨rfl, hp⟩ := hfirst
    have hone : (r.step env (.create actor [data])).2 = _ := step_create_one hname hp
    rw [Create.outcome_createInTurn_cons]
    rcases hmade : outcome (Create.createOne env p) r with ⟨e | made, r₁⟩
    · rw [hmade] at hone
      exact ⟨[(env, data)], turns, rfl, hone.symm, nofun⟩
    · rw [hmade] at hone
      obtain ⟨done, rest, rfl, hafter, hrest⟩ := ih (r := r₁)
      refine ⟨(env, data) :: done, rest, rfl, ?_, fun a h => ?_⟩
      · show _ = (r.step env (.create actor [data])).2.after _
        rw [hone]
        exact hafter
      · obtain ⟨b, hb, -⟩ := map_eq_ok.mp h
        exact hrest b hb

end Registry

/-! ## Where a batch stops -/

/-- A batch stops at a record: those before it, if any, are created or left out as a batch of their
own, then creating this one in its turn fails, and the store stays as the others left it. -/
inductive Create.StopsAt (actor : Option String) (r : Registry)
    (before : List (Environment × DeviceData)) (t : Environment × DeviceData) (e : Failure)
    (r' : Registry) : Prop
  | intro {name : String} {p : PreparedDevice} {r₁ : Registry}
      (settled : before = [] ∧ r₁ = r ∨ ∃ a, r.batch actor before = (.ok a, r₁))
      (named : Text.filled? actor = some name) (ready : prepare name t.2 = .ok p)
      (failed : outcome (createOne t.1 p) r₁ = (.error e, r')) (kept : r'.store = r₁.store)

namespace Registry

variable {actor : Option String} {r : Registry} {turns : List (Environment × DeviceData)}

theorem exists_stopsAt {e : Failure} {r' : Registry} (hne : turns ≠ [])
    (hall : ∀ t ∈ turns, Create.Passes actor t.2) (h : r.batch actor turns = (.error e, r')) :
    ∃ before t rest, turns = before ++ t :: rest ∧ Create.StopsAt actor r before t e r' := by
  obtain ⟨_, -, hbad⟩ | ⟨name, prepared, hname, -, hready, hbatch⟩ := batch_cases r actor turns
  · exact absurd ⟨hne, hall⟩ hbad
  rw [hbatch] at h
  obtain ⟨qs, env, p, _, a, r₁, rfl, hqs, hp⟩ := Create.exists_of_createInTurn_error h
  obtain ⟨before, ⟨_, data⟩, rest, rfl, hbefore, rfl, hdata⟩ := split_of_forall₂ hready
  have hkept : r'.store = r₁.store := by
    have hleaves := Create.leaves_createOne env p r₁
    rw [hp] at hleaves
    cases hleaves with
    | failed same => exact same
  refine ⟨before, (env, data), rest, rfl, .intro ?_ hname hdata hp hkept⟩
  -- An empty batch is refused, so with nothing before it the record meets the registry as it was.
  cases before with
  | nil =>
    cases hbefore
    cases hqs
    exact .inl ⟨rfl, rfl⟩
  | cons first before =>
    exact .inr ⟨a, batch_eq_ok.mpr ⟨name, qs, hname, List.cons_ne_nil _ _, hbefore, hqs⟩⟩

/-- What a batch leaves is what its records leave as batches of one: all of them, if it is carried
out, and else the first ones. -/
theorem batch_eq_after (r : Registry) (actor : Option String)
    (turns : List (Environment × DeviceData)) :
    ∃ done rest, turns = done ++ rest ∧
      (r.batch actor turns).2 = r.after (done.map fun t => (t.1, .create actor [t.2])) ∧
      ∀ a, (r.batch actor turns).1 = .ok a → rest = [] := by
  obtain ⟨_, hrefused, -⟩ | ⟨name, prepared, hname, -, hready, hbatch⟩ := batch_cases r actor turns
  · rw [hrefused]
    exact ⟨[], turns, rfl, rfl, nofun⟩
  · rw [hbatch]
    exact createInTurn_eq_after hname hready

theorem step_create_eq_ok {env : Environment} {records : List DeviceData} {a : CreateResult}
    {r' : Registry} :
    r.step env (.create actor records) = (.ok (.created a), r') ↔
      r.batch actor (records.map fun data => (env, data)) = (.ok a, r') := by
  rw [step_create]
  rcases r.batch actor (records.map fun data => (env, data)) with ⟨e | b, r₁⟩
  · exact ⟨nofun, nofun⟩
  · constructor <;> (intro h; cases h; rfl)

theorem exists_created {env : Environment} {records : List DeviceData}
    (h : (r.step env (.create actor records)).1.toOption.isSome = true) :
    ∃ a, r.step env (.create actor records) =
      (.ok (.created a), (r.step env (.create actor records)).2) := by
  obtain ⟨answer, hanswer⟩ := Option.isSome_iff_exists.mp h
  have hok := toOption_eq_some.mp hanswer
  rw [step_create] at hok ⊢
  obtain ⟨a, ha, -⟩ := map_eq_ok.mp hok
  exact ⟨a, by rw [ha]; rfl⟩

/-- Creating a batch is creating its records in order, each with the replies and the time of its
turn. A batch in two parts does what the parts do one after the other, and what a batch leaves is
what its records leave as batches of one. One that passes its checks and fails stops at a record;
and one with a record that does not pass them, at whatever place, does nothing. The command is the
batch whose records all come in one environment. -/
theorem create_in_order (actor : Option String) (r : Registry) :
    (∀ xs ys a b r₁ r₂, r.batch actor xs = (.ok a, r₁) → r₁.batch actor ys = (.ok b, r₂) →
      r.batch actor (xs ++ ys) = (.ok (a ++ b), r₂)) ∧
    (∀ turns, ∃ done rest, turns = done ++ rest ∧
      (r.batch actor turns).2 = r.after (done.map fun t => (t.1, .create actor [t.2])) ∧
      ∀ a, (r.batch actor turns).1 = .ok a → rest = []) ∧
    (∀ turns e r', turns ≠ [] → (∀ t ∈ turns, Create.Passes actor t.2) →
      r.batch actor turns = (.error e, r') →
      ∃ before t rest, turns = before ++ t :: rest ∧ Create.StopsAt actor r before t e r') ∧
    (∀ before t rest, ¬Create.Passes actor t.2 →
      ∃ cause, r.batch actor (before ++ t :: rest) = (.error (.rejected cause), r)) ∧
    ∀ env records, r.step env (.create actor records) =
      ((r.batch actor (records.map fun data => (env, data))).1.map .created,
        (r.batch actor (records.map fun data => (env, data))).2) :=
  ⟨fun _ _ _ _ _ _ => batch_append, batch_eq_after r actor, fun _ _ _ => exists_stopsAt,
    fun _ _ _ => batch_of_not_passes, fun env => step_create env r actor⟩

/-- Of two devices one is accepted by the vehicle service and one is refused, in one batch and in
two. Over a reply of no use a batch stops at its second device; and a serial number that is too
short refuses a batch as a whole. -/
theorem create_in_order_mixed_replies :
    let first := Sample.device "S12" "123" "VIN00000000000001"
    let second := Sample.device "S34" "456" "VIN00000000000002"
    let short := Sample.device "S7" "789" "VIN00000000000003"
    let accepted := (Sample.synchronised, first)
    let refused := (Sample.refusing, second)
    let turns := [accepted, (Sample.answering (.arr []), second), refused]
    (∃ a b r₁ r₂, batch "admin" [accepted] {} = (.ok a, r₁) ∧
      r₁.batch "admin" [refused] = (.ok b, r₂) ∧
      batch "admin" [accepted, refused] {} = (.ok (a ++ b), r₂) ∧
      (a ++ b).created.map (·.id) = [1] ∧
      (a ++ b).failedVins = [.whole "VIN00000000000002"]) ∧
    ((∀ t ∈ turns, Create.Passes "admin" t.2) ∧
      ∃ e r', batch "admin" turns {} = (.error e, r') ∧ r'.store.devices.rows.length = 1 ∧
        ∃ before t rest, turns = before ++ t :: rest ∧
          Create.StopsAt "admin" {} before t e r') ∧
    ¬Create.Passes "admin" short ∧
      ∃ cause, batch "admin" [accepted, (Sample.synchronised, short), refused] {} =
        (.error (.rejected cause), {}) := by
  intro first second short accepted refused turns
  obtain ⟨inTwo, -, stops, refuses, -⟩ := create_in_order "admin" {}
  have hpass : ∀ t ∈ turns, Create.Passes "admin" t.2 := by decide +kernel
  have hshort : ¬Create.Passes "admin" short := by decide +kernel
  have hfirst : ((batch "admin" [accepted] {}).1.toOption.map fun a =>
      (a.created.map (·.id), a.failedVins)) = some ([1], []) := by
    decide +kernel
  have hsecond : (((batch "admin" [accepted] {}).2.batch "admin" [refused]).1.toOption.map fun b =>
      (b.created.map (·.id), b.failedVins)) = some ([], [.whole "VIN00000000000002"]) := by
    decide +kernel
  have hstops : (batch "admin" turns {}).1.toOption = none ∧
      (batch "admin" turns {}).2.store.devices.rows.length = 1 := by
    decide +kernel
  refine ⟨?_, ⟨hpass, ?_⟩, hshort, refuses [accepted] (_, short) [refused] hshort⟩
  · obtain ⟨a, ha, hcreated⟩ := Option.map_eq_some_iff.mp hfirst
    obtain ⟨b, hb, hleft⟩ := Option.map_eq_some_iff.mp hsecond
    have ha := outcome_eq_of_ok (toOption_eq_some.mp ha)
    have hb := outcome_eq_of_ok (toOption_eq_some.mp hb)
    refine ⟨a, b, _, _, ha, hb, inTwo [accepted] [refused] a b _ _ ha hb, ?_, ?_⟩
    · show (a.created ++ b.created).map (·.id) = [1]
      rw [List.map_append, (Prod.mk.inj hcreated).1, (Prod.mk.inj hleft).1]
      rfl
    · show a.failedVins ++ b.failedVins = _
      rw [(Prod.mk.inj hcreated).2, (Prod.mk.inj hleft).2]
      rfl
  · rcases hbatch : batch "admin" turns {} with ⟨e | a, r'⟩
    · rw [hbatch] at hstops
      exact ⟨e, r', rfl, hstops.2, stops _ e r' (List.cons_ne_nil _ _) hpass hbatch⟩
    · rw [hbatch] at hstops
      cases hstops.1

end Registry

end DeviceRegistry
