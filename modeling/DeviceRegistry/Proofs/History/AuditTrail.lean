import DeviceRegistry.Proofs.History.Trail

/-!
# The audit trail

A store is audited if each device has a trail up to the state that it shows, and each id whose
device is gone has a trail that ended. Every transaction keeps a store audited, unless it changes
the stored state of a device without its history. So after every run without such a change the
history of an id tells the life of its device.
-/

namespace DeviceRegistry

namespace Store

/-- Every stored device has a trail up to the state that it shows, and the trail of every other id
that was given has ended. -/
structure Audited (s : Store) : Prop where
  given : ∀ h ∈ s.history.rows, h.factoryId ≤ s.devices.lastId
  stored : ∀ d ∈ s.devices.rows, ∃ state, d.Shows state ∧ Trail (s.trail d.id) (some state)
  gone : ∀ f, 0 < f → f ≤ s.devices.lastId → (¬∃ d ∈ s.devices.rows, d.id = f) →
    Trail (s.trail f) none

theorem audited_empty : ({} : Store).Audited := by
  refine ⟨by simp, by simp, ?_⟩
  intro f hpos hle _
  have hle : f ≤ 0 := hle
  omega

namespace Audited

variable {s : Store}

theorem trail_nextId (h : s.Audited) : s.trail s.devices.nextId = [] := by
  have hn : s.devices.nextId = s.devices.lastId + 1 := rfl
  unfold trail
  rw [List.filter_eq_nil_iff]
  intro e he
  have := h.given e he
  simp only [beq_iff_eq]
  omega

theorem created (h : s.Audited) (hn : s.Numbered) (now : String) (p : Profile)
    (vin : Option String) : (s.created now p vin).Audited := by
  have hnext : s.devices.nextId = s.devices.lastId + 1 := rfl
  have hlast : (s.created now p vin).devices.lastId = s.devices.lastId + 1 := rfl
  have hother : ∀ f, f ≠ s.devices.nextId → (s.created now p vin).trail f = s.trail f :=
    fun f hf => trail_appendHistory_of_ne hf
  refine ⟨?_, ?_, ?_⟩
  · intro e he
    rw [hlast]
    rcases mem_history_appendHistory.mp he with he | rfl
    · have := h.given e he
      omega
    · exact Int.le_refl _
  · intro d hd
    rcases Table.mem_append.mp hd with hd | rfl
    · rw [hother d.id (hn.devices.id_ne_nextId hd)]
      exact h.stored d hd
    · have hshows := Device.shows_newDevice now p s.devices.nextId
      refine ⟨.provisioned, hshows, ?_⟩
      rw [show (s.created now p vin).trail (newDevice now p s.devices.nextId).id =
        s.trail s.devices.nextId ++ [s.snapshot now _ _] from trail_appendHistory, h.trail_nextId]
      exact .provisioned rfl (shows_snapshot hshows s now _)
  · intro f hpos hle hf
    rw [hlast] at hle
    have hne : f ≠ s.devices.nextId :=
      fun hf' => hf ⟨newDevice now p s.devices.nextId, Table.mem_append.mpr (.inr rfl), hf'.symm⟩
    rw [hother f hne]
    refine h.gone f hpos (by omega) ?_
    rintro ⟨d, hd, hid⟩
    exact hf ⟨d, Table.mem_append.mpr (.inl hd), hid⟩

theorem withDevice (h : s.Audited) {d e : Device} (hd : d ∈ s.devices.rows) (hid : e.id = d.id)
    (same : ∀ state, d.Shows state → e.Shows state) : (s.withDevice e).Audited := by
  refine ⟨h.given, ?_, ?_⟩
  · intro a ha
    rcases mem_withDevice.mp ha with ⟨rfl, _⟩ | ⟨ha, _⟩
    · obtain ⟨state, hshows, htrail⟩ := h.stored d hd
      exact ⟨state, same state hshows, hid ▸ htrail⟩
    · exact h.stored a ha
  · intro f hpos hle hf
    rw [exists_id_withDevice] at hf
    exact h.gone f hpos hle hf

theorem replaced (h : s.Audited) {d e : Device} (hd : d ∈ s.devices.rows) (hid : e.id = d.id)
    (same : ∀ state, d.Shows state → e.Shows state) (vin : Option String) :
    (s.replaced e vin).Audited := by
  have hdevice := h.withDevice hd hid same
  cases vin with
  | none => exact hdevice
  | some vin => exact ⟨hdevice.given, hdevice.stored, hdevice.gone⟩

theorem moved (h : s.Audited) (hn : s.Numbered) {d : Device} {current target : DeviceState}
    (hd : d ∈ s.devices.rows) (effective : d.record.effectiveState = .ok current)
    (allowed : current.allows target = true) (now : String) :
    (s.moved now d target).Audited := by
  obtain ⟨state, hshows, htrail⟩ := h.stored d hd
  obtain rfl : state = current := Except.ok.inj (hshows.effectiveState.symm.trans effective)
  have hmoved := Device.shows_moved target d
  have hother : ∀ f, f ≠ d.id → (s.moved now d target).trail f = s.trail f :=
    fun f hf => trail_appendHistory_of_ne hf
  refine ⟨?_, ?_, ?_⟩
  · intro e he
    rcases mem_history_appendHistory.mp he with he | rfl
    · exact h.given e he
    · exact (hn.devices.given d hd).2
  · intro a ha
    rcases mem_withDevice.mp ha with ⟨rfl, _⟩ | ⟨ha, hid⟩
    · refine ⟨target, hmoved, ?_⟩
      rw [show (s.moved now d target).trail (d.moved target).id =
        s.trail d.id ++ [s.snapshot now _ _] from trail_appendHistory]
      exact .moved htrail rfl allowed (shows_snapshot hmoved s now _)
    · rw [hother a.id hid]
      exact h.stored a ha
  · intro f hpos hle hf
    have hf : ¬∃ d ∈ s.devices.rows, d.id = f := fun h => hf (exists_id_withDevice.mpr h)
    rw [hother f fun hfd => hf ⟨d, hd, hfd.symm⟩]
    exact h.gone f hpos hle hf

theorem deleted (h : s.Audited) (hn : s.Numbered) {d : Device} (hd : d ∈ s.devices.rows)
    (deletable : deletable d = true) (now : String) : (s.deleted now d).Audited := by
  obtain ⟨state, hshows, htrail⟩ := h.stored d hd
  have hprovisioned := Device.shows_of_deletable deletable
  obtain rfl : state = .provisioned :=
    Except.ok.inj (hshows.effectiveState.symm.trans hprovisioned.effectiveState)
  have hother : ∀ f, f ≠ d.id → (s.deleted now d).trail f = s.trail f :=
    fun f hf => trail_appendHistory_of_ne hf
  refine ⟨?_, ?_, ?_⟩
  · intro e he
    rcases mem_history_appendHistory.mp he with he | rfl
    · exact h.given e he
    · exact (hn.devices.given d hd).2
  · intro a ha
    obtain ⟨ha, hid⟩ := mem_withoutDevice.mp ha
    rw [hother a.id hid]
    exact h.stored a ha
  · intro f hpos hle hf
    by_cases hfd : f = d.id
    · subst hfd
      rw [show (s.deleted now d).trail d.id = s.trail d.id ++ [s.snapshot now _ _] from
        trail_appendHistory]
      exact .deleted htrail rfl (shows_snapshot hprovisioned s now _)
    · rw [hother f hfd]
      refine h.gone f hpos hle ?_
      rintro ⟨a, ha, rfl⟩
      exact hf ⟨a, mem_withoutDevice.mpr ⟨ha, hfd⟩, rfl⟩

end Audited

end Store

/-- The command does not change the stored state of a device without its history. -/
def Command.KeepsState : Command → Prop
  | .attributes q => q.changes.state = none
  | _ => True

theorem Attributes.state_not_mem_filledColumns {q : AttributeUpdate} {p : RawProfile}
    (h : prepare q = .ok p) (hq : q.changes.state = none) :
    TextColumn.state ∉ Device.filledColumns p.shown := by
  rw [Device.mem_filledColumns, show p.shown.get .state = p.shown.state from rfl, state_shown h, hq]
  nofun

theorem Effect.audited {env : Environment} {s s' : Store} {c : Command} (hc : c.KeepsState)
    (hn : s.Numbered) (h : Effect env s c s') (hs : s.Audited) : s'.Audited := by
  cases h with
  | created ready member fresh bound accepted => exact hs.created hn _ _ _
  | moved stored effective allowed headUnit => exact hs.moved hn stored effective allowed _
  | @replaced q p d vin ready stored effective renumbers =>
    refine hs.replaced stored (Device.id_taking _ _ d) ?_ vin
    exact fun _ h => h.taking state_not_mem_updateColumns _
  | deleted stored deletable free => exact hs.deleted hn stored deletable _
  | changed ready stored named =>
    have hstate := Attributes.state_not_mem_filledColumns ready hc
    exact hs.withDevice stored rfl fun _ h => h.taking hstate _
  | associated stored => exact ⟨hs.given, hs.stored, hs.gone⟩

/-! ## The history of an id -/

/-- The history of an id, in the order of its entries, tells the life of its device. -/
structure Store.AuditTrail (s : Store) (factoryId : Int) : Prop where
  ordered : (s.trail factoryId).Pairwise fun a b => a.id < b.id
  begins : HistoryRow.Begins (s.trail factoryId)
  follows : (s.trail factoryId).IsChain HistoryRow.Follows
  last : ∀ before after e, s.trail factoryId = before ++ e :: after → e.action = .deactivated →
    after = [] ∧ e.Shows .provisioned
  stored : (∃ d ∈ s.devices.rows, d.id = factoryId) ↔
    ∀ e ∈ s.trail factoryId, e.action ≠ .deactivated
  newest : ∀ d ∈ s.devices.rows, d.id = factoryId → ∃ e, (s.trail factoryId).getLast? = some e ∧
    d.profile.state = e.profile.state ∧ d.stolen = e.stolen ∧ d.faulty = e.faulty

theorem HistoryRow.eq_nil_of_isChain {before after : List HistoryRow} {e : HistoryRow}
    (h : (before ++ e :: after).IsChain Follows) (he : e.action = .deactivated) : after = [] := by
  cases after with
  | nil => rfl
  | cons a after =>
    have hfollows : e.Follows a := (List.isChain_cons_cons.mp (List.isChain_append.mp h).2.1).1
    exact absurd he hfollows.1

namespace Store

variable {s : Store} {f : Int}

/-- A trail that can be makes an audit trail if it has not ended while the device is stored. -/
theorem auditTrail_of_trail (hn : s.Numbered) {state : Option DeviceState}
    (h : Trail (s.trail f) state)
    (hstored : (∃ d ∈ s.devices.rows, d.id = f) ↔ state.isSome = true)
    (hshows : ∀ d ∈ s.devices.rows, d.id = f → ∀ current, state = some current → d.Shows current) :
    s.AuditTrail f := by
  refine ⟨hn.history.ordered.sublist List.filter_sublist, h.begins, h.isChain, ?_, ?_, ?_⟩
  · intro before after e hrows he
    exact ⟨HistoryRow.eq_nil_of_isChain (hrows ▸ h.isChain) he,
      h.shows_of_deactivated (by rw [hrows]; simp) he⟩
  · rw [hstored]
    cases state with
    | some current => exact iff_of_true rfl h.not_deactivated
    | none =>
      refine iff_of_false nofun fun hnone => ?_
      obtain ⟨e, he, hdeactivated⟩ := h.exists_deactivated
      exact hnone e he hdeactivated
  · intro d hd hid
    obtain ⟨current, rfl⟩ := Option.isSome_iff_exists.mp (hstored.mp ⟨d, hd, hid⟩)
    obtain ⟨e, he, hentry⟩ := h.newest
    have hdevice := hshows d hd hid current rfl
    exact ⟨e, he, hdevice.name.trans hentry.name.symm, hdevice.stolen.trans hentry.stolen.symm,
      hdevice.faulty.trans hentry.faulty.symm⟩

/-- In an audited store the history of every id that was given tells the life of its device. -/
theorem Audited.auditTrail (h : s.Audited) (hn : s.Numbered) (hpos : 0 < f)
    (hle : f ≤ s.devices.lastId) : s.AuditTrail f := by
  by_cases hf : ∃ d ∈ s.devices.rows, d.id = f
  · obtain ⟨d, hd, rfl⟩ := hf
    obtain ⟨state, hshows, htrail⟩ := h.stored d hd
    refine auditTrail_of_trail hn htrail (iff_of_true ⟨d, hd, rfl⟩ rfl) ?_
    intro e he hid current hcurrent
    obtain rfl := hn.devices.eq_of_id he hd hid
    obtain rfl := Option.some.inj hcurrent
    exact hshows
  · refine auditTrail_of_trail hn (h.gone f hpos hle hf) (iff_of_false hf nofun) ?_
    intro d hd hid
    exact absurd ⟨d, hd, hid⟩ hf

end Store

namespace Registry

/-- A run that changes no stored state without its history keeps the store audited. -/
theorem audited_after {run : List (Environment × Command)} (hrun : ∀ e ∈ run, e.2.KeepsState)
    (link : Link) : (after { link := link } run).store.Numbered ∧
      (after { link := link } run).store.Audited :=
  store_after_effects (A := fun e => e.2.KeepsState) (fun _ _ _ he hn h hs => h.audited he hn hs)
    hrun Store.numbered_empty Store.audited_empty

/-- After every such run the history of every device that was ever stored tells its life. -/
theorem auditTrail_after (link : Link) (earlier later : List (Environment × Command))
    (hrun : ∀ e ∈ earlier ++ later, e.2.KeepsState) {f : Int}
    (hstored : ∃ d ∈ (after { link := link } earlier).store.devices.rows, d.id = f) :
    (after { link := link } (earlier ++ later)).store.AuditTrail f := by
  obtain ⟨hn, haudited⟩ := audited_after hrun link
  obtain ⟨d, hd, rfl⟩ := hstored
  have hn' : (after { link := link } earlier).store.Numbered :=
    numbered_after earlier Store.numbered_empty
  have hgiven := hn'.devices.given d hd
  have hle := lastId_le_after later hn'
  rw [← after_append] at hle
  exact haudited.auditTrail hn hgiven.1 (by omega)

/-- The life of a device that is stolen, found again and deleted. -/
theorem auditTrail_after_deletion :
    let now := Sample.environment
    let earlier := [(now, Command.create "admin" [Sample.device "S12" "123" "VIN00000000000001"])]
    let later := [(now, Command.changeState { factoryId := some 1, state := some .stolen }),
      (now, Command.changeState { factoryId := some 1, state := some .provisioned }),
      (now, Command.delete "123" none)]
    (∀ e ∈ earlier ++ later, e.2.KeepsState) ∧
      (∃ d ∈ (after {} earlier).store.devices.rows, d.id = 1) ∧
      (after {} (earlier ++ later)).store.AuditTrail 1 := by
  intro now earlier later
  have hrun : ∀ e ∈ earlier ++ later, e.2.KeepsState := by
    simp [earlier, later, Command.KeepsState]
  have hstored : ∃ d ∈ (after {} earlier).store.devices.rows, d.id = 1 := by
    decide +kernel
  exact ⟨hrun, hstored, auditTrail_after {} earlier later hrun hstored⟩

end Registry

end DeviceRegistry
