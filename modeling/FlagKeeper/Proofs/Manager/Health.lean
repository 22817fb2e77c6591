import FlagKeeper.Proofs.Manager.History

/-!
# What the health says of the past

Most turns write down how a component fares, and each overwrites what was said of it before. The statement of this file says what
the report still shows: whether the address was ever too long, whether fetching has begun, and whether the user agrees.

Few turns say more than how the transports fare. `Scene.Notes` tells them apart; at all others the health before and after are
`Health.Alike` but for the transports.
-/

namespace FlagKeeper

namespace Health

/-- Two states of the health differ at most in how the named components fare, and the second finds no more fault with them. -/
structure Alike (names : List String) (h h' : Health) : Prop where
  ready : h'.ready = h.ready
  statusOf : ∀ name, name ∉ names → h'.statusOf name = h.statusOf name
  unhealthy : ∀ entry ∈ h'.components, entry.2.status = .unhealthy → entry ∈ h.components

section Alike

variable {names : List String} {h h' h'' : Health} {name reason : String} {now : Int}

theorem Alike.refl (h : Health) : Alike names h h := ⟨rfl, fun _ _ => rfl, fun _ there _ => there⟩

theorem Alike.trans (a : Alike names h h') (b : Alike names h' h'') : Alike names h h'' where
  ready := b.ready.trans a.ready
  statusOf name other := (b.statusOf name other).trans (a.statusOf name other)
  unhealthy entry there bad := a.unhealthy entry (b.unhealthy entry there bad) bad

theorem Alike.ite {c : Prop} [Decidable c] (a : Alike names h h') (b : Alike names h h'') :
    Alike names h (if c then h' else h'') := by
  split
  · exact a
  · exact b

/-- A component is written down that can be used, be it on a fallback. -/
theorem alike_update {state : ComponentHealth} (named : name ∈ names) (works : state.status ≠ .unhealthy) :
    Alike names h (h.update name state) where
  ready := rfl
  statusOf other unnamed := by
    refine statusOf_update_of_ne ?_
    rintro rfl
    exact unnamed named
  unhealthy entry there bad := by
    rcases mem_of_mem_update there with rfl | there
    · exact absurd bad works
    · exact there

theorem Alike.healthy (a : Alike names h h') (name : String) (named : name ∈ names) : Alike names h (h'.setHealthy name now) :=
  a.trans (alike_update named nofun)

theorem Alike.degraded (a : Alike names h h') (name : String) (named : name ∈ names) :
    Alike names h (h'.setDegraded name reason now) :=
  a.trans (alike_update named nofun)

end Alike

end Health

namespace Manager

/-- The components that are about the transports. -/
def transportNames : List String := [streamingName, pollingName]

theorem streamingName_mem : streamingName ∈ transportNames := List.mem_cons_self

theorem pollingName_mem : pollingName ∈ transportNames := List.mem_cons_of_mem _ List.mem_cons_self

/-- The transport is chosen without a word on the other components. -/
theorem State.alike_transportHealth (st : State) (h : Health) (hasPush : Bool) (now : Int) :
    h.Alike transportNames (({ st with health := h } : State).transportHealth hasPush now) := by
  have same : h.Alike transportNames h := .refl _
  exact ((same.degraded _ streamingName_mem).degraded _ pollingName_mem).ite
    (same.ite (same.ite (same.healthy _ pollingName_mem)))

/-- A turn at which a manager stays as far as it is, and says at most how the transports fare. -/
structure Scene.Slight (s : Scene) (i : Input) : Prop where
  health : s.state.health.Alike transportNames (s.take i).state.health
  remoteStarted : (s.take i).state.remoteStarted = s.state.remoteStarted
  stopped : (s.take i).state.stopped = s.state.stopped
  consent : (s.take i).consent = s.consent
  handled : (Turn.mk i s).handled ≠ some .uriTooLongOnSync

/-- What a turn writes down of the health. -/
inductive Scene.Notes (s : Scene) : Input → Prop where
  | slight {i} (slight : s.Slight i) : s.Notes i
  | tooLong (live : s.state.isLive = true) : s.Notes (.event .uriTooLongOnSync)
  | cacheLoaded (live : s.state.isLive = true) (first : s.state.remoteStarted = false) :
      s.Notes (.event .splitLoadedFromCache)
  | destroy (there : s.state.stopped = false) : s.Notes .destroy
  | setConsent {consent} (there : s.state.stopped = false) : s.Notes (.setConsent consent)
  | answer {consent} : s.Notes (.answer consent)

namespace Scene

variable {s : Scene}

/-- A turn is slight when what it leaves behind is. -/
theorem slight_of_eq {i : Input} {s' : Scene} (h : s.take i = s') (health : s.state.health.Alike transportNames s'.state.health)
    (remoteStarted : s'.state.remoteStarted = s.state.remoteStarted) (stopped : s'.state.stopped = s.state.stopped)
    (consent : s'.consent = s.consent) (handled : (Turn.mk i s).handled ≠ some .uriTooLongOnSync) : s.Slight i := by
  subst h
  exact ⟨health, remoteStarted, stopped, consent, handled⟩

/-- An event that comes during a pause, or to a destroyed manager, says nothing of the health. -/
theorem slight_event (h : s.state.isLive = false) (e : StatusEvent) : s.Slight (.event e) := by
  have handled : (Turn.mk (.event e) s).handled ≠ some .uriTooLongOnSync := by
    simp [Turn.handled, h]
  rcases s.state.standing with hs | ⟨hs, hp⟩ | hl
  · exact slight_of_eq (take_event_stopped hs e) (.refl _) rfl rfl rfl handled
  · exact slight_of_eq (take_event_paused hs hp e) (.refl _) rfl rfl rfl handled
  · rw [hl] at h
    cases h

/-- A live manager handles the event that comes in, and no other. -/
theorem handled_ne {e e' : StatusEvent} (live : s.state.isLive = true) (other : e ≠ e') :
    (Turn.mk (.event e) s).handled ≠ some e' := by
  rw [handled_event live]
  exact fun h => other (Option.some.inj h)

/-- What an event writes down. -/
theorem notes_event (e : StatusEvent) : s.Notes (.event e) := by
  have same : s.state.health.Alike transportNames s.state.health := .refl _
  have fallback : ∀ reason, s.state.health.Alike transportNames
      (if s.state.polling then s.state.health.setDegraded streamingName reason s.secs
        else (s.state.health.setDegraded streamingName reason s.secs).setHealthy pollingName s.secs) := by
    intro reason
    have degraded : s.state.health.Alike transportNames (s.state.health.setDegraded streamingName reason s.secs) :=
      same.degraded _ streamingName_mem
    exact degraded.ite (degraded.healthy _ pollingName_mem)
  have givenUp : ∀ reason, s.state.health.Alike transportNames
      ((if s.state.polling then s.state.health else s.state.health.setHealthy pollingName s.secs).setDegraded
        streamingName reason s.secs) := by
    intro reason
    exact (same.ite (same.healthy _ pollingName_mem)).degraded _ streamingName_mem
  cases hl : s.state.isLive with
  | false => exact .slight (slight_event hl e)
  | true =>
    cases e with
    | pushSubsystemUp =>
      exact .slight (slight_of_eq (take_pushSubsystemUp hl)
        ((same.healthy _ streamingName_mem).healthy _ pollingName_mem) rfl rfl rfl (handled_ne hl nofun))
    | pushSubsystemDown =>
      exact .slight (slight_of_eq (take_pushSubsystemDown hl) (fallback _) rfl rfl rfl (handled_ne hl nofun))
    | pushSubsystemDisabled =>
      exact .slight (slight_of_eq (take_givesUp rfl hl) (givenUp _) rfl rfl rfl (handled_ne hl nofun))
    | pushRetryableError =>
      exact .slight (slight_of_eq (take_pushRetryableError hl) (fallback _) rfl rfl rfl (handled_ne hl nofun))
    | pushNonRetryableError =>
      exact .slight (slight_of_eq (take_givesUp rfl hl) (givenUp _) rfl rfl rfl (handled_ne hl nofun))
    | pushReset => exact .slight (slight_of_eq (take_pushReset hl) same rfl rfl rfl (handled_ne hl nofun))
    | pushDelayReceived seconds =>
      exact .slight (slight_of_eq (take_pushDelayReceived hl seconds) same rfl rfl rfl (handled_ne hl nofun))
    | syncExecuted => exact .slight (slight_of_eq (take_syncExecuted hl) same rfl rfl rfl (handled_ne hl nofun))
    | uriTooLongOnSync => exact .tooLong hl
    | splitLoadedFromCache =>
      cases hr : s.state.remoteStarted with
      | false => exact .cacheLoaded hl hr
      | true =>
        exact .slight (slight_of_eq (take_splitLoadedFromCache_again hl hr) same rfl rfl rfl (handled_ne hl nofun))

/-- What a turn writes down. -/
theorem notes (s : Scene) (i : Input) : s.Notes i := by
  have same : s.state.health.Alike transportNames s.state.health := .refl _
  cases i with
  | start =>
    by_cases hl : s.state.loop = .waiting
    · cases hs : s.state.stopped with
      | false => exact .slight (slight_of_eq (take_start hl hs) same rfl rfl rfl nofun)
      | true => exact .slight (slight_of_eq (take_start_stopped hl hs) same rfl rfl rfl nofun)
    · exact .slight (slight_of_eq (take_start_again hl) same rfl rfl rfl nofun)
  | event e => exact notes_event e
  | pause =>
    cases hl : s.state.isLive with
    | false => exact .slight (slight_of_eq (take_pause_idle hl) same rfl rfl rfl nofun)
    | true => exact .slight (slight_of_eq (take_pause hl) same rfl rfl rfl nofun)
  | resume =>
    rcases s.state.standing with hs | ⟨hs, hp⟩ | hl
    · exact .slight (slight_of_eq (take_resume_idle (.inl hs)) same rfl rfl rfl nofun)
    · exact .slight (slight_of_eq (take_resume hs hp) same rfl rfl rfl nofun)
    · exact .slight (slight_of_eq (take_resume_idle (.inr (State.isLive_iff.1 hl).2)) same rfl rfl rfl nofun)
  | destroy =>
    cases hs : s.state.stopped with
    | true => exact .slight (slight_of_eq (take_destroy_again hs) same rfl rfl rfl nofun)
    | false => exact .destroy hs
  | setConsent consent =>
    cases hs : s.state.stopped with
    | true => exact .slight (slight_of_eq (take_setConsent_stopped hs consent) same rfl rfl rfl nofun)
    | false => exact .setConsent hs
  | answer consent => exact .answer
  | timer id => exact .slight (slight_of_eq (take_timer id) same rfl rfl rfl nofun)
  | advance d => exact .slight (slight_of_eq (take_advance d) same rfl rfl rfl nofun)
  | setClock wall => exact .slight (slight_of_eq (take_setClock wall) same rfl rfl rfl nofun)

end Scene

/-! ## What each part of a report goes back to -/

/-- When the address is too long, the fetching of flags is at fault; nothing is said of the recording of user data. -/
theorem statusOf_take_tooLong {s : Scene} (live : s.state.isLive = true) :
    (s.take (.event .uriTooLongOnSync)).state.health.statusOf featureFlagsName = some .unhealthy ∧
      (s.take (.event .uriTooLongOnSync)).state.health.statusOf telemetryName = s.state.health.statusOf telemetryName := by
  rw [take_uriTooLongOnSync live]
  simp only [Health.setUnhealthy]
  constructor
  · rw [Health.statusOf_update_of_ne (by decide), Health.statusOf_update_of_ne (by decide), Health.statusOf_update_self]
  · rw [Health.statusOf_update_of_ne (by decide), Health.statusOf_update_of_ne (by decide),
      Health.statusOf_update_of_ne (by decide)]

section Answer

variable {consent : Consent} {h : Health} {now : Int}

@[simp] theorem ready_consentHealth : (consentHealth consent h now).ready = h.ready := by
  unfold consentHealth
  split <;> rfl

theorem alike_consentHealth : h.Alike [telemetryName] (consentHealth consent h now) := by
  exact (Health.Alike.refl h).ite ((Health.Alike.refl h).degraded _ List.mem_cons_self)

end Answer

section Past

variable (u : Setup) (inputs : List Input)

/-- A manager was declared ready when fetching began, until it is destroyed. -/
theorem Setup.health_ready :
    (u.after inputs).state.health.ready = ((u.after inputs).state.remoteStarted && !(u.after inputs).state.stopped) := by
  induction inputs with
  | nil =>
    obtain ⟨base, max, guardian, health, h⟩ := u.state_eq
    rw [u.after_nil, show u.scene.state.health = _ from (State.records_of_build u.built).2, h]
    rfl
  | cons i past ih =>
    rw [u.after_cons]
    cases (u.after past).notes i with
    | slight slight => rw [slight.health.ready, slight.remoteStarted, slight.stopped, ih]
    | tooLong live => rw [take_uriTooLongOnSync live]; exact ih
    | cacheLoaded live first =>
      rw [take_splitLoadedFromCache live first]
      have ready := (State.alike_transportHealth (u.after past).state ((u.after past).state.health.setReady true)
        (u.after past).hasPush (u.after past).secs).ready
      rw [ready_consentHealth, ready, (State.isLive_iff.1 live).1]
      rfl
    | destroy there => rw [take_destroy there]; simp [Health.setReady]
    | @setConsent consent there =>
      rw [take_setConsent there]
      cases consent <;> exact ih
    | answer => exact ih

/-- An address was too long in the past: the fetching of flags is at fault, and nothing else brings a fault about. -/
structure Blames (past : List Turn) (h : Health) : Prop where
  found : (∃ t ∈ past, t.handled = some .uriTooLongOnSync) → h.statusOf featureFlagsName = some .unhealthy
  caused : ∀ entry ∈ h.components, entry.2.status = .unhealthy → ∃ t ∈ past, t.handled = some .uriTooLongOnSync

namespace Blames

variable {past : List Turn} {h h' : Health} (b : Blames past h)
include b

/-- A turn at which no address is too long makes no difference by itself. -/
theorem cons {t : Turn} (other : t.handled ≠ some .uriTooLongOnSync) : Blames (t :: past) h where
  found := by
    simp only [List.mem_cons, exists_eq_or_imp, other, false_or]
    exact b.found
  caused entry there bad := by
    obtain ⟨t', earlier, handled⟩ := b.caused entry there bad
    exact ⟨t', List.mem_cons_of_mem _ earlier, handled⟩

theorem alike {names : List String} (alike : h.Alike names h') (unnamed : featureFlagsName ∉ names) : Blames past h' where
  found ever := (alike.statusOf _ unnamed).trans (b.found ever)
  caused entry there bad := b.caused entry (alike.unhealthy entry there bad) bad

theorem setReady (ready : Bool) : Blames past (h.setReady ready) := ⟨b.found, b.caused⟩

end Blames

/-- The faults that a health shows go back to an address that was too long. -/
theorem Setup.blames : Blames (u.turns inputs) (u.after inputs).state.health := by
  induction inputs with
  | nil =>
    rw [u.after_nil, u.turns_nil, show u.scene.state.health = _ from (State.records_of_build u.built).2]
    refine ⟨by simp, ?_⟩
    intro entry there bad
    cases (Health.healthy_of_mem_new there).symm.trans bad
  | cons i past ih =>
    rw [u.after_cons, u.turns_cons]
    have noted : (Turn.mk i (u.after past)).handled ≠ some .uriTooLongOnSync →
        Blames (⟨i, u.after past⟩ :: u.turns past) (u.after past).state.health := ih.cons
    cases (u.after past).notes i with
    | slight slight => exact (noted slight.handled).alike slight.health (by decide)
    | tooLong live =>
      exact ⟨fun _ => (statusOf_take_tooLong live).1, fun _ _ _ => ⟨_, List.mem_cons_self, Scene.handled_event live _⟩⟩
    | cacheLoaded live first =>
      rw [take_splitLoadedFromCache live first]
      have ready := (noted (Scene.handled_ne live nofun)).setReady true
      exact (ready.alike (State.alike_transportHealth _ _ _ _) (by decide)).alike alike_consentHealth (by decide)
    | destroy there =>
      rw [take_destroy there]
      exact (noted nofun).setReady false
    | @setConsent consent there =>
      have same : (u.after past).state.health.Alike [telemetryName] (u.after past).state.health := .refl _
      rw [take_setConsent there]
      exact (noted nofun).alike ((same.healthy _ List.mem_cons_self).ite (same.degraded _ List.mem_cons_self)) (by decide)
    | answer => exact noted nofun

/-- What is said of the recording of user data agrees with what the user said: it is well if the user agreed, and once fetching has
begun it is not if the user did not. -/
structure Scene.Heeds (s : Scene) : Prop where
  granted : s.consent = .granted → s.state.health.statusOf telemetryName = some .healthy
  refused : s.state.remoteStarted = true → s.consent ≠ .granted → s.state.health.statusOf telemetryName = some .degraded

/-- What is said of the recording of user data goes on to agree, as long as the user's answer comes through the manager. -/
theorem Setup.heeds (through : ∀ consent, .answer consent ∉ inputs) : (u.after inputs).Heeds := by
  induction inputs with
  | nil =>
    obtain ⟨base, max, guardian, health, h⟩ := u.state_eq
    refine ⟨fun _ => ?_, fun started => ?_⟩
    · rw [u.after_nil, show u.scene.state.health = _ from (State.records_of_build u.built).2]
      rfl
    · rw [u.after_nil, h] at started
      cases started
  | cons i past ih =>
    obtain ⟨granted, refused⟩ := ih fun consent there => through consent (List.mem_cons_of_mem _ there)
    rw [u.after_cons]
    cases (u.after past).notes i with
    | slight slight =>
      have kept := slight.health.statusOf telemetryName (by decide)
      rw [← slight.consent, ← kept] at granted
      rw [← slight.consent, ← slight.remoteStarted, ← kept] at refused
      exact ⟨granted, refused⟩
    | tooLong live =>
      have kept := (statusOf_take_tooLong live).2
      rw [take_uriTooLongOnSync live] at kept ⊢
      rw [← kept] at granted refused
      exact ⟨granted, refused⟩
    | cacheLoaded live first =>
      rw [take_splitLoadedFromCache live first]
      refine ⟨fun agreed => ?_, fun _ disagreed => ?_⟩
      · simp only [consentHealth, if_pos agreed]
        exact ((State.alike_transportHealth _ _ _ _).statusOf telemetryName (by decide)).trans (granted agreed)
      · simp only [consentHealth, if_neg disagreed]
        exact Health.statusOf_update_self
    | destroy there =>
      rw [take_destroy there]
      exact ⟨granted, refused⟩
    | @setConsent consent there =>
      rw [take_setConsent there]
      refine ⟨fun agreed => ?_, fun _ disagreed => ?_⟩
      · simp only [if_pos agreed]
        exact Health.statusOf_update_self
      · simp only [if_neg disagreed]
        exact Health.statusOf_update_self
    | @answer consent => exact absurd List.mem_cons_self (through consent)

end Past

/-- What the report says of the past, whatever came in, in any order:

1. The status is unhealthy exactly if an address that was too long was ever acted on. Nothing that comes later repairs it.
2. The client is ready exactly if the announcement of the cache was acted on, no address that was too long ever was, and the
   manager is not destroyed.
3. Once the announcement of the cache was acted on, the recording of user data is well exactly if the user agrees, provided that
   the synchronizer hears of the user's answer through the manager only. That stays so after the manager is destroyed. -/
theorem report_mirrors_past (u : Setup) (inputs : List Input) :
    ((u.after inputs).state.health.report.status = .unhealthy ↔
      ∃ t ∈ u.turns inputs, t.handled = some .uriTooLongOnSync) ∧
    ((u.after inputs).state.health.report.ready = true ↔
      (∃ t ∈ u.turns inputs, t.handled = some .splitLoadedFromCache) ∧
        (∀ t ∈ u.turns inputs, t.handled ≠ some .uriTooLongOnSync) ∧ .destroy ∉ inputs) ∧
    ((∀ consent, .answer consent ∉ inputs) → (∃ t ∈ u.turns inputs, t.handled = some .splitLoadedFromCache) →
      ((u.after inputs).state.health.statusOf telemetryName = some .healthy ↔ (u.after inputs).consent = .granted)) := by
  have blames := u.blames inputs
  have status : (u.after inputs).state.health.report.status = .unhealthy ↔
      ∃ t ∈ u.turns inputs, t.handled = some .uriTooLongOnSync := by
    rw [Health.report_unhealthy_iff]
    constructor
    · rintro ⟨entry, there, bad⟩
      exact blames.caused entry there bad
    · intro ever
      exact Health.exists_of_statusOf (blames.found ever)
  refine ⟨status, ?_, ?_⟩
  · rw [Health.report_ready_iff, ne_eq, status, u.health_ready, Bool.and_eq_true, Bool.not_eq_true', ← Bool.not_eq_true,
      u.remoteStarted_iff, u.stopped_iff]
    simp only [not_exists, not_and, ne_eq]
    exact and_right_comm.trans and_assoc
  · intro through began
    have heeds := u.heeds inputs through
    refine ⟨fun well => Decidable.byContradiction fun disagreed => ?_, heeds.granted⟩
    cases well.symm.trans (heeds.refused ((u.remoteStarted_iff inputs).2 began) disagreed)

/-- A user who takes the agreement back: the recording is no longer well. -/
theorem report_mirrors_past_declined :
    (∀ consent, .answer consent ∉ [Input.setConsent .declined, .event .splitLoadedFromCache]) ∧
    (∃ t ∈ Setup.standard.turns [.setConsent .declined, .event .splitLoadedFromCache],
      t.handled = some .splitLoadedFromCache) ∧
    (Setup.standard.after [.setConsent .declined, .event .splitLoadedFromCache]).state.health.statusOf telemetryName ≠
      some .healthy := by
  have through : ∀ consent, .answer consent ∉ [Input.setConsent .declined, .event .splitLoadedFromCache] := by simp
  have began : ∃ t ∈ Setup.standard.turns [.setConsent .declined, .event .splitLoadedFromCache],
      t.handled = some .splitLoadedFromCache := by decide +kernel
  refine ⟨through, began, fun well => ?_⟩
  have agreed := ((report_mirrors_past Setup.standard [.setConsent .declined, .event .splitLoadedFromCache]).2.2 through
    began).1 well
  revert agreed
  decide +kernel

end Manager

end FlagKeeper
