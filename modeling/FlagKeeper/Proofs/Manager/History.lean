import FlagKeeper.Proofs.Manager.Calls

/-!
# What has happened to a manager

A manager is put together from a `Setup` and then takes inputs, in any order. Each input is a `Turn`, and the turns so far, the
latest first, are the past of the manager. What a manager is or does is compared with its past.

Most inputs leave the transports alone. `Scene.course` says which do not, and when: a turn is quiet, or it is one of eleven. So
what holds of the start and is kept by each of these courses holds always (`Setup.always`).
-/

namespace FlagKeeper.Manager

/-- What a manager is put together from, and where. -/
structure Setup where
  settings : Settings
  /-- The shortest and the longest delay, if they are not those of the settings. -/
  backoff : Option (Duration × Duration)
  hasPush : Bool
  consent : Consent
  steady : Nat
  wall : Int
  state : State
  built : State.build settings true true backoff (wall / 1000000000) = .ok state

/-- A new manager. -/
def Setup.scene (u : Setup) : Scene where
  hasPush := u.hasPush
  state := u.state
  consent := u.consent
  steady := u.steady
  wall := u.wall

/-- An input and the scene that took it. -/
structure Turn where
  input : Input
  before : Scene

namespace Turn

/-- The scene after a turn. -/
def after (t : Turn) : Scene := t.before.take t.input

/-- The calls made at a turn, the latest first. -/
def calls (t : Turn) : List Call := t.after.calls

/-- The event that was acted on at a turn, if there was one. -/
def handled (t : Turn) : Option StatusEvent :=
  match t.input with
  | .event e => if t.before.state.isLive then some e else none
  | _ => none

/-- Whether the timer of the reconnection went off at a turn. -/
def fired (t : Turn) : Bool :=
  match t.input with
  | .timer id => (t.before.state.reconnect.timers.wake id).1.isSome
  | _ => false

end Turn

/-- The scene after some inputs, the latest first. -/
def Scene.after (s : Scene) : List Input → Scene
  | [] => s
  | i :: past => (s.after past).take i

/-- The turns of some inputs, the latest first. -/
def Scene.turns (s : Scene) : List Input → List Turn
  | [] => []
  | i :: past => ⟨i, s.after past⟩ :: s.turns past

theorem Scene.after_cons (s : Scene) (i : Input) (past : List Input) : s.after (i :: past) = (s.after past).take i := rfl

theorem Scene.turns_cons (s : Scene) (i : Input) (past : List Input) :
    s.turns (i :: past) = ⟨i, s.after past⟩ :: s.turns past := rfl

theorem Scene.after_append (s : Scene) (later past : List Input) : s.after (later ++ past) = (s.after past).after later := by
  induction later with
  | nil => rfl
  | cons i later ih => rw [List.cons_append, s.after_cons, ih, Scene.after_cons]

theorem Scene.turns_append (s : Scene) (later past : List Input) :
    s.turns (later ++ past) = (s.after past).turns later ++ s.turns past := by
  induction later with
  | nil => rfl
  | cons i later ih => rw [List.cons_append, s.turns_cons, ih, s.after_append, Scene.turns_cons, List.cons_append]

/-- A new manager after some inputs. -/
def Setup.after (u : Setup) (inputs : List Input) : Scene := u.scene.after inputs

/-- The turns of a new manager. -/
def Setup.turns (u : Setup) (inputs : List Input) : List Turn := u.scene.turns inputs

theorem Setup.after_nil (u : Setup) : u.after [] = u.scene := rfl

theorem Setup.after_cons (u : Setup) (i : Input) (past : List Input) : u.after (i :: past) = (u.after past).take i := rfl

theorem Setup.turns_nil (u : Setup) : u.turns [] = [] := rfl

theorem Setup.turns_cons (u : Setup) (i : Input) (past : List Input) : u.turns (i :: past) = ⟨i, u.after past⟩ :: u.turns past := rfl

/-- The calls of some turns, the latest first. -/
def callsOf (past : List Turn) : List Call := past.flatMap Turn.calls

theorem callsOf_cons (t : Turn) (past : List Turn) : callsOf (t :: past) = t.calls ++ callsOf past := List.flatMap_cons

theorem callsOf_append (later past : List Turn) : callsOf (later ++ past) = callsOf later ++ callsOf past :=
  List.flatMap_append

section Past

variable {past : List Turn} {t : Turn}

/-- What a part was told by some turns is what the last of them told it, and before that the others. -/
theorem told_callsOf_cons {α : Type} (part : Call → Option α) :
    told part (callsOf (t :: past)) = told part t.calls ++ told part (callsOf past) := by
  rw [callsOf_cons, told_append]

theorem pushes_callsOf_cons : pushes (callsOf (t :: past)) = pushes t.calls ++ pushes (callsOf past) := told_callsOf_cons _

theorem modes_callsOf_cons : modes (callsOf (t :: past)) = modes t.calls ++ modes (callsOf past) := told_callsOf_cons _

theorem fetchings_callsOf_cons : fetchings (callsOf (t :: past)) = fetchings t.calls ++ fetchings (callsOf past) :=
  told_callsOf_cons _

end Past

/-- What a new manager is, and every turn keeps, a manager always is. -/
theorem Setup.always {P : List Turn → Scene → Prop} (u : Setup) (first : P [] u.scene)
    (step : ∀ past s i, P past s → P (⟨i, s⟩ :: past) (s.take i)) : ∀ inputs, P (u.turns inputs) (u.after inputs)
  | [] => first
  | i :: past => step _ _ i (u.always first step past)

/-- A manager that was put together waits for no reconnection, and is neither paused nor destroyed. -/
theorem State.eq_of_build {settings : Settings} {backoff : Option (Duration × Duration)} {now : Int} {st : State}
    (h : State.build settings true true backoff now = .ok st) :
    ∃ base max guardian health, st =
      { syncEnabled := settings.syncEnabled
        streamingEnabled := settings.streamingEnabled
        reconnect := { backoff := { base, max } }
        guardian
        health } := by
  unfold State.build at h
  simp only [Bool.not_true, Bool.false_eq_true, if_false] at h
  split at h
  · cases h
  · exact ⟨_, _, _, _, (Except.ok.inj h).symm⟩

/-- A manager that was put together knows of no fetch, and that all is well. -/
theorem State.records_of_build {settings : Settings} {backoff : Option (Duration × Duration)} {now : Int} {st : State}
    (h : State.build settings true true backoff now = .ok st) :
    st.guardian = { maxSyncPeriod := settings.maxSyncPeriodMillis } ∧ st.health = .new now := by
  unfold State.build at h
  simp only [Bool.not_true, Bool.false_eq_true, if_false] at h
  split at h
  · cases h
  · cases h
    exact ⟨rfl, rfl⟩

/-- A new manager waits for no reconnection, and is neither paused nor destroyed. -/
theorem Setup.state_eq (u : Setup) :
    ∃ base max guardian health, u.scene.state =
      { syncEnabled := u.settings.syncEnabled
        streamingEnabled := u.settings.streamingEnabled
        reconnect := { backoff := { base, max } }
        guardian
        health } := State.eq_of_build u.built

/-- Settings whose shortest delay is no longer than the longest make a manager. -/
theorem State.build_of_le {settings : Settings} (h : settings.backoffBase.toNanos ≤ settings.backoffMax.toNanos) (now : Int) :
    State.build settings true true none now =
      .ok {
        syncEnabled := settings.syncEnabled
        streamingEnabled := settings.streamingEnabled
        reconnect := { backoff := { base := settings.backoffBase, max := settings.backoffMax } }
        guardian := { maxSyncPeriod := settings.maxSyncPeriodMillis }
        health := .new now } := by
  unfold State.build
  simp only [Option.getD_none, Bool.not_true, Bool.false_eq_true, if_false, Nat.not_lt.2 h]

/-- A manager of the settings that hold when nothing is said, with a streaming connection. -/
def Setup.standard : Setup where
  settings := {}
  backoff := none
  hasPush := true
  consent := .granted
  steady := 0
  wall := 0
  state := _
  built := State.build_of_le (by decide) _

/-! ## What a turn can be -/

/-- An input that leaves the transports alone: all that may change is what is known of the health and of the last fetch, how far
the loop is, and how much was dropped. -/
structure Scene.Quiet (s : Scene) (i : Input) : Prop where
  hasPush : (s.take i).hasPush = s.hasPush
  state : (s.take i).state =
    { s.state with
      guardian := (s.take i).state.guardian
      health := (s.take i).state.health
      loop := (s.take i).state.loop
      dropped := (s.take i).state.dropped }
  calls : ∀ c ∈ (s.take i).calls, c.isAside = true
  handled : ∀ e, (Turn.mk i s).handled = some e →
    e.isBookkeeping = true ∨ e = .splitLoadedFromCache ∧ s.state.remoteStarted = true
  fired : (Turn.mk i s).fired = false

/-- What a turn can be. -/
inductive Scene.Course (s : Scene) : Input → Prop where
  | quiet {i} (quiet : s.Quiet i) : s.Course i
  | up (live : s.state.isLive = true) : s.Course (.event .pushSubsystemUp)
  | down (live : s.state.isLive = true) : s.Course (.event .pushSubsystemDown)
  | givesUp {e reason} (gives : givesUpFor e = some reason) (live : s.state.isLive = true) : s.Course (.event e)
  | retryableError (live : s.state.isLive = true) : s.Course (.event .pushRetryableError)
  | reset (live : s.state.isLive = true) : s.Course (.event .pushReset)
  | tooLong (live : s.state.isLive = true) : s.Course (.event .uriTooLongOnSync)
  | cacheLoaded (live : s.state.isLive = true) (first : s.state.remoteStarted = false) :
      s.Course (.event .splitLoadedFromCache)
  | pause (live : s.state.isLive = true) : s.Course .pause
  | resume (there : s.state.stopped = false) (paused : s.state.paused = true) : s.Course .resume
  | destroy (there : s.state.stopped = false) : s.Course .destroy
  | timer {id} (pending : (s.state.reconnect.timers.wake id).1.isSome = true) : s.Course (.timer id)

namespace Scene

variable {s : Scene}

section Kept

variable {i : Input} (q : s.Quiet i)
include q

theorem Quiet.reconnect : (s.take i).state.reconnect = s.state.reconnect := by
  rw [q.state]

theorem Quiet.reconnectDeferred : (s.take i).state.reconnectDeferred = s.state.reconnectDeferred := by
  rw [q.state]

theorem Quiet.paused : (s.take i).state.paused = s.state.paused := by
  rw [q.state]

theorem Quiet.stopped : (s.take i).state.stopped = s.state.stopped := by
  rw [q.state]

theorem Quiet.polling : (s.take i).state.polling = s.state.polling := by
  rw [q.state]

theorem Quiet.streaming : (s.take i).state.streaming = s.state.streaming := by
  rw [q.state]

theorem Quiet.streamingStopped : (s.take i).state.streamingStopped = s.state.streamingStopped := by
  rw [q.state]

theorem Quiet.remoteStarted : (s.take i).state.remoteStarted = s.state.remoteStarted := by
  rw [q.state]

end Kept

/-- A turn is quiet when what it leaves behind is. -/
theorem quiet_of_eq {i : Input} {s' : Scene} (h : s.take i = s') (hasPush : s'.hasPush = s.hasPush)
    (state : s'.state =
      { s.state with
        guardian := s'.state.guardian
        health := s'.state.health
        loop := s'.state.loop
        dropped := s'.state.dropped })
    (calls : ∀ c ∈ s'.calls, c.isAside = true)
    (handled : ∀ e, (Turn.mk i s).handled = some e →
      e.isBookkeeping = true ∨ e = .splitLoadedFromCache ∧ s.state.remoteStarted = true)
    (fired : (Turn.mk i s).fired = false) : s.Quiet i := by
  subst h
  exact ⟨hasPush, state, calls, handled, fired⟩

/-- An event that comes during a pause, or to a destroyed manager, is not acted on. -/
theorem quiet_event (h : s.state.isLive = false) (e : StatusEvent) : s.Quiet (.event e) := by
  have handled : ∀ e', (Turn.mk (.event e) s).handled = some e' →
      e'.isBookkeeping = true ∨ e' = .splitLoadedFromCache ∧ s.state.remoteStarted = true := by
    intro e' he
    simp [Turn.handled, h] at he
  rcases s.state.standing with hs | ⟨hs, hp⟩ | hl
  · exact quiet_of_eq (take_event_stopped hs e) rfl rfl (by simp [Call.isAside]) handled rfl
  · exact quiet_of_eq (take_event_paused hs hp e) rfl rfl (by simp [Call.isAside]) handled rfl
  · rw [hl] at h
    cases h

theorem handled_event (h : s.state.isLive = true) (e : StatusEvent) : (Turn.mk (.event e) s).handled = some e := by
  simp [Turn.handled, h]

/-- What is handled came in, and the manager was live. -/
theorem of_handled {i : Input} {e : StatusEvent} (h : (Turn.mk i s).handled = some e) :
    i = .event e ∧ s.state.isLive = true := by
  cases i with
  | event e' =>
    cases hl : s.state.isLive with
    | false => simp [Turn.handled, hl] at h
    | true =>
      rw [handled_event hl] at h
      cases h
      exact ⟨rfl, rfl⟩
  | _ => cases h

/-- The course of an event: most are acted on unless the manager is paused or destroyed. -/
theorem course_event (e : StatusEvent) : s.Course (.event e) := by
  cases hl : s.state.isLive with
  | false => exact .quiet (quiet_event hl e)
  | true =>
    cases e with
    | pushSubsystemUp => exact .up hl
    | pushSubsystemDown => exact .down hl
    | pushSubsystemDisabled => exact .givesUp rfl hl
    | pushRetryableError => exact .retryableError hl
    | pushNonRetryableError => exact .givesUp rfl hl
    | pushReset => exact .reset hl
    | pushDelayReceived seconds =>
      refine .quiet (quiet_of_eq (take_pushDelayReceived hl seconds) rfl rfl (by simp [Call.isAside]) ?_ rfl)
      intro e he
      rw [handled_event hl] at he
      cases he
      exact .inl rfl
    | syncExecuted =>
      refine .quiet (quiet_of_eq (take_syncExecuted hl) rfl rfl (by simp [Call.isAside]) ?_ rfl)
      intro e he
      rw [handled_event hl] at he
      cases he
      exact .inl rfl
    | uriTooLongOnSync => exact .tooLong hl
    | splitLoadedFromCache =>
      cases hr : s.state.remoteStarted with
      | false => exact .cacheLoaded hl hr
      | true =>
        refine .quiet (quiet_of_eq (take_splitLoadedFromCache_again hl hr) rfl rfl (by simp [Call.isAside]) ?_ rfl)
        intro e he
        rw [handled_event hl] at he
        cases he
        exact .inr ⟨rfl, hr⟩

/-- The course of a start: it is quiet, for the transports are chosen later. -/
theorem quiet_start : s.Quiet .start := by
  by_cases hl : s.state.loop = .waiting
  · cases hs : s.state.stopped with
    | false => exact quiet_of_eq (take_start hl hs) rfl rfl (by simp [Call.isAside]) nofun rfl
    | true => exact quiet_of_eq (take_start_stopped hl hs) rfl rfl (by simp) nofun rfl
  · exact quiet_of_eq (take_start_again hl) rfl rfl (by simp) nofun rfl

/-- The user's answer has nothing to do with the transports. -/
theorem quiet_setConsent (consent : Consent) : s.Quiet (.setConsent consent) := by
  cases hs : s.state.stopped with
  | false => exact quiet_of_eq (take_setConsent hs consent) rfl rfl (by simp [Call.isAside]) nofun rfl
  | true => exact quiet_of_eq (take_setConsent_stopped hs consent) rfl rfl (by simp) nofun rfl

/-- A timer that is not pending when it runs out does nothing. -/
theorem quiet_timer {id : Nat} (h : (s.state.reconnect.timers.wake id).1 = none) : s.Quiet (.timer id) := by
  have hw : (s.state.reconnect.timers.wake id).2 = s.state.reconnect.timers := by
    unfold TimerTable.wake at h ⊢
    split at h
    · rfl
    · cases h
  have ht := take_timer (s := s) id
  rw [h, hw] at ht
  exact quiet_of_eq ht rfl rfl (by simp) nofun (by simp [Turn.fired, h])

/-- Each turn takes one of the courses. -/
theorem course (s : Scene) (i : Input) : s.Course i := by
  cases i with
  | start => exact .quiet quiet_start
  | event e => exact course_event e
  | pause =>
    cases hl : s.state.isLive with
    | false => exact .quiet (quiet_of_eq (take_pause_idle hl) rfl rfl (by simp) nofun rfl)
    | true => exact .pause hl
  | resume =>
    cases hs : s.state.stopped with
    | true => exact .quiet (quiet_of_eq (take_resume_idle (.inl hs)) rfl rfl (by simp) nofun rfl)
    | false =>
      cases hp : s.state.paused with
      | false => exact .quiet (quiet_of_eq (take_resume_idle (.inr hp)) rfl rfl (by simp) nofun rfl)
      | true => exact .resume hs hp
  | destroy =>
    cases hs : s.state.stopped with
    | true => exact .quiet (quiet_of_eq (take_destroy_again hs) rfl rfl (by simp) nofun rfl)
    | false => exact .destroy hs
  | setConsent consent => exact .quiet (quiet_setConsent consent)
  | answer consent => exact .quiet (quiet_of_eq (take_answer consent) rfl rfl (by simp) nofun rfl)
  | timer id =>
    cases hw : (s.state.reconnect.timers.wake id).1 with
    | none => exact .quiet (quiet_timer hw)
    | some task => exact .timer (by rw [hw]; rfl)
  | advance d => exact .quiet (quiet_of_eq (take_advance d) rfl rfl (by simp) nofun rfl)
  | setClock wall => exact .quiet (quiet_of_eq (take_setClock wall) rfl rfl (by simp) nofun rfl)

/-- What a manager is put together from stays as it is. -/
theorem take_fixed (s : Scene) (i : Input) :
    (s.take i).hasPush = s.hasPush ∧ (s.take i).state.syncEnabled = s.state.syncEnabled ∧
      (s.take i).state.streamingEnabled = s.state.streamingEnabled := by
  cases s.course i with
  | quiet q => rw [q.hasPush, q.state]; exact ⟨rfl, rfl, rfl⟩
  | up live => rw [take_pushSubsystemUp live]; exact ⟨rfl, rfl, rfl⟩
  | down live => rw [take_pushSubsystemDown live]; exact ⟨rfl, rfl, rfl⟩
  | givesUp gives live => rw [take_givesUp gives live]; exact ⟨rfl, rfl, rfl⟩
  | retryableError live => rw [take_pushRetryableError live]; exact ⟨rfl, rfl, rfl⟩
  | reset live => rw [take_pushReset live]; exact ⟨rfl, rfl, rfl⟩
  | tooLong live => rw [take_uriTooLongOnSync live]; exact ⟨rfl, rfl, rfl⟩
  | cacheLoaded live first => rw [take_splitLoadedFromCache live first]; exact ⟨rfl, rfl, rfl⟩
  | pause live => rw [take_pause live]; exact ⟨rfl, rfl, rfl⟩
  | resume there paused => rw [take_resume there paused]; exact ⟨rfl, rfl, rfl⟩
  | destroy there => rw [take_destroy there]; exact ⟨rfl, rfl, rfl⟩
  | timer pending => rw [take_timer]; exact ⟨rfl, rfl, rfl⟩

theorem after_hasPush (s : Scene) (later : List Input) : (s.after later).hasPush = s.hasPush := by
  induction later with
  | nil => rfl
  | cons i later ih => exact ((s.after later).take_fixed i).1.trans ih

/-- A manager is destroyed when it is told so, and stays so. -/
theorem take_stopped (s : Scene) (i : Input) :
    (s.take i).state.stopped = true ↔ s.state.stopped = true ∨ i = .destroy := by
  cases s.course i with
  | quiet q =>
    rw [q.stopped]
    refine ⟨.inl, ?_⟩
    rintro (h | rfl)
    · exact h
    · cases hs : s.state.stopped with
      | true => rfl
      | false => rw [← hs, ← q.stopped, take_destroy hs]
  | up live => rw [take_pushSubsystemUp live]; simp
  | down live => rw [take_pushSubsystemDown live]; simp
  | givesUp gives live => rw [take_givesUp gives live]; simp
  | retryableError live => rw [take_pushRetryableError live]; simp
  | reset live => rw [take_pushReset live]; simp
  | tooLong live => rw [take_uriTooLongOnSync live]; simp
  | cacheLoaded live first => rw [take_splitLoadedFromCache live first]; simp
  | pause live => rw [take_pause live]; simp
  | resume there paused => rw [take_resume there paused]; simp
  | destroy there => rw [take_destroy there]; simp
  | timer pending => rw [take_timer]; simp

/-- Fetching begins when the announcement of the cache is acted on. -/
theorem take_remoteStarted (s : Scene) (i : Input) :
    (s.take i).state.remoteStarted = true ↔
      s.state.remoteStarted = true ∨ (Turn.mk i s).handled = some .splitLoadedFromCache := by
  cases s.course i with
  | quiet q =>
    rw [q.remoteStarted]
    refine ⟨.inl, ?_⟩
    rintro (started | he)
    · exact started
    · rcases q.handled _ he with record | ⟨-, started⟩
      · cases record
      · exact started
  | up live => rw [take_pushSubsystemUp live]; simp [handled_event live]
  | down live => rw [take_pushSubsystemDown live]; simp [handled_event live]
  | @givesUp e _ gives live =>
    have other : e ≠ .splitLoadedFromCache := by
      rintro rfl
      cases gives
    rw [take_givesUp gives live]
    simp [handled_event live, other]
  | retryableError live => rw [take_pushRetryableError live]; simp [handled_event live]
  | reset live => rw [take_pushReset live]; simp [handled_event live]
  | tooLong live => rw [take_uriTooLongOnSync live]; simp [handled_event live]
  | cacheLoaded live first => rw [take_splitLoadedFromCache live first]; simp [handled_event live]
  | pause live => rw [take_pause live]; simp [Turn.handled]
  | resume there paused => rw [take_resume there paused]; simp [Turn.handled]
  | destroy there => rw [take_destroy there]; simp [Turn.handled]
  | timer pending => rw [take_timer]; simp [Turn.handled]

end Scene

/-- Fetching has begun when the announcement of the cache was ever acted on. -/
theorem Setup.remoteStarted_iff (u : Setup) (inputs : List Input) :
    (u.after inputs).state.remoteStarted = true ↔ ∃ t ∈ u.turns inputs, t.handled = some .splitLoadedFromCache := by
  induction inputs with
  | nil =>
    obtain ⟨base, max, guardian, health, h⟩ := u.state_eq
    rw [u.after_nil, u.turns_nil, h]
    simp
  | cons i past ih =>
    rw [u.after_cons, u.turns_cons, Scene.take_remoteStarted, ih]
    simp only [List.mem_cons, exists_eq_or_imp]
    exact or_comm

/-- A manager is destroyed exactly when it was ever told so. -/
theorem Setup.stopped_iff (u : Setup) (inputs : List Input) : (u.after inputs).state.stopped = true ↔ .destroy ∈ inputs := by
  induction inputs with
  | nil =>
    obtain ⟨base, max, guardian, health, h⟩ := u.state_eq
    rw [u.after_nil, h]
    simp
  | cons i past ih =>
    rw [u.after_cons, Scene.take_stopped, ih, List.mem_cons, or_comm, eq_comm]

/-- A manager has the connection and the switches that it was put together with. -/
theorem Setup.fixed (u : Setup) (inputs : List Input) :
    (u.after inputs).hasPush = u.hasPush ∧ (u.after inputs).state.syncEnabled = u.settings.syncEnabled ∧
      (u.after inputs).state.streamingEnabled = u.settings.streamingEnabled := by
  induction inputs with
  | nil =>
    obtain ⟨base, max, guardian, health, h⟩ := u.state_eq
    rw [u.after_nil, h]
    exact ⟨rfl, rfl, rfl⟩
  | cons i past ih =>
    have h := (u.after past).take_fixed i
    rw [u.after_cons]
    exact ⟨h.1.trans ih.1, h.2.1.trans ih.2.1, h.2.2.trans ih.2.2⟩

end FlagKeeper.Manager
