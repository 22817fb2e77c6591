import FlagKeeper.Manager.Basic

/-!
# A manager on a plain host

The manager is a program over any host. Here its host is as plain as can be: every call is written down and succeeds, the clocks
show what they are set to, and the synchronizer says of the user's answer what it was last told. What can happen to a manager is
an `Input`, and `Scene.take` runs the manager's own program for it. Inputs come one at a time, as the manager serves them.

The statements say what each program leaves behind, from the bottom up: the `run` lemmas for the parts of a program, and the
`take` lemmas for an input. The loop of the manager hands the events that wait over one by one (`serveNext_event`).
-/

namespace FlagKeeper.Manager

/-- What a manager does that shows outside. -/
inductive Call where
  | synchronizer (command : Synchronizer.Command)
  | push (order : PushOrder)
  | mode (mode : SyncMode)
  | event (event : StatusEvent)
  | log (record : LifeRecord)

/-- A manager and its plain host. -/
structure Scene where
  hasPush : Bool
  state : State
  inbox : Channel StatusEvent := {}
  /-- What the synchronizer says the user allows. -/
  consent : Consent
  /-- Counts nanoseconds from some start. -/
  steady : Nat := 0
  /-- Counts nanoseconds from the epoch. -/
  wall : Int
  /-- The calls that the last input led to, the latest first. -/
  calls : List Call := []

/-- Programs on the plain host. -/
abbrev Plain := StateM Scene

/-- Writes a call down. -/
def writeDown (c : Call) : Plain Unit := modify fun s => { s with calls := c :: s.calls }

/-- The manager on the plain host, with or without a streaming connection. -/
def plain (hasPush : Bool) : Manager Plain where
  state := { get := return (← get).state, set := fun st => modify fun s => { s with state := st } }
  inbox := { get := return (← get).inbox, set := fun inbox => modify fun s => { s with inbox } }
  synchronizer := fun command => do
    writeDown (.synchronizer command)
    match command with
    | .setConsent consent => modify fun s => { s with consent }
    | _ => return ()
  consent := return (← get).consent
  push := if hasPush then some fun order => writeDown (.push order) else none
  telemetry :=
    { impressions := fun _ _ => return ()
      events := fun _ _ => return ()
      syncMode := fun mode => writeDown (.mode mode)
      streamingEvent := fun event => writeDown (.event event) }
  log := fun record => writeDown (.log record)
  clocks := { steady := return (← get).steady, wall := return (← get).wall }

/-- What can happen to a manager. -/
inductive Input where
  | start
  /-- The loop of the manager hands a status event over. -/
  | event (e : StatusEvent)
  | pause
  | resume
  | destroy
  | setConsent (consent : Consent)
  /-- The synchronizer learns of the user's answer from somewhere else. -/
  | answer (consent : Consent)
  /-- A timer of the manager runs out. -/
  | timer (id : Nat)
  /-- Time passes. -/
  | advance (d : Duration)
  /-- The wall clock is set. -/
  | setClock (wall : Int)

/-- What a manager does about an input. -/
def Input.program (g : Manager Plain) : Input → Plain Unit
  | .start => g.start
  | .event e => g.handleEvent e
  | .pause => g.pause
  | .resume => g.resume
  | .destroy => g.destroy
  | .setConsent consent => g.setConsent consent
  | .answer consent => modify fun s => { s with consent }
  | .timer id => do if ← g.timerOver id then g.reconnectDue
  | .advance d => modify fun s => { s with steady := s.steady + d.toNanos, wall := s.wall + d.toNanos }
  | .setClock wall => modify fun s => { s with wall }

/-- The scene after an input. -/
def Scene.take (s : Scene) (i : Input) : Scene := ((i.program (plain s.hasPush)).run { s with calls := [] }).2

/-- The second that the wall clock shows. -/
def Scene.secs (s : Scene) : Int := s.wall / 1000000000

/-- The millisecond that the wall clock shows. -/
def Scene.millis (s : Scene) : Int := s.wall / 1000000

/-- Whether a resume fetches everything: it may, it has begun to, and the last fetch is too long ago. -/
def Scene.mustCatchUp (s : Scene) : Bool := s.state.syncEnabled && s.state.remoteStarted && s.state.guardian.mustSync s.millis

/-- Whether a manager acts on events: it is neither paused nor destroyed. -/
def State.isLive (st : State) : Bool := !st.stopped && !st.paused

theorem State.isLive_iff {st : State} : st.isLive = true ↔ st.stopped = false ∧ st.paused = false := by
  simp [isLive]

/-- A manager is destroyed, paused, or acts on events. -/
theorem State.standing (st : State) : st.stopped = true ∨ (st.stopped = false ∧ st.paused = true) ∨ st.isLive = true := by
  unfold isLive
  cases st.stopped <;> cases st.paused <;> simp

/-- The timer after a reconnection was asked for. -/
def State.rescheduled (st : State) (hasPush : Bool) (now : Nat) : BackoffTimer Unit :=
  if hasPush then (st.reconnect.schedule now ()).2 else st.reconnect

/-! ## The calls that programs make, the latest first -/

/-- Telling the streaming connection, if there is one. -/
def pushCalls (hasPush : Bool) (order : PushOrder) : List Call := if hasPush then [.push order] else []

/-- Telling the streaming connection unless it was given up. -/
def livePushCalls (hasPush : Bool) (st : State) (order : PushOrder) : List Call :=
  if st.streamingStopped then [] else pushCalls hasPush order

/-- Turning to polling, if that is not so already. -/
def pollingCalls (st : State) (reason : String) : List Call :=
  if st.polling then [] else [.log (.modeChanged .polling reason), .mode .polling, .synchronizer .startFetching]

/-- Setting the timer of the reconnection, if there is something to connect and it does not wait already. -/
def reconnectCalls (hasPush : Bool) (st : State) (now : Nat) : List Call :=
  if hasPush then
    match (st.reconnect.schedule now ()).1 with
    | some d => [.log (.reconnectScheduled d.secs)]
    | none => []
  else []

/-- Choosing the transport when fetching begins. -/
def transportCalls (hasPush : Bool) (st : State) : List Call :=
  if !st.syncEnabled then []
  else if hasPush && st.streamingEnabled then [.push .start]
  else pollingCalls st "streaming disabled"

/-- Starting to record, if the user agreed. -/
def recordingCalls (consent : Consent) : List Call := if consent = .granted then [.synchronizer .startRecording] else []

/-- Whether a manager polls from the start: it may fetch, but does not stream. -/
def State.pollsFirst (st : State) (hasPush : Bool) : Bool := st.syncEnabled && !(hasPush && st.streamingEnabled)

/-- The health after the transport was chosen. -/
def State.transportHealth (st : State) (hasPush : Bool) (now : Int) : Health :=
  if !st.syncEnabled then
    (st.health.setDegraded streamingName "sync disabled, single fetch only" now).setDegraded pollingName
      "sync disabled, single fetch only" now
  else if hasPush && st.streamingEnabled then st.health
  else if st.polling then st.health
  else st.health.setHealthy pollingName now

/-- The health after the user's answer was looked up. -/
def consentHealth (consent : Consent) (h : Health) (now : Int) : Health :=
  if consent = .granted then h else h.setDegraded telemetryName "user consent not granted" now

section Parts

variable {p : Bool} {s : Scene}

/-! ## What the parts of the programs leave behind -/

theorem run_bind {α β : Type} (x : Plain α) (f : α → Plain β) : (x >>= f).run s = (f (x.run s).1).run (x.run s).2 := rfl

theorem run_get : ((plain p).state.get).run s = (s.state, s) := rfl

theorem run_modify (f : State → State) : ((plain p).state.modify f).run s = ((), { s with state := f s.state }) := rfl

theorem run_cancelReconnection :
    ((plain p).cancelReconnection).run s =
      ((), { s with state := { s.state with reconnect := s.state.reconnect.cancel } }) := rfl

theorem run_noteDegraded (name reason : String) :
    ((plain p).noteDegraded name reason).run s =
      ((), { s with state := { s.state with health := s.state.health.setDegraded name reason s.secs } }) := rfl

theorem run_tellPush (order : PushOrder) :
    ((plain p).tellPush order).run s = ((), { s with calls := pushCalls p order ++ s.calls }) := by
  cases p <;> rfl

theorem run_tellLivePush (order : PushOrder) :
    ((plain p).tellLivePush order).run s = ((), { s with calls := livePushCalls p s.state order ++ s.calls }) := by
  show ((if (!s.state.streamingStopped) = true then (plain p).tellPush order else pure () : Plain Unit).run s) = _
  unfold livePushCalls
  cases s.state.streamingStopped with
  | true => rfl
  | false => exact run_tellPush order

theorem run_enablePolling (reason : String) :
    ((plain p).enablePolling reason).run s = ((), { s with
      state := { s.state with
        polling := true
        health := if s.state.polling then s.state.health else s.state.health.setHealthy pollingName s.secs }
      calls := pollingCalls s.state reason ++ s.calls }) := by
  cases h : s.state.polling with
  | true =>
    have hs : { s.state with polling := true } = s.state := by rw [← h]
    have hc : pollingCalls s.state reason = [] := by rw [pollingCalls, if_pos h]
    show ((if (!s.state.polling) = true then _ else pure () : Plain Unit).run s) = _
    rw [hc, if_pos rfl, hs, h]
    rfl
  | false =>
    have hc : pollingCalls s.state reason =
        [.log (.modeChanged .polling reason), .mode .polling, .synchronizer .startFetching] := by
      rw [pollingCalls, h]
      rfl
    show ((if (!s.state.polling) = true then _ else pure () : Plain Unit).run s) = _
    rw [hc, h]
    rfl

theorem run_scheduleReconnection :
    ((plain p).scheduleReconnection).run s = ((), { s with
      state := { s.state with reconnect := s.state.rescheduled p s.steady }
      calls := reconnectCalls p s.state s.steady ++ s.calls }) := by
  cases p with
  | false => rfl
  | true =>
    show ((match (s.state.reconnect.schedule s.steady ()).1 with
      | some d => (plain true).log (.reconnectScheduled d.secs)
      | none => return () : Plain Unit).run
        { s with state := { s.state with reconnect := (s.state.reconnect.schedule s.steady ()).2 } }) = _
    unfold reconnectCalls
    cases (s.state.reconnect.schedule s.steady ()).1 <;> rfl

theorem run_takeUpReconnection :
    ((plain p).takeUpReconnection).run s = ((), { s with
      state := { s.state with
        reconnectDeferred := false
        reconnect := if s.state.reconnectDeferred then s.state.rescheduled p s.steady else s.state.reconnect }
      calls := (if s.state.reconnectDeferred then reconnectCalls p s.state s.steady else []) ++ s.calls }) := by
  unfold takeUpReconnection
  rw [run_bind]
  show ((if s.state.reconnectDeferred = true then (plain p).scheduleReconnection else pure () : Plain Unit).run
    { s with state := { s.state with reconnectDeferred := false } }) = _
  cases s.state.reconnectDeferred with
  | false => rfl
  | true => exact run_scheduleReconnection

theorem run_catchUp :
    ((plain p).catchUp).run s =
      (s.mustCatchUp, { s with
        calls := (if s.mustCatchUp then [.synchronizer .synchronizeAll] else []) ++ s.calls }) := by
  show ((do
    if s.mustCatchUp then (plain p).synchronizer .synchronizeAll
    return s.mustCatchUp : Plain Bool).run s) = _
  cases s.mustCatchUp <;> rfl

theorem run_timerOver (id : Nat) :
    ((plain p).timerOver id).run s =
      ((s.state.reconnect.timers.wake id).1.isSome, { s with
        state := { s.state with
          reconnect := { s.state.reconnect with timers := (s.state.reconnect.timers.wake id).2 } } }) := rfl

theorem run_reconnectDue :
    ((plain p).reconnectDue).run s =
      ((), { s with calls := (if s.state.isLive then pushCalls p .start else []) ++ s.calls }) := by
  show ((if s.state.isLive = true then (plain p).tellPush .start else pure () : Plain Unit).run s) = _
  cases s.state.isLive with
  | false => rfl
  | true => exact run_tellPush .start

theorem run_stopStreaming (reason : String) :
    ((plain p).stopStreaming reason).run s = ((), { s with
      state := { s.state with
        reconnect := s.state.reconnect.cancel
        polling := true
        streaming := false
        streamingStopped := true
        health :=
          (if s.state.polling then s.state.health else s.state.health.setHealthy pollingName s.secs).setDegraded
            streamingName reason s.secs }
      calls := pushCalls p .stop ++ (pollingCalls s.state reason ++ s.calls) }) := by
  simp only [stopStreaming, run_bind, run_cancelReconnection, run_modify, run_enablePolling, run_tellPush, run_noteDegraded]
  rfl

theorem run_stopTransports :
    ((plain p).stopTransports).run s = ((), { s with
      state := { s.state with
        reconnect := s.state.reconnect.cancel
        polling := false
        streaming := false
        streamingStopped := true
        health :=
          ((s.state.health.setUnhealthy featureFlagsName tooLongReason s.secs).setUnhealthy streamingName tooLongReason
            s.secs).setUnhealthy pollingName tooLongReason s.secs }
      calls := .log (.transportsStopped tooLongReason) :: .synchronizer .stopFetching :: (pushCalls p .stop ++ s.calls) }) := by
  simp only [stopTransports, run_bind, run_cancelReconnection, run_tellPush]
  rfl

theorem run_chooseTransport :
    ((plain p).chooseTransport).run s = ((), { s with
      state := { s.state with
        polling := s.state.polling || s.state.pollsFirst p
        streamingStopped := s.state.streamingStopped || s.state.pollsFirst p
        health := s.state.transportHealth p s.secs }
      calls := transportCalls p s.state ++ s.calls }) := by
  have hp : (plain p).push.isSome = p := by cases p <;> rfl
  unfold chooseTransport State.pollsFirst State.transportHealth transportCalls
  rw [run_bind, run_get]
  cases s.state.syncEnabled with
  | false =>
    simp only [Bool.not_false, if_true, Bool.false_and, Bool.or_false, List.nil_append]
    rfl
  | true =>
    cases hs : p && s.state.streamingEnabled with
    | true =>
      have hp' : p = true := (Bool.and_eq_true_iff.1 hs).1
      simp only [hp, hs, Bool.not_true, Bool.false_eq_true, if_false, if_true, Bool.and_false, Bool.or_false]
      rw [run_tellPush, hp']
      rfl
    | false =>
      simp only [hp, hs, Bool.not_true, Bool.not_false, Bool.false_eq_true, if_false, Bool.and_true, Bool.or_true, run_bind,
        run_modify, run_enablePolling]
      rfl

theorem run_startRemote (h : s.state.remoteStarted = false) :
    ((plain p).startRemote).run s = ((), { s with
      state := { s.state with
        remoteStarted := true
        polling := s.state.polling || s.state.pollsFirst p
        streamingStopped := s.state.streamingStopped || s.state.pollsFirst p
        health :=
          consentHealth s.consent
            (({ s.state with health := s.state.health.setReady true } : State).transportHealth p s.secs) s.secs }
      calls :=
        recordingCalls s.consent ++ (transportCalls p s.state ++ .synchronizer .synchronizeAll :: s.calls) }) := by
  unfold startRemote recordingCalls consentHealth
  rw [run_bind, run_get]
  simp only [h, Bool.not_false, if_true]
  rw [run_bind, run_modify, run_bind]
  show ((do
    (plain p).chooseTransport
    if (← (plain p).consent) = .granted then (plain p).synchronizer .startRecording
    else (plain p).noteDegraded telemetryName "user consent not granted" : Plain Unit).run
      { s with
        state := { s.state with remoteStarted := true, health := s.state.health.setReady true }
        calls := .synchronizer .synchronizeAll :: s.calls }) = _
  rw [run_bind, run_chooseTransport]
  cases s.consent <;> rfl

theorem run_startRemote_again (h : s.state.remoteStarted = true) : ((plain p).startRemote).run s = ((), s) := by
  unfold startRemote
  rw [run_bind, run_get]
  simp only [h, Bool.not_true, Bool.false_eq_true, if_false]
  rfl

end Parts

/-! ## What a status event leaves behind -/

section Events

/-- Why an event makes a manager give streaming up, if it does. -/
def givesUpFor : StatusEvent → Option String
  | .pushSubsystemDisabled => some "push subsystem disabled"
  | .pushNonRetryableError => some "non retryable streaming error"
  | _ => none

variable {s : Scene}

/-- A live manager acts on an event. -/
theorem take_event (h : s.state.isLive = true) (e : StatusEvent) :
    s.take (.event e) = (((plain s.hasPush).act e).run { s with calls := [.event e] }).2 := by
  obtain ⟨hs, hp⟩ := State.isLive_iff.1 h
  show ((if s.state.stopped = true then pure () else if s.state.paused = true then _ else (plain s.hasPush).act e :
    Plain Unit).run { s with calls := [.event e] }).2 = _
  rw [hs, hp]
  rfl

/-- A destroyed manager only reports an event. -/
theorem take_event_stopped (h : s.state.stopped = true) (e : StatusEvent) :
    s.take (.event e) = { s with calls := [.event e] } := by
  show ((if s.state.stopped = true then pure () else _ : Plain Unit).run { s with calls := [.event e] }).2 = _
  rw [h]
  rfl

/-- A paused manager reports an event, and counts it if it would have been recorded. -/
theorem take_event_paused (hs : s.state.stopped = false) (hp : s.state.paused = true) (e : StatusEvent) :
    s.take (.event e) =
      { s with
        state := { s.state with dropped := if e.isBookkeeping then s.state.dropped + 1 else s.state.dropped }
        calls := [.event e] } := by
  show ((if s.state.stopped = true then pure () else if s.state.paused = true then
    (if e.isBookkeeping = true then (plain s.hasPush).state.modify fun st => { st with dropped := st.dropped + 1 }
      else pure ()) else _ : Plain Unit).run { s with calls := [.event e] }).2 = _
  rw [hs, hp]
  cases e.isBookkeeping <;> rfl

theorem take_pushSubsystemUp (h : s.state.isLive = true) :
    s.take (.event .pushSubsystemUp) =
      { s with
        state := { s.state with
          reconnect := s.state.reconnect.cancel
          polling := false
          streaming := true
          health := (s.state.health.setHealthy streamingName s.secs).setHealthy pollingName s.secs }
        calls := [.log (.modeChanged .streaming "push subsystem up"), .mode .streaming, .synchronizer .stopFetching,
          .synchronizer .synchronizeAll, .event .pushSubsystemUp] } := by
  rw [take_event h]
  rfl

theorem take_pushSubsystemDown (h : s.state.isLive = true) :
    s.take (.event .pushSubsystemDown) =
      { s with
        state := { s.state with
          reconnect := s.state.reconnect.cancel
          polling := true
          streaming := false
          health :=
            if s.state.polling then s.state.health.setDegraded streamingName "push subsystem down" s.secs
            else (s.state.health.setDegraded streamingName "push subsystem down" s.secs).setHealthy pollingName s.secs }
        calls := pollingCalls s.state "push subsystem down" ++ [.event .pushSubsystemDown] } := by
  rw [take_event h]
  simp only [act, run_bind, run_cancelReconnection, run_modify, run_noteDegraded, run_enablePolling]
  rfl

theorem take_givesUp {e : StatusEvent} {reason : String} (he : givesUpFor e = some reason) (h : s.state.isLive = true) :
    s.take (.event e) =
      { s with
        state := { s.state with
          reconnect := s.state.reconnect.cancel
          polling := true
          streaming := false
          streamingStopped := true
          health :=
            (if s.state.polling then s.state.health else s.state.health.setHealthy pollingName s.secs).setDegraded
              streamingName reason s.secs }
        calls := pushCalls s.hasPush .stop ++ (pollingCalls s.state reason ++ [.event e]) } := by
  have ha : (plain s.hasPush).act e = (plain s.hasPush).stopStreaming reason := by
    cases e <;> cases he <;> rfl
  rw [take_event h, ha, run_stopStreaming]
  rfl

theorem take_pushRetryableError (h : s.state.isLive = true) :
    s.take (.event .pushRetryableError) =
      { s with
        state := { s.state with
          reconnect := s.state.rescheduled s.hasPush s.steady
          polling := true
          streaming := false
          health :=
            if s.state.polling then s.state.health.setDegraded streamingName "retryable streaming error" s.secs
            else
              (s.state.health.setDegraded streamingName "retryable streaming error" s.secs).setHealthy pollingName s.secs }
        calls :=
          reconnectCalls s.hasPush s.state s.steady ++
            (pollingCalls s.state "retryable streaming error" ++ [.event .pushRetryableError]) } := by
  rw [take_event h]
  simp only [act, run_bind, run_modify, run_noteDegraded, run_enablePolling, run_scheduleReconnection]
  rfl

theorem take_pushReset (h : s.state.isLive = true) :
    s.take (.event .pushReset) =
      { s with
        state := { s.state with reconnect := s.state.rescheduled s.hasPush s.steady, streaming := false }
        calls :=
          reconnectCalls s.hasPush s.state s.steady ++ (pushCalls s.hasPush .disconnect ++ [.event .pushReset]) } := by
  rw [take_event h]
  simp only [act, run_bind, run_tellPush, run_modify, run_scheduleReconnection]
  rfl

theorem take_pushDelayReceived (h : s.state.isLive = true) (seconds : Int) :
    s.take (.event (.pushDelayReceived seconds)) =
      { s with
        state := { s.state with guardian := s.state.guardian.setPeriod (millisOfSecs seconds) }
        calls := [.event (.pushDelayReceived seconds)] } := by
  rw [take_event h]
  rfl

theorem take_syncExecuted (h : s.state.isLive = true) :
    s.take (.event .syncExecuted) =
      { s with
        state := { s.state with guardian := s.state.guardian.synced s.millis }
        calls := [.event .syncExecuted] } := by
  rw [take_event h]
  rfl

theorem take_uriTooLongOnSync (h : s.state.isLive = true) :
    s.take (.event .uriTooLongOnSync) =
      { s with
        state := { s.state with
          reconnect := s.state.reconnect.cancel
          polling := false
          streaming := false
          streamingStopped := true
          health :=
            ((s.state.health.setUnhealthy featureFlagsName tooLongReason s.secs).setUnhealthy streamingName tooLongReason
              s.secs).setUnhealthy pollingName tooLongReason s.secs }
        calls :=
          .log (.transportsStopped tooLongReason) :: .synchronizer .stopFetching ::
            (pushCalls s.hasPush .stop ++ [.event .uriTooLongOnSync]) } := by
  rw [take_event h, act, run_stopTransports]
  rfl

/-- The first announcement of the cache begins to fetch. -/
theorem take_splitLoadedFromCache (h : s.state.isLive = true) (hr : s.state.remoteStarted = false) :
    s.take (.event .splitLoadedFromCache) =
      { s with
        state := { s.state with
          remoteStarted := true
          polling := s.state.polling || s.state.pollsFirst s.hasPush
          streamingStopped := s.state.streamingStopped || s.state.pollsFirst s.hasPush
          health :=
            consentHealth s.consent
              (({ s.state with health := s.state.health.setReady true } : State).transportHealth s.hasPush s.secs) s.secs }
        calls :=
          recordingCalls s.consent ++
            (transportCalls s.hasPush s.state ++ [.synchronizer .synchronizeAll, .event .splitLoadedFromCache]) } := by
  rw [take_event h]
  exact congrArg Prod.snd (run_startRemote (s := { s with calls := [.event .splitLoadedFromCache] }) hr)

/-- Later announcements of the cache change nothing. -/
theorem take_splitLoadedFromCache_again (h : s.state.isLive = true) (hr : s.state.remoteStarted = true) :
    s.take (.event .splitLoadedFromCache) = { s with calls := [.event .splitLoadedFromCache] } := by
  rw [take_event h]
  exact congrArg Prod.snd (run_startRemote_again (s := { s with calls := [.event .splitLoadedFromCache] }) hr)

end Events

/-! ## What the other inputs leave behind -/

section Others

variable {s : Scene}

theorem take_pause (h : s.state.isLive = true) :
    s.take .pause =
      { s with
        state := { s.state with
          paused := true
          reconnect := s.state.reconnect.suspend.2
          reconnectDeferred := s.state.reconnectDeferred || s.state.reconnect.suspend.1 }
        calls := .log .paused :: .synchronizer .pause :: livePushCalls s.hasPush s.state .pause } := by
  obtain ⟨hs, hp⟩ := State.isLive_iff.1 h
  show (((plain s.hasPush).pause).run { s with calls := [] }).2 = _
  simp only [Manager.pause, run_bind, run_get, hs, hp, Bool.or_false, Bool.false_eq_true, if_false, run_modify, run_tellLivePush,
    List.append_nil]
  rfl

/-- A pause does nothing to a manager that is paused or destroyed. -/
theorem take_pause_idle (h : s.state.isLive = false) : s.take .pause = { s with calls := [] } := by
  have hi : (s.state.stopped || s.state.paused) = true := by
    unfold State.isLive at h
    cases hs : s.state.stopped <;> simp_all
  show (((plain s.hasPush).pause).run { s with calls := [] }).2 = _
  simp only [Manager.pause, run_bind, run_get, hi, if_true]
  rfl

theorem take_resume (hs : s.state.stopped = false) (hp : s.state.paused = true) :
    s.take .resume =
      { s with
        state := { s.state with
          paused := false
          reconnectDeferred := false
          reconnect := if s.state.reconnectDeferred then s.state.rescheduled s.hasPush s.steady else s.state.reconnect }
        calls :=
          .log (.resumed s.mustCatchUp) ::
            ((if s.mustCatchUp then [.synchronizer .synchronizeAll] else []) ++
              ((if s.state.reconnectDeferred then reconnectCalls s.hasPush s.state s.steady else []) ++
                (livePushCalls s.hasPush s.state .resume ++ [.synchronizer .resume]))) } := by
  show (((plain s.hasPush).resume).run { s with calls := [] }).2 = _
  simp only [Manager.resume, run_bind, run_get, hs, hp, Bool.not_true, Bool.or_false, Bool.false_eq_true, if_false, run_modify,
    run_tellLivePush, run_takeUpReconnection, run_catchUp]
  rfl

/-- A resume does nothing to a manager that is not paused, or is destroyed. -/
theorem take_resume_idle (h : s.state.stopped = true ∨ s.state.paused = false) :
    s.take .resume = { s with calls := [] } := by
  have hi : (s.state.stopped || !s.state.paused) = true := by
    rcases h with h | h <;> simp [h]
  show (((plain s.hasPush).resume).run { s with calls := [] }).2 = _
  simp only [Manager.resume, run_bind, run_get, hi, if_true]
  rfl

theorem take_destroy (h : s.state.stopped = false) :
    s.take .destroy =
      { s with
        state := { s.state with
          stopped := true
          reconnect := s.state.reconnect.cancel
          health := s.state.health.setReady false
          shutdownSent := true }
        calls := .log .stopped :: .synchronizer .destroy :: pushCalls s.hasPush .stop } := by
  show (((plain s.hasPush).destroy).run { s with calls := [] }).2 = _
  simp only [Manager.destroy, run_bind, run_get, h, Bool.not_false, if_true, run_modify, run_cancelReconnection, run_tellPush,
    List.append_nil]
  rfl

/-- A manager is destroyed once. -/
theorem take_destroy_again (h : s.state.stopped = true) : s.take .destroy = { s with calls := [] } := by
  show (((plain s.hasPush).destroy).run { s with calls := [] }).2 = _
  simp only [Manager.destroy, run_bind, run_get, h, Bool.not_true, Bool.false_eq_true, if_false]
  rfl

/-- Starting lets the loop run and has the caches loaded. -/
theorem take_start (hl : s.state.loop = .waiting) (hs : s.state.stopped = false) :
    s.take .start =
      { s with
        state := { s.state with loop := .running }
        calls := [.synchronizer (.loadAttributes none), .synchronizer (.loadSegments none), .synchronizer .loadFlags,
          .log (.started s.state.syncEnabled s.state.streamingEnabled)] } := by
  show (((plain s.hasPush).start).run { s with calls := [] }).2 = _
  unfold Manager.start
  rw [run_bind, run_get, if_pos hl, hs]
  rfl

/-- The loop of a destroyed manager ends before it has begun. -/
theorem take_start_stopped (hl : s.state.loop = .waiting) (hs : s.state.stopped = true) :
    s.take .start = { s with state := { s.state with loop := .ended }, inbox := s.inbox.close, calls := [] } := by
  show (((plain s.hasPush).start).run { s with calls := [] }).2 = _
  unfold Manager.start
  rw [run_bind, run_get, if_pos hl, hs]
  rfl

/-- A manager is started once. -/
theorem take_start_again (hl : s.state.loop ≠ .waiting) : s.take .start = { s with calls := [] } := by
  show (((plain s.hasPush).start).run { s with calls := [] }).2 = _
  unfold Manager.start
  rw [run_bind, run_get, if_neg hl]
  rfl

theorem take_setConsent (h : s.state.stopped = false) (consent : Consent) :
    s.take (.setConsent consent) =
      { s with
        state := { s.state with
          health :=
            if consent = .granted then s.state.health.setHealthy telemetryName s.secs
            else s.state.health.setDegraded telemetryName "user consent not granted" s.secs }
        consent
        calls := [.synchronizer (.setConsent consent)] } := by
  show (((plain s.hasPush).setConsent consent).run { s with calls := [] }).2 = _
  unfold Manager.setConsent
  rw [run_bind, run_get, h]
  cases consent <;> rfl

/-- A destroyed manager takes no answer. -/
theorem take_setConsent_stopped (h : s.state.stopped = true) (consent : Consent) :
    s.take (.setConsent consent) = { s with calls := [] } := by
  show (((plain s.hasPush).setConsent consent).run { s with calls := [] }).2 = _
  unfold Manager.setConsent
  rw [run_bind, run_get, h]
  rfl

/-- A timer that runs out gives up its slot; if it was pending and the manager is live, streaming is started. -/
theorem take_timer (id : Nat) :
    s.take (.timer id) =
      { s with
        state := { s.state with
          reconnect := { s.state.reconnect with timers := (s.state.reconnect.timers.wake id).2 } }
        calls :=
          if (s.state.reconnect.timers.wake id).1.isSome && s.state.isLive then pushCalls s.hasPush .start else [] } := by
  show (((plain s.hasPush).timerOver id >>= fun wasPending =>
    if wasPending = true then (plain s.hasPush).reconnectDue else pure ()).run { s with calls := [] }).2 = _
  rw [run_bind, run_timerOver]
  cases (s.state.reconnect.timers.wake id).1.isSome with
  | false => rfl
  | true =>
    rw [if_pos rfl, run_reconnectDue, Bool.true_and, List.append_nil]
    rfl

theorem take_answer (consent : Consent) : s.take (.answer consent) = { s with consent, calls := [] } := rfl

theorem take_advance (d : Duration) :
    s.take (.advance d) = { s with steady := s.steady + d.toNanos, wall := s.wall + d.toNanos, calls := [] } := rfl

theorem take_setClock (wall : Int) : s.take (.setClock wall) = { s with wall, calls := [] } := rfl

/-- A round of a running loop takes the oldest event out and deals with it as with an input. -/
theorem serveNext_event {e : StatusEvent} {rest : List StatusEvent} (running : s.state.loop = .running)
    (unended : s.state.shutdownSent = false) (waits : s.inbox.queue = e :: rest) :
    ((plain s.hasPush).serveNext).run { s with calls := [] } =
      (true, Scene.take { s with inbox := { s.inbox with queue := rest } } (.event e)) := by
  have received : s.inbox.receive = (some e, { s.inbox with queue := rest }) := by
    unfold Channel.receive
    rw [waits]
  have stepped : ((plain s.hasPush).inbox.step Channel.receive).run { s with calls := [] } =
      (some e, { s with inbox := { s.inbox with queue := rest }, calls := [] }) := by
    show (s.inbox.receive.1, { s with inbox := s.inbox.receive.2, calls := [] }) = _
    rw [received]
  show ((if s.state.loop ≠ .running then pure false else if s.state.shutdownSent = true then _ else _ : Plain Bool).run
    { s with calls := [] }) = _
  rw [if_neg (by simp [running]), unended, if_neg Bool.false_ne_true, run_bind, stepped]
  rfl

end Others

end FlagKeeper.Manager
