import FlagKeeper.Proofs.Manager.Reconnection

/-!
# No gap between transports

A manager that may fetch and has a streaming connection is on some transport from the first announcement of the cache on, or is
about to be: it polls, it streams, it waits to reconnect, or it has told the connection to start and nothing since has ended that.

`IsCovered` says this with the past in place of the timer, so that pauses do not matter to it; that a reconnection is wanted means
that it is pending once the manager is live.
-/

namespace FlagKeeper.Manager

/-- Whether an order makes or ends the connection. The others let it rest for a while. -/
def connects : PushOrder → Bool
  | .start => true
  | .stop => true
  | .disconnect => true
  | .pause => false
  | .resume => false

/-- The last order that made or ended the connection. -/
def lastConnection (calls : List Call) : Option PushOrder := (pushes calls).find? connects

/-- A manager is on a transport or about to be. -/
def IsCovered (past : List Turn) (s : Scene) : Prop :=
  s.state.polling = true ∨ s.state.streaming = true ∨ isWanted past = true ∨ lastConnection (callsOf past) = some .start

theorem lastConnection_cons {past : List Turn} {t : Turn} :
    lastConnection (callsOf (t :: past)) = (lastConnection t.calls).or (lastConnection (callsOf past)) := by
  rw [lastConnection, pushes_callsOf_cons, List.find?_append]
  rfl

section Steps

variable {past : List Turn} {t : Turn} {s : Scene}

/-- A turn that leaves the transports and the connection alone. -/
theorem IsCovered.keeps (h : IsCovered past t.before) (idle : t.Idle) (polling : t.after.state.polling = t.before.state.polling)
    (streaming : t.after.state.streaming = t.before.state.streaming) (orders : lastConnection t.calls = none) :
    IsCovered (t :: past) t.after := by
  unfold IsCovered
  rw [polling, streaming, idle.isWanted, lastConnection_cons, orders]
  exact h

/-- A turn that starts the connection. -/
theorem isCovered_of_start (orders : pushes t.calls = [.start]) : IsCovered (t :: past) t.after := by
  refine .inr (.inr (.inr ?_))
  rw [lastConnection_cons, lastConnection, orders]
  rfl

/-- The first announcement of the cache covers a manager that may fetch and has a connection. -/
theorem isCovered_cacheLoaded (connected : s.hasPush = true) (syncs : s.state.syncEnabled = true) (live : s.state.isLive = true)
    (first : s.state.remoteStarted = false) :
    IsCovered (⟨.event .splitLoadedFromCache, s⟩ :: past) (s.take (.event .splitLoadedFromCache)) := by
  have e := take_splitLoadedFromCache live first
  cases hs : s.state.streamingEnabled with
  | true =>
    refine isCovered_of_start (t := ⟨.event .splitLoadedFromCache, s⟩) ?_
    show pushes (s.take (.event .splitLoadedFromCache)).calls = _
    rw [e]
    simp [connected, syncs, hs]
  | false =>
    refine .inl ?_
    rw [e]
    simp [State.pollsFirst, connected, syncs, hs]

/-- Every turn keeps a manager covered, unless it finds the address too long, or destroys it. -/
theorem isCovered_take {b : Backoff} {i : Input} (awaits : Awaits b past s) (connected : s.hasPush = true)
    (syncs : s.state.syncEnabled = true) (fits : (Turn.mk i s).handled ≠ some .uriTooLongOnSync)
    (there : (s.take i).state.stopped = false) (h : s.state.remoteStarted = true → IsCovered past s)
    (started : (s.take i).state.remoteStarted = true) : IsCovered (⟨i, s⟩ :: past) (s.take i) := by
  cases s.course i with
  | quiet q =>
    refine IsCovered.keeps (t := ⟨i, s⟩) (h (q.remoteStarted ▸ started)) q.idle q.polling q.streaming ?_
    rw [lastConnection]
    exact congrArg (List.find? connects) (aside q.calls).1
  | up live => exact .inr (.inl (by rw [take_pushSubsystemUp live]))
  | down live => exact .inl (by rw [take_pushSubsystemDown live])
  | givesUp gives live => exact .inl (by rw [take_givesUp gives live])
  | retryableError live => exact .inl (by rw [take_pushRetryableError live])
  | reset live =>
    have cancels : (Turn.mk (.event .pushReset) s).cancels = false := cancels_event live _
    have asks : (Turn.mk (.event .pushReset) s).asks = true := asks_event live _
    refine .inr (.inr (.inl ?_))
    rw [isWanted_cons, cancels, asks]
    rfl
  | tooLong live => exact (fits (Scene.handled_event live _)).elim
  | cacheLoaded live first => exact isCovered_cacheLoaded connected syncs live first
  | pause live =>
    have e := take_pause live
    have before : s.state.remoteStarted = true := (congrArg (·.state.remoteStarted) e).symm.trans started
    refine IsCovered.keeps (t := ⟨.pause, s⟩) (h before) (Turn.idle_of_none rfl rfl) (congrArg (·.state.polling) e)
      (congrArg (·.state.streaming) e) ((congrArg (fun s => lastConnection s.calls) e).trans ?_)
    cases s.hasPush <;> cases hs : s.state.streamingStopped <;> simp [lastConnection, hs, connects]
  | resume stands paused =>
    have e := take_resume stands paused
    have before : s.state.remoteStarted = true := (congrArg (·.state.remoteStarted) e).symm.trans started
    refine IsCovered.keeps (t := ⟨.resume, s⟩) (h before) (Turn.idle_of_none rfl rfl) (congrArg (·.state.polling) e)
      (congrArg (·.state.streaming) e) ((congrArg (fun s => lastConnection s.calls) e).trans ?_)
    cases s.hasPush <;> cases hs : s.state.streamingStopped <;> simp [lastConnection, hs, connects]
  | destroy stands =>
    rw [take_destroy stands] at there
    cases there
  | @timer id pending =>
    obtain ⟨-, -, -, -, live, -⟩ := awaits.fires pending
    refine isCovered_of_start (t := ⟨.timer id, s⟩) ?_
    show pushes (s.take (.timer id)).calls = _
    rw [take_timer, pending, live, connected]
    rfl

end Steps

/-- A manager that may fetch and has a connection is covered from the first announcement of the cache on. -/
theorem Setup.isCovered (u : Setup) (connected : u.hasPush = true) (syncs : u.settings.syncEnabled = true) (inputs : List Input)
    (there : (u.after inputs).state.stopped = false) (fits : ∀ t ∈ u.turns inputs, t.handled ≠ some .uriTooLongOnSync)
    (started : (u.after inputs).state.remoteStarted = true) : IsCovered (u.turns inputs) (u.after inputs) := by
  induction inputs with
  | nil =>
    obtain ⟨t, ht, -⟩ := (u.remoteStarted_iff []).1 started
    cases ht
  | cons i past ih =>
    obtain ⟨hasPush, syncEnabled, -⟩ := u.fixed past
    obtain ⟨fit, fits⟩ := List.forall_mem_cons.1 fits
    have stands : (u.after past).state.stopped = false := by
      rw [← Bool.not_eq_true] at there ⊢
      exact fun h => there ((Scene.take_stopped _ i).2 (.inl h))
    exact isCovered_take (u.awaits past) (hasPush.trans connected) (syncEnabled.trans syncs) fit there (ih stands fits) started

/-- A manager that may fetch and has a streaming connection is never without a transport: after any inputs, if the announcement of
the cache was handled, no address was found too long, and the manager is neither paused nor destroyed, then it polls, or it
streams, or a reconnection is pending, or the last order that made or ended the connection was to start it. -/
theorem no_transport_gap (u : Setup) (connected : u.hasPush = true) (syncs : u.settings.syncEnabled = true)
    (inputs : List Input) (loaded : ∃ t ∈ u.turns inputs, t.handled = some .splitLoadedFromCache)
    (fits : ∀ t ∈ u.turns inputs, t.handled ≠ some .uriTooLongOnSync) (unpaused : (u.after inputs).state.paused = false)
    (there : (u.after inputs).state.stopped = false) :
    (u.after inputs).state.polling = true ∨ (u.after inputs).state.streaming = true ∨
      (u.after inputs).state.reconnect.isScheduled = true ∨
      lastConnection (callsOf (u.turns inputs)) = some .start := by
  have live : (u.after inputs).state.isLive = true := by
    rw [State.isLive, there, unpaused]
    rfl
  rcases u.isCovered connected syncs inputs there fits ((u.remoteStarted_iff inputs).2 loaded) with
    polls | streams | wanted | started
  · exact .inl polls
  · exact .inr (.inl streams)
  · refine .inr (.inr (.inl ?_))
    rw [(u.awaits inputs).isScheduled, (u.fixed inputs).1, connected, live, wanted]
    rfl
  · exact .inr (.inr (.inr started))

/-- A reset takes streaming away without turning to polling; then a reconnection is pending. -/
theorem no_transport_gap_reset :
    let inputs : List Input := [.event .pushReset, .event .pushSubsystemUp, .event .splitLoadedFromCache, .start]
    (Setup.standard.after inputs).state.polling = true ∨ (Setup.standard.after inputs).state.streaming = true ∨
      (Setup.standard.after inputs).state.reconnect.isScheduled = true ∨
      lastConnection (callsOf (Setup.standard.turns inputs)) = some .start :=
  no_transport_gap Setup.standard rfl rfl [.event .pushReset, .event .pushSubsystemUp, .event .splitLoadedFromCache, .start]
    (by decide +kernel) (by decide +kernel) (by decide +kernel) (by decide +kernel)

end FlagKeeper.Manager
