import FlagKeeper.Proofs.Manager.History
import Mathlib.Data.List.Chain

/-!
# The transport that a manager is on

A manager keeps two marks, that it polls and that it streams. The synchronizer is told to fetch periodically or to stop that, and
telemetry is told of every change. The statement of this file says that the marks agree with the last that either was told.

`Agrees` is what every turn keeps. A turn leaves the transport alone, turns to polling, turns to streaming, or ends both; for each
there is one lemma about `Agrees`.
-/

namespace FlagKeeper.Manager

/-- What is kept about the transport of a manager with some past. -/
structure Agrees (past : List Turn) (s : Scene) : Prop where
  /-- A manager polls when the synchronizer was last told to fetch periodically. -/
  polling : s.state.polling = true ↔ (fetchings (callsOf past)).head? = some true
  /-- It is not told so twice in a row. -/
  once : (fetchings (callsOf past)).IsChain fun later earlier => later = true → earlier = false
  /-- When a manager polls, telemetry was last told of polling. -/
  pollingMode : s.state.polling = true → (modes (callsOf past)).head? = some .polling
  /-- When a manager streams that does not poll from the start, it does not poll, and telemetry was last told of streaming. -/
  streamingMode : s.state.pollsFirst s.hasPush = false → s.state.streaming = true →
    s.state.polling = false ∧ (modes (callsOf past)).head? = some .streaming

/-- Whether a manager polls from the start is settled when it is put together. -/
theorem Scene.take_pollsFirst (s : Scene) (i : Input) :
    (s.take i).state.pollsFirst (s.take i).hasPush = s.state.pollsFirst s.hasPush := by
  obtain ⟨hasPush, syncEnabled, streamingEnabled⟩ := s.take_fixed i
  rw [State.pollsFirst, hasPush, syncEnabled, streamingEnabled, State.pollsFirst]

namespace Agrees

variable {past : List Turn} {t : Turn}

/-- A turn that leaves the transport alone; streaming may end. -/
theorem keeps (h : Agrees past t.before) (fetching : fetchings t.calls = []) (mode : modes t.calls = [])
    (polling : t.after.state.polling = t.before.state.polling)
    (streaming : t.after.state.streaming = true → t.before.state.streaming = true) : Agrees (t :: past) t.after := by
  have sameFetching : fetchings (callsOf (t :: past)) = fetchings (callsOf past) := by
    rw [fetchings_callsOf_cons, fetching, List.nil_append]
  have sameMode : modes (callsOf (t :: past)) = modes (callsOf past) := by
    rw [modes_callsOf_cons, mode, List.nil_append]
  refine ⟨?_, ?_, ?_, ?_⟩
  · rw [polling, sameFetching]
    exact h.polling
  · rw [sameFetching]
    exact h.once
  · rw [polling, sameMode]
    exact h.pollingMode
  · intro first on
    rw [polling, sameMode]
    exact h.streamingMode ((t.before.take_pollsFirst t.input).symm.trans first) (streaming on)

/-- A turn that turns to polling, unless the manager polls already. -/
theorem turnsToPolling (h : Agrees past t.before)
    (fetching : fetchings t.calls = if t.before.state.polling then [] else [true])
    (mode : modes t.calls = if t.before.state.polling then [] else [.polling])
    (polling : t.after.state.polling = true)
    (streaming : t.after.state.pollsFirst t.after.hasPush = false → t.after.state.streaming = false) :
    Agrees (t :: past) t.after := by
  have off : t.after.state.pollsFirst t.after.hasPush = false → t.after.state.streaming = true →
      t.after.state.polling = false ∧ (modes (callsOf (t :: past))).head? = some .streaming := by
    intro first on
    rw [streaming first] at on
    cases on
  cases hp : t.before.state.polling with
  -- The manager polls already: nobody is told again.
  | true =>
    rw [hp, if_pos rfl] at fetching mode
    refine ⟨?_, ?_, fun _ => ?_, off⟩
    · rw [fetchings_callsOf_cons, fetching]
      exact iff_of_true polling (h.polling.1 hp)
    · rw [fetchings_callsOf_cons, fetching]
      exact h.once
    · rw [modes_callsOf_cons, mode]
      exact h.pollingMode hp
  | false =>
    rw [hp, if_neg Bool.false_ne_true] at fetching mode
    have stopped : (fetchings (callsOf past)).head? ≠ some true := by
      rw [Ne, ← h.polling, hp]
      exact Bool.false_ne_true
    refine ⟨?_, ?_, fun _ => ?_, off⟩
    · rw [fetchings_callsOf_cons, fetching]
      exact iff_of_true polling rfl
    · rw [fetchings_callsOf_cons, fetching, List.singleton_append]
      refine List.IsChain.cons h.once ?_
      intro earlier he _
      cases earlier with
      | true => exact (stopped he).elim
      | false => rfl
    · rw [modes_callsOf_cons, mode]
      rfl

/-- A turn that stops polling. -/
theorem stopsPolling (h : Agrees past t.before) (fetching : fetchings t.calls = [false])
    (polling : t.after.state.polling = false)
    (streaming : t.after.state.streaming = true → (modes t.calls).head? = some .streaming) : Agrees (t :: past) t.after := by
  refine ⟨?_, ?_, fun on => ?_, fun _ on => ⟨polling, ?_⟩⟩
  · rw [fetchings_callsOf_cons, fetching, polling]
    exact ⟨nofun, nofun⟩
  · rw [fetchings_callsOf_cons, fetching, List.singleton_append]
    exact List.IsChain.cons h.once nofun
  · rw [polling] at on
    cases on
  · rw [modes_callsOf_cons, List.head?_append, streaming on]
    rfl

variable {s : Scene}

/-- An event that only turns a live manager to polling. -/
theorem event_turnsToPolling {e : StatusEvent} {reason : String} (h : Agrees past s) (others : List Call)
    (polling : (s.take (.event e)).state.polling = true) (streaming : (s.take (.event e)).state.streaming = false)
    (calls : (s.take (.event e)).calls = others ++ (pollingCalls s.state reason ++ [.event e]))
    (fetching : fetchings others = []) (mode : modes others = []) : Agrees (⟨.event e, s⟩ :: past) (s.take (.event e)) := by
  refine turnsToPolling (t := ⟨.event e, s⟩) h ?_ ?_ polling fun _ => streaming
  · show fetchings (s.take (.event e)).calls = _
    rw [calls]
    simp [fetching]
  · show modes (s.take (.event e)).calls = _
    rw [calls]
    simp [mode]

/-- The first announcement of the cache turns to polling if the manager polls from the start. -/
theorem cacheLoaded (h : Agrees past s) (live : s.state.isLive = true) (first : s.state.remoteStarted = false) :
    Agrees (⟨.event .splitLoadedFromCache, s⟩ :: past) (s.take (.event .splitLoadedFromCache)) := by
  have e := take_splitLoadedFromCache live first
  have fetching : fetchings (s.take (.event .splitLoadedFromCache)).calls =
      if s.state.pollsFirst s.hasPush && !s.state.polling then [true] else [] := by
    rw [e]
    simp
  have mode : modes (s.take (.event .splitLoadedFromCache)).calls =
      if s.state.pollsFirst s.hasPush && !s.state.polling then [.polling] else [] := by
    rw [e]
    simp
  have polling : (s.take (.event .splitLoadedFromCache)).state.polling =
      (s.state.polling || s.state.pollsFirst s.hasPush) := congrArg (·.state.polling) e
  cases hf : s.state.pollsFirst s.hasPush with
  | false =>
    simp only [hf, Bool.false_and, Bool.false_eq_true, if_false, Bool.or_false] at fetching mode polling
    refine keeps (t := ⟨.event .splitLoadedFromCache, s⟩) h fetching mode polling fun on => ?_
    exact (congrArg (·.state.streaming) e).symm.trans on
  | true =>
    simp only [hf, Bool.true_and, Bool.or_true] at fetching mode polling
    refine turnsToPolling (t := ⟨.event .splitLoadedFromCache, s⟩) h ?_ ?_ polling fun streams => ?_
    · refine Eq.trans fetching ?_
      cases s.state.polling <;> rfl
    · refine Eq.trans mode ?_
      cases s.state.polling <;> rfl
    · rw [← s.take_pollsFirst (.event .splitLoadedFromCache)] at hf
      exact (Bool.false_ne_true (streams.symm.trans hf)).elim

/-- Every turn keeps it. -/
theorem step (h : Agrees past s) (i : Input) : Agrees (⟨i, s⟩ :: past) (s.take i) := by
  cases s.course i with
  | quiet q =>
    obtain ⟨-, mode, fetching⟩ := aside q.calls
    exact keeps (t := ⟨i, s⟩) h fetching mode q.polling fun on => q.streaming ▸ on
  | up live =>
    have e := take_pushSubsystemUp live
    exact stopsPolling (t := ⟨_, s⟩) h (congrArg (fun s => fetchings s.calls) e) (congrArg (·.state.polling) e)
      fun _ => congrArg (fun s => (modes s.calls).head?) e
  | down live =>
    have e := take_pushSubsystemDown live
    exact h.event_turnsToPolling [] (congrArg (·.state.polling) e) (congrArg (·.state.streaming) e)
      (congrArg Scene.calls e) rfl rfl
  | givesUp gives live =>
    have e := take_givesUp gives live
    exact h.event_turnsToPolling _ (congrArg (·.state.polling) e) (congrArg (·.state.streaming) e) (congrArg Scene.calls e)
      (fetchings_pushCalls .stop) (modes_pushCalls .stop)
  | retryableError live =>
    have e := take_pushRetryableError live
    exact h.event_turnsToPolling _ (congrArg (·.state.polling) e) (congrArg (·.state.streaming) e) (congrArg Scene.calls e)
      (fetchings_reconnectCalls _) (modes_reconnectCalls _)
  | reset live =>
    have e := take_pushReset live
    refine keeps (t := ⟨_, s⟩) h ((congrArg (fun s => fetchings s.calls) e).trans (by simp))
      ((congrArg (fun s => modes s.calls) e).trans (by simp)) (congrArg (·.state.polling) e) fun on => ?_
    cases (congrArg (·.state.streaming) e).symm.trans on
  | tooLong live =>
    have e := take_uriTooLongOnSync live
    refine stopsPolling (t := ⟨_, s⟩) h ((congrArg (fun s => fetchings s.calls) e).trans (by simp))
      (congrArg (·.state.polling) e) fun on => ?_
    cases (congrArg (·.state.streaming) e).symm.trans on
  | cacheLoaded live first => exact h.cacheLoaded live first
  | pause live =>
    have e := take_pause live
    exact keeps (t := ⟨_, s⟩) h ((congrArg (fun s => fetchings s.calls) e).trans (by simp))
      ((congrArg (fun s => modes s.calls) e).trans (by simp)) (congrArg (·.state.polling) e)
      fun on => (congrArg (·.state.streaming) e).symm.trans on
  | resume there paused =>
    have e := take_resume there paused
    exact keeps (t := ⟨_, s⟩) h ((congrArg (fun s => fetchings s.calls) e).trans (by simp))
      ((congrArg (fun s => modes s.calls) e).trans (by simp)) (congrArg (·.state.polling) e)
      fun on => (congrArg (·.state.streaming) e).symm.trans on
  | destroy there =>
    have e := take_destroy there
    exact keeps (t := ⟨_, s⟩) h ((congrArg (fun s => fetchings s.calls) e).trans (by simp))
      ((congrArg (fun s => modes s.calls) e).trans (by simp)) (congrArg (·.state.polling) e)
      fun on => (congrArg (·.state.streaming) e).symm.trans on
  | @timer id pending =>
    have e := take_timer (s := s) id
    exact keeps (t := ⟨_, s⟩) h ((congrArg (fun s => fetchings s.calls) e).trans (by simp))
      ((congrArg (fun s => modes s.calls) e).trans (by simp)) (congrArg (·.state.polling) e)
      fun on => (congrArg (·.state.streaming) e).symm.trans on

end Agrees

/-- A manager always keeps it. -/
theorem Setup.agrees (u : Setup) (inputs : List Input) : Agrees (u.turns inputs) (u.after inputs) := by
  refine u.always ?_ (fun _ _ i h => h.step i) inputs
  obtain ⟨base, max, guardian, health, built⟩ := u.state_eq
  refine ⟨?_, .nil, ?_, ?_⟩
  · rw [built]
    exact ⟨nofun, nofun⟩
  · rw [built]
    exact nofun
  · rw [built]
    exact nofun

/-- What a manager is on, what the synchronizer was told and what telemetry was told agree, whatever the manager is put together
from and whatever comes in.

1. A manager polls exactly when the last that the synchronizer was told of periodic fetching is to start it.
2. The synchronizer is not told to start periodic fetching twice without being told to stop it in between.
3. When a manager polls, the last transport that telemetry was told of is polling.
4. If there is a streaming connection and streaming is enabled, or fetching is not allowed, a manager never polls and streams at
   once, and when it streams, the last transport that telemetry was told of is streaming. -/
theorem transport_agrees (u : Setup) (inputs : List Input) :
    ((u.after inputs).state.polling = true ↔ (fetchings (callsOf (u.turns inputs))).head? = some true) ∧
    ((fetchings (callsOf (u.turns inputs))).IsChain fun later earlier => later = true → earlier = false) ∧
    ((u.after inputs).state.polling = true → (modes (callsOf (u.turns inputs))).head? = some .polling) ∧
    (u.hasPush = true ∧ u.settings.streamingEnabled = true ∨ u.settings.syncEnabled = false →
      ¬((u.after inputs).state.streaming = true ∧ (u.after inputs).state.polling = true) ∧
        ((u.after inputs).state.streaming = true → (modes (callsOf (u.turns inputs))).head? = some .streaming)) := by
  have h := u.agrees inputs
  refine ⟨h.polling, h.once, h.pollingMode, fun separate => ?_⟩
  have first : (u.after inputs).state.pollsFirst (u.after inputs).hasPush = false := by
    obtain ⟨hasPush, syncEnabled, streamingEnabled⟩ := u.fixed inputs
    rw [State.pollsFirst, hasPush, syncEnabled, streamingEnabled]
    rcases separate with ⟨connected, streams⟩ | single
    · rw [connected, streams]
      simp
    · rw [single]
      rfl
  refine ⟨?_, fun streams => (h.streamingMode first streams).2⟩
  rintro ⟨streams, polls⟩
  rw [(h.streamingMode first streams).1] at polls
  cases polls

end FlagKeeper.Manager
