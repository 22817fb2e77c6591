import FlagKeeper.Proofs.Manager.Reconnection

/-!
# What a pause hides

Events that are handed over during a pause are reported and otherwise left out. The statement of this file compares a pause with
such events and the same pause without them: the manager ends in the same state and tells the parts the same, and only the number
of records that were left out differs. It also says what a pause itself changes: nothing but the timer of a reconnection that was
pending, which is set anew for the next attempt of the series.
-/

namespace FlagKeeper.Manager

/-- A pause that ends, and the events that are handed over meanwhile; the events are given from the first to the last, the inputs
the latest first. -/
def pauseOver (events : List StatusEvent) : List Input := .resume :: ((events.map Input.event).reverse ++ [.pause])

/-- The scene of a manager that has left out some more records. -/
def Scene.leavesOut (s : Scene) (n : Nat) : Scene := { s with state := { s.state with dropped := s.state.dropped + n } }

section Hidden

variable {s : Scene}

/-- Each event that is handed over during a pause is reported, and counted if it would have been recorded. The events are given the
latest first. -/
theorem after_events_paused (there : s.state.stopped = false) (paused : s.state.paused = true) (events : List StatusEvent) :
    (∃ calls, s.after (events.map .event) = { s.leavesOut (events.countP StatusEvent.isBookkeeping) with calls }) ∧
      callsOf (s.turns (events.map .event)) = events.map .event := by
  induction events with
  | nil => exact ⟨⟨s.calls, rfl⟩, rfl⟩
  | cons e past ih =>
    obtain ⟨⟨calls, before⟩, reported⟩ := ih
    have there' : (s.after (past.map .event)).state.stopped = false := by rw [before]; exact there
    have paused' : (s.after (past.map .event)).state.paused = true := by rw [before]; exact paused
    have next := take_event_paused there' paused' e
    constructor
    · refine ⟨[.event e], ?_⟩
      show (s.after (past.map .event)).take (.event e) = _
      rw [next, before, List.countP_cons]
      cases e.isBookkeeping <;> rfl
    · rw [List.map_cons, s.turns_cons, callsOf_cons, reported]
      show ((s.after (past.map .event)).take (.event e)).calls ++ _ = _
      rw [next]
      rfl

/-- A resume takes no notice of what was left out. -/
theorem take_resume_leavesOut (there : s.state.stopped = false) (paused : s.state.paused = true) (n : Nat) (calls : List Call) :
    Scene.take { s.leavesOut n with calls } .resume = (s.take .resume).leavesOut n := by
  rw [take_resume there paused]
  exact take_resume (s := { s.leavesOut n with calls }) there paused

/-- A live manager that was paused and resumed. -/
theorem after_pauseOver_nil (s : Scene) : s.after (pauseOver []) = (s.take .pause).take .resume := rfl

/-- What a pause leaves behind can be resumed. -/
theorem paused_take_pause (live : s.state.isLive = true) :
    (s.take .pause).state.stopped = false ∧ (s.take .pause).state.paused = true := by
  rw [take_pause live]
  exact ⟨(State.isLive_iff.1 live).1, rfl⟩

/-- A pause of a live manager ends in the same state with and without the events that are handed over meanwhile, and leads to the
same calls but for the reports of these. -/
theorem after_pauseOver (live : s.state.isLive = true) (events : List StatusEvent) :
    s.after (pauseOver events) = (s.after (pauseOver [])).leavesOut (events.countP StatusEvent.isBookkeeping) ∧
      callsOf (s.turns (pauseOver events)) =
        (s.after (pauseOver [])).calls ++ ((events.map Call.event).reverse ++ (s.take .pause).calls) := by
  obtain ⟨there, paused⟩ := paused_take_pause live
  obtain ⟨⟨calls, after⟩, reported⟩ := after_events_paused there paused events.reverse
  have first : s.after [.pause] = s.take .pause := rfl
  have ended : s.after (pauseOver events) =
      (s.after (pauseOver [])).leavesOut (events.countP StatusEvent.isBookkeeping) := by
    rw [after_pauseOver_nil, pauseOver, s.after_cons, s.after_append, first, ← List.map_reverse, after,
      take_resume_leavesOut there paused, List.countP_reverse]
  refine ⟨ended, ?_⟩
  have last : (Turn.mk .resume (s.after ((events.map Input.event).reverse ++ [.pause]))).calls =
      (s.after (pauseOver events)).calls := rfl
  have begun : callsOf (s.turns [.pause]) = (s.take .pause).calls := List.append_nil _
  rw [pauseOver, s.turns_cons, callsOf_cons, last, ended, s.turns_append, callsOf_append, begun, first, ← List.map_reverse,
    reported, List.map_reverse]
  rfl

end Hidden

section Pauses

variable {b : Backoff} {past : List Turn} {s : Scene}

/-- Taking away the marks of a pause changes nothing where there are none. -/
theorem Scene.unmarked (unpaused : s.state.paused = false) (unmarked : s.state.reconnectDeferred = false)
    (reconnect : BackoffTimer Unit) (calls : List Call) :
    { s with state := { s.state with reconnect, paused := false, reconnectDeferred := false }, calls } =
      { s with state := { s.state with reconnect }, calls } := by
  obtain ⟨_, st⟩ := s
  cases st
  cases unpaused
  cases unmarked
  rfl

/-- A pause of a live manager changes nothing but the timer of the reconnection: one that was pending is set anew, and the series
goes on by one. -/
theorem after_pause (awaits : Awaits b past s) (live : s.state.isLive = true) :
    s.after (pauseOver []) = { s with
      state := { s.state with reconnect := (s.after (pauseOver [])).state.reconnect }
      calls := (s.after (pauseOver [])).calls } ∧
    (s.after (pauseOver [])).state.reconnect.isScheduled = s.state.reconnect.isScheduled ∧
    (s.after (pauseOver [])).state.reconnect.backoff =
      if s.state.reconnect.isScheduled then s.state.reconnect.backoff.next.2 else s.state.reconnect.backoff := by
  obtain ⟨there, unpaused⟩ := State.isLive_iff.1 live
  obtain ⟨pending, holds, taken⟩ := awaits.slot
  obtain ⟨still, paused⟩ := paused_take_pause live
  have unmarked : s.state.reconnectDeferred = false := by
    rw [awaits.deferred there, unpaused]
    simp
  have emptied := holds.suspend_snd
  have resumed : s.after (pauseOver []) = _ := (after_pauseOver_nil s).trans (take_resume still paused)
  rw [take_pause live] at resumed
  simp only [unmarked, holds.suspend_fst, Bool.false_or] at resumed
  have rest : s.after (pauseOver []) = { s with
      state := { s.state with reconnect := (s.after (pauseOver [])).state.reconnect }
      calls := (s.after (pauseOver [])).calls } := by
    rw [resumed]
    exact Scene.unmarked unpaused unmarked _ _
  refine ⟨rest, ?_⟩
  rw [holds.isScheduled, resumed]
  cases pending with
  | none =>
    refine ⟨emptied.isScheduled, ?_⟩
    rfl
  | some w =>
    have connected : s.hasPush = true := (Bool.and_eq_true_iff.1 (Bool.and_eq_true_iff.1 taken.symm).1).1
    obtain ⟨-, next, set⟩ := emptied.schedule_none s.steady ()
    simp only [Option.isSome_some, if_true, State.rescheduled, connected]
    exact ⟨set.isScheduled, next⟩

/-- The series of attempts goes on by one at the end of a pause exactly if a reconnection was pending. -/
theorem armings_pauseOver (awaits : Awaits b past s) (live : s.state.isLive = true) :
    armings (s.turns (pauseOver []) ++ past) = armings past + if s.state.reconnect.isScheduled then 1 else 0 := by
  obtain ⟨there, unpaused⟩ := State.isLive_iff.1 live
  obtain ⟨pending, holds, taken⟩ := awaits.slot
  obtain ⟨still, paused⟩ := paused_take_pause live
  have emptied : (s.take .pause).state.reconnect.Holds none := by
    rw [take_pause live]
    exact holds.suspend_snd
  have marked : (s.take .pause).state.reconnectDeferred = pending.isSome := by
    rw [take_pause live, awaits.deferred there, unpaused, holds.suspend_fst]
    simp
  have unarmed : (Turn.mk .pause s).armed = none := armed_of_empty emptied
  have armed : (Turn.mk .resume (s.take .pause)).armed.isSome = pending.isSome := by
    have after : (Turn.mk .resume (s.take .pause)).after.state.reconnect = _ :=
      congrArg (·.state.reconnect) (take_resume still paused)
    cases pending with
    | none =>
      rw [marked] at after
      rw [armed_of_same (t := ⟨.resume, s.take .pause⟩) emptied after]
    | some w =>
      have connected : (s.take .pause).hasPush = true := by
        rw [(s.take_fixed .pause).1]
        exact (Bool.and_eq_true_iff.1 (Bool.and_eq_true_iff.1 taken.symm).1).1
      rw [marked, State.rescheduled, connected] at after
      rw [armed_of_schedule (t := ⟨.resume, s.take .pause⟩) emptied after]
      rfl
  have turns : s.turns (pauseOver []) ++ past = ⟨.resume, s.take .pause⟩ :: ⟨.pause, s⟩ :: past := rfl
  rw [turns, armings_of_not_cancels rfl, armings_of_not_cancels rfl, unarmed, armed, holds.isScheduled]
  rfl

/-- The connection of a live manager is paused and resumed, or neither. -/
theorem pushes_pauseOver (live : s.state.isLive = true) :
    pushes (s.take .pause).calls = (if s.hasPush && !s.state.streamingStopped then [.pause] else []) ∧
      pushes (s.after (pauseOver [])).calls = if s.hasPush && !s.state.streamingStopped then [.resume] else [] := by
  obtain ⟨still, paused⟩ := paused_take_pause live
  rw [after_pauseOver_nil, take_resume still paused, take_pause live]
  simp

end Pauses

/-- A pause of a manager that is neither paused nor destroyed hides what is handed over meanwhile, and changes nothing by itself but
the timer of the reconnection:

1. With and without the events, the pause ends in the same state, except for the number of records that were left out.
2. With and without the events, the parts are told the same, except that each event is reported.
3. Of the state, the pause itself changes at most the timer of the reconnection.
4. A reconnection is pending after the pause exactly if one was before it. If so, the series of its attempts goes on by one, as far
   as attempts can be counted, and otherwise it stays as it is.
5. The connection is told to pause exactly if it is told to resume, once each. -/
theorem pause_hides (u : Setup) (inputs : List Input) (live : (u.after inputs).state.isLive = true) (events : List StatusEvent) :
    let s := u.after inputs
    let t := s.after (pauseOver [])
    let waited := s.state.reconnect.isScheduled
    s.after (pauseOver events) = t.leavesOut (events.countP StatusEvent.isBookkeeping) ∧
    (callsOf (s.turns (pauseOver [])) = t.calls ++ (s.take .pause).calls ∧
      callsOf (s.turns (pauseOver events)) = t.calls ++ ((events.map Call.event).reverse ++ (s.take .pause).calls)) ∧
    t = { s with state := { s.state with reconnect := t.state.reconnect }, calls := t.calls } ∧
    (t.state.reconnect.isScheduled = waited ∧
      armings (u.turns (pauseOver [] ++ inputs)) = armings (u.turns inputs) + (if waited then 1 else 0) ∧
      t.state.reconnect.backoff =
        { s.state.reconnect.backoff with
          attempt := min (s.state.reconnect.backoff.attempt + if waited then 1 else 0) largest32 }) ∧
    (pushes (s.take .pause).calls = [.pause] ∧ pushes t.calls = [.resume] ∨
      pushes (s.take .pause).calls = [] ∧ pushes t.calls = []) := by
  intro s t waited
  have awaits := u.awaits inputs
  obtain ⟨same, told⟩ := after_pauseOver live events
  obtain ⟨rest, scheduled, backoff⟩ := after_pause awaits live
  refine ⟨same, ⟨(after_pauseOver live []).2, told⟩, rest, ⟨scheduled, ?_, ?_⟩, ?_⟩
  · have turns : u.turns (pauseOver [] ++ inputs) = s.turns (pauseOver []) ++ u.turns inputs := u.scene.turns_append _ _
    rw [turns]
    exact armings_pauseOver awaits live
  · have counted := awaits.attempt (State.isLive_iff.1 live).1
    rw [backoff]
    by_cases waits : s.state.reconnect.isScheduled = true
    · rw [if_pos waits, if_pos waits]
      rfl
    · have most : s.state.reconnect.backoff.attempt ≤ largest32 := counted ▸ Nat.min_le_right _ _
      rw [if_neg waits, if_neg waits, Nat.add_zero, Nat.min_eq_left most]
  · obtain ⟨paused, resumed⟩ := pushes_pauseOver live
    rw [paused, resumed]
    by_cases on : (s.hasPush && !s.state.streamingStopped) = true
    · exact .inl ⟨if_pos on, if_pos on⟩
    · exact .inr ⟨if_neg on, if_neg on⟩

/-- A pause while a reconnection is pending, during which everything is said to be fine again, ends as if nothing had been said. -/
theorem pause_hides_up :
    (Setup.standard.after [.event .pushRetryableError, .event .splitLoadedFromCache, .start]).state.isLive = true ∧
    (Setup.standard.after
      (pauseOver [.syncExecuted, .pushSubsystemUp, .pushDelayReceived 5] ++
        [.event .pushRetryableError, .event .splitLoadedFromCache, .start])).state =
      { (Setup.standard.after
          (pauseOver [] ++ [.event .pushRetryableError, .event .splitLoadedFromCache, .start])).state with dropped := 2 } := by
  have live : (Setup.standard.after [.event .pushRetryableError, .event .splitLoadedFromCache, .start]).state.isLive = true := by
    decide +kernel
  have hidden := (pause_hides Setup.standard [.event .pushRetryableError, .event .splitLoadedFromCache, .start] live
    [.syncExecuted, .pushSubsystemUp, .pushDelayReceived 5]).1
  exact ⟨live, congrArg Scene.state hidden⟩

end FlagKeeper.Manager
