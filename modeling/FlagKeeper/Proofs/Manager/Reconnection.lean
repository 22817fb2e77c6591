import FlagKeeper.Proofs.Manager.History
import FlagKeeper.Proofs.Timing.BackoffTimer

/-!
# When a reconnection is pending

The timer of the reconnection is set by two events, called off by five, taken away by a pause, set again by a resume, and goes off
by itself. The statement of this file says what follows from the past alone: when a reconnection is pending, what a firing does,
and how long each wait is.

`Awaits` is what every turn keeps. It joins the slot of the timer, the mark that a pause leaves, and the count of the attempts with
the past. For each thing that a turn can do to the timer there is one lemma about `Awaits`: it is left alone, called off, asked
for, paused, resumed, destroyed, or goes off.
-/

namespace FlagKeeper.Manager

/-- Whether an event calls a reconnection off. -/
def callsOff : StatusEvent → Bool
  | .pushSubsystemUp => true
  | .pushSubsystemDown => true
  | .pushSubsystemDisabled => true
  | .pushNonRetryableError => true
  | .uriTooLongOnSync => true
  | _ => false

/-- Whether an event asks for a reconnection. -/
def asksFor : StatusEvent → Bool
  | .pushRetryableError => true
  | .pushReset => true
  | _ => false

/-- What only updates records does not concern the reconnection. -/
theorem unconcerned_of_isBookkeeping {e : StatusEvent} (h : e.isBookkeeping = true) : callsOff e = false ∧ asksFor e = false := by
  cases e <;> simp_all [StatusEvent.isBookkeeping, callsOff, asksFor]

/-- No event both asks for a reconnection and calls it off. -/
theorem callsOff_of_asksFor {e : StatusEvent} (h : asksFor e = true) : callsOff e = false := by
  cases e <;> simp_all [callsOff, asksFor]

/-- Giving streaming up calls the reconnection off. -/
theorem callsOff_of_givesUpFor {e : StatusEvent} {reason : String} (h : givesUpFor e = some reason) : callsOff e = true := by
  cases e <;> cases h <;> rfl

namespace Turn

/-- Whether an event was handled that calls a reconnection off. -/
def cancels (t : Turn) : Bool := t.handled.any callsOff

/-- Whether an event was handled that asks for a reconnection. -/
def asks (t : Turn) : Bool := t.handled.any asksFor

/-- The wait that began at a turn, if one did: it is newer than all before it. -/
def armed (t : Turn) : Option (Sleeper Unit) :=
  t.after.state.reconnect.timers.sleepers.find? fun w => t.before.state.reconnect.timers.nextId ≤ w.id

end Turn

/-- Whether a reconnection was asked for since it was last called off and since the timer last went off. -/
def isWanted (past : List Turn) : Bool := (past.takeWhile fun t => !t.cancels && !t.fired).any Turn.asks

/-- How many waits began since a reconnection was last called off. -/
def armings (past : List Turn) : Nat := (past.takeWhile fun t => !t.cancels).countP fun t => t.armed.isSome

section Past

variable {past : List Turn} {t : Turn}

theorem isWanted_cons : isWanted (t :: past) = (!t.cancels && !t.fired && (t.asks || isWanted past)) := by
  unfold isWanted
  rw [List.takeWhile_cons]
  cases !t.cancels && !t.fired <;> simp

/-- A turn that calls a reconnection off ends the series. -/
theorem armings_of_cancels (h : t.cancels = true) : armings (t :: past) = 0 := by
  simp [armings, h]

/-- Another turn goes on with the series. -/
theorem armings_of_not_cancels (h : t.cancels = false) :
    armings (t :: past) = armings past + if t.armed.isSome then 1 else 0 := by
  simp [armings, h, List.countP_cons]

end Past

/-! ## The waits that begin at a turn -/

section Armed

variable {t : Turn} {pending : Option (Sleeper Unit)}

/-- No wait begins while the timer is left alone. -/
theorem armed_of_same (h : t.before.state.reconnect.Holds pending)
    (same : t.after.state.reconnect = t.before.state.reconnect) : t.armed = none := by
  unfold Turn.armed
  rw [same, h.sleepers, List.find?_eq_none]
  intro w hw
  have := h.old w (by simpa using hw)
  simpa using this

/-- No wait begins when none is left. -/
theorem armed_of_empty (h : t.after.state.reconnect.Holds none) : t.armed = none := by
  unfold Turn.armed
  rw [h.sleepers]
  rfl

/-- Setting the timer begins a wait if none is pending. -/
theorem armed_of_schedule (h : t.before.state.reconnect.Holds none) {now : Nat}
    (set : t.after.state.reconnect = (t.before.state.reconnect.schedule now ()).2) :
    t.armed = some (t.before.state.reconnect.nextSleeper now ()) := by
  unfold Turn.armed
  rw [set, (h.schedule_none now ()).2.2.sleepers]
  simp [BackoffTimer.nextSleeper]

/-- Asking for a reconnection changes nothing if there is nothing to connect or one is pending. -/
theorem rescheduled_cases {st : State} (h : st.reconnect.Holds pending) (p : Bool) (now : Nat) :
    (p = false ∨ pending.isSome = true) ∧ st.rescheduled p now = st.reconnect ∨
      p = true ∧ pending = none ∧ st.rescheduled p now = (st.reconnect.schedule now ()).2 := by
  unfold State.rescheduled
  cases p with
  | false => exact .inl ⟨.inl rfl, rfl⟩
  | true =>
    cases pending with
    | none => exact .inr ⟨rfl, rfl, rfl⟩
    | some w =>
      rw [h.schedule_some now ()]
      exact .inl ⟨.inr rfl, rfl⟩

/-- A wait that begins when the timer is set lasts for the delay of the series, and is reported. -/
theorem armed_of_rescheduled (h : t.before.state.reconnect.Holds pending) {now : Nat}
    (set : t.after.state.reconnect = t.before.state.rescheduled t.before.hasPush now)
    (told : ∀ c ∈ reconnectCalls t.before.hasPush t.before.state now, c ∈ t.calls) {w : Sleeper Unit} (hw : t.armed = some w) :
    w = t.before.state.reconnect.nextSleeper now () ∧
      Call.log (.reconnectScheduled t.before.state.reconnect.backoff.delay.secs) ∈ t.calls := by
  rcases rescheduled_cases h t.before.hasPush now with ⟨-, same⟩ | ⟨connected, rfl, new⟩
  · rw [armed_of_same h (set.trans same)] at hw
    cases hw
  · rw [armed_of_schedule h (set.trans new)] at hw
    refine ⟨(Option.some.inj hw).symm, told _ ?_⟩
    rw [reconnectCalls, if_pos connected, (h.schedule_none now ()).1]
    exact List.mem_singleton_self _

end Armed

/-! ## What every turn keeps -/

/-- What is kept about the reconnection of a manager with some past. The shortest and the longest delay are those of `b`. -/
structure Awaits (b : Backoff) (past : List Turn) (s : Scene) : Prop where
  /-- The slot of the timer is taken exactly when a reconnection is wanted and the manager is live. -/
  slot : ∃ pending, s.state.reconnect.Holds pending ∧ pending.isSome = (s.hasPush && s.state.isLive && isWanted past)
  /-- A pause leaves its mark when a reconnection is wanted. -/
  deferred : s.state.stopped = false → s.state.reconnectDeferred = (s.hasPush && s.state.paused && isWanted past)
  base : s.state.reconnect.backoff.base = b.base
  max : s.state.reconnect.backoff.max = b.max
  /-- The attempts are the waits since a reconnection was last called off, as far as they can be counted. -/
  attempt : s.state.stopped = false → s.state.reconnect.backoff.attempt = min (armings past) largest32

/-- A turn at which nothing happens that concerns the reconnection. -/
structure Turn.Idle (t : Turn) : Prop where
  cancels : t.cancels = false
  asks : t.asks = false
  fired : t.fired = false

theorem Turn.Idle.isWanted {t : Turn} (h : t.Idle) (past : List Turn) : isWanted (t :: past) = isWanted past := by
  rw [isWanted_cons, h.cancels, h.asks, h.fired]
  rfl

namespace Awaits

variable {b : Backoff} {past : List Turn} {t : Turn}

/-- A turn that leaves the timer alone. -/
theorem keeps (h : Awaits b past t.before) (idle : t.Idle) (hasPush : t.after.hasPush = t.before.hasPush)
    (reconnect : t.after.state.reconnect = t.before.state.reconnect)
    (deferred : t.after.state.reconnectDeferred = t.before.state.reconnectDeferred)
    (paused : t.after.state.paused = t.before.state.paused) (stopped : t.after.state.stopped = t.before.state.stopped) :
    Awaits b (t :: past) t.after := by
  obtain ⟨pending, holds, taken⟩ := h.slot
  have live : t.after.state.isLive = t.before.state.isLive := by
    unfold State.isLive
    rw [paused, stopped]
  refine ⟨⟨pending, reconnect ▸ holds, ?_⟩, fun there => ?_, reconnect ▸ h.base, reconnect ▸ h.max, fun there => ?_⟩
  · rw [idle.isWanted, hasPush, live, taken]
  · rw [idle.isWanted, hasPush, paused, deferred, h.deferred (stopped ▸ there)]
  · rw [armings_of_not_cancels idle.cancels, armed_of_same holds reconnect, reconnect, h.attempt (stopped ▸ there)]
    rfl

/-- A turn that asks for the reconnection of a live manager, or takes up one that was put off. -/
theorem askedFor (h : Awaits b past t.before) (cancels : t.cancels = false) (wanted : isWanted (t :: past) = true)
    (there : t.before.state.stopped = false) (hasPush : t.after.hasPush = t.before.hasPush) {now : Nat}
    (reconnect : t.after.state.reconnect = t.before.state.rescheduled t.before.hasPush now)
    (deferred : t.after.state.reconnectDeferred = false) (live : t.after.state.isLive = true) :
    Awaits b (t :: past) t.after := by
  obtain ⟨pending, holds, taken⟩ := h.slot
  have unpaused : t.after.state.paused = false := (State.isLive_iff.1 live).2
  have off : t.after.state.reconnectDeferred = (t.after.hasPush && t.after.state.paused && isWanted (t :: past)) := by
    simp [deferred, unpaused]
  rcases rescheduled_cases holds t.before.hasPush now with ⟨idle, same⟩ | ⟨connected, rfl, set⟩
  -- Nothing is set: there is nothing to connect, or a wait goes on that began before.
  · rw [same] at reconnect
    refine ⟨⟨pending, reconnect ▸ holds, ?_⟩, fun _ => off, reconnect ▸ h.base, reconnect ▸ h.max, fun _ => ?_⟩
    · rw [hasPush, live, wanted]
      rcases idle with unconnected | waits
      · simp [taken, unconnected]
      · have connected : t.before.hasPush = true := by
          rw [waits] at taken
          exact (Bool.and_eq_true_iff.1 (Bool.and_eq_true_iff.1 taken.symm).1).1
        simp [waits, connected]
    · rw [armings_of_not_cancels cancels, armed_of_same holds reconnect, reconnect, h.attempt there]
      rfl
  -- A wait begins, and the series goes on by one.
  · rw [set] at reconnect
    obtain ⟨-, next, held⟩ := holds.schedule_none now ()
    refine ⟨⟨_, reconnect ▸ held, ?_⟩, fun _ => off, ?_, ?_, fun _ => ?_⟩
    · simp [hasPush, connected, live, wanted]
    · rw [reconnect, next]
      exact h.base
    · rw [reconnect, next]
      exact h.max
    · rw [armings_of_not_cancels cancels, armed_of_schedule holds reconnect, reconnect, next,
        Backoff.attempt_next (h.attempt there)]
      rfl

/-- A reconnection is pending when it is wanted, there is something to connect, and the manager is live. -/
theorem isScheduled {s : Scene} (h : Awaits b past s) :
    s.state.reconnect.isScheduled = (s.hasPush && s.state.isLive && isWanted past) := by
  obtain ⟨pending, holds, taken⟩ := h.slot
  rw [holds.isScheduled, taken]

/-- What is known when the timer goes off: the reconnection is wanted, and the manager is live. -/
theorem fires {s : Scene} {id : Nat} (h : Awaits b past s) (pending : (s.state.reconnect.timers.wake id).1.isSome = true) :
    ∃ w, s.state.reconnect.Holds (some w) ∧ w.id = id ∧ s.hasPush = true ∧ s.state.isLive = true ∧ isWanted past = true := by
  obtain ⟨slot, holds, taken⟩ := h.slot
  by_cases hid : ∀ w ∈ slot, w.id ≠ id
  · rw [holds.wake_of_ne hid] at pending
    cases pending
  · obtain ⟨w, hw, he⟩ : ∃ w, w ∈ slot ∧ w.id = id := by simpa using hid
    cases hw
    have all := Bool.and_eq_true_iff.1 (Bool.and_eq_true_iff.1 taken.symm).1
    exact ⟨w, holds, he, all.1, all.2, (Bool.and_eq_true_iff.1 taken.symm).2⟩

end Awaits

section Steps

variable {b : Backoff} {past : List Turn} {s : Scene}

theorem cancels_event (live : s.state.isLive = true) (e : StatusEvent) : (Turn.mk (.event e) s).cancels = callsOff e := by
  unfold Turn.cancels
  rw [Scene.handled_event live]
  rfl

theorem asks_event (live : s.state.isLive = true) (e : StatusEvent) : (Turn.mk (.event e) s).asks = asksFor e := by
  unfold Turn.asks
  rw [Scene.handled_event live]
  rfl

/-- A turn is idle if what is handled at it does not concern the reconnection, and it is not a firing. -/
theorem Turn.idle_of_unconcerned {t : Turn}
    (handled : ∀ e, t.handled = some e → callsOff e = false ∧ asksFor e = false) (fired : t.fired = false) : t.Idle := by
  refine ⟨?_, ?_, fired⟩
  · unfold Turn.cancels
    cases he : t.handled with
    | none => rfl
    | some e => exact (handled e he).1
  · unfold Turn.asks
    cases he : t.handled with
    | none => rfl
    | some e => exact (handled e he).2

/-- A turn is idle if nothing is handled at it and it is not a firing. -/
theorem Turn.idle_of_none {t : Turn} (handled : t.handled = none) (fired : t.fired = false) : t.Idle := by
  refine Turn.idle_of_unconcerned ?_ fired
  rw [handled]
  exact nofun

/-- A quiet turn is idle. -/
theorem Scene.Quiet.idle {i : Input} (q : s.Quiet i) : (Turn.mk i s).Idle := by
  refine Turn.idle_of_unconcerned ?_ q.fired
  intro e he
  rcases q.handled e he with record | ⟨rfl, -⟩
  · exact unconcerned_of_isBookkeeping record
  · exact ⟨rfl, rfl⟩

end Steps

namespace Awaits

variable {b : Backoff} {past : List Turn} {s : Scene}

/-- An event that calls the reconnection off. -/
theorem calledOff {e : StatusEvent} (h : Awaits b past s) (live : s.state.isLive = true) (off : callsOff e = true)
    (reconnect : (s.take (.event e)).state.reconnect = s.state.reconnect.cancel)
    (deferred : (s.take (.event e)).state.reconnectDeferred = s.state.reconnectDeferred) :
    Awaits b (⟨.event e, s⟩ :: past) (s.take (.event e)) := by
  obtain ⟨there, unpaused⟩ := State.isLive_iff.1 live
  obtain ⟨pending, holds, -⟩ := h.slot
  have cancels : (Turn.mk (.event e) s).cancels = true := (cancels_event live e).trans off
  have unwanted : isWanted (⟨.event e, s⟩ :: past) = false := by
    rw [isWanted_cons, cancels]
    rfl
  refine ⟨⟨none, reconnect ▸ holds.cancel, ?_⟩, fun _ => ?_, reconnect ▸ h.base, reconnect ▸ h.max, fun _ => ?_⟩
  · simp [unwanted]
  · simp [unwanted, deferred, h.deferred there, unpaused]
  · rw [armings_of_cancels cancels, reconnect]
    rfl

/-- An event that asks for a reconnection. -/
theorem event_askedFor {e : StatusEvent} (h : Awaits b past s) (live : s.state.isLive = true) (asked : asksFor e = true)
    (reconnect : (s.take (.event e)).state.reconnect = s.state.rescheduled s.hasPush s.steady)
    (deferred : (s.take (.event e)).state.reconnectDeferred = s.state.reconnectDeferred)
    (still : (s.take (.event e)).state.isLive = s.state.isLive) :
    Awaits b (⟨.event e, s⟩ :: past) (s.take (.event e)) := by
  obtain ⟨there, unpaused⟩ := State.isLive_iff.1 live
  have cancels : (Turn.mk (.event e) s).cancels = false := (cancels_event live e).trans (callsOff_of_asksFor asked)
  have wanted : isWanted (⟨.event e, s⟩ :: past) = true := by
    rw [isWanted_cons, cancels, asks_event live, asked]
    rfl
  have unmarked : s.state.reconnectDeferred = false := by
    rw [h.deferred there, unpaused]
    simp
  exact askedFor (t := ⟨.event e, s⟩) h cancels wanted there (s.take_fixed _).1 reconnect (deferred.trans unmarked)
    (still.trans live)

/-- A pause takes the timer away and leaves its mark. -/
theorem pause (h : Awaits b past s) (live : s.state.isLive = true) : Awaits b (⟨.pause, s⟩ :: past) (s.take .pause) := by
  obtain ⟨there, unpaused⟩ := State.isLive_iff.1 live
  obtain ⟨pending, holds, taken⟩ := h.slot
  have idle : (Turn.mk .pause s).Idle := Turn.idle_of_none rfl rfl
  have last : (Turn.mk .pause s).armed = none := by
    refine armed_of_empty ?_
    show (s.take .pause).state.reconnect.Holds none
    rw [take_pause live]
    exact holds.suspend_snd
  rw [take_pause live]
  refine ⟨⟨none, holds.suspend_snd, ?_⟩, fun _ => ?_, h.base, h.max, fun _ => ?_⟩
  · simp [State.isLive]
  · show (s.state.reconnectDeferred || s.state.reconnect.suspend.1) = (s.hasPush && true && _)
    rw [idle.isWanted, h.deferred there, unpaused, holds.suspend_fst, taken, live]
    simp
  · rw [armings_of_not_cancels idle.cancels, last]
    exact h.attempt there

/-- A resume sets the timer again if the pause took it away. -/
theorem resume (h : Awaits b past s) (there : s.state.stopped = false) (paused : s.state.paused = true) :
    Awaits b (⟨.resume, s⟩ :: past) (s.take .resume) := by
  have idle : (Turn.mk .resume s).Idle := Turn.idle_of_none rfl rfl
  have deferred := h.deferred there
  rw [paused, Bool.and_true] at deferred
  cases hd : s.state.reconnectDeferred with
  | true =>
    rw [hd] at deferred
    have set : (s.take .resume).state.reconnect = s.state.rescheduled s.hasPush s.steady := by
      rw [take_resume there paused]
      exact if_pos hd
    refine askedFor (t := ⟨.resume, s⟩) h idle.cancels ?_ there (s.take_fixed .resume).1 set ?_ ?_
    · rw [idle.isWanted]
      exact (Bool.and_eq_true_iff.1 deferred.symm).2
    · show (s.take .resume).state.reconnectDeferred = _
      rw [take_resume there paused]
    · show (s.take .resume).state.isLive = _
      rw [take_resume there paused]
      simp [State.isLive, there]
  | false =>
    obtain ⟨pending, holds, taken⟩ := h.slot
    have same : (s.take .resume).state.reconnect = s.state.reconnect := by
      rw [take_resume there paused]
      exact if_neg (by simp [hd])
    have last : (Turn.mk .resume s).armed = none := armed_of_same holds same
    rw [hd] at deferred
    refine ⟨⟨pending, same ▸ holds, ?_⟩, fun _ => ?_, same ▸ h.base, same ▸ h.max, fun _ => ?_⟩
    · rw [idle.isWanted, taken, take_resume there paused]
      simp [State.isLive, there, paused, ← deferred]
    · rw [take_resume there paused]
      simp
    · rw [armings_of_not_cancels idle.cancels, last, same]
      exact h.attempt there

/-- A destroyed manager waits for nothing. -/
theorem destroy (h : Awaits b past s) (there : s.state.stopped = false) :
    Awaits b (⟨.destroy, s⟩ :: past) (s.take .destroy) := by
  obtain ⟨pending, holds, -⟩ := h.slot
  rw [take_destroy there]
  refine ⟨⟨none, holds.cancel, ?_⟩, nofun, h.base, h.max, nofun⟩
  simp [State.isLive]

/-- A firing empties the slot, and nothing is wanted until it is asked for again. -/
theorem timer {id : Nat} (h : Awaits b past s) (pending : (s.state.reconnect.timers.wake id).1.isSome = true) :
    Awaits b (⟨.timer id, s⟩ :: past) (s.take (.timer id)) := by
  obtain ⟨w, holds, rfl, connected, live, -⟩ := h.fires pending
  have fired : (Turn.mk (.timer w.id) s).fired = true := pending
  have unwanted : isWanted (⟨.timer w.id, s⟩ :: past) = false := by
    rw [isWanted_cons, fired]
    simp
  have emptied : (s.take (.timer w.id)).state.reconnect.Holds none := by
    rw [take_timer]
    exact holds.wake_self.2
  have cancels : (Turn.mk (.timer w.id) s).cancels = false := rfl
  obtain ⟨there, unpaused⟩ := State.isLive_iff.1 live
  have last : (Turn.mk (.timer w.id) s).armed = none := armed_of_empty emptied
  have deferred := h.deferred there
  refine ⟨⟨none, emptied, ?_⟩, fun _ => ?_, ?_, ?_, fun _ => ?_⟩
  · simp [unwanted]
  · rw [take_timer, unwanted]
    simpa [unpaused] using deferred
  · rw [take_timer]
    exact h.base
  · rw [take_timer]
    exact h.max
  · rw [armings_of_not_cancels cancels, last, take_timer]
    exact h.attempt there

/-- Every turn keeps it. -/
theorem step (h : Awaits b past s) (i : Input) : Awaits b (⟨i, s⟩ :: past) (s.take i) := by
  cases s.course i with
  | quiet q => exact keeps (t := ⟨i, s⟩) h q.idle q.hasPush q.reconnect q.reconnectDeferred q.paused q.stopped
  | pause live => exact h.pause live
  | resume there paused => exact h.resume there paused
  | destroy there => exact h.destroy there
  | timer pending => exact h.timer pending
  | up live => exact h.calledOff live rfl (by rw [take_pushSubsystemUp live]) (by rw [take_pushSubsystemUp live])
  | down live => exact h.calledOff live rfl (by rw [take_pushSubsystemDown live]) (by rw [take_pushSubsystemDown live])
  | givesUp gives live =>
    exact h.calledOff live (callsOff_of_givesUpFor gives) (by rw [take_givesUp gives live]) (by rw [take_givesUp gives live])
  | tooLong live => exact h.calledOff live rfl (by rw [take_uriTooLongOnSync live]) (by rw [take_uriTooLongOnSync live])
  | retryableError live =>
    exact h.event_askedFor live rfl (by rw [take_pushRetryableError live]) (by rw [take_pushRetryableError live])
      (by rw [take_pushRetryableError live]; rfl)
  | reset live =>
    exact h.event_askedFor live rfl (by rw [take_pushReset live]) (by rw [take_pushReset live]) (by rw [take_pushReset live]; rfl)
  | cacheLoaded live first =>
    have idle : (Turn.mk (.event .splitLoadedFromCache) s).Idle := ⟨cancels_event live _, asks_event live _, rfl⟩
    have e := take_splitLoadedFromCache live first
    exact keeps (t := ⟨.event .splitLoadedFromCache, s⟩) h idle (s.take_fixed _).1 (congrArg (·.state.reconnect) e)
      (congrArg (·.state.reconnectDeferred) e) (congrArg (·.state.paused) e) (congrArg (·.state.stopped) e)

/-- A wait begins only at a turn that asks for a reconnection or takes one up. -/
theorem armed (h : Awaits b past s) (i : Input) {w : Sleeper Unit} (hw : (Turn.mk i s).armed = some w) :
    s.state.stopped = false ∧ w = s.state.reconnect.nextSleeper s.steady () ∧
      Call.log (.reconnectScheduled s.state.reconnect.backoff.delay.secs) ∈ (Turn.mk i s).calls := by
  obtain ⟨pending, holds, -⟩ := h.slot
  have same (e : (s.take i).state.reconnect = s.state.reconnect) : False := by
    rw [armed_of_same (t := ⟨i, s⟩) holds e] at hw
    cases hw
  have empty (e : (s.take i).state.reconnect.Holds none) : False := by
    rw [armed_of_empty (t := ⟨i, s⟩) e] at hw
    cases hw
  have there (live : s.state.isLive = true) : s.state.stopped = false := (State.isLive_iff.1 live).1
  cases s.course i with
  | quiet q => exact (same q.reconnect).elim
  | up live => exact (empty (by rw [take_pushSubsystemUp live]; exact holds.cancel)).elim
  | down live => exact (empty (by rw [take_pushSubsystemDown live]; exact holds.cancel)).elim
  | givesUp gives live => exact (empty (by rw [take_givesUp gives live]; exact holds.cancel)).elim
  | tooLong live => exact (empty (by rw [take_uriTooLongOnSync live]; exact holds.cancel)).elim
  | cacheLoaded live first => exact (same (by rw [take_splitLoadedFromCache live first])).elim
  | pause live => exact (empty (by rw [take_pause live]; exact holds.suspend_snd)).elim
  | destroy there => exact (empty (by rw [take_destroy there]; exact holds.cancel)).elim
  | timer pending =>
    obtain ⟨w, held, rfl, -⟩ := h.fires pending
    exact (empty (by rw [take_timer]; exact held.wake_self.2)).elim
  | retryableError live =>
    refine ⟨there live, armed_of_rescheduled (t := ⟨.event .pushRetryableError, s⟩) holds ?_ ?_ hw⟩
    · exact congrArg (·.state.reconnect) (take_pushRetryableError live)
    · intro c hc
      show c ∈ (s.take (.event .pushRetryableError)).calls
      rw [take_pushRetryableError live]
      exact List.mem_append_left _ hc
  | reset live =>
    refine ⟨there live, armed_of_rescheduled (t := ⟨.event .pushReset, s⟩) holds ?_ ?_ hw⟩
    · exact congrArg (·.state.reconnect) (take_pushReset live)
    · intro c hc
      show c ∈ (s.take (.event .pushReset)).calls
      rw [take_pushReset live]
      exact List.mem_append_left _ hc
  | resume there paused =>
    cases hd : s.state.reconnectDeferred with
    | false => exact (same (by rw [take_resume there paused]; exact if_neg (by simp [hd]))).elim
    | true =>
      refine ⟨there, armed_of_rescheduled (t := ⟨.resume, s⟩) holds ?_ ?_ hw⟩
      · show (s.take .resume).state.reconnect = _
        rw [take_resume there paused]
        exact if_pos hd
      · intro c hc
        show c ∈ (s.take .resume).calls
        rw [take_resume there paused]
        simp only [hd, if_true, List.mem_cons, List.mem_append]
        exact .inr (.inr (.inl hc))

end Awaits

/-- A manager always keeps it. -/
theorem Setup.awaits (u : Setup) (inputs : List Input) :
    Awaits u.state.reconnect.backoff (u.turns inputs) (u.after inputs) := by
  refine u.always ?_ (fun _ _ i h => h.step i) inputs
  obtain ⟨base, max, guardian, health, built⟩ := u.state_eq
  refine ⟨⟨none, ?_, ?_⟩, fun _ => ?_, rfl, rfl, fun _ => ?_⟩
  · rw [built]
    exact BackoffTimer.holds_new _
  · simp [isWanted]
  · rw [built]
    simp
  · rw [built]
    simp [armings]

end FlagKeeper.Manager
