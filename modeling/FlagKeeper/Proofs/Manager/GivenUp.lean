import FlagKeeper.Proofs.Manager.Orders

/-!
# Streaming that was given up

Two events make a manager give streaming up. From then on it neither pauses nor resumes the connection. But an event that asks for
a reconnection is acted on all the same, and so is the first announcement of the cache: neither looks whether streaming was given
up. The statement of this file says that these, and nothing else, bring streaming back.
-/

namespace FlagKeeper.Manager

namespace Turn

/-- The connection is neither started nor resumed at a turn, and no reconnection is pending after it. -/
def Rests (t : Turn) : Prop :=
  .start ∉ pushes t.calls ∧ .resume ∉ pushes t.calls ∧ t.after.state.reconnect.isScheduled = false

/-- An event is handled that brings streaming back. -/
def Revives (t : Turn) : Prop := t.asks = true ∨ t.Opens

instance (t : Turn) : Decidable t.Revives := inferInstanceAs (Decidable (_ ∨ _))

end Turn

/-- Streaming was given up, and nothing is wanted of it. -/
structure GivenUp (past : List Turn) (s : Scene) : Prop where
  stopped : s.state.streamingStopped = true
  unwanted : isWanted past = false

section Steps

variable {b : Backoff} {past : List Turn} {s : Scene} {i : Input}

/-- Streaming that was given up counts as given up from then on. -/
theorem streamingStopped_take (h : s.state.streamingStopped = true) (i : Input) : (s.take i).state.streamingStopped = true := by
  cases s.course i with
  | quiet q => rw [q.streamingStopped, h]
  | up live => rw [take_pushSubsystemUp live]; exact h
  | down live => rw [take_pushSubsystemDown live]; exact h
  | givesUp gives live => rw [take_givesUp gives live]
  | retryableError live => rw [take_pushRetryableError live]; exact h
  | reset live => rw [take_pushReset live]; exact h
  | tooLong live => rw [take_uriTooLongOnSync live]
  | cacheLoaded live first => rw [take_splitLoadedFromCache live first]; simp [h]
  | pause live => rw [take_pause live]; exact h
  | resume there paused => rw [take_resume there paused]; exact h
  | destroy there => rw [take_destroy there]; exact h
  | timer pending => rw [take_timer]; exact h

/-- A manager that gives streaming up has given it up. -/
theorem givenUp_of_givesUpFor {e : StatusEvent} {reason : String} (gives : givesUpFor e = some reason)
    (live : s.state.isLive = true) : GivenUp (⟨.event e, s⟩ :: past) (s.take (.event e)) := by
  refine ⟨by rw [take_givesUp gives live], ?_⟩
  rw [isWanted_cons, cancels_event live, callsOff_of_givesUpFor gives]
  rfl

/-- A turn that asks for nothing leaves it at that. -/
theorem GivenUp.keeps (h : GivenUp past s) (unasked : (Turn.mk i s).asks = false) : GivenUp (⟨i, s⟩ :: past) (s.take i) := by
  refine ⟨streamingStopped_take h.stopped i, ?_⟩
  rw [isWanted_cons, unasked, h.unwanted]
  simp

/-- A turn that asks for a reconnection leaves the manager live, and the reconnection wanted. -/
theorem wanted_of_asks (past : List Turn) (asks : (Turn.mk i s).asks = true) :
    (s.take i).state.isLive = true ∧ isWanted (⟨i, s⟩ :: past) = true := by
  obtain ⟨e, handled, asked⟩ : ∃ e, (Turn.mk i s).handled = some e ∧ asksFor e = true := by
    simpa [Turn.asks, Option.any_eq_true] using asks
  obtain ⟨rfl, live⟩ := Scene.of_handled handled
  refine ⟨?_, ?_⟩
  · cases e with
    | pushRetryableError => rw [take_pushRetryableError live]; exact live
    | pushReset => rw [take_pushReset live]; exact live
    | _ => cases asked
  · rw [isWanted_cons, cancels_event live, asks_event live, callsOff_of_asksFor asked, asked]
    rfl

/-- A turn that opens streaming starts the connection. -/
theorem start_mem_pushes (opens : (Turn.mk i s).Opens) (connected : s.hasPush = true) : .start ∈ pushes (s.take i).calls := by
  obtain ⟨handled, first, syncs, streams⟩ := opens
  obtain ⟨rfl, live⟩ := Scene.of_handled handled
  have syncs : s.state.syncEnabled = true := syncs
  have streams : s.state.streamingEnabled = true := streams
  rw [take_splitLoadedFromCache live first]
  simp [connected, syncs, streams]

/-- After streaming was given up, a turn leaves it at rest unless it revives it. -/
theorem GivenUp.rests_iff (h : GivenUp past s) (awaits : Awaits b past s) (connected : s.hasPush = true) :
    (Turn.mk i s).Rests ↔ ¬(Turn.mk i s).Revives := by
  have scheduled : (s.take i).state.reconnect.isScheduled =
      ((s.take i).hasPush && (s.take i).state.isLive && isWanted (⟨i, s⟩ :: past)) := (awaits.step i).isScheduled
  constructor
  · rintro ⟨unstarted, -, idle⟩ (asks | opens)
    · obtain ⟨live, wanted⟩ := wanted_of_asks past asks
      rw [(s.take_fixed i).1, connected, live, wanted] at scheduled
      cases scheduled.symm.trans idle
    · exact unstarted (start_mem_pushes opens connected)
  · intro still
    refine ⟨fun start => ?_, fun resume => ?_, ?_⟩
    · rcases grounds_of_mem_pushes start with fired | opens
      · cases i with
        | timer id =>
          obtain ⟨-, -, -, -, -, wanted⟩ := awaits.fires fired
          rw [h.unwanted] at wanted
          cases wanted
        | _ => cases fired
      · exact still (.inr opens)
    · have on := (grounds_of_mem_pushes resume).2
      rw [h.stopped] at on
      cases on
    · have unasked : (Turn.mk i s).asks = false := by
        rw [← Bool.not_eq_true]
        exact fun asks => still (.inl asks)
      show (s.take i).state.reconnect.isScheduled = false
      rw [scheduled, (h.keeps unasked).unwanted, Bool.and_false]

end Steps

section Later

variable {b : Backoff} {past : List Turn} {s : Scene}

/-- What is kept about the reconnection is kept by all further turns. -/
theorem Awaits.stays (h : Awaits b past s) (later : List Input) : Awaits b (s.turns later ++ past) (s.after later) := by
  induction later with
  | nil => exact h
  | cons i later ih => exact ih.step i

/-- As long as nothing is asked for, streaming that was given up stays so. -/
theorem GivenUp.stays (h : GivenUp past s) (later : List Input) (unasked : ∀ t ∈ s.turns later, t.asks = false) :
    GivenUp (s.turns later ++ past) (s.after later) := by
  induction later with
  | nil => exact h
  | cons i later ih =>
    obtain ⟨last, unasked⟩ := List.forall_mem_cons.1 unasked
    exact (ih unasked).keeps last

/-- After streaming was given up, it rests exactly as long as no turn revives it. -/
theorem GivenUp.rests_iff_forall (h : GivenUp past s) (awaits : Awaits b past s) (connected : s.hasPush = true)
    (later : List Input) : (∀ t ∈ s.turns later, t.Rests) ↔ ∀ t ∈ s.turns later, ¬t.Revives := by
  induction later with
  | nil => simp [Scene.turns]
  | cons i later ih =>
    simp only [Scene.turns, List.forall_mem_cons]
    rw [ih]
    refine and_congr_left fun still => ?_
    have unasked : ∀ t ∈ s.turns later, t.asks = false := by
      intro t ht
      rw [← Bool.not_eq_true]
      exact fun asks => still t ht (.inl asks)
    exact (h.stays later unasked).rests_iff (awaits.stays later) ((s.after_hasPush later).trans connected)

/-- After streaming was given up, the connection is never resumed. -/
theorem never_resumed (h : s.state.streamingStopped = true) (later : List Input) :
    ∀ t ∈ s.turns later, .resume ∉ pushes t.calls := by
  have stopped : ∀ later, (s.after later).state.streamingStopped = true := by
    intro later
    induction later with
    | nil => exact h
    | cons i later ih => exact streamingStopped_take ih i
  induction later with
  | nil => simp [Scene.turns]
  | cons i later ih =>
    refine List.forall_mem_cons.2 ⟨fun resume => ?_, ih⟩
    have on := (grounds_of_mem_pushes resume).2
    rw [stopped later] at on
    cases on

end Later

/-- Streaming that was given up, whatever comes in later:

1. The connection is never resumed.
2. It is not started either, and no reconnection is ever pending, exactly as long as no event is handled that brings streaming
   back: one that asks for a reconnection, or the first announcement of the cache while fetching is allowed and streaming is
   enabled. -/
theorem givenUp_rests_iff (u : Setup) (connected : u.hasPush = true) (past later : List Input) (e : StatusEvent)
    (gives : (givesUpFor e).isSome = true) (live : (u.after past).state.isLive = true) :
    (∀ t ∈ ((u.after past).take (.event e)).turns later, .resume ∉ pushes t.calls) ∧
    ((∀ t ∈ ((u.after past).take (.event e)).turns later, t.Rests) ↔
      ∀ t ∈ ((u.after past).take (.event e)).turns later, ¬t.Revives) := by
  obtain ⟨reason, gives⟩ := Option.isSome_iff_exists.1 gives
  have up : GivenUp (⟨.event e, u.after past⟩ :: u.turns past) ((u.after past).take (.event e)) :=
    givenUp_of_givesUpFor gives live
  have awaits := (u.awaits past).step (.event e)
  have hasPush : ((u.after past).take (.event e)).hasPush = true :=
    ((u.after past).take_fixed _).1.trans ((u.fixed past).1.trans connected)
  exact ⟨never_resumed up.stopped later, up.rests_iff_forall awaits hasPush later⟩

/-- A pause, a resume and what only updates records leave streaming at rest that was given up. -/
theorem givenUp_rests_iff_pause :
    (givesUpFor .pushSubsystemDisabled).isSome = true ∧
    ∀ t ∈ ((Setup.standard.after [.event .splitLoadedFromCache, .start]).take (.event .pushSubsystemDisabled)).turns
      [.event .syncExecuted, .resume, .pause], t.Rests :=
  ⟨rfl, (givenUp_rests_iff Setup.standard rfl [.event .splitLoadedFromCache, .start]
    [.event .syncExecuted, .resume, .pause] .pushSubsystemDisabled rfl (by decide +kernel)).2.2 (by decide +kernel)⟩

/-- An error that asks for a reconnection makes one pending although streaming was given up, and when the timer goes off the
connection is started. -/
theorem streaming_returns_after_givingUp :
    givesUpFor .pushSubsystemDisabled ≠ none ∧
    (Setup.standard.after
      [.event .pushRetryableError, .event .pushSubsystemDisabled, .event .splitLoadedFromCache,
        .start]).state.reconnect.isScheduled = true ∧
    .start ∈ pushes (Setup.standard.after
      [.timer 0, .event .pushRetryableError, .event .pushSubsystemDisabled, .event .splitLoadedFromCache, .start]).calls := by
  decide +kernel

end FlagKeeper.Manager
