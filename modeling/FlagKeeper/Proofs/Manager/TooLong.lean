import FlagKeeper.Proofs.Manager.GivenUp

/-!
# Fetching after the address was too long

When the address for fetching flags is found too long, a manager ends both transports: nothing can be fetched before the filter
is made narrower. But the transports can be taken up again. The events that turn to a transport are acted on all the same, and
so are a reset, the first announcement of the cache, and a resume after a long silence: none of them looks whether the
transports were ended. The statement of this file says that these, and nothing else, have something fetched again.

`Shut` is what the end of the transports leaves behind and every turn keeps that reopens nothing. While a manager is shut, what a
turn fetches can be read off its input (`Shut.fetches_iff`).
-/

namespace FlagKeeper.Manager

/-- Whether an event turns to a transport. -/
def turnsTo : StatusEvent → Bool
  | .pushSubsystemUp => true
  | .pushSubsystemDown => true
  | .pushSubsystemDisabled => true
  | .pushRetryableError => true
  | .pushNonRetryableError => true
  | _ => false

/-- Giving streaming up turns to polling. -/
theorem turnsTo_of_givesUpFor {e : StatusEvent} {reason : String} (h : givesUpFor e = some reason) : turnsTo e = true := by
  cases e <;> cases h <;> rfl

namespace Turn

/-- Something is fetched at a turn, or will be from then on: everything at once, periodically, or through the connection. -/
def Fetches (t : Turn) : Prop :=
  0 < fullFetches t.calls ∨ true ∈ fetchings t.calls ∨ .start ∈ pushes t.calls ∨ .resume ∈ pushes t.calls

instance (t : Turn) : Decidable t.Fetches := inferInstanceAs (Decidable (_ ∨ _ ∨ _ ∨ _))

/-- The cache is announced for the first time. -/
def Announces (t : Turn) : Prop := t.handled = some .splitLoadedFromCache ∧ t.before.state.remoteStarted = false

instance (t : Turn) : Decidable t.Announces := inferInstanceAs (Decidable (_ ∧ _))

/-- Whether a resume takes place and the last fetch is too long ago. -/
def catchesUp (t : Turn) : Bool :=
  match t.input with
  | .resume => !t.before.state.stopped && t.before.state.paused && t.before.mustCatchUp
  | _ => false

/-- A turn has something fetched although the transports were ended: an event is handled that turns to a transport, the cache is
announced for the first time, a resume catches up, or the timer of the reconnection goes off. -/
def Reopens (t : Turn) : Prop := t.handled.any turnsTo = true ∨ t.Announces ∨ t.catchesUp = true ∨ t.fired = true

instance (t : Turn) : Decidable t.Reopens := inferInstanceAs (Decidable (_ ∨ _ ∨ _ ∨ _))

end Turn

/-- The transports were ended: a manager does not poll, and has given streaming up. -/
structure Shut (s : Scene) : Prop where
  polling : s.state.polling = false
  streamingStopped : s.state.streamingStopped = true

section Steps

variable {b : Backoff} {past : List Turn} {s : Scene} {i : Input}

/-- A manager that ends the transports is shut. -/
theorem shut_of_tooLong (live : s.state.isLive = true) : Shut (s.take (.event .uriTooLongOnSync)) := by
  rw [take_uriTooLongOnSync live]
  exact ⟨rfl, rfl⟩

/-- An event that turns to a transport reopens. -/
theorem reopens_of_turnsTo {e : StatusEvent} (live : s.state.isLive = true) (turns : turnsTo e = true) :
    (Turn.mk (.event e) s).Reopens := by
  refine .inl ?_
  rw [Scene.handled_event live]
  exact turns

/-- A turn at which nothing is handled, no resume catches up and no timer goes off does not reopen. -/
theorem not_reopens_of_none {t : Turn} (handled : t.handled = none) (caught : t.catchesUp = false) (fired : t.fired = false) :
    ¬t.Reopens := by
  rintro (turns | ⟨announced, -⟩ | catches | fires)
  · rw [handled] at turns
    cases turns
  · rw [handled] at announced
    cases announced
  · exact Bool.false_ne_true (caught.symm.trans catches)
  · exact Bool.false_ne_true (fired.symm.trans fires)

/-- An event that is handled, does not turn to a transport and is no announcement of the cache does not reopen. -/
theorem not_reopens_of_event {e : StatusEvent} (live : s.state.isLive = true) (turns : turnsTo e = false)
    (other : e ≠ .splitLoadedFromCache) : ¬(Turn.mk (.event e) s).Reopens := by
  rintro (turned | ⟨announced, -⟩ | catches | fires)
  · rw [Scene.handled_event live] at turned
    exact Bool.false_ne_true (turns.symm.trans turned)
  · rw [Scene.handled_event live] at announced
    cases announced
    exact other rfl
  · cases catches
  · cases fires

/-- What is known of a resume that catches up. -/
theorem of_catchesUp (h : (Turn.mk i s).catchesUp = true) :
    i = .resume ∧ s.state.stopped = false ∧ s.state.paused = true ∧ s.mustCatchUp = true := by
  cases i with
  | resume =>
    obtain ⟨⟨there, paused⟩, due⟩ : (s.state.stopped = false ∧ s.state.paused = true) ∧ s.mustCatchUp = true := by
      simpa [Turn.catchesUp] using h
    exact ⟨rfl, there, paused, due⟩
  | _ => cases h

/-- A quiet turn does not reopen. -/
theorem Scene.Quiet.not_reopens (q : s.Quiet i) : ¬(Turn.mk i s).Reopens := by
  rintro (turns | ⟨announced, first⟩ | catches | fires)
  · obtain ⟨e, handled, turned⟩ : ∃ e, (Turn.mk i s).handled = some e ∧ turnsTo e = true := by
      simpa [Option.any_eq_true] using turns
    rcases q.handled e handled with record | ⟨rfl, -⟩
    · cases e <;> simp_all [StatusEvent.isBookkeeping, turnsTo]
    · cases turned
  · rcases q.handled _ announced with record | ⟨-, started⟩
    · cases record
    · exact Bool.false_ne_true (first.symm.trans started)
  · obtain ⟨rfl, there, paused, -⟩ := of_catchesUp catches
    have unpaused := q.paused
    rw [take_resume there paused] at unpaused
    exact Bool.false_ne_true (unpaused.trans paused)
  · exact Bool.false_ne_true (q.fired.symm.trans fires)

/-- A turn at which the parts are told nothing that has something fetched does not fetch. -/
theorem not_fetches_of_told {t : Turn} {calls : List Call} (made : t.calls = calls) (full : fullFetches calls = 0)
    (polls : true ∉ fetchings calls) (orders : ∀ order ∈ pushes calls, order ≠ .start ∧ order ≠ .resume) : ¬t.Fetches := by
  subst made
  rintro (fetched | polled | started | resumed)
  · omega
  · exact polls polled
  · exact (orders _ started).1 rfl
  · exact (orders _ resumed).2 rfl

/-- An event that turns a live manager to polling has something fetched if the manager did not poll. -/
theorem fetches_of_pollingCalls {t : Turn} {more : List Call} {reason : String} (others : List Call)
    (off : t.before.state.polling = false) (calls : t.calls = others ++ (pollingCalls t.before.state reason ++ more)) :
    t.Fetches := by
  refine .inr (.inl ?_)
  rw [calls]
  simp [off]

/-- While a manager is shut, a turn has something fetched exactly if it reopens. -/
theorem Shut.fetches_iff (h : Shut s) (awaits : Awaits b past s) : (Turn.mk i s).Fetches ↔ (Turn.mk i s).Reopens := by
  have off := h.polling
  have given := h.streamingStopped
  cases s.course i with
  | quiet q =>
    obtain ⟨orders, -, fetching⟩ := aside q.calls
    refine iff_of_false (not_fetches_of_told rfl (fullFetches_aside q.calls) ?_ ?_) q.not_reopens
    · exact fun polled => List.not_mem_nil (fetching ▸ polled)
    · exact fun _ ordered => (List.not_mem_nil (orders ▸ ordered)).elim
  | up live =>
    refine iff_of_true (.inl ?_) (reopens_of_turnsTo live rfl)
    show 0 < fullFetches (s.take (.event .pushSubsystemUp)).calls
    rw [take_pushSubsystemUp live]
    exact Nat.one_pos
  | down live =>
    exact iff_of_true (fetches_of_pollingCalls (t := ⟨_, s⟩) [] off
      (congrArg Scene.calls (take_pushSubsystemDown live))) (reopens_of_turnsTo live rfl)
  | givesUp gives live =>
    exact iff_of_true (fetches_of_pollingCalls (t := ⟨_, s⟩) _ off (congrArg Scene.calls (take_givesUp gives live)))
      (reopens_of_turnsTo live (turnsTo_of_givesUpFor gives))
  | retryableError live =>
    exact iff_of_true (fetches_of_pollingCalls (t := ⟨_, s⟩) _ off (congrArg Scene.calls (take_pushRetryableError live)))
      (reopens_of_turnsTo live rfl)
  | reset live =>
    refine iff_of_false (not_fetches_of_told (congrArg Scene.calls (take_pushReset live)) (by simp) (by simp) ?_)
      (not_reopens_of_event live rfl (by simp))
    cases s.hasPush <;> simp
  | tooLong live =>
    refine iff_of_false (not_fetches_of_told (congrArg Scene.calls (take_uriTooLongOnSync live)) (by simp) (by simp) ?_)
      (not_reopens_of_event live rfl (by simp))
    cases s.hasPush <;> simp
  | cacheLoaded live first =>
    refine iff_of_true (.inl ?_) (.inr (.inl ⟨Scene.handled_event live _, first⟩))
    show 0 < fullFetches (s.take (.event .splitLoadedFromCache)).calls
    rw [take_splitLoadedFromCache live first]
    simp
  | pause live =>
    refine iff_of_false (not_fetches_of_told (congrArg Scene.calls (take_pause live)) (by simp) (by simp) ?_)
      (not_reopens_of_none rfl rfl rfl)
    simp [given]
  | resume there paused =>
    have calls : (Turn.mk .resume s).calls = _ := congrArg Scene.calls (take_resume there paused)
    cases due : s.mustCatchUp with
    | true =>
      refine iff_of_true (.inl ?_) (.inr (.inr (.inl ?_)))
      · rw [calls, due]
        simp
      · simp [Turn.catchesUp, there, paused, due]
    | false =>
      have caught : (Turn.mk .resume s).catchesUp = false := by simp [Turn.catchesUp, due]
      rw [due] at calls
      refine iff_of_false (not_fetches_of_told calls (by simp) (by simp) ?_) (not_reopens_of_none rfl caught rfl)
      simp [given]
  | destroy there =>
    refine iff_of_false (not_fetches_of_told (congrArg Scene.calls (take_destroy there)) (by simp) (by simp) ?_)
      (not_reopens_of_none rfl rfl rfl)
    cases s.hasPush <;> simp
  | @timer id pending =>
    obtain ⟨-, -, -, connected, live, -⟩ := awaits.fires pending
    refine iff_of_true (.inr (.inr (.inl ?_))) (.inr (.inr (.inr pending)))
    show .start ∈ pushes (s.take (.timer id)).calls
    rw [take_timer, pending, live, connected]
    simp

/-- A turn that reopens nothing leaves a manager shut. -/
theorem Shut.keeps (h : Shut s) (closed : ¬(Turn.mk i s).Reopens) : Shut (s.take i) := by
  refine ⟨?_, streamingStopped_take h.streamingStopped i⟩
  cases s.course i with
  | quiet q => exact q.polling.trans h.polling
  | up live => exact (closed (reopens_of_turnsTo live rfl)).elim
  | down live => exact (closed (reopens_of_turnsTo live rfl)).elim
  | givesUp gives live => exact (closed (reopens_of_turnsTo live (turnsTo_of_givesUpFor gives))).elim
  | retryableError live => exact (closed (reopens_of_turnsTo live rfl)).elim
  | reset live => rw [take_pushReset live]; exact h.polling
  | tooLong live => rw [take_uriTooLongOnSync live]
  | cacheLoaded live first => exact (closed (.inr (.inl ⟨Scene.handled_event live _, first⟩))).elim
  | pause live => rw [take_pause live]; exact h.polling
  | resume there paused => rw [take_resume there paused]; exact h.polling
  | destroy there => rw [take_destroy there]; exact h.polling
  | timer pending => rw [take_timer]; exact h.polling

/-- As long as no turn reopens, a manager stays shut. -/
theorem Shut.stays (h : Shut s) (later : List Input) (closed : ∀ t ∈ s.turns later, ¬t.Reopens) : Shut (s.after later) := by
  induction later with
  | nil => exact h
  | cons i later ih =>
    obtain ⟨last, closed⟩ := List.forall_mem_cons.1 closed
    exact (ih closed).keeps last

/-- After a manager was shut, nothing is fetched exactly as long as no turn reopens. -/
theorem Shut.fetches_nothing_iff (h : Shut s) (awaits : Awaits b past s) (later : List Input) :
    (∀ t ∈ s.turns later, ¬t.Fetches) ↔ ∀ t ∈ s.turns later, ¬t.Reopens := by
  induction later with
  | nil => simp [Scene.turns]
  | cons i later ih =>
    simp only [Scene.turns, List.forall_mem_cons]
    rw [ih]
    refine and_congr_left fun closed => not_congr ?_
    exact (h.stays later closed).fetches_iff (awaits.stays later)

end Steps

/-- After the address was found too long, whatever comes in later:

1. The streaming connection is never resumed.
2. Nothing is fetched, neither at once nor periodically nor through the connection, exactly as long as no turn reopens: no event
   is handled that turns to a transport, the cache is not announced for the first time, no resume catches up with a silence that
   lasted too long, and no reconnection comes due that a reset asked for. -/
theorem nothing_fetched_iff (u : Setup) (past later : List Input) (live : (u.after past).state.isLive = true) :
    (∀ t ∈ ((u.after past).take (.event .uriTooLongOnSync)).turns later, .resume ∉ pushes t.calls) ∧
    ((∀ t ∈ ((u.after past).take (.event .uriTooLongOnSync)).turns later, ¬t.Fetches) ↔
      ∀ t ∈ ((u.after past).take (.event .uriTooLongOnSync)).turns later, ¬t.Reopens) := by
  have shut : Shut ((u.after past).take (.event .uriTooLongOnSync)) := shut_of_tooLong live
  have awaits := (u.awaits past).step (.event .uriTooLongOnSync)
  exact ⟨never_resumed shut.streamingStopped later, shut.fetches_nothing_iff awaits later⟩

/-- A reset, a pause and a resume soon after a fetch, and what only updates records have nothing fetched. -/
theorem nothing_fetched_iff_reset :
    (Setup.standard.after [.event .splitLoadedFromCache, .start]).state.isLive = true ∧
    ∀ t ∈ ((Setup.standard.after [.event .splitLoadedFromCache, .start]).take (.event .uriTooLongOnSync)).turns
      [.resume, .event .pushSubsystemUp, .pause, .event .syncExecuted, .event .pushReset], ¬t.Fetches := by
  have live : (Setup.standard.after [.event .splitLoadedFromCache, .start]).state.isLive = true := by decide +kernel
  exact ⟨live, (nothing_fetched_iff Setup.standard [.event .splitLoadedFromCache, .start]
    [.resume, .event .pushSubsystemUp, .pause, .event .syncExecuted, .event .pushReset] live).2.2 (by decide +kernel)⟩

/-- After the address was found too long, a late word from the connection has flags fetched periodically, and so does a resume at
once. -/
theorem fetching_returns_after_tooLong :
    (Turn.mk (.event .uriTooLongOnSync) (Setup.standard.after [.event .splitLoadedFromCache, .start])).handled =
      some .uriTooLongOnSync ∧
    fetchings (Setup.standard.after
      [.event .pushSubsystemDown, .event .uriTooLongOnSync, .event .splitLoadedFromCache, .start]).calls = [true] ∧
    fullFetches (Setup.standard.after
      [.resume, .pause, .event .uriTooLongOnSync, .event .splitLoadedFromCache, .start]).calls = 1 := by
  decide +kernel

end FlagKeeper.Manager
