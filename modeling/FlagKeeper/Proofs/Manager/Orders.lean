import FlagKeeper.Proofs.Manager.Reconnection

/-!
# Why the streaming connection is told what

Each order to the streaming connection has its grounds in the turn at which it is given. The statement of this file gives them.
-/

namespace FlagKeeper.Manager

namespace Turn

/-- The cache is announced for the first time to a manager that may fetch, and streaming is enabled. -/
def Opens (t : Turn) : Prop :=
  t.handled = some .splitLoadedFromCache ∧ t.before.state.remoteStarted = false ∧ t.before.state.syncEnabled = true ∧
    t.before.state.streamingEnabled = true

instance (t : Turn) : Decidable t.Opens := inferInstanceAs (Decidable (_ ∧ _ ∧ _ ∧ _))

/-- The grounds for an order. -/
def Grounds (t : Turn) : PushOrder → Prop
  | .start => t.fired = true ∨ t.Opens
  | .pause => t.input = .pause ∧ t.before.state.streamingStopped = false
  | .resume => t.input = .resume ∧ t.before.state.streamingStopped = false
  | .stop => t.cancels = true ∨ t.input = .destroy
  | .disconnect => t.handled = some .pushReset

end Turn

/-- No order is given without its grounds. -/
theorem grounds_of_mem_pushes {s : Scene} {i : Input} {order : PushOrder} (h : order ∈ pushes (s.take i).calls) :
    (Turn.mk i s).Grounds order := by
  cases s.course i with
  | quiet q =>
    rw [(aside q.calls).1] at h
    cases h
  | up live =>
    rw [take_pushSubsystemUp live] at h
    simp at h
  | down live =>
    rw [take_pushSubsystemDown live] at h
    simp at h
  | givesUp gives live =>
    rw [take_givesUp gives live] at h
    obtain ⟨-, rfl⟩ : s.hasPush = true ∧ order = .stop := by simpa using h
    exact .inl ((cancels_event live _).trans (callsOff_of_givesUpFor gives))
  | retryableError live =>
    rw [take_pushRetryableError live] at h
    simp at h
  | reset live =>
    rw [take_pushReset live] at h
    obtain ⟨-, rfl⟩ : s.hasPush = true ∧ order = .disconnect := by simpa using h
    exact Scene.handled_event live _
  | tooLong live =>
    rw [take_uriTooLongOnSync live] at h
    obtain ⟨-, rfl⟩ : s.hasPush = true ∧ order = .stop := by simpa using h
    exact .inl (cancels_event live _)
  | cacheLoaded live first =>
    rw [take_splitLoadedFromCache live first] at h
    obtain ⟨⟨syncs, -, streams⟩, rfl⟩ :
        (s.state.syncEnabled = true ∧ s.hasPush = true ∧ s.state.streamingEnabled = true) ∧ order = .start := by simpa using h
    exact .inr ⟨Scene.handled_event live _, first, syncs, streams⟩
  | pause live =>
    rw [take_pause live] at h
    obtain ⟨⟨-, on⟩, rfl⟩ : (s.hasPush = true ∧ s.state.streamingStopped = false) ∧ order = .pause := by simpa using h
    exact ⟨rfl, on⟩
  | resume there paused =>
    rw [take_resume there paused] at h
    obtain ⟨⟨-, on⟩, rfl⟩ : (s.hasPush = true ∧ s.state.streamingStopped = false) ∧ order = .resume := by simpa using h
    exact ⟨rfl, on⟩
  | destroy there =>
    rw [take_destroy there] at h
    obtain ⟨-, rfl⟩ : s.hasPush = true ∧ order = .stop := by simpa using h
    exact .inr rfl
  | timer pending =>
    rw [take_timer] at h
    obtain ⟨-, -, rfl⟩ :
        ((s.state.reconnect.timers.wake _).1.isSome = true ∧ s.state.isLive = true) ∧ s.hasPush = true ∧ order = .start := by
      simpa using h
    exact .inl pending

end FlagKeeper.Manager
