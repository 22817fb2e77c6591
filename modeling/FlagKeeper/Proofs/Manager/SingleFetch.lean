import FlagKeeper.Proofs.Manager.TooLong

/-!
# A manager that may not refresh

A manager whose settings forbid to refresh is to fetch once, when the cache is announced, and not to stream. A resume keeps to
that as far as fetching goes, and so does the choice of the transport. But an event that says that the connection is up fetches
everything again, and nobody marks the connection as given up: it is started when a reconnection comes due, and resumed after a
pause. The statement of this file says how often everything is fetched and when the connection is started or resumed.
-/

namespace FlagKeeper.Manager

/-- Whether an event gives streaming up for good. -/
def endsStreaming : StatusEvent → Bool
  | .pushSubsystemDisabled => true
  | .pushNonRetryableError => true
  | .uriTooLongOnSync => true
  | _ => false

/-- What gives streaming up ends it. -/
theorem endsStreaming_of_givesUpFor {e : StatusEvent} {reason : String} (h : givesUpFor e = some reason) :
    endsStreaming e = true := by
  cases e <;> cases h <;> rfl

/-- What only updates records does not end streaming. -/
theorem not_endsStreaming_of_isBookkeeping {e : StatusEvent} (h : e.isBookkeeping = true) : endsStreaming e = false := by
  cases e <;> cases h <;> rfl

/-- Whether an event was handled that gives streaming up for good. -/
def Turn.ends (t : Turn) : Bool := t.handled.any endsStreaming

section Steps

variable {b : Backoff} {past : List Turn} {s : Scene} {i : Input}

/-- A turn at which nothing is handled does not end streaming. -/
theorem not_ends_of_none {t : Turn} (h : t.handled = none) : t.ends = false := by
  rw [Turn.ends, h]
  rfl

theorem ends_event (live : s.state.isLive = true) (e : StatusEvent) : (Turn.mk (.event e) s).ends = endsStreaming e := by
  rw [Turn.ends, Scene.handled_event live]
  rfl

/-- A quiet turn does not end streaming. -/
theorem Scene.Quiet.not_ends (q : s.Quiet i) : (Turn.mk i s).ends = false := by
  unfold Turn.ends
  cases handled : (Turn.mk i s).handled with
  | none => rfl
  | some e =>
    rcases q.handled e handled with record | ⟨rfl, -⟩
    · exact not_endsStreaming_of_isBookkeeping record
    · rfl

/-- A manager that may not refresh does not poll from the start. -/
theorem pollsFirst_of_single (single : s.state.syncEnabled = false) : s.state.pollsFirst s.hasPush = false := by
  rw [State.pollsFirst, single]
  rfl

/-- Streaming is given up by the events that end it, and by nothing else, if the manager may not refresh. -/
theorem streamingStopped_take_single (single : s.state.syncEnabled = false) (i : Input) :
    (s.take i).state.streamingStopped = (s.state.streamingStopped || (Turn.mk i s).ends) := by
  have other {e : StatusEvent} (live : s.state.isLive = true) (off : endsStreaming e = false) :
      (s.state.streamingStopped || (Turn.mk (.event e) s).ends) = s.state.streamingStopped := by
    rw [ends_event live, off, Bool.or_false]
  cases s.course i with
  | quiet q => rw [q.streamingStopped, q.not_ends, Bool.or_false]
  | up live => rw [take_pushSubsystemUp live, other live rfl]
  | down live => rw [take_pushSubsystemDown live, other live rfl]
  | givesUp gives live => rw [take_givesUp gives live, ends_event live, endsStreaming_of_givesUpFor gives, Bool.or_true]
  | retryableError live => rw [take_pushRetryableError live, other live rfl]
  | reset live => rw [take_pushReset live, other live rfl]
  | tooLong live => rw [take_uriTooLongOnSync live, ends_event live, endsStreaming, Bool.or_true]
  | cacheLoaded live first =>
    rw [take_splitLoadedFromCache live first, other live rfl, pollsFirst_of_single single]
    exact Bool.or_false _
  | pause live => rw [take_pause live, not_ends_of_none rfl, Bool.or_false]
  | resume there paused => rw [take_resume there paused, not_ends_of_none rfl, Bool.or_false]
  | destroy there => rw [take_destroy there, not_ends_of_none rfl, Bool.or_false]
  | timer pending => rw [take_timer, not_ends_of_none rfl, Bool.or_false]

/-- A resume does not catch up if the manager may not refresh. -/
theorem mustCatchUp_of_single (single : s.state.syncEnabled = false) : s.mustCatchUp = false := by
  rw [Scene.mustCatchUp, single]
  rfl

/-- A manager that may not refresh fetches everything when the connection is up, and when the cache is announced for the first
time. -/
theorem fullFetches_take_single (single : s.state.syncEnabled = false) (i : Input) :
    fullFetches (s.take i).calls =
      (if (Turn.mk i s).handled = some .pushSubsystemUp then 1 else 0) + if (Turn.mk i s).Announces then 1 else 0 := by
  have other {e : StatusEvent} (live : s.state.isLive = true) (up : e ≠ .pushSubsystemUp) (loaded : e ≠ .splitLoadedFromCache) :
      ((if (Turn.mk (.event e) s).handled = some .pushSubsystemUp then 1 else 0) +
        if (Turn.mk (.event e) s).Announces then 1 else 0) = 0 := by
    simp [Turn.Announces, Scene.handled_event live, up, loaded]
  cases s.course i with
  | quiet q =>
    have up : (Turn.mk i s).handled ≠ some .pushSubsystemUp := by
      intro handled
      rcases q.handled _ handled with record | ⟨loaded, -⟩
      · cases record
      · cases loaded
    have announced : ¬(Turn.mk i s).Announces := by
      rintro ⟨handled, first⟩
      rcases q.handled _ handled with record | ⟨-, started⟩
      · cases record
      · exact Bool.false_ne_true (first.symm.trans started)
    rw [fullFetches_aside q.calls, if_neg up, if_neg announced]
  | up live =>
    rw [take_pushSubsystemUp live, if_pos (Scene.handled_event live _), if_neg]
    · rfl
    · rintro ⟨handled, -⟩
      rw [Scene.handled_event live] at handled
      cases handled
  | down live => rw [take_pushSubsystemDown live, other live (by simp) (by simp)]; simp
  | givesUp gives live =>
    rw [take_givesUp gives live, other live (by rintro rfl; cases gives) (by rintro rfl; cases gives)]
    simp
  | retryableError live => rw [take_pushRetryableError live, other live (by simp) (by simp)]; simp
  | reset live => rw [take_pushReset live, other live (by simp) (by simp)]; simp
  | tooLong live => rw [take_uriTooLongOnSync live, other live (by simp) (by simp)]; simp
  | cacheLoaded live first =>
    rw [take_splitLoadedFromCache live first, if_neg, if_pos ⟨Scene.handled_event live _, first⟩]
    · simp
    · rw [Scene.handled_event live]
      simp
  | pause live => rw [take_pause live]; simp [Turn.handled, Turn.Announces]
  | resume there paused =>
    rw [take_resume there paused, mustCatchUp_of_single single]
    simp [Turn.handled, Turn.Announces]
  | destroy there => rw [take_destroy there]; simp [Turn.handled, Turn.Announces]
  | timer pending => rw [take_timer]; simp [Turn.handled, Turn.Announces]

/-- The connection is started when a reconnection comes due, and only then, if the manager may not refresh. -/
theorem start_mem_pushes_iff_single (awaits : Awaits b past s) (single : s.state.syncEnabled = false) (i : Input) :
    .start ∈ pushes (s.take i).calls ↔ (Turn.mk i s).fired = true := by
  constructor
  · intro start
    rcases grounds_of_mem_pushes start with fired | ⟨-, -, syncs, -⟩
    · exact fired
    · exact (Bool.false_ne_true (single.symm.trans syncs)).elim
  · intro fired
    cases i with
    | timer id =>
      have pending : (s.state.reconnect.timers.wake id).1.isSome = true := fired
      obtain ⟨-, -, -, connected, live, -⟩ := awaits.fires pending
      rw [take_timer, pending, live, connected]
      simp
    | _ => cases fired

/-- The connection is resumed when a pause ends, unless streaming was given up. -/
theorem resume_mem_pushes_iff : .resume ∈ pushes (s.take i).calls ↔
    i = .resume ∧ s.hasPush = true ∧ s.state.paused = true ∧ s.state.stopped = false ∧ s.state.streamingStopped = false := by
  constructor
  · intro resume
    obtain ⟨rfl, -⟩ : i = .resume ∧ s.state.streamingStopped = false := grounds_of_mem_pushes resume
    cases s.course .resume with
    | quiet q =>
      rw [(aside q.calls).1] at resume
      cases resume
    | resume there paused =>
      rw [take_resume there paused] at resume
      obtain ⟨connected, on⟩ : s.hasPush = true ∧ s.state.streamingStopped = false := by simpa using resume
      exact ⟨rfl, connected, paused, there, on⟩
  · rintro ⟨rfl, connected, paused, there, on⟩
    rw [take_resume there paused]
    simp [connected, on]

end Steps

namespace Setup

variable (u : Setup) (single : u.settings.syncEnabled = false)
include single

/-- Streaming was given up exactly if an event ended it. -/
theorem streamingStopped_single (inputs : List Input) :
    (u.after inputs).state.streamingStopped = (u.turns inputs).any Turn.ends := by
  induction inputs with
  | nil =>
    obtain ⟨base, max, guardian, health, built⟩ := u.state_eq
    rw [u.after_nil, built]
    rfl
  | cons i past ih =>
    have syncs : (u.after past).state.syncEnabled = false := (u.fixed past).2.1.trans single
    rw [u.after_cons, streamingStopped_take_single syncs, ih, u.turns_cons, List.any_cons, Bool.or_comm]

/-- Everything is fetched once for each time that the connection is up, and once when the cache is announced. -/
theorem fullFetches_single (inputs : List Input) :
    fullFetches (callsOf (u.turns inputs)) =
      ((u.turns inputs).countP fun t => t.handled = some .pushSubsystemUp) +
        if (u.after inputs).state.remoteStarted = true then 1 else 0 := by
  induction inputs with
  | nil =>
    obtain ⟨base, max, guardian, health, built⟩ := u.state_eq
    rw [u.after_nil, built]
    rfl
  | cons i past ih =>
    have syncs : (u.after past).state.syncEnabled = false := (u.fixed past).2.1.trans single
    have now : fullFetches (Turn.mk i (u.after past)).calls = _ := fullFetches_take_single syncs i
    have begun := (u.after past).take_remoteStarted i
    rw [u.turns_cons, callsOf_cons, fullFetches_append, ih, now, List.countP_cons, u.after_cons]
    simp only [begun, Turn.Announces, decide_eq_true_eq]
    by_cases started : (u.after past).state.remoteStarted = true
    · simp only [started, true_or, if_true, Bool.true_eq_false, and_false, if_false]
      omega
    · have fresh := Bool.eq_false_iff.2 started
      simp only [fresh, Bool.false_eq_true, false_or, and_true, if_false]
      omega

end Setup

/-- A manager that may not refresh, whatever comes in:

1. Everything is fetched once when the cache is announced, and once more each time that the connection is reported up.
2. The connection is started exactly when a reconnection comes due.
3. The connection is resumed exactly when a pause ends and no event has ended streaming. -/
theorem single_fetch_exceptions (u : Setup) (single : u.settings.syncEnabled = false) (inputs : List Input) :
    fullFetches (callsOf (u.turns inputs)) =
      ((u.turns inputs).countP fun t => t.handled = some .pushSubsystemUp) +
        (if ∃ t ∈ u.turns inputs, t.handled = some .splitLoadedFromCache then 1 else 0) ∧
    ∀ i, (.start ∈ pushes (Turn.mk i (u.after inputs)).calls ↔ (Turn.mk i (u.after inputs)).fired = true) ∧
      (.resume ∈ pushes (Turn.mk i (u.after inputs)).calls ↔
        i = .resume ∧ u.hasPush = true ∧ (u.after inputs).state.paused = true ∧ (u.after inputs).state.stopped = false ∧
          ∀ t ∈ u.turns inputs, t.ends = false) := by
  obtain ⟨hasPush, syncEnabled, -⟩ := u.fixed inputs
  have given : (u.after inputs).state.streamingStopped = false ↔ ∀ t ∈ u.turns inputs, t.ends = false := by
    rw [u.streamingStopped_single single, List.any_eq_false]
    simp
  refine ⟨?_, fun i => ⟨start_mem_pushes_iff_single (u.awaits inputs) (syncEnabled.trans single) i, ?_⟩⟩
  · rw [u.fullFetches_single single]
    simp only [u.remoteStarted_iff]
  · rw [← given, ← hasPush]
    exact resume_mem_pushes_iff

/-- A manager of settings that forbid to refresh, with a streaming connection. -/
def Setup.single : Setup where
  settings := { syncEnabled := false }
  backoff := none
  hasPush := true
  consent := .granted
  steady := 0
  wall := 0
  state := _
  built := State.build_of_le (by decide) _

/-- Two announcements of the cache and one report that the connection is up make two full fetches. -/
theorem single_fetch_exceptions_up :
    Setup.single.settings.syncEnabled = false ∧
    fullFetches (callsOf (Setup.single.turns
      [.event .splitLoadedFromCache, .event .pushSubsystemUp, .event .splitLoadedFromCache, .start])) = 2 := by
  refine ⟨rfl, ?_⟩
  rw [(single_fetch_exceptions Setup.single rfl
    [.event .splitLoadedFromCache, .event .pushSubsystemUp, .event .splitLoadedFromCache, .start]).1]
  decide +kernel

/-- A manager that may not refresh resumes a connection that was never started when a pause ends, starts it after a reset, and
fetches twice if the connection is reported up. -/
theorem streaming_without_refresh :
    Setup.single.settings.syncEnabled = false ∧
    fullFetches (callsOf (Setup.single.turns [.event .pushSubsystemUp, .event .splitLoadedFromCache, .start])) = 2 ∧
    pushes (callsOf (Setup.single.turns [.resume, .pause, .event .splitLoadedFromCache, .start])) = [.resume, .pause] ∧
    .start ∈ pushes (callsOf (Setup.single.turns [.timer 0, .event .pushReset, .event .splitLoadedFromCache, .start])) := by
  decide +kernel

end FlagKeeper.Manager
