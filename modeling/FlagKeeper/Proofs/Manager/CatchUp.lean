import FlagKeeper.Proofs.Manager.History

/-!
# When a resume catches up

A resume fetches everything if the last fetch is too long ago. The guardian that decides this knows of the past only what the
handled events told it. The statement of this file says what the guardian knows as a function of the past, and from that when
exactly a resume fetches: events that came during a pause count for nothing.
-/

namespace FlagKeeper.Manager

namespace Turn

/-- The millisecond at which a turn learned that everything was fetched, if it did. -/
def fetchedAt (t : Turn) : Option Int :=
  match t.handled with
  | some .syncExecuted => some t.before.millis
  | _ => none

/-- The longest silence that a turn was advised of, if it was: a thousand milliseconds for each second, as far as 64 bits with a sign
go. -/
def advised (t : Turn) : Option Int :=
  match t.handled with
  | some (.pushDelayReceived seconds) => some (max (-9223372036854775808) (min (seconds * 1000) 9223372036854775807))
  | _ => none

/-- What a turn handles that is no bookkeeping tells nothing of fetches or silences. -/
theorem not_told {t : Turn} (other : ∀ e, t.handled = some e → e.isBookkeeping = false) :
    t.fetchedAt = none ∧ t.advised = none := by
  unfold fetchedAt advised
  cases handled : t.handled with
  | none => exact ⟨rfl, rfl⟩
  | some e =>
    have plain := other e handled
    cases e <;> first | exact ⟨rfl, rfl⟩ | cases plain

end Turn

/-- When the past last learned that everything was fetched, the latest turn first. -/
def lastFetch (past : List Turn) : Option Int := past.findSome? Turn.fetchedAt

/-- The silence that the past was last advised to bear, or that of the settings. -/
def longestSilence (settings : Settings) (past : List Turn) : Int :=
  (past.findSome? Turn.advised).getD settings.maxSyncPeriodMillis

theorem lastFetch_cons (t : Turn) (past : List Turn) : lastFetch (t :: past) = t.fetchedAt.or (lastFetch past) := by
  unfold lastFetch
  rw [List.findSome?_cons]
  cases t.fetchedAt <;> rfl

theorem longestSilence_cons (settings : Settings) (t : Turn) (past : List Turn) :
    longestSilence settings (t :: past) = t.advised.getD (longestSilence settings past) := by
  unfold longestSilence
  rw [List.findSome?_cons]
  cases t.advised <;> rfl

/-- What a guardian knows after a turn. -/
def Turn.teach (t : Turn) (g : Guardian) : Guardian where
  lastSync := t.fetchedAt.or g.lastSync
  maxSyncPeriod := t.advised.getD g.maxSyncPeriod

namespace Scene

variable {s : Scene}

/-- A turn that handles no bookkeeping tells the guardian nothing. -/
theorem guardian_of_eq {i : Input} {s' : Scene} (h : s.take i = s') (kept : s'.state.guardian = s.state.guardian)
    (other : ∀ e, (Turn.mk i s).handled = some e → e.isBookkeeping = false) :
    (s.take i).state.guardian = (Turn.mk i s).teach s.state.guardian := by
  obtain ⟨unfetched, unadvised⟩ := Turn.not_told other
  rw [h, kept, Turn.teach, unfetched, unadvised]
  rfl

/-- What the guardian learns from an event. -/
theorem guardian_take_event (e : StatusEvent) :
    (s.take (.event e)).state.guardian = (Turn.mk (.event e) s).teach s.state.guardian := by
  cases hl : s.state.isLive with
  | false =>
    have other : ∀ e', (Turn.mk (.event e) s).handled = some e' → e'.isBookkeeping = false := by
      simp [Turn.handled, hl]
    rcases s.state.standing with hs | ⟨hs, hp⟩ | live
    · exact guardian_of_eq (take_event_stopped hs e) rfl other
    · exact guardian_of_eq (take_event_paused hs hp e) rfl other
    · rw [hl] at live
      cases live
  | true =>
    have handled := handled_event hl e
    have other : e.isBookkeeping = false → ∀ e', (Turn.mk (.event e) s).handled = some e' → e'.isBookkeeping = false := by
      intro plain e' same
      cases handled.symm.trans same
      exact plain
    cases e with
    | pushSubsystemUp => exact guardian_of_eq (take_pushSubsystemUp hl) rfl (other rfl)
    | pushSubsystemDown => exact guardian_of_eq (take_pushSubsystemDown hl) rfl (other rfl)
    | pushSubsystemDisabled => exact guardian_of_eq (take_givesUp rfl hl) rfl (other rfl)
    | pushRetryableError => exact guardian_of_eq (take_pushRetryableError hl) rfl (other rfl)
    | pushNonRetryableError => exact guardian_of_eq (take_givesUp rfl hl) rfl (other rfl)
    | pushReset => exact guardian_of_eq (take_pushReset hl) rfl (other rfl)
    | pushDelayReceived seconds =>
      rw [take_pushDelayReceived hl, Turn.teach, Turn.fetchedAt, Turn.advised, handled]
      rfl
    | syncExecuted =>
      rw [take_syncExecuted hl, Turn.teach, Turn.fetchedAt, Turn.advised, handled]
      rfl
    | uriTooLongOnSync => exact guardian_of_eq (take_uriTooLongOnSync hl) rfl (other rfl)
    | splitLoadedFromCache =>
      cases hr : s.state.remoteStarted with
      | false => exact guardian_of_eq (take_splitLoadedFromCache hl hr) rfl (other rfl)
      | true => exact guardian_of_eq (take_splitLoadedFromCache_again hl hr) rfl (other rfl)

/-- What the guardian learns from a turn. -/
theorem guardian_take (s : Scene) (i : Input) : (s.take i).state.guardian = (Turn.mk i s).teach s.state.guardian := by
  cases i with
  | start =>
    by_cases hl : s.state.loop = .waiting
    · cases hs : s.state.stopped with
      | false => exact guardian_of_eq (take_start hl hs) rfl nofun
      | true => exact guardian_of_eq (take_start_stopped hl hs) rfl nofun
    · exact guardian_of_eq (take_start_again hl) rfl nofun
  | event e => exact guardian_take_event e
  | pause =>
    cases hl : s.state.isLive with
    | false => exact guardian_of_eq (take_pause_idle hl) rfl nofun
    | true => exact guardian_of_eq (take_pause hl) rfl nofun
  | resume =>
    rcases s.state.standing with hs | ⟨hs, hp⟩ | hl
    · exact guardian_of_eq (take_resume_idle (.inl hs)) rfl nofun
    · exact guardian_of_eq (take_resume hs hp) rfl nofun
    · exact guardian_of_eq (take_resume_idle (.inr (State.isLive_iff.1 hl).2)) rfl nofun
  | destroy =>
    cases hs : s.state.stopped with
    | true => exact guardian_of_eq (take_destroy_again hs) rfl nofun
    | false => exact guardian_of_eq (take_destroy hs) rfl nofun
  | setConsent consent =>
    cases hs : s.state.stopped with
    | true => exact guardian_of_eq (take_setConsent_stopped hs consent) rfl nofun
    | false => exact guardian_of_eq (take_setConsent hs consent) rfl nofun
  | answer consent => exact guardian_of_eq (take_answer consent) rfl nofun
  | timer id => exact guardian_of_eq (take_timer id) rfl nofun
  | advance d => exact guardian_of_eq (take_advance d) rfl nofun
  | setClock wall => exact guardian_of_eq (take_setClock wall) rfl nofun

/-- How often a resume fetches everything. -/
theorem fullFetches_resume (s : Scene) :
    fullFetches (s.take .resume).calls = if (!s.state.stopped && s.state.paused && s.mustCatchUp) = true then 1 else 0 := by
  rcases s.state.standing with hs | ⟨hs, hp⟩ | hl
  · rw [take_resume_idle (.inl hs), hs]
    rfl
  · rw [take_resume hs hp, hs, hp]
    cases s.mustCatchUp <;> simp
  · rw [take_resume_idle (.inr (State.isLive_iff.1 hl).2), (State.isLive_iff.1 hl).2]
    simp

end Scene

/-- What the guardian knows is what the past told it. -/
theorem Setup.guardian_eq (u : Setup) (inputs : List Input) :
    (u.after inputs).state.guardian =
      { lastSync := lastFetch (u.turns inputs), maxSyncPeriod := longestSilence u.settings (u.turns inputs) } := by
  induction inputs with
  | nil => exact (State.records_of_build u.built).1
  | cons i past ih =>
    rw [u.after_cons, u.turns_cons, Scene.guardian_take, ih, Turn.teach, lastFetch_cons, longestSilence_cons]

/-- A catch-up is due: fetching is allowed and has begun, and no fetch is known of or the last one is too long ago. -/
def Setup.CatchUpDue (u : Setup) (inputs : List Input) : Prop :=
  u.settings.syncEnabled = true ∧
    (∃ t ∈ u.turns inputs, t.handled = some .splitLoadedFromCache) ∧
    ∀ last, lastFetch (u.turns inputs) = some last →
      longestSilence u.settings (u.turns inputs) ≤ (u.after inputs).millis - last

/-- What the manager looks at when it resumes says whether a catch-up is due. -/
theorem Setup.mustCatchUp_iff (u : Setup) (inputs : List Input) :
    (u.after inputs).mustCatchUp = true ↔ u.CatchUpDue inputs := by
  have stale : (u.after inputs).state.guardian.mustSync (u.after inputs).millis = true ↔
      ∀ last, lastFetch (u.turns inputs) = some last →
        longestSilence u.settings (u.turns inputs) ≤ (u.after inputs).millis - last := by
    rw [u.guardian_eq, Guardian.mustSync]
    cases lastFetch (u.turns inputs) <;> simp
  rw [Scene.mustCatchUp, (u.fixed inputs).2.1, Bool.and_eq_true, Bool.and_eq_true, u.remoteStarted_iff, stale, and_assoc]
  rfl

/-- Whatever came in, in any order, and however the wall clock was set:

1. A resume fetches everything once if the manager was paused and not destroyed and a catch-up is due, and never otherwise.
2. What comes in during a pause counts for nothing: after one more event, the resume does the same. -/
theorem resume_fetches_once_iff (u : Setup) (inputs : List Input) :
    (fullFetches ((u.after inputs).take .resume).calls ≤ 1 ∧
      (fullFetches ((u.after inputs).take .resume).calls = 1 ↔
        .destroy ∉ inputs ∧ (u.after inputs).state.paused = true ∧ u.CatchUpDue inputs)) ∧
    ((u.after inputs).state.paused = true → ∀ e,
      fullFetches ((u.after (.event e :: inputs)).take .resume).calls =
        fullFetches ((u.after inputs).take .resume).calls) := by
  refine ⟨⟨?_, ?_⟩, ?_⟩
  · rw [Scene.fullFetches_resume]
    split <;> decide
  · rw [Scene.fullFetches_resume, ← u.mustCatchUp_iff, ← u.stopped_iff]
    simp [and_assoc]
  · intro paused e
    rw [u.after_cons, Scene.fullFetches_resume, Scene.fullFetches_resume]
    rcases (u.after inputs).state.standing with hs | ⟨hs, hp⟩ | hl
    · rw [take_event_stopped hs]
      rfl
    · rw [take_event_paused hs hp]
      rfl
    · cases paused.symm.trans (State.isLive_iff.1 hl).2

/-- A fetch, the advice to bear a silence of five seconds, and a pause that lasts some time. -/
def silence (pause : Duration) : List Input :=
  [.advance pause, .pause, .event (.pushDelayReceived 5), .event .syncExecuted, .event .splitLoadedFromCache]

/-- The report of a fetch that comes during a pause does not keep the resume from fetching everything. A resume five seconds after a
fetch catches up if it was advised to, and one a millisecond earlier does not. -/
theorem resume_fetches_once_iff_dropped :
    ((Setup.standard.after [.pause, .event .splitLoadedFromCache]).state.paused = true ∧
      fullFetches ((Setup.standard.after [.event .syncExecuted, .pause, .event .splitLoadedFromCache]).take .resume).calls = 1) ∧
    fullFetches ((Setup.standard.after (silence (.ofSecs 5))).take .resume).calls = 1 ∧
    fullFetches ((Setup.standard.after (silence ⟨4, 999000000, by decide, by decide⟩)).take .resume).calls = 0 := by
  have paused : (Setup.standard.after [.pause, .event .splitLoadedFromCache]).state.paused = true := by decide +kernel
  have same := (resume_fetches_once_iff Setup.standard [.pause, .event .splitLoadedFromCache]).2 paused .syncExecuted
  have fetched : lastFetch (Setup.standard.turns (silence (.ofSecs 5))) = some 0 := by decide +kernel
  have due : Setup.standard.CatchUpDue (silence (.ofSecs 5)) := by
    refine ⟨rfl, ⟨_, .tail _ (.tail _ (.tail _ (.tail _ (.head _)))), rfl⟩, fun last known => ?_⟩
    cases fetched.symm.trans known
    decide +kernel
  have caughtUp := (resume_fetches_once_iff Setup.standard (silence (.ofSecs 5))).1.2.2
  refine ⟨⟨paused, same.trans ?_⟩, caughtUp ⟨by simp [silence], ?_, due⟩, ?_⟩ <;> decide +kernel

end FlagKeeper.Manager
