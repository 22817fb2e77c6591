import FlagKeeper.Proofs.Codec.RoundTrip
import FlagKeeper.Proofs.Manager.History
import FlagKeeper.Timing.IntervalWorker

/-!
# What can be put together from settings that were accepted

Settings are checked as a whole (`Settings.validate`), and what is put together from them is checked again: a manager needs delays in
their order, and a periodic worker needs a period that is not empty. The first of these is among what the settings are checked for. The
second is not, so a period of zero seconds is accepted and then refused. The main statement says what can be put together from
accepted settings: a manager always, and a periodic worker just if its period is not zero (`validated_assembles_iff`).
-/

namespace FlagKeeper

namespace Duration

variable {m n : Nat}

/-- A number of seconds that fits is kept as it is. -/
theorem toNanos_ofSecs (fits : n < wordCount) : (ofSecs n).toNanos = n * nanosPerSec := by
  show n % wordCount * nanosPerSec + 0 = n * nanosPerSec
  rw [Nat.mod_eq_of_lt fits, Nat.add_zero]

theorem isZero_ofSecs_iff (fits : n < wordCount) : (ofSecs n).isZero = true ↔ n = 0 := by
  unfold isZero
  have positive : nanosPerSec ≠ 0 := by decide
  rw [beq_iff_eq, toNanos_ofSecs fits, Nat.mul_eq_zero]
  exact or_iff_left positive

theorem toNanos_ofSecs_le (fits : m < wordCount) (fits' : n < wordCount) (le : m ≤ n) : (ofSecs m).toNanos ≤ (ofSecs n).toNanos := by
  rw [toNanos_ofSecs fits, toNanos_ofSecs fits']
  exact Nat.mul_le_mul_right _ le

end Duration

/-- A worker that has something to do is refused just if its interval is empty. -/
theorem IntervalWorker.build_eq (settings : IntervalSettings) :
    IntervalWorker.build true settings = if settings.interval.isZero then .error .zeroInterval else .ok { settings } := by
  unfold build
  rw [if_neg (by simp)]

namespace FlagFilter

/-- A filter is accepted as long as it does not name too much. -/
theorem validate_ok_iff {f : FlagFilter} :
    f.validate = .ok () ↔ f.names.size ≤ nameLimit ∧ f.prefixes.size ≤ prefixLimit := by
  unfold validate
  by_cases names : f.names.size ≤ nameLimit
  · rw [if_neg (Nat.not_lt.2 names)]
    by_cases prefixes : f.prefixes.size ≤ prefixLimit
    · rw [if_neg (Nat.not_lt.2 prefixes)]
      exact iff_of_true rfl ⟨names, prefixes⟩
    · rw [if_pos (Nat.lt_of_not_le prefixes)]
      exact iff_of_false nofun fun limits => prefixes limits.2
  · rw [if_pos (Nat.lt_of_not_le names)]
    exact iff_of_false nofun fun limits => names limits.1

end FlagFilter

namespace Settings

variable {s : Settings}

/-- The period of a periodic worker, in seconds. -/
def refreshSecs (s : Settings) : RefreshTarget → Nat
  | .flags => s.flagsRefreshSecs
  | .segments => s.segmentsRefreshSecs
  | .impressions => s.impressionsRefreshSecs
  | .counts => s.countsRefreshSecs
  | .uniqueKeys => s.uniqueKeysRefreshSecs
  | .events => s.eventsPushSecs

theorem refreshRate_eq (target : RefreshTarget) : s.refreshRate target = .ofSecs (s.refreshSecs target) := by
  cases target <;> rfl

theorem Fits.refreshSecs (h : s.Fits) (target : RefreshTarget) : s.refreshSecs target < wordCount := by
  cases target with
  | flags => exact h.flagsRefreshSecs
  | segments => exact h.segmentsRefreshSecs
  | impressions => exact h.impressionsRefreshSecs
  | counts => exact h.countsRefreshSecs
  | uniqueKeys => exact h.uniqueKeysRefreshSecs
  | events => exact h.eventsPushSecs

/-- All that settings are checked for. -/
structure IsAccepted (s : Settings) : Prop where
  impressionsQueue : s.impressionsQueueSize ≠ 0
  eventsQueue : s.eventsQueueSize ≠ 0
  observer : s.observerCapacity ≠ 0
  backoff : s.backoffBaseSecs ≤ s.backoffMaxSecs
  filter : s.filter.names.size ≤ FlagFilter.nameLimit ∧ s.filter.prefixes.size ≤ FlagFilter.prefixLimit

theorem validate_ok_iff : s.validate = .ok () ↔ s.IsAccepted := by
  unfold validate
  constructor
  · intro valid
    split at valid
    case isTrue => cases valid
    case isFalse queues =>
      split at valid
      case isTrue => cases valid
      case isFalse observer =>
        split at valid
        case isTrue => cases valid
        case isFalse order =>
          obtain ⟨impressions, events⟩ : s.impressionsQueueSize ≠ 0 ∧ s.eventsQueueSize ≠ 0 := by simpa using queues
          exact ⟨impressions, events, observer, Nat.le_of_not_lt order, FlagFilter.validate_ok_iff.1 valid⟩
  · rintro ⟨impressions, events, observer, backoff, filter⟩
    rw [if_neg (by simp [impressions, events]), if_neg observer, if_neg (Nat.not_lt.2 backoff)]
    exact FlagFilter.validate_ok_iff.2 filter

/-- **What accepted settings are good for.** From settings of 64 bits that were accepted:

1. A manager can always be put together, and waits between reconnections as they say.
2. A periodic worker can be put together just if its period is not zero, whatever its jitter.
3. If its period is zero, that is why it is refused. -/
theorem validated_assembles_iff (s : Settings) (fits : s.Fits) (valid : s.validate = .ok ()) :
    (∀ now, ∃ st, Manager.State.build s true true none now = .ok st ∧
      st.reconnect.backoff = { base := s.backoffBase, max := s.backoffMax }) ∧
    ∀ target jitter,
      ((∃ w, IntervalWorker.build true { interval := s.refreshRate target, jitter } = .ok w) ↔ s.refreshSecs target ≠ 0) ∧
      (s.refreshSecs target = 0 →
        IntervalWorker.build true { interval := s.refreshRate target, jitter } = .error .zeroInterval) := by
  constructor
  · intro now
    have order : s.backoffBase.toNanos ≤ s.backoffMax.toNanos :=
      Duration.toNanos_ofSecs_le fits.backoffBaseSecs fits.backoffMaxSecs (validate_ok_iff.1 valid).backoff
    exact ⟨_, Manager.State.build_of_le order now, rfl⟩
  · intro target jitter
    have empty : (s.refreshRate target).isZero = true ↔ s.refreshSecs target = 0 := by
      rw [refreshRate_eq, Duration.isZero_ofSecs_iff (fits.refreshSecs target)]
    rw [IntervalWorker.build_eq]
    by_cases zero : s.refreshSecs target = 0
    · rw [if_pos (empty.2 zero)]
      refine ⟨⟨?_, fun positive => (positive zero).elim⟩, fun _ => rfl⟩
      rintro ⟨w, impossible⟩
      cases impossible
    · rw [if_neg (mt empty.1 zero)]
      exact ⟨⟨fun _ => zero, fun _ => ⟨_, rfl⟩⟩, fun same => (zero same).elim⟩

/-- Settings by which segments are to be refreshed every zero seconds. -/
def restless : Settings := { segmentsRefreshSecs := 0 }

theorem fits_restless : restless.Fits := by constructor <;> decide

/-- They are accepted and make a manager and a worker for the flags, but none for the segments. -/
theorem validated_assembles_iff_restless :
    (∃ st, Manager.State.build restless true true none 0 = .ok st) ∧
    (∃ w, IntervalWorker.build true { interval := restless.refreshRate .flags } = .ok w) ∧
    IntervalWorker.build true { interval := restless.refreshRate .segments } = .error .zeroInterval := by
  obtain ⟨managers, workers⟩ := validated_assembles_iff restless fits_restless rfl
  obtain ⟨st, built, -⟩ := managers 0
  exact ⟨⟨st, built⟩, (workers .flags .zero).1.2 (by decide), (workers .segments .zero).2 rfl⟩

/-- Not everything can be put together from settings that were accepted. -/
theorem accepted_period_refused :
    ¬∀ s : Settings, s.Fits → s.validate = .ok () →
      (∀ now, ∃ st, Manager.State.build s true true none now = .ok st) ∧
      ∀ target, ∃ w, IntervalWorker.build true { interval := s.refreshRate target } = .ok w := by
  intro always
  obtain ⟨-, workers⟩ := always restless fits_restless rfl
  obtain ⟨w, built⟩ := workers .segments
  have empty : (restless.refreshRate .segments).isZero = true := (Duration.isZero_ofSecs_iff (by decide)).2 rfl
  rw [IntervalWorker.build_eq, if_pos empty] at built
  cases built

end Settings

end FlagKeeper
