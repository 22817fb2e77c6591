import FlagKeeper.Timing.BackoffTimer

/-!
# The reconnection timer as a single slot

A backoff timer keeps a table of named timers but uses one name of it. `Holds` says that the table is that one slot, empty or
taken, and each operation is then described by what it does to the slot: setting fills an empty slot and leaves a taken one
alone, cancelling and suspending empty it, and a timer that runs out empties the slot it holds.

`delay_eq_delayAt` is about the numbers: the attempts are counted in 32 bits, but the factor stops growing long before the count
does, so the delay of the kept count is the delay of the true one.
-/

namespace FlagKeeper

namespace Backoff

/-- Below 32 attempts the kept count is the true one. -/
theorem min_largest32_of_lt {n : Nat} (h : n < 32) : min n largest32 = n := by
  have : 32 ≤ largest32 := by decide
  omega

/-- The factor of an attempt beyond the range of the count is that of the largest count. -/
theorem factor_min_largest32 (n : Nat) : factor (min n largest32) = factor n := by
  by_cases h : n < 32
  · rw [min_largest32_of_lt h]
  · have hm : ¬min n largest32 < 32 := by
      have : 32 ≤ largest32 := by decide
      omega
    unfold factor
    rw [if_neg hm, if_neg h]

/-- The delay of a series whose count stopped at its largest value is the delay of the true number of attempts. -/
theorem delay_eq_delayAt {b : Backoff} {n : Nat} (h : b.attempt = min n largest32) : b.delay = b.delayAt n := by
  unfold delay delayAt
  rw [h, factor_min_largest32]

/-- The delay of an attempt depends on nothing but the shortest and the longest delay. -/
theorem delayAt_congr {a b : Backoff} (base : a.base = b.base) (max : a.max = b.max) (n : Nat) : a.delayAt n = b.delayAt n := by
  unfold delayAt times
  rw [base, max]

/-- The count goes on by one until it reaches its largest value. -/
theorem attempt_next {b : Backoff} {n : Nat} (h : b.attempt = min n largest32) :
    b.next.2.attempt = min (n + 1) largest32 := by
  have hn : b.next.2.attempt = min (b.attempt + 1) largest32 := rfl
  rw [hn, h]
  omega

end Backoff

namespace BackoffTimer

variable {τ : Type} {t : BackoffTimer τ} {pending : Option (Sleeper τ)}

/-- The table of the timer is one slot: nothing waits and no name is taken, or one task waits and its name is taken for it. -/
structure Holds (t : BackoffTimer τ) (pending : Option (Sleeper τ)) : Prop where
  sleepers : t.timers.sleepers = pending.toList
  slots : t.timers.slots = pending.toList.map fun s => (s.name, s.id)
  named : ∀ s ∈ pending, s.name = .streamingReconnect
  old : ∀ s ∈ pending, s.id < t.timers.nextId

/-- The task that the next setting of the timer makes wait. -/
def nextSleeper (t : BackoffTimer τ) (now : Nat) (task : τ) : Sleeper τ :=
  ⟨t.timers.nextId, .streamingReconnect, now, TimerTable.deadline now t.backoff.delay, task⟩

/-- A new timer waits for nothing. -/
theorem holds_new (backoff : Backoff) : Holds ({ backoff } : BackoffTimer τ) none :=
  ⟨rfl, rfl, by simp, by simp⟩

/-- An attempt is pending exactly when the slot is taken. -/
theorem Holds.isScheduled (h : t.Holds pending) : t.isScheduled = pending.isSome := by
  unfold BackoffTimer.isScheduled TimerTable.isScheduled
  rw [h.slots]
  cases pending with
  | none => rfl
  | some s => simp [h.named s rfl]

/-- Suspending says whether the slot was taken. -/
theorem Holds.suspend_fst (h : t.Holds pending) : t.suspend.1 = pending.isSome := by
  unfold suspend TimerTable.cancel
  rw [h.slots]
  cases pending with
  | none => rfl
  | some s => simp [h.named s rfl]

/-- Cancelling the one name empties the slot. -/
theorem Holds.timers_cancel (h : t.Holds pending) :
    (t.timers.cancel .streamingReconnect).2.slots = [] ∧ (t.timers.cancel .streamingReconnect).2.sleepers = [] := by
  unfold TimerTable.cancel
  rw [h.slots, h.sleepers]
  cases pending with
  | none => simp [h.slots, h.sleepers]
  | some s => simp [h.named s rfl]

/-- Suspending empties the slot. -/
theorem Holds.suspend_snd (h : t.Holds pending) : t.suspend.2.Holds none :=
  ⟨h.timers_cancel.2, h.timers_cancel.1, by simp, by simp⟩

/-- Cancelling empties the slot. -/
theorem Holds.cancel (h : t.Holds pending) : t.cancel.Holds none :=
  ⟨h.timers_cancel.2, h.timers_cancel.1, by simp, by simp⟩

/-- Setting a timer that waits changes nothing. -/
theorem Holds.schedule_some {s : Sleeper τ} (h : t.Holds (some s)) (now : Nat) (task : τ) :
    t.schedule now task = (none, t) := by
  unfold schedule
  rw [h.isScheduled]
  rfl

/-- Setting a timer that does not wait gives the delay of the series, which then goes on. -/
theorem Holds.schedule_none (h : t.Holds none) (now : Nat) (task : τ) :
    (t.schedule now task).1 = some t.backoff.delay ∧ (t.schedule now task).2.backoff = t.backoff.next.2 ∧
      (t.schedule now task).2.Holds (some (t.nextSleeper now task)) := by
  have hfree : t.timers.isScheduled .streamingReconnect = false := h.isScheduled
  unfold schedule
  rw [h.isScheduled]
  refine ⟨rfl, rfl, ?_⟩
  simp only [Option.isSome_none, Bool.false_eq_true, if_false, TimerTable.add, hfree]
  refine ⟨?_, ?_, ?_, ?_⟩
  · simp [h.sleepers, nextSleeper, Backoff.next]
  · simp [h.slots, nextSleeper]
  · simp [nextSleeper]
  · simp [nextSleeper]

/-- A timer that runs out while another one waits, or none, changes nothing. -/
theorem Holds.wake_of_ne {id : Nat} (h : t.Holds pending) (hid : ∀ s ∈ pending, s.id ≠ id) :
    t.timers.wake id = (none, t.timers) := by
  unfold TimerTable.wake
  rw [h.sleepers]
  cases pending with
  | none => rfl
  | some s => simp [hid s rfl]

/-- The timer that waits gives its task when it runs out, and empties the slot. -/
theorem Holds.wake_self {s : Sleeper τ} (h : t.Holds (some s)) :
    (t.timers.wake s.id).1 = some s.task ∧ Holds { t with timers := (t.timers.wake s.id).2 } none := by
  have hw : t.timers.wake s.id = (some s.task, { t.timers with slots := [], sleepers := [] }) := by
    simp [TimerTable.wake, h.sleepers, h.slots]
  rw [hw]
  exact ⟨rfl, rfl, rfl, by simp, by simp⟩

/-- A timer that runs out leaves the slot as it is, or empties it. -/
theorem Holds.wake (h : t.Holds pending) (id : Nat) :
    Holds { t with timers := (t.timers.wake id).2 } pending ∨ Holds { t with timers := (t.timers.wake id).2 } none := by
  cases pending with
  | none =>
    rw [h.wake_of_ne nofun]
    exact .inl h
  | some s =>
    by_cases woken : s.id = id
    · subst woken
      exact .inr h.wake_self.2
    · left
      rw [h.wake_of_ne fun s' same => Option.some.inj same ▸ woken]
      exact h

end BackoffTimer

end FlagKeeper
