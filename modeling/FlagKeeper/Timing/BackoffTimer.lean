import FlagKeeper.Timing.Backoff
import FlagKeeper.Timing.TimerTable

/-!
# The reconnection timer

A single timer whose delay grows each time it is set, until it is cancelled. Suspending it keeps the delay that was reached.
-/

namespace FlagKeeper

/-- A growing delay and the timer that waits for it. -/
structure BackoffTimer (τ : Type) where
  backoff : Backoff
  timers : TimerTable τ := {}

namespace BackoffTimer

variable {τ : Type}

/-- Whether an attempt is pending. -/
def isScheduled (t : BackoffTimer τ) : Bool := t.timers.isScheduled .streamingReconnect

/-- Sets the timer with the next delay unless it is pending; gives the delay. -/
def schedule (t : BackoffTimer τ) (now : Nat) (task : τ) : Option Duration × BackoffTimer τ :=
  if t.isScheduled then (none, t)
  else
    let (delay, backoff) := t.backoff.next
    (some delay, { backoff, timers := (t.timers.add .streamingReconnect now delay task).2 })

/-- Cancels the pending attempt; says whether there was one. -/
def suspend (t : BackoffTimer τ) : Bool × BackoffTimer τ :=
  let (pending, timers) := t.timers.cancel .streamingReconnect
  (pending, { t with timers })

/-- Cancels the pending attempt and starts the delays over. -/
def cancel (t : BackoffTimer τ) : BackoffTimer τ :=
  { backoff := t.backoff.reset, timers := (t.timers.cancel .streamingReconnect).2 }

end BackoffTimer

end FlagKeeper
