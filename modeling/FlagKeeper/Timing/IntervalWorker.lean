import FlagKeeper.BuildError

/-!
# The interval worker

Runs a task once per period. A worker that is paused lets its ticks pass, one that is stopped has no ticks, and one that is
destroyed never starts again. The period is the interval and some jitter, settled when the worker starts; late ticks are all
made up for without losing the rhythm.

Times are nanoseconds, of a clock that counts from some start and of the wall clock that counts from its epoch.
-/

namespace FlagKeeper

/-- The interval, and how much jitter there may be. -/
structure IntervalSettings where
  interval : Duration := .ofSecs 3600
  jitter : Duration := .zero

namespace IntervalSettings

/-- The jitter of a worker that starts at some wall time: whole milliseconds below the most there may be. -/
def jitterMillis (s : IntervalSettings) (wall : Int) : Nat :=
  let most := s.jitter.toMillis % wordCount
  if most = 0 then 0 else wall.toNat % wordCount % most

/-- The period of a worker that starts at some wall time. -/
def period (s : IntervalSettings) (wall : Int) : Nat := s.interval.toNanos + s.jitterMillis wall * nanosPerMilli

end IntervalSettings

/-- A running rhythm. -/
structure IntervalLoop where
  period : Nat
  nextTick : Nat
  deriving DecidableEq, Repr

/-- A worker and how often its task ran. -/
structure IntervalWorker where
  settings : IntervalSettings
  loop : Option IntervalLoop := none
  paused : Bool := false
  destroyed : Bool := false
  runs : Nat := 0

namespace IntervalWorker

/-- Puts a worker together. -/
def build (hasTask : Bool) (settings : IntervalSettings) : Except BuildError IntervalWorker :=
  if !hasTask then .error .noTask
  else if settings.interval.isZero then .error .zeroInterval
  else .ok { settings }

/-- Whether there are ticks. -/
def isRunning (w : IntervalWorker) : Bool := w.loop.isSome

/-- Starts the rhythm, unless there is one or the worker is destroyed. The first tick is a period away; a rhythm whose first tick
the clock does not reach ends at once. -/
def start (w : IntervalWorker) (clock : Nat) (wall : Int) : IntervalWorker :=
  if w.destroyed || w.isRunning then w
  else
    let period := w.settings.period wall
    { w with loop := if clock + period < clockEnd then some ⟨period, clock + period⟩ else none }

/-- Ends the rhythm. -/
def stop (w : IntervalWorker) : IntervalWorker := { w with loop := none }

/-- Lets ticks pass from now on. -/
def pause (w : IntervalWorker) : IntervalWorker := { w with paused := true }

/-- Takes ticks up again. -/
def resume (w : IntervalWorker) : IntervalWorker := { w with paused := false }

/-- Ends the rhythm for good. -/
def destroy (w : IntervalWorker) : IntervalWorker := { w with destroyed := true, loop := none }

/-- How many ticks of a rhythm have come by some time. A tick comes at the next whole millisecond. -/
def IntervalLoop.dueTicks (l : IntervalLoop) (clock : Nat) : Nat :=
  let reached := clock / nanosPerMilli * nanosPerMilli
  if l.nextTick ≤ reached then (reached - l.nextTick) / l.period + 1 else 0

/-- Makes the ticks that have come; says how often the task runs now. -/
def tick (w : IntervalWorker) (clock : Nat) : Nat × IntervalWorker :=
  match w.loop with
  | none => (0, w)
  | some l =>
    let ticks := IntervalLoop.dueTicks l clock
    let runs := if w.paused then 0 else ticks
    (runs, { w with loop := some { l with nextTick := l.nextTick + ticks * l.period }, runs := w.runs + runs })

end IntervalWorker

end FlagKeeper
