import FlagKeeper.Duration

/-!
# Named timers

Each timer name has one slot. While a timer of a name is pending, another one of that name is turned away. A timer that is due
gives up its slot before its task runs, so the task may set it again. Timers go off at whole milliseconds, a fraction counting as
a full one. A delay whose end the clock does not reach is over in the far future.

The clock of a table counts nanoseconds from some start. Whoever runs the tasks may know a longest sleep, after which even a task that
should wait longer goes on (`wakeTime`); the table knows of none.
-/

namespace FlagKeeper

/-- The timers there are. -/
inductive TimerName where
  /-- The delayed catch-up of segments. -/
  | syncSegments
  /-- The attempt to reconnect streaming. -/
  | streamingReconnect
  deriving DecidableEq, Repr

/-- A task that waits for its time. -/
structure Sleeper (τ : Type) where
  id : Nat
  name : TimerName
  /-- When the timer was set, in nanoseconds. -/
  armed : Nat
  /-- When it goes off, in milliseconds. -/
  deadline : Nat
  task : τ

/-- The pending timers: which timer holds the slot of a name, and the tasks that wait. -/
structure TimerTable (τ : Type) where
  slots : List (TimerName × Nat) := []
  sleepers : List (Sleeper τ) := []
  nextId : Nat := 0

namespace TimerTable

variable {τ : Type}

/-- Whether a timer of a name is pending. -/
def isScheduled (t : TimerTable τ) (name : TimerName) : Bool := (t.slots.lookup name).isSome

/-- The first whole millisecond that is no earlier than a time. -/
def ceilMillis (nanos : Nat) : Nat := (nanos + (nanosPerMilli - 1)) / nanosPerMilli

/-- How long a timer waits if the clock does not reach the end of its delay: thirty years of 365 days, in nanoseconds. -/
def farFuture : Nat := 30 * 365 * 86400 * nanosPerSec

/-- When a timer set now goes off, in milliseconds. -/
def deadline (now : Nat) (delay : Duration) : Nat :=
  ceilMillis (if now + delay.toNanos < clockEnd then now + delay.toNanos else now + farFuture)

/-- Sets a timer unless one of the name is pending; says whether it was set. -/
def add (t : TimerTable τ) (name : TimerName) (now : Nat) (delay : Duration) (task : τ) : Bool × TimerTable τ :=
  if t.isScheduled name then (false, t)
  else
    (true,
      { slots := t.slots ++ [(name, t.nextId)]
        sleepers := t.sleepers ++ [⟨t.nextId, name, now, deadline now delay, task⟩]
        nextId := t.nextId + 1 })

/-- Cancels the pending timer of a name; says whether there was one. -/
def cancel (t : TimerTable τ) (name : TimerName) : Bool × TimerTable τ :=
  match t.slots.lookup name with
  | none => (false, t)
  | some id =>
    (true,
      { t with slots := t.slots.filter fun slot => slot.1 ≠ name, sleepers := t.sleepers.filter fun s => s.id ≠ id })

/-- Cancels every pending timer. -/
def cancelAll (t : TimerTable τ) : TimerTable τ :=
  t.slots.foldl (fun t slot => (t.cancel slot.1).2) t

/-- When a task goes on where nothing sleeps longer than some number of nanoseconds, in milliseconds. -/
def wakeTime (longest : Option Nat) (s : Sleeper τ) : Nat :=
  match longest with
  | none => s.deadline
  | some nanos => min s.deadline (ceilMillis (s.armed + nanos))

/-- The tasks whose time has come, in the order in which they wait. -/
def due (longest : Option Nat) (t : TimerTable τ) (now : Nat) : List (Sleeper τ) :=
  t.sleepers.filter fun s => wakeTime longest s ≤ now / nanosPerMilli

/-- Lets a waiting task go: its slot is free, unless a newer timer of the same name holds it. -/
def wake (t : TimerTable τ) (id : Nat) : Option τ × TimerTable τ :=
  match t.sleepers.find? fun s => s.id = id with
  | none => (none, t)
  | some s =>
    (some s.task,
      { t with slots := t.slots.filter fun slot => slot ≠ (s.name, id), sleepers := t.sleepers.filter fun s => s.id ≠ id })

end TimerTable

end FlagKeeper
