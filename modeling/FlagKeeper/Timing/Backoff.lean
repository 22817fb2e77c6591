import FlagKeeper.Duration

/-!
# Growing delays

The delay before a reconnection doubles with every attempt until it reaches a longest one. The factor is kept in 32 bits, as is
the number of attempts; both stop at their largest value.
-/

namespace FlagKeeper

/-- The largest number of 32 bits. -/
def largest32 : Nat := 4294967295

/-- The delays of a series of attempts. -/
structure Backoff where
  base : Duration
  max : Duration
  attempt : Nat := 0

namespace Backoff

/-- How often the base delay is taken at some attempt. -/
def factor (attempt : Nat) : Nat := if attempt < 32 then Nat.pow 2 attempt else largest32

/-- The base delay taken so many times, but no more than the longest delay. -/
def times (b : Backoff) (factor : Nat) : Duration := ((b.base.mul? factor).map fun d => d.min b.max).getD b.max

/-- The delay before some attempt, counted from 0. -/
def delayAt (b : Backoff) (attempt : Nat) : Duration := b.times (factor attempt)

/-- The delay before the current attempt. -/
def delay (b : Backoff) : Duration := b.delayAt b.attempt

/-- The delay before the current attempt, and the series after it. -/
def next (b : Backoff) : Duration × Backoff := (b.delay, { b with attempt := Nat.min (b.attempt + 1) largest32 })

/-- The series from its start. -/
def reset (b : Backoff) : Backoff := { b with attempt := 0 }

end Backoff

end FlagKeeper
