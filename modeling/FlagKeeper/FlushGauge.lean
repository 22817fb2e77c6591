/-!
# When a queue is due to be sent

A gauge adds up how many items, and how many bytes, went into a queue since it was last sent.
-/

namespace FlagKeeper

/-- What went into a queue, against two limits. -/
structure FlushGauge where
  maxCount : Nat
  maxBytes : Nat
  count : Nat := 0
  bytes : Nat := 0
  deriving DecidableEq, Repr

namespace FlushGauge

/-- Whether one of the limits is reached. -/
def isDue (g : FlushGauge) : Bool := g.maxCount ≤ g.count || g.maxBytes ≤ g.bytes

/-- One more item of a size. -/
def add (g : FlushGauge) (size : Nat) : FlushGauge := { g with count := g.count + 1, bytes := g.bytes + size }

/-- The gauge at given amounts. -/
def update (g : FlushGauge) (count bytes : Nat) : FlushGauge := { g with count, bytes }

/-- The gauge after the queue was sent. -/
def reset (g : FlushGauge) : FlushGauge := g.update 0 0

end FlushGauge

end FlagKeeper
