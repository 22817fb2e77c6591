/-!
# Staleness

The guardian remembers when the last fetch succeeded and how long a silence may last. Times are milliseconds of the wall clock.
-/

namespace FlagKeeper

/-- The last successful fetch and the longest silence. -/
structure Guardian where
  lastSync : Option Int := none
  maxSyncPeriod : Int
  deriving DecidableEq, Repr

namespace Guardian

/-- A fetch succeeded. -/
def synced (g : Guardian) (now : Int) : Guardian := { g with lastSync := some now }

/-- Sets the longest silence. -/
def setPeriod (g : Guardian) (period : Int) : Guardian := { g with maxSyncPeriod := period }

/-- Whether a fetch is due: none ever succeeded, or the last one is too long ago. -/
def mustSync (g : Guardian) (now : Int) : Bool :=
  match g.lastSync with
  | none => true
  | some last => g.maxSyncPeriod ≤ now - last

end Guardian

end FlagKeeper
