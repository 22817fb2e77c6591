import FlagKeeper.BuildError
import FlagKeeper.Guardian
import FlagKeeper.Health
import FlagKeeper.Settings.Basic
import FlagKeeper.Timing.BackoffTimer

/-!
# The state of a manager

What the manager knows about the transports, and the phase that follows from it.
-/

namespace FlagKeeper.Manager

/-- How far the loop is that handles status events. -/
inductive LoopState where
  | waiting
  | running
  | ended
  deriving DecidableEq, Repr

/-- What a manager keeps. -/
structure State where
  syncEnabled : Bool
  streamingEnabled : Bool
  /-- Waits for the next attempt to reconnect streaming. -/
  reconnect : BackoffTimer Unit
  guardian : Guardian
  health : Health
  loop : LoopState := .waiting
  /-- Whether the loop was told to end. -/
  shutdownSent : Bool := false
  /-- Whether the cache was announced and fetching has begun. -/
  remoteStarted : Bool := false
  polling : Bool := false
  streaming : Bool := false
  /-- Whether streaming was given up for good. -/
  streamingStopped : Bool := false
  /-- Whether a pause took a pending reconnection away. -/
  reconnectDeferred : Bool := false
  paused : Bool := false
  stopped : Bool := false
  /-- How many events a pause kept out of the records. -/
  dropped : Nat := 0

/-- Puts a manager together, at some second of the wall clock. The backoff overrides that of the settings. -/
def State.build (settings : Settings) (hasSynchronizer hasEvents : Bool) (backoff : Option (Duration × Duration))
    (now : Int) : Except BuildError State :=
  let (base, max) := backoff.getD (settings.backoffBase, settings.backoffMax)
  if !hasSynchronizer then .error .noSynchronizer
  else if !hasEvents then .error .noEvents
  else if max.toNanos < base.toNanos then .error (.backoffOrder base max)
  else
    .ok {
      syncEnabled := settings.syncEnabled
      streamingEnabled := settings.streamingEnabled
      reconnect := { backoff := { base, max } }
      guardian := { maxSyncPeriod := settings.maxSyncPeriodMillis }
      health := .new now }

/-- What a manager is at. -/
inductive Phase where
  | idle
  | streamingActive
  | pollingActive
  | reconnectScheduled
  | paused
  | stopped
  deriving DecidableEq, Repr

/-- The name of a phase. -/
def Phase.name : Phase → String
  | .idle => "idle"
  | .streamingActive => "streaming_active"
  | .pollingActive => "polling_active"
  | .reconnectScheduled => "reconnect_scheduled"
  | .paused => "paused"
  | .stopped => "stopped"

/-- The phase of a manager: the first that holds. -/
def State.phase (st : State) : Phase :=
  if st.stopped then .stopped
  else if st.paused then .paused
  else if st.reconnect.isScheduled then .reconnectScheduled
  else if st.streaming then .streamingActive
  else if st.polling then .pollingActive
  else .idle

end FlagKeeper.Manager
