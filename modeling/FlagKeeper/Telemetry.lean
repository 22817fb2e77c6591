import FlagKeeper.Json.Basic
import FlagKeeper.StatusEvent

/-!
# Telemetry

What the client reports about itself: how impressions and events fared, which transport is in use, which status events came, and
records of its life for the log.
-/

namespace FlagKeeper

/-- What became of an impression. -/
inductive ImpressionFate where
  | queued
  | deduped
  | dropped
  deriving DecidableEq, Repr

/-- What became of an event. -/
inductive EventFate where
  | queued
  | dropped
  deriving DecidableEq, Repr

/-- How data reaches the client. -/
inductive SyncMode where
  | streaming
  | polling
  deriving DecidableEq, Repr

/-- The name of a fate. -/
def ImpressionFate.name : ImpressionFate → String
  | .queued => "Queued"
  | .deduped => "Deduped"
  | .dropped => "Dropped"

/-- The name of a fate. -/
def EventFate.name : EventFate → String
  | .queued => "Queued"
  | .dropped => "Dropped"

/-- The name of a transport. -/
def SyncMode.name : SyncMode → String
  | .streaming => "streaming"
  | .polling => "polling"

/-- The name of a transport in the log. -/
def SyncMode.title : SyncMode → String
  | .streaming => "Streaming"
  | .polling => "Polling"

/-- Counters for all that is reported, and a gauge for the transport. -/
structure Metrics where
  impressions : List (String × Nat) := []
  events : List (String × Nat) := []
  streamingEvents : List (String × Nat) := []
  streaming : Bool := false
  deriving Repr

namespace Metrics

/-- Adds to a counter. -/
def count (name : String) (amount : Nat) (counters : List (String × Nat)) : List (String × Nat) :=
  putNamed name ((counters.lookup name).getD 0 + amount) counters

/-- Impressions fared so. -/
def recordImpressions (m : Metrics) (fate : ImpressionFate) (amount : Nat) : Metrics :=
  { m with impressions := count fate.name amount m.impressions }

/-- Events fared so. -/
def recordEvents (m : Metrics) (fate : EventFate) (amount : Nat) : Metrics :=
  { m with events := count fate.name amount m.events }

/-- The transport changed. -/
def recordMode (m : Metrics) (mode : SyncMode) : Metrics := { m with streaming := mode = .streaming }

/-- A status event came. -/
def recordStreamingEvent (m : Metrics) (event : StatusEvent) : Metrics :=
  { m with streamingEvents := count event.name 1 m.streamingEvents }

end Metrics

/-- A record of a client's life for the log. -/
inductive LifeRecord where
  | started (syncEnabled streamingEnabled : Bool)
  | modeChanged (mode : SyncMode) (reason : String)
  | reconnectScheduled (delaySecs : Nat)
  | transportsStopped (reason : String)
  | paused
  | resumed (forcedSync : Bool)
  | stopped
  deriving DecidableEq, Repr

namespace LifeRecord

/-- How urgent a record is. -/
def level : LifeRecord → String
  | .transportsStopped _ => "WARN"
  | _ => "INFO"

/-- The event that a record names. -/
def event : LifeRecord → String
  | .started _ _ => "sync_started"
  | .modeChanged _ _ => "sync_mode_changed"
  | .reconnectScheduled _ => "streaming_reconnect_scheduled"
  | .transportsStopped _ => "sync_transports_stopped"
  | .paused => "sync_paused"
  | .resumed _ => "sync_resumed"
  | .stopped => "sync_stopped"

/-- The sentence of a record. -/
def message : LifeRecord → String
  | .started _ _ => "Sync manager started"
  | .modeChanged _ _ => "Sync mode changed"
  | .reconnectScheduled _ => "Streaming reconnection scheduled"
  | .transportsStopped _ => "Streaming and polling stopped"
  | .paused => "Sync paused"
  | .resumed _ => "Sync resumed"
  | .stopped => "Sync manager stopped"

/-- What a record tells besides its event. -/
def details : LifeRecord → List (String × Json)
  | .started syncEnabled streamingEnabled =>
    [("streaming_enabled", .bool streamingEnabled), ("sync_enabled", .bool syncEnabled)]
  | .modeChanged mode reason => [("mode", .str mode.title), ("reason", .str reason)]
  | .reconnectScheduled delaySecs => [("delay_secs", .int delaySecs)]
  | .transportsStopped reason => [("reason", .str reason)]
  | .resumed forcedSync => [("forced_sync", .bool forcedSync)]
  | .paused => []
  | .stopped => []

/-- A record as it stands in the log of a named client. -/
def encode (r : LifeRecord) (client : String) : Json :=
  .record (("event", .str r.event) :: ("instance", .str client) :: ("message", .str r.message) :: r.details)

end LifeRecord

end FlagKeeper
