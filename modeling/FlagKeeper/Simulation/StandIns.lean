import FlagKeeper.Simulation.Host

/-!
# Stand-ins for parts

A part of the client that a simulation leaves out is stood in for by one that only logs what it is told. This module has the
names that the log knows the orders by.
-/

namespace FlagKeeper.Simulation

/-- A scope as the log shows it. -/
def encodeScope (scope : Option String) : Json := .strOrNull scope

/-- An order to a flag synchronizer, by name and arguments. -/
def flagOrder : FlagSync.Command → String × List Json
  | .load => ("load", [])
  | .loadAndSynchronize => ("load_and_synchronize", [])
  | .synchronize => ("synchronize", [])
  | .synchronizeTo n => ("synchronize_change_number", [.int n])
  | .startPeriodic => ("start_periodic_sync", [])
  | .stopPeriodic => ("stop_periodic_sync", [])
  | .notifyKilled kill => ("notify_killed", [kill.encode])
  | .notifyUpdated => ("notify_updated", [])
  | .pause => ("pause", [])
  | .resume => ("resume", [])
  | .stop => ("stop", [])

/-- An order to a segment synchronizer, by name and arguments. -/
def segmentOrder : SegmentSync.Command → String × List Json
  | .loadFromCache => ("load_segments_from_cache", [])
  | .synchronize => ("synchronize_segments", [])
  | .force target delay => ("force_segments_sync", [target.encode, .int delay.toMillis])
  | .startPeriodic => ("start_periodic_fetching", [])
  | .stopPeriodic => ("stop_periodic_fetching", [])
  | .notifyUpdated => ("notify_segments_updated", [])
  | .notifyLargeUpdated => ("notify_large_segments_updated", [])
  | .pause => ("pause", [])
  | .resume => ("resume", [])
  | .destroy => ("destroy", [])

/-- An order to an impression tracker, by name and arguments. -/
def trackerOrder : ImpressionTracker.Command → String × List Json
  | .push pushed => ("push", [pushed.impression.encode, .bool pushed.disabled])
  | .start => ("start", [])
  | .stop => ("stop", [])
  | .pause => ("pause", [])
  | .resume => ("resume", [])
  | .flush => ("flush", [])
  | .destroy => ("destroy", [])
  | .enableTracking enable => ("enable_tracking", [.bool enable])
  | .enablePersistence enable => ("enable_persistence", [.bool enable])

/-- An order to an event recorder, by name and arguments. -/
def eventOrder : EventRecorder.Command → String × List Json
  | .start => ("start", [])
  | .stop => ("stop", [])
  | .push event => ("push", [event.encode])
  | .flush => ("flush", [])
  | .pause => ("pause", [])
  | .resume => ("resume", [])
  | .destroy => ("destroy", [])

/-- An order to a synchronizer, by name and arguments. -/
def synchronizerOrder : Synchronizer.Command → String × List Json
  | .loadFlags => ("load_flags_from_cache", [])
  | .loadAndSynchronizeFlags => ("load_and_synchronize_flags", [])
  | .loadSegments scope => ("load_segments_from_cache", [encodeScope scope])
  | .loadAttributes scope => ("load_attributes_from_cache", [encodeScope scope])
  | .startKey key => ("start_by_key", [key.encode])
  | .synchronizeAll => ("sync_all", [])
  | .synchronizeFlags => ("synchronize_flags", [])
  | .synchronizeFlagsTo n => ("synchronize_flags_change_number", [.int n])
  | .synchronizeSegments scope => ("synchronize_segments", [encodeScope scope])
  | .forceSegments scope target delay => ("force_segments_sync", [encodeScope scope, target.encode, .int delay.toMillis])
  | .startFetching => ("start_periodic_fetching", [])
  | .stopFetching => ("stop_periodic_fetching", [])
  | .startRecording => ("start_recording_user_data", [])
  | .stopRecording => ("stop_recording_user_data", [])
  | .setConsent consent => ("set_user_consent", [.str consent.name])
  | .pushImpression pushed => ("push_impression", [pushed.impression.encode, .bool pushed.disabled])
  | .pushEvent event => ("push_event", [event.encode])
  | .notifySegmentsUpdated scope => ("notify_segments_updated", [encodeScope scope])
  | .notifyLargeSegmentsUpdated scope => ("notify_large_segments_updated", [encodeScope scope])
  | .notifyFlagsUpdated => ("notify_flags_updated", [])
  | .notifyFlagKilled kill => ("notify_flag_killed", [kill.encode])
  | .pause => ("pause", [])
  | .resume => ("resume", [])
  | .flush => ("flush", [])
  | .destroy => ("destroy", [])

/-- The lane of the parts that stand in below a synchronizer. -/
def partsLane : String := "facade"

/-- The call that an order to a stand-in makes. -/
def orderCall (lane part : String) (order : String × List Json) : HostCall :=
  { lane, name := part ++ "." ++ order.1, args := order.2 }

/-- A synchronizer that only logs, and keeps what the user allows. The host may break down at an order without arguments. -/
def standInSynchronizer (h : HostPorts) (command : Synchronizer.Command) : Sim Unit := do
  let order := synchronizerOrder command
  h.tell { orderCall managerLane "synchronizer" order with risk := if order.2.isEmpty then .breakdown else .none }
  match command with
  | .setConsent consent => modify fun w => { w with consent }
  | _ => return ()

end FlagKeeper.Simulation
