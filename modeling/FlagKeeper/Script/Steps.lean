import FlagKeeper.Script.Reading
import FlagKeeper.Simulation.Step

/-!
# Reading steps

A step is written as a list: its name, then its arguments. Where a name has a point, what stands before it names the part that
the step is for.
-/

namespace FlagKeeper.Script

open FlagKeeper.Simulation

/-- An impression, and whether its flag has impressions turned off. -/
def tracked (args : List Json) : Reading TrackedImpression := do
  let impression ← decoded Impression.decode (argument args 0)
  return { impression, disabled := ← withDefault bool false args[1]? }

/-- What is known of the identity of a key. -/
def identityOf (k : Key) (j : Json) : Reading IdentitySetup := do
  return {
    key := k
    label := ← orNull text (field j "label")
    segments := ← orNull int (field j "segments")
    largeSegments := ← orNull int (field j "large_segments") }

/-- An identity with its key. -/
def identity (j : Json) : Reading IdentitySetup := do identityOf (← key (field j "key")) j

/-- A scope: a matching key, or nothing. -/
def scope (args : List Json) : Reading (Option String) := orNull text (argument args 0)

/-- An order to the flag synchronizer. -/
def flagCommand (method : String) (args : List Json) : Reading FlagSync.Command :=
  match method with
  | "load" => .ok .load
  | "load_and_synchronize" => .ok .loadAndSynchronize
  | "synchronize" => .ok .synchronize
  | "synchronize_change_number" => .synchronizeTo <$> int (argument args 0)
  | "start_periodic_sync" => .ok .startPeriodic
  | "stop_periodic_sync" => .ok .stopPeriodic
  | "notify_killed" => .notifyKilled <$> decoded FlagKill.decode (argument args 0)
  | "notify_updated" => .ok .notifyUpdated
  | "pause" => .ok .pause
  | "resume" => .ok .resume
  | "stop" => .ok .stop
  | _ => malformed

/-- The order to reach change numbers, after a delay. -/
def forceCommand (args : List Json) : Reading SegmentSync.Command := do
  let numbers ← target (argument args 0)
  return .force numbers (← duration (argument args 1))

/-- An order to a segment synchronizer. -/
def segmentCommand (method : String) (args : List Json) : Reading SegmentSync.Command :=
  match method with
  | "load_segments_from_cache" => .ok .loadFromCache
  | "synchronize_segments" => .ok .synchronize
  | "force_segments_sync" => forceCommand args
  | "start_periodic_fetching" => .ok .startPeriodic
  | "stop_periodic_fetching" => .ok .stopPeriodic
  | "notify_segments_updated" => .ok .notifyUpdated
  | "notify_large_segments_updated" => .ok .notifyLargeUpdated
  | "pause" => .ok .pause
  | "resume" => .ok .resume
  | "destroy" => .ok .destroy
  | _ => malformed

/-- An order to the impression tracker. -/
def trackerCommand (method : String) (args : List Json) : Reading ImpressionTracker.Command :=
  match method with
  | "push" => .push <$> tracked args
  | "start" => .ok .start
  | "stop" => .ok .stop
  | "pause" => .ok .pause
  | "resume" => .ok .resume
  | "flush" => .ok .flush
  | "destroy" => .ok .destroy
  | "enable_tracking" => .enableTracking <$> bool (argument args 0)
  | "enable_persistence" => .enablePersistence <$> bool (argument args 0)
  | _ => malformed

/-- A step for the event recorder. -/
def eventsStep (method : String) (args : List Json) : Reading Step :=
  match method with
  | "push" => do return .events (.push (← decoded TrackedEvent.decode (argument args 0)))
  | "push_new" => do
    return .recordNew (← text (argument args 0)) (← text (argument args 1)) (← text (argument args 2))
  | "start" => .ok (.events .start)
  | "stop" => .ok (.events .stop)
  | "flush" => .ok (.events .flush)
  | "pause" => .ok (.events .pause)
  | "resume" => .ok (.events .resume)
  | "destroy" => .ok (.events .destroy)
  | _ => malformed

/-- A step for the registry. -/
def registryStep (method : String) (args : List Json) : Reading RegistryStep :=
  let ofKey (step : Key → RegistryStep) : Reading RegistryStep := step <$> key (argument args 0)
  let inScope (command : SegmentSync.Command) : Reading RegistryStep := do return .tellSegments (← scope args) command
  match method with
  | "register" => do
    let k ← key (argument args 0)
    .register <$> identityOf k (argument args 1)
  | "unregister" => ofKey .unregister
  | "lookup" => ofKey .lookup
  | "start_events" => ofKey .startSignals
  | "start_sync" => ofKey .startSync
  | "sync_key" => ofKey .syncKey
  | "load_segments_from_cache" => inScope .loadFromCache
  | "load_attributes_from_cache" => .loadAttributes <$> scope args
  | "sync_segments" => inScope .synchronize
  | "notify_segments_updated" => inScope .notifyUpdated
  | "notify_large_segments_updated" => inScope .notifyLargeUpdated
  | "force_segments_sync" => do
    let matching ← scope args
    .tellSegments matching <$> forceCommand args.tail
  | "start_periodic_sync" => .ok .startPolling
  | "stop_periodic_sync" => .ok .stopPolling
  | "pause" => .ok (.tellSegments none .pause)
  | "resume" => .ok (.tellSegments none .resume)
  | "stop" => .ok .stop
  | _ => malformed

/-- An order to the synchronizer. -/
def synchronizerCommand (method : String) (args : List Json) : Reading Synchronizer.Command :=
  let inScope (command : Option String → Synchronizer.Command) : Reading Synchronizer.Command := command <$> scope args
  match method with
  | "load_flags_from_cache" => .ok .loadFlags
  | "load_and_synchronize_flags" => .ok .loadAndSynchronizeFlags
  | "load_segments_from_cache" => inScope .loadSegments
  | "load_attributes_from_cache" => inScope .loadAttributes
  | "start_by_key" => .startKey <$> key (argument args 0)
  | "sync_all" => .ok .synchronizeAll
  | "synchronize_flags" => .ok .synchronizeFlags
  | "synchronize_flags_change_number" => .synchronizeFlagsTo <$> int (argument args 0)
  | "synchronize_segments" => inScope .synchronizeSegments
  | "force_segments_sync" => do
    let matching ← scope args
    let numbers ← target (argument args 1)
    return .forceSegments matching numbers (← duration (argument args 2))
  | "start_periodic_fetching" => .ok .startFetching
  | "stop_periodic_fetching" => .ok .stopFetching
  | "start_recording_user_data" => .ok .startRecording
  | "stop_recording_user_data" => .ok .stopRecording
  | "set_user_consent" => .setConsent <$> consent (argument args 0)
  | "push_impression" => .pushImpression <$> tracked args
  | "push_event" => .pushEvent <$> decoded TrackedEvent.decode (argument args 0)
  | "notify_segments_updated" => inScope .notifySegmentsUpdated
  | "notify_large_segments_updated" => inScope .notifyLargeSegmentsUpdated
  | "notify_flags_updated" => .ok .notifyFlagsUpdated
  | "notify_flag_killed" => .notifyFlagKilled <$> decoded FlagKill.decode (argument args 0)
  | "pause" => .ok .pause
  | "resume" => .ok .resume
  | "flush" => .ok .flush
  | "destroy" => .ok .destroy
  | _ => malformed

/-- A step for the manager. -/
def managerStep (method : String) (args : List Json) : Reading ManagerStep :=
  match method with
  | "start" => .ok .start
  | "pause" => .ok .pause
  | "resume" => .ok .resume
  | "destroy" => .ok .destroy
  | "join" => .ok .join
  | "set_user_consent" => .setConsent <$> consent (argument args 0)
  | "health" => .ok .health
  | _ => malformed

/-- An alarm: a timer's name, a delay and a label. -/
def alarm (args : List Json) : Reading Alarm := do
  let name ← named timerNames (argument args 0)
  let delay ← duration (argument args 1)
  return { name, delay, label := ← text (argument args 2) }

/-- The alarms that follow one another; each is written as the last part of the one before it, at most so many. -/
def following : Nat → Json → Reading (List Alarm)
  | depth + 1, .arr (_ :: args) => do
    let first ← alarm args
    return first :: (← following depth (argument args 3))
  | _, _ => .ok []

/-- A step for the timer table. -/
def timerStep (method : String) (args : List Json) : Reading TimerStep :=
  match method with
  | "add" => do
    let first ← alarm args
    .add first <$> following depthLimit (argument args 3)
  | "cancel" => .cancel <$> named timerNames (argument args 0)
  | "is_scheduled" => .isScheduled <$> named timerNames (argument args 0)
  | "destroy" => .ok .cancelAll
  | _ => malformed
where
  /-- No document is deeper. -/
  depthLimit : Nat := 128

/-- A step for the reconnection timer. -/
def retryStep (method : String) (args : List Json) : Reading RetryStep :=
  match method with
  | "schedule" => .schedule <$> text (argument args 0)
  | "cancel" => .ok .cancel
  | "suspend" => .ok .suspend
  | _ => malformed

/-- The steps for the interval worker by name. -/
def intervalSteps : List (String × IntervalStep) :=
  [("start", .start), ("stop", .stop), ("pause", .pause), ("resume", .resume), ("destroy", .destroy)]

/-- A record for the log. The name of the client stands before its details. -/
def lifeRecord (method : String) (details : List Json) : Reading LifeRecord :=
  match method with
  | "sync_started" => do return .started (← bool (argument details 0)) (← bool (argument details 1))
  | "sync_mode_changed" => do
    return .modeChanged (← named syncModes (argument details 0)) (← text (argument details 1))
  | "reconnect_scheduled" => .reconnectScheduled <$> nat (argument details 0)
  | "transports_stopped" => .transportsStopped <$> text (argument details 0)
  | "paused" => .ok .paused
  | "resumed" => .resumed <$> bool (argument details 0)
  | "stopped" => .ok .stopped
  | _ => malformed

/-- Something to be counted. -/
def metricsStep (method : String) (args : List Json) : Reading MetricsStep :=
  match method with
  | "impressions" => do return .impressions (← named impressionFates (argument args 0)) (← nat (argument args 1))
  | "events" => do return .events (← named eventFates (argument args 0)) (← nat (argument args 1))
  | "mode" => .mode <$> named syncModes (argument args 0)
  | "streaming" => .streamingEvent <$> event (argument args 0)
  | _ => malformed

/-- The part that a step's name is for, and the rest of the name. -/
def splitName (name : String) : String × String :=
  match name.splitOn "." with
  | [method] => ("", method)
  | part :: rest => (part, ".".intercalate rest)
  | [] => ("", "")

/-- A reaction to a call. -/
def reaction (j : Json) : Reading Reaction := do
  match ← elements j with
  | [] => malformed
  | name :: args =>
    match splitName (← text name) with
    | ("manager", "pause") => .ok .pauseManager
    | ("manager", "resume") => .ok .resumeManager
    | ("manager", "destroy") => .ok .destroyManager
    | ("segments", method) => .tellSegments <$> segmentCommand method args
    | ("flags", method) => .tellFlags <$> flagCommand method args
    | ("", "emit") => .emit <$> event (argument args 0)
    | _ => malformed

/-- Reactions by call. -/
def reactions : Json → Reading (List (String × List Reaction)) := tableOf (listOf reaction)

/-- How workers complete at once, by kind. -/
def automatic : Json → Reading (List (String × Outcome)) := tableOf outcome

/-- The references that can be given up by name. -/
def holdings : List (String × Holding) :=
  [("flags", .flags), ("segments", .segments), ("tracker", .tracker), ("events", .events), ("broadcaster", .broadcaster),
    ("receiver", .receiver), ("manager", .manager), ("facade", .synchronizer)]

/-- A step that is for no part of the client. -/
def worldStep (name : String) (args : List Json) : Reading Step :=
  match name with
  | "advance" => .advance <$> duration (argument args 0)
  | "set_clock" => .setClock <$> int (argument args 0)
  | "faults" => .setFaults <$> listOf text (argument args 0)
  | "auto" => .setAutomatic <$> automatic (argument args 0)
  | "on" => .addReactions <$> reactions (argument args 0)
  | "complete" => do
    let id ← text (argument args 0)
    return .complete id (← outcome (argument args 1))
  | "emit" => .emit <$> event (argument args 0)
  | "is_closed" => .ok .isClosed
  | "set_flags" => .setFlags <$> flags (argument args 0)
  | "set_change_number" => .setChangeNumber <$> int (argument args 0)
  | "set_segments" => do
    let step ← named [("segments", Step.setSegments), ("large_segments", Step.setLargeSegments)] (argument args 0)
    return step (← text (argument args 1)) (← int (argument args 2))
  | "drop" => .release <$> named holdings (argument args 0)
  | _ => malformed

/-- A step. -/
def step (j : Json) : Reading Step := do
  match ← elements j with
  | [] => malformed
  | name :: args =>
    let name ← text name
    match splitName name with
    | ("", _) => worldStep name args
    | ("flags", method) => .flags <$> flagCommand method args
    | ("segments", "key") => .ok .segmentsKey
    | ("segments", method) => .segments <$> segmentCommand method args
    | ("tracker", method) => .tracker <$> trackerCommand method args
    | ("events", method) => eventsStep method args
    | ("registry", method) => .registry <$> registryStep method args
    | ("sync", "registry") => .ok .countIdentities
    | ("sync", method) => .synchronizer <$> synchronizerCommand method args
    | ("manager", method) => .manager <$> managerStep method args
    | ("timers", method) => .timers <$> timerStep method args
    | ("backoff", method) => .retry <$> retryStep method args
    | ("interval", method) => .interval <$> named intervalSteps (.str method)
    | ("logger", "init_tracing") => .ok .rest
    | ("logger", method) => do
      let client ← text (argument args 0)
      .log client <$> lifeRecord method args.tail
    | ("metrics", method) => .metrics <$> metricsStep method args
    | _ => malformed

end FlagKeeper.Script
