import FlagKeeper.Script.Scenario

/-!
# Writing reports

What a scenario shows after each step: the reply, the calls in the log, and the state of the parts that are there.
-/

namespace FlagKeeper.Script

open FlagKeeper.Simulation

/-- A duration as it is written. -/
def encodeDuration (d : Duration) : Json := .record [("secs", .int d.secs), ("nanos", .int d.nanos)]

/-- A reply as it is written. -/
def encodeReply : Reply → Json
  | .nothing => .null
  | .truth b => .bool b
  | .number n => .int n
  | .duration d => encodeDuration d
  | .text s => .str s
  | .key k => k.encode
  | .health report => report.encode
  | .noSuchWorker => .str "no such worker"

/-- The log, if there is anything in it. -/
def encodeLog (lanes : List (String × List Json)) : List (String × Json) :=
  if lanes.isEmpty then [] else [("log", .obj (lanes.map fun (lane, entries) => (lane, .arr entries)))]

/-- What shows of the registry. -/
def encodeRegistry (st : Registry.State) : Json :=
  .record [("len", .int st.bundles.length), ("empty", .bool st.bundles.isEmpty), ("polling", .bool st.polling),
    ("keys", .strings (NameSet.ofList (st.bundles.map (·.1.matching))).toList)]

/-- A component's status and message. -/
def encodeComponent (c : ComponentHealth) : Json := .arr [.str c.status.name, .strOrNull c.message]

/-- What shows of the health. -/
def encodeHealth (report : HealthReport) : Json :=
  .record [("status", .str report.status.name), ("ready", .bool report.ready),
    ("components", .record (report.components.map fun (name, c) => (name, encodeComponent c)))]

/-- What shows of the manager. -/
def encodeManager (now : Int) (st : Manager.State) : List (String × Json) :=
  [("state", .str st.phase.name), ("reconnect", .bool st.reconnect.isScheduled), ("polling", .bool st.polling),
    ("dropped", .int st.dropped), ("health", encodeHealth st.health.report),
    ("guardian", .arr [.int st.guardian.maxSyncPeriod, .bool (st.guardian.mustSync now)])]

/-- What shows of a cached flag. -/
def encodeCachedFlag (f : FeatureFlag) : Json :=
  .arr [.str f.name, .int f.changeNumber, .bool f.killed, .str f.defaultTreatment]

/-- What shows of the store of flags. -/
def encodeCache (w : World) : Json :=
  .record [("change_number", .int w.storedChange), ("query", .strOrNull w.storedQuery),
    ("flags", .arr (w.storedFlags.map encodeCachedFlag))]

/-- What shows of a part, if it is there. -/
def ofPart {α : Type} (part : Option α) (encode : α → List (String × Json)) : List (String × Json) :=
  (part.map encode).getD []

/-- What shows of the world. A part shows as long as the reference to it is held. -/
def encodeState (kind : String) (w : World) : List (String × Json) :=
  let held {α : Type} (h : Holding) (part : Option α) : Option α := if w.holds h then part else none
  let segments := if kind = "segments" then (w.identity 0).sync else none
  let shown :=
    ofPart w.flags (fun _ => [("cache", encodeCache w)]) ++
      ofPart (held .flags w.flags) (fun st => [("flags_in_flight", .int st.catalog.size)]) ++
      ofPart (held .segments segments) (fun st => [("segments_in_flight", .int st.catalog.size)]) ++
      ofPart (held .tracker w.tracker) (fun st => [("tracking", .bool st.tracking)]) ++
      ofPart w.registry (fun st => [("registry", encodeRegistry st)]) ++
      ofPart (held .synchronizer w.synchronizer) (fun st => [("consent", .str st.consent.name)]) ++
      ofPart (held .manager w.manager) (encodeManager w.nowMillis) ++
      ofPart w.retry (fun t => [("scheduled", .bool t.isScheduled)]) ++
      ofPart w.interval (fun i => [("running", .bool i.isRunning), ("runs", .int i.runs)])
  if shown.isEmpty then [] else [("state", .record shown)]

/-- The counters that are not zero, each under the name of its metric and under that of the count of its kind, if it has one. -/
def encodeCounters (metric : String) (count : Option String) (counters : List (String × Nat)) : List (String × Json) :=
  (counters.filter fun c => c.2 ≠ 0).flatMap fun (name, n) =>
    let total := count.map fun c => (c ++ "(" ++ name ++ ")", Json.int n)
    (metric ++ "\x7b" ++ name.toLower ++ "\x7d", .int n) :: total.toList

/-- The metrics that are not zero. -/
def encodeMetrics (m : Metrics) : Json :=
  .record (encodeCounters "flag_sync_impressions_total" (some "impressions_count") m.impressions ++
    encodeCounters "flag_sync_events_total" (some "events_count") m.events ++
    encodeCounters "flag_sync_streaming_events_total" none m.streamingEvents ++
    if m.streaming then [("flag_sync_mode\x7b\x7d", .int 1)] else [])

/-- What shows after a step. -/
def encodeStep (kind : String) (w : World) (reply : Reply) (lanes : List (String × List Json)) : Json :=
  .record (("r", encodeReply reply) :: (encodeLog lanes ++ encodeState kind w))

/-- Takes steps one after another; gives what shows after each. -/
def takeSteps (kind : String) : List Step → Settled (List Json)
  | [] => return []
  | s :: rest => do
    let (reply, lanes) ← takeStep s
    let shown := encodeStep kind (← get) reply lanes
    return shown :: (← takeSteps kind rest)

/-- Runs a scenario, unless its client cannot be built. The steps are read only once it was built. -/
def Scenario.run (s : Scenario) (steps : Reading (List Step)) : Reading (Except BuildError Json) := do
  let (built, w) := s.assemble.run.run (World.new s.setup)
  match built with
  | .ok (.error cause) => return .error cause
  | _ =>
    let (lanes, w) := finishStep.run w
    let initial := encodeStep s.kind w .nothing lanes
    let (shown, w) := (takeSteps s.kind (← steps)).run w
    let metrics := if s.setup.hasMetrics || s.kind = "metrics" then [("metrics", encodeMetrics w.metrics)] else []
    return .ok (.record ([("init", initial), ("steps", .arr shown)] ++ metrics))

end FlagKeeper.Script
