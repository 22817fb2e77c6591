import FlagKeeper.Simulation.World

/-!
# The simulated host

How the host serves calls: it logs the call, reacts to it from within, and then breaks down, fails or has its effect, as it was
told.
-/

namespace FlagKeeper.Simulation

/-- What can go wrong with a call. -/
inductive CallRisk where
  | none
  /-- The host may break down. -/
  | breakdown
  /-- The host may break down or report a failure. -/
  | failure
  deriving DecidableEq, Repr

/-- A call to the host. -/
structure HostCall where
  lane : String
  name : String
  args : List Json := []
  risk : CallRisk := .none
  /-- Whether the call shows in the log. -/
  logged : Bool := true

/-- How calls are served. -/
abbrev CallServer := HostCall → Sim Outcome

/-- Logs a call. -/
def HostCall.record (c : HostCall) : Sim Unit :=
  modify fun w => if c.logged then w.log c.lane (.arr (.str c.name :: c.args)) else w

/-- Takes the reactions to a call; they happen once. -/
def takeReactions (name : String) : Sim (List Reaction) := do
  let w ← get
  match w.reactions.lookup name with
  | some reactions =>
    set { w with reactions := w.reactions.filter fun entry => entry.1 ≠ name }
    return reactions
  | none => return []

/-- Serves a call, given how the world reacts from within. -/
def serve (react : Reaction → Sim Unit) : CallServer := fun c => do
  c.record
  let reactions ← takeReactions c.name
  reactions.forM react
  let faults := (← get).faults
  if c.risk ≠ .none && faults.contains ("panic:" ++ c.name) then throw (.breakdown c.name)
  if c.risk = .failure && faults.contains c.name then return .error (.storage ("injected " ++ c.name))
  return .ok ()

/-- What the host is made of, given how calls are served. -/
structure HostPorts where
  call : CallServer
  /-- What the completion of a worker does. -/
  complete : MadeWorker → Outcome → Sim Unit

/-- The lane of the flags. -/
def flagsLane : String := "flags"

/-- The lane of the impressions. -/
def impressionsLane : String := "impressions"

/-- The lane of the events. -/
def eventsLane : String := "events"

/-- The lane of the manager. -/
def managerLane : String := "manager"

/-- The lane of an identity's workers. -/
def identityLane (label : String) : String := "key:" ++ label

/-- The lane of an identity's stores and signals. -/
def cacheLane (label : String) : String := identityLane label ++ "/cache"

namespace HostPorts

/-- Makes a call that cannot fail. -/
def tell (h : HostPorts) (c : HostCall) : Sim Unit := do
  let _ ← h.call c

/-- Makes a call and has its effect if it succeeds. -/
def attempt {α : Type} (h : HostPorts) (c : HostCall) (effect : Sim α) : Sim (Except SyncError α) := do
  match ← h.call { c with risk := .failure } with
  | .ok () => .ok <$> effect
  | .error e => return .error e

/-- Applies a kill order to the first flag of its name, unless that flag is newer. -/
def applyKill (k : FlagKill) : List FeatureFlag → Bool × List FeatureFlag
  | [] => (false, [])
  | f :: rest =>
    if f.name = k.name then
      if f.changeNumber < k.changeNumber then
        (true, { f with killed := true, defaultTreatment := k.defaultTreatment, changeNumber := k.changeNumber } :: rest)
      else (false, f :: rest)
    else
      let (applied, rest) := applyKill k rest
      (applied, f :: rest)

/-- The store of flags. -/
def flagStore (h : HostPorts) : FlagStore Sim :=
  { loadLocal := h.attempt { lane := flagsLane, name := "flags.load_local" } (return ())
    all := return (← get).storedFlags
    changeNumber := return (← get).storedChange
    setChangeNumber := fun n =>
      h.attempt { lane := flagsLane, name := "flags.update_change_number", args := [.int n] }
        (modify fun w => { w with storedChange := n })
    delete := fun names =>
      h.attempt { lane := flagsLane, name := "flags.delete", args := [.strings names] }
        (modify fun w => { w with storedFlags := w.storedFlags.filter fun f => !names.contains f.name })
    kill := fun k =>
      h.attempt { lane := flagsLane, name := "flags.kill", args := [k.encode] } do
        let (applied, flags) := applyKill k (← get).storedFlags
        modify fun w => { w with storedFlags := flags }
        return applied
    queryText := return (← get).storedQuery
    setQueryText := fun q =>
      h.attempt { lane := flagsLane, name := "flags.update_filter_query_string", args := [.str q] }
        (modify fun w => { w with storedQuery := some q }) }

/-- A store of segments that goes by a name and holds change numbers by matching key. -/
def segmentStore (h : HostPorts) (lane name : String) (numbers : World → List (String × Int)) : SegmentStore Sim :=
  { loadLocal := fun matching =>
      h.attempt { lane, name := name ++ ".load_local", args := [.str matching] } (return ())
    changeNumber := fun matching => do
      h.tell { lane, name := name ++ ".change_number", logged := false }
      return ((numbers (← get)).lookup matching).getD (-1) }

/-- The store of an identity's attributes. -/
def attributeStore (h : HostPorts) (lane : String) : AttributeStore Sim :=
  { loadLocal := fun matching =>
      h.attempt { lane, name := "attributes.load_local", args := [.str matching] } (return ())
    destroy := fun matching => h.tell { lane, name := "attributes.destroy", args := [.str matching] } }

/-- Passes a signal on. -/
def signal (h : HostPorts) (lane : String) (s : Signal) : Sim Unit := h.tell { lane, name := "notify", args := [.str s.name] }

/-- A queue that goes by a name. -/
def queue {α : Type} (h : HostPorts) (lane name : String) (encode : α → Json) (reportsPersistence : Bool) : Queue Sim α :=
  { push := fun item => h.attempt { lane, name := name ++ ".push", args := [encode item] } (return ())
    setPersistence := fun enable => do
      if reportsPersistence then h.tell { lane, name := name ++ ".set_persistence", args := [.bool enable] } }

/-- Whether a count comes before another one. -/
def countBefore (a b : FeatureCount) : Bool := a.feature < b.feature || (a.feature = b.feature && a.timeframe ≤ b.timeframe)

/-- Counts in the order of their features and hours. -/
def countsInOrder (counts : List FeatureCount) : List FeatureCount := counts.mergeSort countBefore

/-- The store of counts. -/
def countStore (h : HostPorts) : CountStore Sim :=
  { pushMany := fun counts =>
      h.attempt
        { lane := impressionsLane, name := "counts.push_many", args := [.arr ((countsInOrder counts).map (·.encode))] }
        (return ()) }

/-- A hash with its time, as the log shows it. -/
def encodeSeen (s : SeenImpression) : Json := .arr [.str (toString s.hash.toNat), .int s.time]

/-- The store of hashes. -/
def hashStore (h : HostPorts) (lane : String) : HashStore Sim :=
  { all := h.attempt { lane, name := "hashes.get_all" } (return (← get).storedHashes)
    replace := fun seen =>
      h.attempt { lane, name := "hashes.update", args := [.arr (seen.map encodeSeen)] }
        (modify fun w => { w with storedHashes := seen }) }

/-- The record of unique keys. -/
def uniqueKeys (h : HostPorts) : UniqueKeys Sim :=
  { track := fun key feature =>
      h.tell { lane := impressionsLane, name := "unique_keys.track", args := [.str key, .str feature] }
    saveAndClear := h.tell { lane := impressionsLane, name := "unique_keys.save_and_clear" } }

/-- Telemetry that the log shows. -/
def loggedTelemetry (h : HostPorts) : TelemetrySink Sim :=
  { impressions := fun fate n =>
      h.tell { lane := impressionsLane, name := "telemetry.impressions", args := [.str fate.name, .int n] }
    events := fun fate n => h.tell { lane := eventsLane, name := "telemetry.events", args := [.str fate.name, .int n] }
    syncMode := fun mode => h.tell { lane := managerLane, name := "telemetry.sync_mode", args := [.str mode.name] }
    streamingEvent := fun event =>
      h.tell { lane := managerLane, name := "telemetry.streaming_event", args := [.str event.name] } }

/-- Telemetry that is counted. -/
def countedTelemetry : TelemetrySink Sim :=
  let record (change : Metrics → Metrics) : Sim Unit := modify fun w => { w with metrics := change w.metrics }
  { impressions := fun fate n => record (·.recordImpressions fate n)
    events := fun fate n => record (·.recordEvents fate n)
    syncMode := fun mode => record (·.recordMode mode)
    streamingEvent := fun event => record (·.recordStreamingEvent event) }

/-- The telemetry of a host. -/
def telemetry (h : HostPorts) (setup : HostSetup) : TelemetrySink Sim :=
  if setup.hasMetrics then countedTelemetry else h.loggedTelemetry

/-- Tells the streaming connection. -/
def push (h : HostPorts) (order : PushOrder) : Sim Unit :=
  let name :=
    match order with
    | .start => "push.start"
    | .pause => "push.pause"
    | .resume => "push.resume"
    | .stop => "push.stop"
    | .disconnect => "push.disconnect"
  h.tell { lane := managerLane, name, risk := .breakdown }

end HostPorts

/-- The clocks of the world. -/
def clocks : Clocks Sim := { steady := return (← get).clock, wall := return (← get).wall }

/-- Logs a record of a client's life. -/
def logRecord (client : String) (r : LifeRecord) : Sim Unit :=
  modify fun w => w.log managerLane (.arr [.str "log", .str r.level, r.encode client])

/-- Broadcasts a status event. -/
def broadcast (event : StatusEvent) : Sim Unit := modify fun w => { w with inbox := w.inbox.send event }

/-- The name of a worker. -/
def workerName : WorkerKind → String
  | .flagsSync => "flags_sync"
  | .periodicFlags => "periodic_flags"
  | .flagsUpdate n => "flags_update:" ++ toString n
  | .segmentsSync key => "segments_sync:" ++ key.text
  | .periodicSegments _ => "periodic_segments"
  | .segmentsUpdate key target => "segments_update:" ++ key.text ++ ":" ++ target.text
  | .impressionsRecorder => "impressions_recorder"
  | .countRecorder => "count_recorder"
  | .uniqueKeysRecorder => "unique_keys_recorder"
  | .periodicImpressions => "periodic_impressions"
  | .periodicCounts => "periodic_counts"
  | .periodicUniqueKeys => "periodic_unique_keys"
  | .eventsRecorder => "events_recorder"
  | .periodicEvents => "periodic_events"

/-- The name of a kind of workers that report when they are done. -/
def completingKind? : WorkerKind → Option String
  | .flagsSync => some "flags_sync"
  | .flagsUpdate _ => some "flags_update"
  | .segmentsSync _ => some "segments_sync"
  | .segmentsUpdate _ _ => some "segments_update"
  | _ => none

/-- The identifier of a worker. Of several workers with one name that report when they are done, all but the first show their
numbers. -/
def workerId (w : Worker) : String :=
  if (completingKind? w.kind).isSome && w.serial ≠ 1 then workerName w.kind ++ "#" ++ toString w.serial else workerName w.kind

/-- The lane of a worker. A worker for a target has a lane of its own. -/
def workerLane (w : Worker) : String :=
  match w.kind with
  | .flagsSync => flagsLane
  | .periodicFlags => flagsLane
  | .segmentsSync key => identityLane key.text
  | .periodicSegments key => identityLane key.text
  | .eventsRecorder => eventsLane
  | .periodicEvents => eventsLane
  | .flagsUpdate _ => workerId w
  | .segmentsUpdate _ _ => workerId w
  | _ => impressionsLane

/-- The last part of the name of an order. -/
def orderName : WorkerOrder → String
  | .start => "start"
  | .stop => "stop"
  | .pause => "pause"
  | .resume => "resume"
  | .destroy => "destroy"
  | .flush => "flush"

/-- The number of the next worker of a kind. Workers that report when they are done take the first number that gives an identifier
which is not in use; the others are counted. -/
def nextSerial (w : World) (kind : WorkerKind) : Nat :=
  let count := (w.workers.filter fun made => workerName made.worker.kind = workerName kind).length
  let isFree (n : Nat) : Bool := w.workers.all fun made => made.id != workerId ⟨kind, n⟩
  (((List.range (w.workers.length + 1)).map (· + 1)).find? isFree).getD (count + 1)

/-- The makers of workers, for an identity or for the whole client. A worker exists before its creation shows in the log. -/
def HostPorts.workers (h : HostPorts) (owner : Option BundleId) : Workers Sim :=
  { create := fun kind => do
      let w ← get
      let worker : Worker := ⟨kind, nextSerial w kind⟩
      let made : MadeWorker := ⟨worker, workerId worker, owner⟩
      set { w with workers := w.workers ++ [made] }
      h.tell { lane := workerLane worker, name := workerId worker ++ ".create" }
      return worker
    tell := fun worker order => do
      h.tell { lane := workerLane worker, name := workerId worker ++ "." ++ orderName order }
      if order = .start then
        let automatic := (← get).automatic
        match (completingKind? worker.kind).bind fun kind => automatic.lookup kind with
        | some result => h.complete ⟨worker, workerId worker, owner⟩ result
        | none => return () }

end FlagKeeper.Simulation
