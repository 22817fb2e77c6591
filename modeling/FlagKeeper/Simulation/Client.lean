import FlagKeeper.Simulation.StandIns

/-!
# The client in the world

Every part of the client, put into the simulated host. The host may react to a call by telling a part of the client something,
and this may lead to further calls. A reaction happens once, so the depth to which calls nest is bounded by the number of
reactions that are left.
-/

namespace FlagKeeper.Simulation

/-- The parts of the client. -/
structure Client where
  flags : FlagSync Sim
  segments : BundleId → SegmentSync Sim
  registry : Registry Sim
  tracker : ImpressionTracker Sim
  events : EventRecorder Sim
  synchronizer : Synchronizer Sim
  manager : Manager Sim

/-- Hands work to the background. -/
def later (job : Job) : Sim Unit := modify fun w => { w with jobs := w.jobs ++ [job] }

/-- Changes one element of a list. -/
def changeAt {α : Type} (change : α → α) : Nat → List α → List α
  | _, [] => []
  | 0, x :: rest => change x :: rest
  | n + 1, x :: rest => x :: changeAt change n rest

namespace World

variable (w : World) (h : HostPorts)

/-- The flag synchronizer. -/
def flagSync : FlagSync Sim :=
  { filter := w.setup.settings.filter
    syncEnabled := w.setup.settings.syncEnabled
    state := part World.flags fun s w => { w with flags := some s }
    store := h.flagStore
    signal := h.signal flagsLane
    broadcast
    workers := h.workers none
    background := fun job => later (.flags job) }

/-- The segment synchronizer of an identity. -/
def segmentSync (bundle : BundleId) : SegmentSync Sim :=
  let identity := w.identity bundle
  let lane := cacheLane identity.key.text
  { key := identity.key
    syncEnabled := w.setup.settings.syncEnabled
    state :=
      part (fun w => (w.identity bundle).sync) fun s w =>
        { w with identities := changeAt (fun i => { i with sync := some s }) bundle w.identities }
    segments := h.segmentStore lane "segments" fun w => (w.identity bundle).segments
    largeSegments := h.segmentStore lane "large_segments" fun w => (w.identity bundle).largeSegments
    signal := h.signal lane
    workers := h.workers (some bundle)
    clocks
    loadLater := later (.loadSegments bundle) }

/-- The parts of an identity. -/
def identityBundle (bundle : BundleId) : IdentityBundle Sim :=
  let identity := w.identity bundle
  let lane := cacheLane identity.label
  { segments :=
      if identity.sync.isSome then (w.segmentSync h bundle).run
      else fun command => h.tell (orderCall (identityLane identity.label) "segments_sync" (segmentOrder command))
    attributes := h.attributeStore lane
    signal := h.signal lane
    stopSignals := h.tell { lane, name := "events_manager.stop" } }

/-- The registry of identities. -/
def identityRegistry : Registry Sim :=
  { state := part World.registry fun s w => { w with registry := some s }
    bundle := w.identityBundle h
    background := fun job => later (.registry job) }

/-- The impression tracker. -/
def impressionTracker : ImpressionTracker Sim :=
  { mode := w.setup.settings.impressionsMode
    state := part World.tracker fun s w => { w with tracker := some s }
    queue := h.queue impressionsLane "impressions" Impression.encode w.setup.reportsPersistence
    counts := h.countStore
    hashes := w.setup.hashes.map fun _ => h.hashStore impressionsLane
    uniqueKeys := h.uniqueKeys
    telemetry := h.telemetry w.setup
    workers := h.workers none }

/-- The event recorder. -/
def eventRecorder : EventRecorder Sim :=
  { state := part World.events fun s w => { w with events := some s }
    queue := h.queue eventsLane "events" TrackedEvent.encode false
    telemetry := h.telemetry w.setup
    workers := h.workers none }

/-- Tells the flag synchronizer, or what stands in for it. -/
def tellFlags (command : FlagSync.Command) : Sim Unit :=
  if w.flags.isSome then (w.flagSync h).run command else h.tell (orderCall partsLane "flags" (flagOrder command))

/-- Tells the impression tracker, or what stands in for it. -/
def tellTracker (command : ImpressionTracker.Command) : Sim Unit :=
  if w.tracker.isSome then (w.impressionTracker h).run command
  else h.tell (orderCall partsLane "impressions" (trackerOrder command))

/-- Tells the event recorder, or what stands in for it. -/
def tellEvents (command : EventRecorder.Command) : Sim Unit :=
  if w.events.isSome then (w.eventRecorder h).run command else h.tell (orderCall partsLane "events" (eventOrder command))

/-- The synchronizer. -/
def fullSynchronizer : Synchronizer Sim :=
  { state := part World.synchronizer fun s w => { w with synchronizer := some s }
    flags := w.tellFlags h
    registry := w.identityRegistry h
    impressions := w.tellTracker h
    events := w.tellEvents h }

/-- The manager, over the synchronizer or what stands in for it. -/
def syncManager : Manager Sim :=
  { state := part World.manager fun s w => { w with manager := some s }
    inbox := { get := return (← get).inbox, set := fun inbox => modify fun w => { w with inbox } }
    synchronizer := if w.synchronizer.isSome then (w.fullSynchronizer h).run else standInSynchronizer h
    consent := if w.synchronizer.isSome then (w.fullSynchronizer h).consent else return (← get).consent
    push := if w.setup.hasPush then some h.push else none
    telemetry := h.telemetry w.setup
    log := logRecord w.setup.clientName
    clocks }

/-- Every part of the client. -/
def client : Client :=
  { flags := w.flagSync h
    segments := w.segmentSync h
    registry := w.identityRegistry h
    tracker := w.impressionTracker h
    events := w.eventRecorder h
    synchronizer := w.fullSynchronizer h
    manager := w.syncManager h }

end World

/-- The completion of a worker. What only keeps a synchronizer's own books is skipped once that synchronizer is gone. -/
def Client.complete (c : Client) (made : MadeWorker) (result : Outcome) : Sim Unit := do
  let w ← get
  let bundle := made.owner.getD 0
  match made.worker.kind with
  | .flagsSync => FlagSync.mainCompleted broadcast result
  | .flagsUpdate n => if w.flagsAlive then c.flags.catchUpCompleted n result
  | .segmentsSync _ => (c.segments bundle).refreshCompleted
  | .segmentsUpdate _ target => if w.segmentsAlive then (c.segments bundle).reachCompleted target
  | _ => return ()

/-- A host that serves every call without a trace; completions make no calls to the host. -/
def silentPorts : HostPorts := { call := fun _ => return .ok (), complete := fun _ _ => return () }

/-- Completes a worker. -/
def completeWorker (made : MadeWorker) (result : Outcome) : Sim Unit := do
  ((← get).client silentPorts).complete made result

/-- Reacts from within a call. A part that is gone, or was never there, does nothing. -/
def Client.react (c : Client) (r : Reaction) : Sim Unit := do
  let w ← get
  let hasManager := w.manager.isSome && w.holds .manager
  match r with
  | .pauseManager => if hasManager then c.manager.pause
  | .resumeManager => if hasManager then c.manager.resume
  | .destroyManager => if hasManager then c.manager.destroy
  | .tellSegments command => if (w.identity 0).sync.isSome && w.holds .segments then (c.segments 0).run command
  | .tellFlags command => if w.flags.isSome && w.holds .flags then c.flags.run command
  | .emit event => if w.holds .broadcaster then broadcast event

/-- How calls are served when reactions nest up to some depth. -/
def serveWithin : Nat → CallServer
  | 0 => serve fun _ => return ()
  | depth + 1 => fun call => do
    let client := (← get).client { call := serveWithin depth, complete := completeWorker }
    serve client.react call

/-- The host as the world stands. -/
def ports (w : World) : HostPorts := { call := serveWithin w.reactions.length, complete := completeWorker }

/-- The client as the world stands. -/
def currentClient : Sim Client := do
  let w ← get
  return w.client (ports w)

end FlagKeeper.Simulation
