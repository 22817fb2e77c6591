import FlagKeeper.Manager.Basic
import FlagKeeper.Proofs.Ensemble.Ground

/-!
# A whole client on a plain host

The manager over the synchronizer, and this over the flag synchronizer, the identities, the impression tracker and the event
recorder, each part the program that it is, on the host that writes every call down. What can happen to a client is an `Input`: a
call to the manager or to the synchronizer, an identity that comes or goes, a status event, a worker that is done, a timer that
runs out, one step of the loop, of a pipeline or of the background, time that passes, and a host that changes its mind.
`Ensemble.take` runs the programs for an input.
-/

namespace FlagKeeper

/-- Work that waits for the background of a client. -/
inductive Ensemble.Job where
  | flags (job : FlagSync.Job)
  | loadSegments (bundle : BundleId)
  | registry (job : Registry.Job)

/-- An identity: its key and its segment synchronizer. -/
structure Ensemble.Identity where
  key : Key
  segments : SegmentSync.State

/-- A client and its host. -/
structure Ensemble where
  settings : Settings
  hasPush : Bool
  /-- Whether the host stores the hashes of impressions. -/
  keepsHashes : Bool
  ground : Ensemble.Ground
  manager : Manager.State
  inbox : Channel StatusEvent := {}
  synchronizer : Synchronizer.State
  flags : FlagSync.State
  registry : Registry.State := {}
  /-- The identities, in the order in which they came; they are known by their places. -/
  identities : List Ensemble.Identity := []
  tracker : ImpressionTracker.State
  events : EventRecorder.State
  jobs : List Ensemble.Job := []
  /-- Counts nanoseconds from some start. -/
  steady : Nat
  /-- Counts nanoseconds from the epoch. -/
  wall : Int

namespace Ensemble

/-- Programs that run in an ensemble. -/
abbrev Playing := StateM Ensemble

/-- A part of an ensemble as a place. -/
def part {σ : Type} (read : Ensemble → σ) (write : σ → Ensemble → Ensemble) : Cell Playing σ where
  get := return read (← get)
  set v := modify (write v)

/-- The place of the host. -/
def hostCell : Cell Playing Ground := part Ensemble.ground fun ground s => { s with ground }

/-- The place of the manager. -/
def managerCell : Cell Playing Manager.State := part Ensemble.manager fun manager s => { s with manager }

/-- The place of the events that wait. -/
def inboxCell : Cell Playing (Channel StatusEvent) := part Ensemble.inbox fun inbox s => { s with inbox }

/-- The place of the synchronizer. -/
def synchronizerCell : Cell Playing Synchronizer.State :=
  part Ensemble.synchronizer fun synchronizer s => { s with synchronizer }

/-- The place of the flag synchronizer. -/
def flagsCell : Cell Playing FlagSync.State := part Ensemble.flags fun flags s => { s with flags }

/-- The place of the registry. -/
def registryCell : Cell Playing Registry.State := part Ensemble.registry fun registry s => { s with registry }

/-- The place of the impression tracker. -/
def trackerCell : Cell Playing ImpressionTracker.State := part Ensemble.tracker fun tracker s => { s with tracker }

/-- The place of the event recorder. -/
def eventsCell : Cell Playing EventRecorder.State := part Ensemble.events fun events s => { s with events }

/-- What stands where there is no identity: a segment synchronizer that is destroyed. -/
def nobody : Identity := ⟨default, { mainWorker := ⟨.segmentsSync default, 0⟩, periodicWorker := none, destroyed := true }⟩

/-- The identity at a place. -/
def identity (s : Ensemble) (bundle : BundleId) : Identity := s.identities[bundle]?.getD nobody

/-- Changes the segment synchronizer of an identity. -/
def setSegments (s : Ensemble) (bundle : BundleId) (segments : SegmentSync.State) : Ensemble :=
  { s with identities := s.identities.modify bundle fun i => { i with segments } }

/-- The place of the segment synchronizer of an identity. -/
def segmentsCell (bundle : BundleId) : Cell Playing SegmentSync.State :=
  part (fun s => (s.identity bundle).segments) fun st s => s.setSegments bundle st

/-- Hands work to the background. -/
def later (job : Job) : Playing Unit := modify fun s => { s with jobs := s.jobs ++ [job] }

/-- Sends a status event to the loop of the manager. -/
def broadcast (e : StatusEvent) : Playing Unit := inboxCell.modify fun inbox => inbox.send e

/-- The clocks of an ensemble. -/
def clocks : Clocks Playing where
  steady := return (← get).steady
  wall := return (← get).wall

/-! ## The parts -/

/-- What is to be done when a worker is done, for an identity or for the whole client. -/
abbrev Finish := Option BundleId → Worker → Outcome → Playing Unit

variable (e : Ensemble)

/-- The flag synchronizer. -/
def flagSyncWith (finish : Finish) : FlagSync Playing where
  filter := e.settings.filter
  syncEnabled := e.settings.syncEnabled
  state := flagsCell
  store := Ground.flagStore hostCell
  signal s := Ground.serve hostCell (.signal none s)
  broadcast := broadcast
  workers := Ground.makers hostCell (finish none)
  background job := later (.flags job)

/-- The segment synchronizer of an identity. -/
def segmentSyncWith (finish : Finish) (bundle : BundleId) : SegmentSync Playing where
  key := (e.identity bundle).key
  syncEnabled := e.settings.syncEnabled
  state := segmentsCell bundle
  segments := Ground.segmentStore hostCell
  largeSegments := Ground.largeSegmentStore hostCell
  signal s := Ground.serve hostCell (.signal (some bundle) s)
  workers := Ground.makers hostCell (finish (some bundle))
  clocks := clocks
  loadLater := later (.loadSegments bundle)

/-- Nothing is done when a worker is done. -/
def leave : Finish := fun _ _ _ => return ()

/-- A worker is done: the part that it worked for takes its result. -/
def finish : Finish := fun owner w result =>
  match w.kind, owner with
  | .flagsSync, _ => FlagSync.mainCompleted broadcast result
  | .flagsUpdate changeNumber, _ => (e.flagSyncWith leave).catchUpCompleted changeNumber result
  | .segmentsSync _, some bundle => (e.segmentSyncWith leave bundle).refreshCompleted
  | .segmentsUpdate _ target, some bundle => (e.segmentSyncWith leave bundle).reachCompleted target
  | _, _ => return ()

/-- The flag synchronizer, whose workers report when they are done. -/
def flagSync : FlagSync Playing := e.flagSyncWith e.finish

/-- The segment synchronizer of an identity, whose workers report when they are done. -/
def segmentSync (bundle : BundleId) : SegmentSync Playing := e.segmentSyncWith e.finish bundle

/-- The makers of workers that nothing is done for when they are done. -/
def makers : Workers Playing := Ground.makers hostCell fun _ _ => return ()

/-- The registry of the identities. -/
def identityRegistry : Registry Playing where
  state := registryCell
  bundle bundle :=
    { segments := (e.segmentSync bundle).run
      attributes := Ground.attributeStore hostCell
      signal := fun s => Ground.serve hostCell (.signal (some bundle) s)
      stopSignals := Ground.serve hostCell (.stopSignals bundle) }
  background job := later (.registry job)

/-- The impression tracker. -/
def impressionTracker : ImpressionTracker Playing where
  mode := e.settings.impressionsMode
  state := trackerCell
  queue := Ground.impressionQueue hostCell
  counts := Ground.countStore hostCell
  hashes := if e.keepsHashes then some (Ground.hashStore hostCell) else none
  uniqueKeys := Ground.uniqueKeys hostCell
  telemetry := Ground.telemetry hostCell
  workers := makers

/-- The event recorder. -/
def eventRecorder : EventRecorder Playing where
  state := eventsCell
  queue := Ground.eventQueue hostCell
  telemetry := Ground.telemetry hostCell
  workers := makers

/-- The synchronizer. -/
def fullSynchronizer : Synchronizer Playing where
  state := synchronizerCell
  flags := e.flagSync.run
  registry := e.identityRegistry
  impressions := e.impressionTracker.run
  events := eventRecorder.run

/-- The manager. -/
def syncManager : Manager Playing where
  state := managerCell
  inbox := inboxCell
  synchronizer := e.fullSynchronizer.run
  consent := e.fullSynchronizer.consent
  push := if e.hasPush then some fun order => Ground.serve hostCell (.push order) else none
  telemetry := Ground.telemetry hostCell
  log record := Ground.serve hostCell (.log record)
  clocks := clocks

/-! ## What can happen to a client -/

/-- Does a piece of background work. -/
def runJob : Job → Playing Unit
  | .flags job => e.flagSync.runJob job
  | .loadSegments bundle => (e.segmentSync bundle).loadCaches
  | .registry job => e.identityRegistry.runJob job

/-- Does the piece of background work that came first, if there is one. -/
def nextJob : Playing Unit := do
  match (← get).jobs with
  | [] => return ()
  | job :: rest =>
    modify fun s => { s with jobs := rest }
    e.runJob job

/-- Makes a segment synchronizer for a key and registers the identity. -/
def enroll (key : Key) : Playing Unit := do
  let bundle := e.identities.length
  let segments ← SegmentSync.create key e.settings.syncEnabled makers
  modify fun s => { s with identities := s.identities ++ [⟨key, segments⟩] }
  (← get).identityRegistry.register key bundle

/-- What can happen to a client. -/
inductive Input where
  | start
  | pause
  | resume
  | destroy
  | setConsent (consent : Consent)
  /-- The synchronizer is told something. -/
  | tell (command : Synchronizer.Command)
  /-- An identity is registered, which may replace one of the same key. -/
  | register (key : Key)
  | unregister (key : Key)
  /-- Someone sends a status event. -/
  | broadcast (e : StatusEvent)
  /-- The loop of the manager has its turn. -/
  | loop
  /-- A worker is done that was made for an identity or for the whole client. -/
  | finish (owner : Option BundleId) (w : Worker) (result : Outcome)
  /-- A timer of the manager runs out. -/
  | reconnectTimer (id : Nat)
  /-- A timer of an identity runs out. -/
  | segmentsTimer (bundle : BundleId) (id : Nat)
  /-- The pipeline of the impressions has its turn. -/
  | impressionsStep
  /-- The pipeline of the events has its turn. -/
  | eventsStep
  /-- The background has its turn. -/
  | jobStep
  /-- Time passes. -/
  | advance (d : Duration)
  /-- The wall clock is set. -/
  | setClock (wall : Int)
  /-- The host answers otherwise from now on. -/
  | answer (answers : Answers)

/-- A timer of an identity runs out: it gives up its slot, and what it delayed is done if it was pending. -/
def segmentsTimerOver (bundle : BundleId) (id : Nat) : Playing Unit := do
  let task ← (segmentsCell bundle).step fun st =>
    let (task, timers) := st.timers.wake id
    (task, { st with timers })
  if task.isSome then (e.segmentSync bundle).delayOver

/-- What is done about an input. -/
def program : Input → Playing Unit
  | .start => e.syncManager.start
  | .pause => e.syncManager.pause
  | .resume => e.syncManager.resume
  | .destroy => e.syncManager.destroy
  | .setConsent consent => e.syncManager.setConsent consent
  | .tell command => e.fullSynchronizer.run command
  | .register key => e.enroll key
  | .unregister key => do let _ ← e.identityRegistry.unregister key
  | .broadcast event => broadcast event
  | .loop => do let _ ← e.syncManager.serveNext
  | .finish owner w result => e.finish owner w result
  | .reconnectTimer id => do if ← e.syncManager.timerOver id then e.syncManager.reconnectDue
  | .segmentsTimer bundle id => e.segmentsTimerOver bundle id
  | .impressionsStep => do let _ ← e.impressionTracker.handleNext
  | .eventsStep => do let _ ← eventRecorder.handleNext
  | .jobStep => e.nextJob
  | .advance d => modify fun s => { s with steady := s.steady + d.toNanos, wall := s.wall + d.toNanos }
  | .setClock wall => modify fun s => { s with wall }
  | .answer answers => hostCell.modify fun g => { g with answers }

/-- The ensemble after an input. -/
def take (s : Ensemble) (i : Input) : Ensemble := ((s.program i).run s).2

/-- The ensemble after some inputs, the latest first. -/
def after (s : Ensemble) : List Input → Ensemble
  | [] => s
  | i :: past => (s.after past).take i

end Ensemble

/-- What a client is put together from, and where. -/
structure Ensemble.Setup where
  settings : Settings
  /-- The shortest and the longest delay, if they are not those of the settings. -/
  backoff : Option (Duration × Duration)
  hasPush : Bool
  keepsHashes : Bool
  answers : Ensemble.Answers
  steady : Nat
  wall : Int
  manager : Manager.State
  built : Manager.State.build settings true true backoff (wall / 1000000000) = .ok manager

namespace Ensemble.Setup

/-- The place of the host while the parts are made. -/
def hostAlone : Cell (StateM Ground) Ground := { get := get, set := set }

/-- The makers of workers while the parts are made. -/
def makersAlone : Workers (StateM Ground) := Ground.makers hostAlone fun _ _ => return ()

/-- Makes the parts that have workers from the start. -/
def parts (u : Setup) : StateM Ground (FlagSync.State × ImpressionTracker.State × EventRecorder.State) := do
  let flags ← FlagSync.create u.settings.syncEnabled makersAlone
  let tracker ← ImpressionTracker.create u.settings (Ground.impressionQueue hostAlone)
    (if u.keepsHashes then some (Ground.hashStore hostAlone) else none) makersAlone
  let events ← EventRecorder.create u.settings makersAlone
  return (flags, tracker, events)

/-- A new client. -/
def scene (u : Setup) : Ensemble :=
  let made := u.parts.run { answers := u.answers }
  { settings := u.settings
    hasPush := u.hasPush
    keepsHashes := u.keepsHashes
    ground := made.2
    manager := u.manager
    synchronizer := { consent := u.settings.userConsent }
    flags := made.1.1
    tracker := made.1.2.1
    events := made.1.2.2
    steady := u.steady
    wall := u.wall }

/-- A new client after some inputs, the latest first. -/
def after (u : Setup) (inputs : List Input) : Ensemble := u.scene.after inputs

end Ensemble.Setup

end FlagKeeper
