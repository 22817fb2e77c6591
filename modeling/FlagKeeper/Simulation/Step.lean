import FlagKeeper.Simulation.Build
import FlagKeeper.Simulation.Schedule

/-!
# Steps

What can be done to a simulated world from outside, one step after another. After each step the world runs until nothing moves.
-/

namespace FlagKeeper.Simulation

/-- An order to the registry, or a question. -/
inductive RegistryStep where
  | register (setup : IdentitySetup)
  | unregister (key : Key)
  | lookup (key : Key)
  /-- To start the signals of an identity, which needs nothing done. -/
  | startSignals (key : Key)
  | startSync (key : Key)
  | syncKey (key : Key)
  | tellSegments (scope : Option String) (command : SegmentSync.Command)
  | loadAttributes (scope : Option String)
  | startPolling
  | stopPolling
  | stop

/-- An order to the manager, or a question. -/
inductive ManagerStep where
  | start
  | pause
  | resume
  | destroy
  /-- To wait for the end of the loop, which has come by then. -/
  | join
  | setConsent (consent : Consent)
  | health

/-- An order to the timer table, or a question. -/
inductive TimerStep where
  | add (alarm : Alarm) (following : List Alarm)
  | cancel (name : TimerName)
  | isScheduled (name : TimerName)
  | cancelAll

/-- An order to the reconnection timer. -/
inductive RetryStep where
  | schedule (label : String)
  | cancel
  | suspend

/-- An order to the interval worker. -/
inductive IntervalStep where
  | start
  | stop
  | pause
  | resume
  | destroy

/-- Something to be counted. -/
inductive MetricsStep where
  | impressions (fate : ImpressionFate) (amount : Nat)
  | events (fate : EventFate) (amount : Nat)
  | mode (mode : SyncMode)
  | streamingEvent (event : StatusEvent)

/-- A step. -/
inductive Step where
  /-- To do nothing. -/
  | rest
  | advance (d : Duration)
  | setClock (millis : Int)
  | setFaults (names : List String)
  | setAutomatic (results : List (String × Outcome))
  | addReactions (reactions : List (String × List Reaction))
  | complete (id : String) (result : Outcome)
  | emit (event : StatusEvent)
  | isClosed
  | setFlags (flags : List FeatureFlag)
  | setChangeNumber (n : Int)
  | setSegments (matching : String) (n : Int)
  | setLargeSegments (matching : String) (n : Int)
  | release (holding : Holding)
  | flags (command : FlagSync.Command)
  | segments (command : SegmentSync.Command)
  | segmentsKey
  | tracker (command : ImpressionTracker.Command)
  | events (command : EventRecorder.Command)
  /-- To record an event that has only the necessary parts, as of now. -/
  | recordNew (key trafficType eventType : String)
  | registry (step : RegistryStep)
  | synchronizer (command : Synchronizer.Command)
  | countIdentities
  | manager (step : ManagerStep)
  | timers (step : TimerStep)
  | retry (step : RetryStep)
  | interval (step : IntervalStep)
  | log (client : String) (record : LifeRecord)
  | metrics (step : MetricsStep)

/-- What a step answers. -/
inductive Reply where
  | nothing
  | truth (b : Bool)
  | number (n : Nat)
  | duration (d : Duration)
  | text (s : String)
  | key (k : Key)
  | health (report : HealthReport)
  | noSuchWorker

/-- A reply where there is one. -/
def Reply.ofOption {α : Type} (reply : α → Reply) (value : Option α) : Reply := value.elim .nothing reply

/-- Finds a worker by its identifier; `last:` stands before a kind to mean its newest worker. -/
def findWorker (id : String) (workers : List MadeWorker) : Option MadeWorker :=
  let completing := workers.filter fun made => (completingKind? made.worker.kind).isSome
  match completing.reverse.find? fun made => "last:" ++ (completingKind? made.worker.kind).getD "" = id with
  | some made => some made
  | none => completing.find? fun made => made.id = id

/-- Does work and answers nothing. -/
def silently (work : Sim Unit) : Sim Reply := do
  work
  return .nothing

/-- Does work on a part while the part is there. -/
def whileHeld (isThere : World → Bool) (work : Client → Sim Reply) : Sim Reply := do
  if isThere (← get) then work (← currentClient) else return .nothing

/-- Asks or tells the registry. -/
def RegistryStep.perform (s : RegistryStep) (c : Client) : Sim Reply :=
  match s with
  | .register setup => silently (registerIdentity setup)
  | .unregister key => Reply.ofOption .number <$> c.registry.unregister key
  | .lookup key => do
    let w ← get
    return Reply.ofOption (fun bundle => .text (w.identity bundle).label) (← c.registry.lookup key)
  | .startSignals _ => return .nothing
  | .startSync key => silently (c.registry.startSync key)
  | .syncKey key => silently (c.registry.tellKey key .synchronize)
  | .tellSegments scope command => silently (c.registry.tellSegments scope command)
  | .loadAttributes scope => silently (c.registry.loadAttributes scope)
  | .startPolling => silently c.registry.startPolling
  | .stopPolling => silently c.registry.stopPolling
  | .stop => silently c.registry.stop

/-- Asks or tells the manager. -/
def ManagerStep.perform (s : ManagerStep) (c : Client) : Sim Reply :=
  match s with
  | .start => silently c.manager.start
  | .pause => silently c.manager.pause
  | .resume => silently c.manager.resume
  | .destroy => silently c.manager.destroy
  | .join => return .nothing
  | .setConsent consent => silently (c.manager.setConsent consent)
  | .health => return .health (← c.manager.state.get).health.report

/-- Asks or tells the timer table. -/
def TimerStep.perform (s : TimerStep) : Sim Reply := do
  let w ← get
  let table := w.alarms.getD {}
  match s with
  | .add alarm following =>
    let (added, alarms) := table.add alarm.name w.clock alarm.delay ⟨alarm.label, following⟩
    set { w with alarms := some alarms }
    return .truth added
  | .cancel name =>
    let (pending, alarms) := table.cancel name
    set { w with alarms := some alarms }
    return .truth pending
  | .isScheduled name => return .truth (table.isScheduled name)
  | .cancelAll => silently (set { w with alarms := some table.cancelAll })

/-- Tells the reconnection timer. -/
def RetryStep.perform (s : RetryStep) : Sim Reply := do
  let w ← get
  match w.retry with
  | none => return .nothing
  | some timer =>
    match s with
    | .schedule label =>
      let (delay, timer) := timer.schedule w.clock label
      set { w with retry := some timer }
      return Reply.ofOption .duration delay
    | .cancel => silently (set { w with retry := some timer.cancel })
    | .suspend =>
      let (pending, timer) := timer.suspend
      set { w with retry := some timer }
      return .truth pending

/-- Tells the interval worker. -/
def IntervalStep.perform (s : IntervalStep) : Sim Reply :=
  silently <| modify fun w =>
    { w with
      interval := w.interval.map fun worker =>
        match s with
        | .start => worker.start w.clock w.wall
        | .stop => worker.stop
        | .pause => worker.pause
        | .resume => worker.resume
        | .destroy => worker.destroy }

/-- Counts something. -/
def MetricsStep.perform (s : MetricsStep) : Sim Reply :=
  silently <| modify fun w =>
    { w with
      metrics :=
        match s with
        | .impressions fate amount => w.metrics.recordImpressions fate amount
        | .events fate amount => w.metrics.recordEvents fate amount
        | .mode used => w.metrics.recordMode used
        | .streamingEvent event => w.metrics.recordStreamingEvent event }

/-- Gives a reference up. Events that nobody will receive are lost. -/
def giveUp (holding : Holding) : Sim Unit := do
  modify fun w => { w with released := holding :: w.released }
  let w ← get
  let isLost : Bool :=
    match holding with
    | .receiver => w.manager.isNone
    | .manager => (w.manager.map (·.loop)) = some .waiting
    | _ => false
  if isLost then set { w with inbox := w.inbox.close }

/-- The identities after a change number was set in one kind of stores. -/
def setNumbers (change : Identity → Identity) (w : World) : World := { w with identities := w.identities.map change }

/-- Takes a step. -/
def Step.perform : Step → Sim Reply
  | .rest => return .nothing
  | .advance d => silently (modify (·.advance d))
  | .setClock millis => silently (modify (·.setClock millis))
  | .setFaults names => silently (modify fun w => { w with faults := names })
  | .setAutomatic results => silently (modify fun w => { w with automatic := results })
  | .addReactions reactions =>
    silently <| modify fun w =>
      { w with reactions := reactions ++ w.reactions.filter fun entry => (reactions.lookup entry.1).isNone }
  | .complete id result => do
    match findWorker id (← get).workers with
    | some made => silently (completeWorker made result)
    | none => return .noSuchWorker
  | .emit event => silently do if (← get).holds .broadcaster then broadcast event
  | .isClosed => do
    let w ← get
    return if w.holds .broadcaster then .truth !w.inbox.isOpen else .nothing
  | .setFlags stored => silently (modify fun w => { w with storedFlags := stored })
  | .setChangeNumber n => silently (modify fun w => { w with storedChange := n })
  | .setSegments matching n =>
    silently (modify (setNumbers fun i => { i with segments := putNamed matching n i.segments }))
  | .setLargeSegments matching n =>
    silently (modify (setNumbers fun i => { i with largeSegments := putNamed matching n i.largeSegments }))
  | .release holding => silently (giveUp holding)
  | .flags command => whileHeld (fun w => w.flags.isSome && w.holds .flags) fun c => silently (c.flags.run command)
  | .segments command =>
    whileHeld (fun w => (w.identity 0).sync.isSome && w.holds .segments) fun c => silently ((c.segments 0).run command)
  | .segmentsKey =>
    whileHeld (fun w => (w.identity 0).sync.isSome && w.holds .segments) fun c => return .key (c.segments 0).key
  | .tracker command => whileHeld (fun w => w.tracker.isSome && w.holds .tracker) fun c => silently (c.tracker.run command)
  | .events command => whileHeld (fun w => w.events.isSome && w.holds .events) fun c => silently (c.events.run command)
  | .recordNew key trafficType eventType =>
    whileHeld (fun w => w.events.isSome && w.holds .events) fun c => silently do
      c.events.run (.push (.new key trafficType eventType (← get).nowMillis))
  | .registry step => whileHeld (fun w => w.registry.isSome) step.perform
  | .synchronizer command =>
    whileHeld (fun w => w.synchronizer.isSome && w.holds .synchronizer) fun c => silently (c.synchronizer.run command)
  | .countIdentities =>
    whileHeld (fun w => w.synchronizer.isSome && w.holds .synchronizer) fun c => do
      return .number (← c.registry.state.get).bundles.length
  | .manager step => whileHeld (fun w => w.manager.isSome && w.holds .manager) step.perform
  | .timers step => step.perform
  | .retry step => step.perform
  | .interval step => step.perform
  | .log client record => silently (logRecord client record)
  | .metrics step => step.perform

/-- A status event as it is written. -/
def encodeEvent (e : StatusEvent) : Json :=
  match e with
  | .pushDelayReceived seconds => .obj [(e.title, .int seconds)]
  | _ => .str e.title

/-- Where the flag synchronizer runs without a manager, logs the events that were broadcast to whoever holds the receiver. -/
def receiveEvents : Settled Unit :=
  modify fun w =>
    if w.manager.isSome || w.flags.isNone then w
    else
      let logged := w.inbox.queue.foldl (fun w e => w.log "broadcast" (.arr [.str "event", encodeEvent e])) w
      { logged with inbox := { w.inbox with queue := [] } }

/-- Runs the world until nothing moves, and takes its log. -/
def finishStep : Settled (List (String × List Json)) := do
  settle
  receiveEvents
  let w ← get
  set { w with lanes := [] }
  return w.lanes

/-- Takes a step and runs the world until nothing moves; gives the reply and the log. A step that ends early answers
nothing. -/
def takeStep (s : Step) : Settled (Reply × List (String × List Json)) := do
  let reply ← runGuarded s.perform (return .nothing)
  return (reply, ← finishStep)

end FlagKeeper.Simulation
