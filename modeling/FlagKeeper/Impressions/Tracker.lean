import FlagKeeper.Channel
import FlagKeeper.Delivery
import FlagKeeper.Impressions.HourCounter
import FlagKeeper.Impressions.Identity
import FlagKeeper.Impressions.Observer
import FlagKeeper.Settings.Basic

/-!
# Tracking impressions

The impression tracker is one for the whole client. What it is told goes through a channel to a pipeline that handles one order
at a time, so that deduplication, queueing and sending happen in the order in which they were asked for. Whether impressions are
taken at all is decided when they are pushed, whether counts and unique keys may be persisted when they are to be saved.
-/

namespace FlagKeeper

/-- An impression, and whether its flag has impressions turned off. -/
structure TrackedImpression where
  impression : Impression
  disabled : Bool := false
  deriving DecidableEq, Repr

namespace ImpressionTracker

/-- About how many bytes a queued impression has. -/
def impressionBytes : Nat := 150

/-- About how many bytes a pair of key and feature has. -/
def uniqueKeyBytes : Nat := 100

/-- What the pipeline handles. -/
inductive Order where
  | push (pushed : TrackedImpression)
  | flush
  | start
  | stop
  | pause
  | resume
  | destroy
  deriving DecidableEq, Repr

/-- What the tracker can be told. -/
inductive Command where
  | push (pushed : TrackedImpression)
  /-- To start the periodic workers. -/
  | start
  | stop
  /-- To save everything and let the periodic workers rest. -/
  | pause
  | resume
  /-- To save everything and send what is queued. -/
  | flush
  | destroy
  | enableTracking (enable : Bool)
  | enablePersistence (enable : Bool)

/-- The workers of the tracker. -/
structure Crew where
  impressions : Worker
  counts : Worker
  uniqueKeys : Worker
  periodicImpressions : Worker
  periodicCounts : Worker
  periodicUniqueKeys : Worker
  deriving Repr

/-- The workers that run again and again. -/
def Crew.periodic (c : Crew) : List Worker := [c.periodicImpressions, c.periodicCounts, c.periodicUniqueKeys]

/-- What the tracker keeps. -/
structure State where
  crew : Crew
  /-- Whether impressions are taken. -/
  tracking : Bool
  /-- Whether tracked data may be persisted and sent. -/
  persistence : Bool
  destroyed : Bool := false
  orders : Channel Order := {}
  observer : SeenCache
  counter : HourCounter := {}
  queueGauge : FlushGauge
  uniqueGauge : FlushGauge
  deriving Repr

end ImpressionTracker

/-- The impression tracker in its surroundings. -/
structure ImpressionTracker (m : Type → Type) where
  mode : ImpressionsMode
  state : Cell m ImpressionTracker.State
  queue : Queue m Impression
  counts : CountStore m
  /-- Without a store the hashes are forgotten at the end. -/
  hashes : Option (HashStore m)
  uniqueKeys : UniqueKeys m
  telemetry : TelemetrySink m
  workers : Workers m

namespace ImpressionTracker

variable {m : Type → Type} [Monad m]

/-- Makes the workers of a new tracker. -/
def createCrew (workers : Workers m) : m Crew := do
  let impressions ← workers.create .impressionsRecorder
  let counts ← workers.create .countRecorder
  let uniqueKeys ← workers.create .uniqueKeysRecorder
  let periodicImpressions ← workers.create .periodicImpressions
  let periodicCounts ← workers.create .periodicCounts
  let periodicUniqueKeys ← workers.create .periodicUniqueKeys
  return { impressions, counts, uniqueKeys, periodicImpressions, periodicCounts, periodicUniqueKeys }

/-- Makes a new tracker: its observer, its workers, and the queue's leave to persist. -/
def create (settings : Settings) (queue : Queue m Impression) (hashes : Option (HashStore m)) (workers : Workers m) :
    m State := do
  let observer ← SeenCache.restore settings.observerCapacity hashes
  let crew ← createCrew workers
  let gauge : FlushGauge := { maxCount := settings.impressionsQueueSize, maxBytes := settings.impressionsQueueBytes }
  queue.setPersistence settings.userConsent.allowsPersistence
  return {
    crew
    tracking := settings.userConsent.allowsTracking
    persistence := settings.userConsent.allowsPersistence
    observer
    queueGauge := gauge
    uniqueGauge := gauge }

/-- Hands an order to the pipeline. -/
def send (t : ImpressionTracker m) (order : Order) : m Unit :=
  t.state.modify fun st => { st with orders := st.orders.send order }

/-- Hands an order to the pipeline unless the tracker is destroyed. -/
def sendIfAlive (t : ImpressionTracker m) (order : Order) : m Unit := do
  if !(← t.state.get).destroyed then t.send order

/-- Takes an impression. Without tracking it is dropped. -/
def push (t : ImpressionTracker m) (pushed : TrackedImpression) : m Unit := do
  let st ← t.state.get
  if st.destroyed then return ()
  else if st.tracking then t.send (.push pushed)
  else t.telemetry.impressions .dropped 1

/-- Does what the tracker is told. -/
def run (t : ImpressionTracker m) : Command → m Unit
  | .push pushed => t.push pushed
  | .start => t.sendIfAlive .start
  | .stop => t.send .stop
  | .pause => t.sendIfAlive .pause
  | .resume => t.sendIfAlive .resume
  | .flush => t.sendIfAlive .flush
  | .destroy => do
    if !(← t.state.get).destroyed then
      t.state.modify fun st => { st with destroyed := true }
      t.send .destroy
  | .enableTracking enable => t.state.modify fun st => { st with tracking := enable }
  | .enablePersistence enable => do
    t.state.modify fun st => { st with persistence := enable }
    t.queue.setPersistence enable

/-- Tells every periodic worker. -/
def tellPeriodic (t : ImpressionTracker m) (order : WorkerOrder) : m Unit := do
  (← t.state.get).crew.periodic.forM fun w => t.workers.tell w order

/-- Persists the counts, if that is allowed and there are any. What cannot be stored is lost. -/
def saveCounts (t : ImpressionTracker m) : m Unit := do
  if (← t.state.get).persistence then
    let counts ← t.state.step fun st =>
      let (counts, counter) := st.counter.drain
      (counts, { st with counter })
    if !counts.isEmpty then
      let _ ← t.counts.pushMany counts

/-- Persists the unique keys, if that is allowed; until then they stay where they are tracked. -/
def saveUniqueKeys (t : ImpressionTracker m) : m Unit := do
  if (← t.state.get).persistence then t.uniqueKeys.saveAndClear

/-- Stores the hashes of the observer, where there is a store. -/
def saveHashes (t : ImpressionTracker m) : m Unit := do
  (← t.state.get).observer.save t.hashes

/-- The gauge of the queue. -/
def queueGauge (t : ImpressionTracker m) : Cell m FlushGauge :=
  t.state.focus State.queueGauge fun gauge st => { st with queueGauge := gauge }

/-- The gauge of the unique keys. -/
def uniqueGauge (t : ImpressionTracker m) : Cell m FlushGauge :=
  t.state.focus State.uniqueGauge fun gauge st => { st with uniqueGauge := gauge }

/-- Has the queued impressions sent. -/
def sendImpressions (t : ImpressionTracker m) : m Unit := do
  t.workers.tell (← t.state.get).crew.impressions .flush
  t.queueGauge.modify .reset

/-- Has the unique keys saved and sent. -/
def sendUniqueKeys (t : ImpressionTracker m) : m Unit := do
  t.saveUniqueKeys
  t.workers.tell (← t.state.get).crew.uniqueKeys .flush
  t.uniqueGauge.modify .reset

/-- Counts an impression for its feature and hour. -/
def count (t : ImpressionTracker m) (i : Impression) : m Unit :=
  t.state.modify fun st => { st with counter := st.counter.increment i.featureName i.time 1 }

/-- Whether an impression is the first of its identity in its hour. -/
def isFirstInHour (i : Impression) : Bool :=
  match i.previousTime with
  | none => true
  | some previous => hourStart previous ≠ hourStart i.time

/-- Handles an impression that is only counted. -/
def handleCounted (t : ImpressionTracker m) (i : Impression) : m Unit := do
  t.count i
  t.uniqueKeys.track i.keyName i.featureName
  let due ← t.uniqueGauge.step fun g =>
    let next := g.add uniqueKeyBytes
    (next.isDue, next)
  if due then t.sendUniqueKeys

/-- Handles an impression that may be delivered. -/
def handleDelivered (t : ImpressionTracker m) (i : Impression) : m Unit := do
  let previous ← t.state.step fun st =>
    let (previous, observer) := st.observer.testAndSet i.identityHash i.time
    (previous, { st with observer })
  let i := { i with previousTime := previous }
  if t.mode = .optimized then t.count i
  if t.mode = .debug || isFirstInHour i then
    if ← t.queue.offer t.queueGauge i impressionBytes then t.sendImpressions
    t.telemetry.impressions .queued 1
  else t.telemetry.impressions .deduped 1

/-- Handles an order of the pipeline. -/
def handle (t : ImpressionTracker m) : Order → m Unit
  | .push pushed =>
    if pushed.disabled || t.mode = .none then t.handleCounted pushed.impression else t.handleDelivered pushed.impression
  | .flush => do
    t.saveCounts
    t.sendImpressions
    t.workers.tell (← t.state.get).crew.counts .flush
    t.sendUniqueKeys
  | .start => t.tellPeriodic .start
  | .stop => t.tellPeriodic .stop
  | .pause => do
    t.saveCounts
    t.saveUniqueKeys
    t.saveHashes
    t.tellPeriodic .pause
  | .resume => t.tellPeriodic .resume
  | .destroy => do
    t.tellPeriodic .destroy
    t.saveCounts
    t.saveUniqueKeys
    t.saveHashes
    t.state.modify fun st => { st with orders := st.orders.close }

/-- Handles the next order, if one waits; says whether one did. -/
def handleNext (t : ImpressionTracker m) : m Bool := do
  let next ← t.state.step fun st =>
    let (next, orders) := st.orders.receive
    (next, { st with orders })
  match next with
  | none => return false
  | some order =>
    t.handle order
    return true

end ImpressionTracker

end FlagKeeper
