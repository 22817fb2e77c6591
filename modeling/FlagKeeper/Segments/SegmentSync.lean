import FlagKeeper.Host
import FlagKeeper.Timing.TimerTable
import FlagKeeper.Workers.Catalog

/-!
# Keeping an identity's segments up to date

Each identity has a segment synchronizer for its two kinds of segments. A full refresh never overlaps another one. A
notification asks to reach change numbers; the targets of all notifications are merged into their maximum, a delay collects
several of them, and at most one worker is under way for each merged target.
-/

namespace FlagKeeper

namespace SegmentSync

/-- What a segment synchronizer keeps. -/
structure State where
  mainWorker : Worker
  /-- There is none when nothing is to be refreshed. -/
  periodicWorker : Option Worker
  /-- Whether a full refresh is under way. -/
  refreshing : Bool := false
  catalog : Catalog ChangeNumbers Worker := {}
  timers : TimerTable Unit := {}
  target : ChangeNumbers := .unknown
  destroyed : Bool := false

/-- What a segment synchronizer can be told. -/
inductive Command where
  | loadFromCache
  | synchronize
  /-- To reach change numbers, after a delay. -/
  | force (target : ChangeNumbers) (delay : Duration)
  | startPeriodic
  | stopPeriodic
  | notifyUpdated
  | notifyLargeUpdated
  | pause
  | resume
  | destroy

end SegmentSync

/-- A segment synchronizer in its surroundings. -/
structure SegmentSync (m : Type → Type) where
  key : Key
  syncEnabled : Bool
  state : Cell m SegmentSync.State
  segments : SegmentStore m
  largeSegments : SegmentStore m
  signal : Signal → m Unit
  workers : Workers m
  clocks : Clocks m
  /-- Has the caches loaded in the background. -/
  loadLater : m Unit

namespace SegmentSync

variable {m : Type → Type} [Monad m]

/-- Makes the workers of a new segment synchronizer. -/
def create (key : Key) (syncEnabled : Bool) (workers : Workers m) : m State := do
  let mainWorker ← workers.create (.segmentsSync key)
  let periodicWorker ← if syncEnabled then some <$> workers.create (.periodicSegments key) else pure none
  return { mainWorker, periodicWorker }

/-- The change numbers that the caches have. -/
def known (s : SegmentSync m) : m ChangeNumbers := do
  let segments ← s.segments.changeNumber s.key.matching
  let largeSegments ← s.largeSegments.changeNumber s.key.matching
  return ⟨segments, largeSegments⟩

/-- Tells the periodic worker, if there is one. -/
def tellPeriodic (s : SegmentSync m) (order : WorkerOrder) : m Unit := do
  match (← s.state.get).periodicWorker with
  | some w => s.workers.tell w order
  | none => return ()

/-- Starts a worker for a target, unless one is under way. -/
def reach (s : SegmentSync m) (target : ChangeNumbers) : m Unit := do
  let st ← s.state.get
  if st.destroyed || st.catalog.contains target then return ()
  else
    let w ← s.workers.create (.segmentsUpdate s.key target)
    let isNew ← s.state.step fun st =>
      let (isNew, catalog) := st.catalog.insertIfAbsent target w
      (isNew, { st with catalog })
    if isNew then s.workers.tell w .start

/-- Takes a notification: one that brings nothing new is ignored, any other raises the target, and the target is reached now,
after the delay, or by what is already under way for it. -/
def force (s : SegmentSync m) (target : ChangeNumbers) (delay : Duration) : m Unit := do
  if (← s.state.get).destroyed || !s.syncEnabled then return ()
  else if !target.isNewerThan (← s.known) then return ()
  else
    let merged ← s.state.step fun st =>
      let merged := st.target.merge target
      (merged, { st with target := merged })
    let st ← s.state.get
    if st.timers.isScheduled .syncSegments || st.catalog.contains merged then return ()
    else if delay.isZero then s.reach merged
    else
      let now ← s.clocks.steady
      s.state.modify fun st => { st with timers := (st.timers.add .syncSegments now delay ()).2 }

/-- The delay of a notification is over. -/
def delayOver (s : SegmentSync m) : m Unit := do
  s.reach (← s.state.get).target

/-- Refreshes everything, unless that is under way. -/
def refresh (s : SegmentSync m) : m Unit := do
  let st ← s.state.get
  if st.destroyed || st.refreshing then return ()
  else
    s.state.modify fun st => { st with refreshing := true }
    s.workers.tell st.mainWorker .start

/-- Ends everything that is under way. -/
def shutDown (s : SegmentSync m) : m Unit := do
  let st ← s.state.get
  if st.destroyed then return ()
  else
    s.state.modify fun st => { st with destroyed := true }
    s.workers.tell st.mainWorker .stop
    s.tellPeriodic .destroy
    s.state.modify fun st => { st with timers := st.timers.cancelAll }
    let inFlight ← s.state.step fun st =>
      let (inFlight, catalog) := st.catalog.takeAll
      (inFlight, { st with catalog })
    inFlight.forM fun w => s.workers.tell w .stop

/-- Does what the segment synchronizer is told. -/
def run (s : SegmentSync m) : Command → m Unit
  | .loadFromCache => do if !(← s.state.get).destroyed then s.loadLater
  | .synchronize => s.refresh
  | .force target delay => s.force target delay
  | .startPeriodic => do if !(← s.state.get).destroyed then s.tellPeriodic .start
  | .stopPeriodic => s.tellPeriodic .stop
  | .notifyUpdated => s.signal .mySegmentsUpdated
  | .notifyLargeUpdated => s.signal .myLargeSegmentsUpdated
  | .pause => s.tellPeriodic .pause
  | .resume => do if !(← s.state.get).destroyed then s.tellPeriodic .resume
  | .destroy => s.shutDown

/-- Loads both caches; a failure is borne. -/
def loadCaches (s : SegmentSync m) : m Unit := do
  let _ ← s.segments.loadLocal s.key.matching
  s.signal .mySegmentsLoadedFromCache
  let _ ← s.largeSegments.loadLocal s.key.matching
  s.signal .myLargeSegmentsLoadedFromCache

/-- A full refresh is over. -/
def refreshCompleted (s : SegmentSync m) : m Unit := s.state.modify fun st => { st with refreshing := false }

/-- The worker of a target is done. -/
def reachCompleted (s : SegmentSync m) (target : ChangeNumbers) : m Unit :=
  s.state.modify fun st => { st with catalog := (st.catalog.remove target).2 }

/-- How many targets are under way. -/
def inFlight (s : SegmentSync m) : m Nat := do return (← s.state.get).catalog.size

end SegmentSync

end FlagKeeper
