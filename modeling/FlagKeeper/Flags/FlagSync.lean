import FlagKeeper.Flags.Filter
import FlagKeeper.Host
import FlagKeeper.Workers.Catalog

/-!
# Keeping flags up to date

The flag synchronizer is one for the whole client. It reconciles the cache with the filter, has all flags fetched once or
periodically, catches up with a single change when a notification asks for it, and applies kill orders at once. At most one
worker is under way for each change number.
-/

namespace FlagKeeper

namespace FlagSync

/-- What the flag synchronizer keeps. -/
structure State where
  mainWorker : Worker
  /-- There is none when nothing is to be refreshed. -/
  periodicWorker : Option Worker
  catalog : Catalog Int Worker := {}
  stopped : Bool := false

/-- What the flag synchronizer can be told. -/
inductive Command where
  /-- To load the cache, then announce it. -/
  | load
  /-- To load the cache, then fetch all flags. -/
  | loadAndSynchronize
  | synchronize
  /-- To catch up with a change. -/
  | synchronizeTo (changeNumber : Int)
  | startPeriodic
  | stopPeriodic
  | notifyKilled (kill : FlagKill)
  | notifyUpdated
  | pause
  | resume
  | stop

/-- Work that is done in the background. -/
inductive Job where
  | loadAndAnnounce
  | loadAndFetch
  | kill (kill : FlagKill)

end FlagSync

/-- The flag synchronizer in its surroundings. -/
structure FlagSync (m : Type → Type) where
  filter : FlagFilter
  syncEnabled : Bool
  state : Cell m FlagSync.State
  store : FlagStore m
  signal : Signal → m Unit
  broadcast : StatusEvent → m Unit
  workers : Workers m
  background : FlagSync.Job → m Unit

namespace FlagSync

variable {m : Type → Type} [Monad m]

/-- Makes the workers of a new flag synchronizer. -/
def create (syncEnabled : Bool) (workers : Workers m) : m State := do
  let mainWorker ← workers.create .flagsSync
  let periodicWorker ← if syncEnabled then some <$> workers.create .periodicFlags else pure none
  return { mainWorker, periodicWorker }

/-- Goes on only after a success. -/
def andThen (first next : m Outcome) : m Outcome := do
  match ← first with
  | .ok () => next
  | .error e => return .error e

/-- Drops the cached flags that the filter does not cover. After a deletion everything has to be fetched anew, so the change
number is forgotten. -/
def reconcile (s : FlagSync m) : m Outcome := do
  let query := s.filter.queryText
  if (← s.store.queryText) = some query then return .ok ()
  else
    let doomed := s.filter.uncovered (← s.store.all)
    let cleared : m Outcome :=
      if doomed.isEmpty then return .ok () else andThen (s.store.delete doomed) (s.store.setChangeNumber (-1))
    andThen cleared (s.store.setQueryText query)

/-- Loads the cache and reconciles it. A failure of either is borne. -/
def loadFromCache (s : FlagSync m) : m Unit := do
  let _ ← s.store.loadLocal
  let _ ← s.reconcile
  if !(← s.store.all).isEmpty then s.signal .splitsLoadedFromCache

/-- Tells the periodic worker, if there is one. -/
def tellPeriodic (s : FlagSync m) (order : WorkerOrder) : m Unit := do
  match (← s.state.get).periodicWorker with
  | some w => s.workers.tell w order
  | none => return ()

/-- Has all flags fetched. -/
def fetchAll (s : FlagSync m) : m Unit := do
  let st ← s.state.get
  if !st.stopped then s.workers.tell st.mainWorker .start

/-- Catches up with a change, unless it is known or under way. -/
def catchUp (s : FlagSync m) (changeNumber : Int) : m Unit := do
  if (← s.state.get).stopped || !s.syncEnabled then return ()
  else if changeNumber ≤ (← s.store.changeNumber) then return ()
  else if (← s.state.get).catalog.contains changeNumber then return ()
  else
    let w ← s.workers.create (.flagsUpdate changeNumber)
    let isNew ← s.state.step fun st =>
      let (isNew, catalog) := st.catalog.insertIfAbsent changeNumber w
      (isNew, { st with catalog })
    if isNew then s.workers.tell w .start

/-- Ends everything that is under way. -/
def shutDown (s : FlagSync m) : m Unit := do
  let st ← s.state.get
  if st.stopped then return ()
  else
    s.state.modify fun st => { st with stopped := true }
    s.workers.tell st.mainWorker .stop
    s.tellPeriodic .stop
    s.tellPeriodic .destroy
    let inFlight ← s.state.step fun st =>
      let (inFlight, catalog) := st.catalog.takeAll
      (inFlight, { st with catalog })
    inFlight.forM fun w => s.workers.tell w .stop

/-- Does what the flag synchronizer is told. -/
def run (s : FlagSync m) : Command → m Unit
  | .load => s.background .loadAndAnnounce
  | .loadAndSynchronize => s.background .loadAndFetch
  | .synchronize => s.fetchAll
  | .synchronizeTo changeNumber => s.catchUp changeNumber
  | .startPeriodic => do if !(← s.state.get).stopped then s.tellPeriodic .start
  | .stopPeriodic => s.tellPeriodic .stop
  | .notifyKilled kill => do if !(← s.state.get).stopped then s.background (.kill kill)
  | .notifyUpdated => s.signal .splitsUpdated
  | .pause => s.tellPeriodic .pause
  | .resume => do if !(← s.state.get).stopped then s.tellPeriodic .resume
  | .stop => s.shutDown

/-- Does background work. -/
def runJob (s : FlagSync m) : Job → m Unit
  | .loadAndAnnounce => do
    s.loadFromCache
    s.broadcast .splitLoadedFromCache
  | .loadAndFetch => do
    s.loadFromCache
    s.fetchAll
  | .kill kill => do
    match ← s.store.kill kill with
    | .ok true => s.signal .splitKilled
    | _ => return ()

/-- What is broadcast when a fetch of all flags is over. -/
def mainReport : Outcome → Option StatusEvent
  | .ok () => some .syncExecuted
  | .error .uriTooLong => some .uriTooLongOnSync
  | .error _ => none

/-- A fetch of all flags is over. -/
def mainCompleted (broadcast : StatusEvent → m Unit) (result : Outcome) : m Unit :=
  match mainReport result with
  | some event => broadcast event
  | none => return ()

/-- The catch-up with a change is over. -/
def catchUpCompleted (s : FlagSync m) (changeNumber : Int) (result : Outcome) : m Unit := do
  s.state.modify fun st => { st with catalog := (st.catalog.remove changeNumber).2 }
  match result with
  | .ok () => s.broadcast .syncExecuted
  | .error _ => return ()

/-- How many catch-ups are under way. -/
def inFlight (s : FlagSync m) : m Nat := do return (← s.state.get).catalog.size

end FlagSync

end FlagKeeper
