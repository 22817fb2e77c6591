import FlagKeeper.Manager.Basic
import FlagKeeper.Timing.IntervalWorker

/-!
# A simulated world

The state of a simulated host and of the client that runs in it. The host keeps its data in memory, logs every call it gets, can
be told to fail or to break down at some calls, and to react to a call from within. Each lane of the log is in order; between
lanes there is no order.
-/

namespace FlagKeeper.Simulation

/-- What ends a piece of work before its end. -/
inductive Halt where
  /-- The host broke down while it served a call. -/
  | breakdown (call : String)
  /-- A part was asked for that this world does not have. -/
  | noSuchPart
  deriving DecidableEq, Repr

/-- What the world can do from within a call. -/
inductive Reaction where
  | pauseManager
  | resumeManager
  | destroyManager
  | tellSegments (command : SegmentSync.Command)
  | tellFlags (command : FlagSync.Command)
  | emit (event : StatusEvent)

/-- A worker that the host made: its identifier in the log, and the identity it was made for. -/
structure MadeWorker where
  worker : Worker
  id : String
  owner : Option BundleId

/-- An identity: its key, what its lanes are called, the change numbers its stores hold by matching key, and its segment
synchronizer, if that is simulated and not only logged. -/
structure Identity where
  key : Key
  label : String
  segments : List (String × Int) := []
  largeSegments : List (String × Int) := []
  sync : Option SegmentSync.State := none

instance : Inhabited Identity := ⟨{ key := ⟨"", none⟩, label := "" }⟩

/-- A timer to be set in the timer table: its name, its delay and what it logs. -/
structure Alarm where
  name : TimerName
  delay : Duration
  label : String

/-- What a timer of the table does: it logs its label and sets the next of the alarms that follow. -/
structure AlarmTask where
  label : String
  following : List Alarm := []

/-- Work that waits for the background. -/
inductive Job where
  | flags (job : FlagSync.Job)
  | loadSegments (identity : BundleId)
  | registry (job : Registry.Job)

/-- The references that keep parts of the client alive. -/
inductive Holding where
  | flags
  | segments
  | tracker
  | events
  | broadcaster
  | receiver
  | manager
  | synchronizer
  deriving DecidableEq, Repr

/-- What the host is like from the start. -/
structure HostSetup where
  settings : Settings := {}
  /-- The wall clock, in milliseconds. -/
  now : Int := 1700000000000
  faults : List String := []
  /-- By kind of worker: how a worker of the kind completes as soon as it is started. -/
  automatic : List (String × Outcome) := []
  reactions : List (String × List Reaction) := []
  flags : List FeatureFlag := []
  changeNumber : Int := -1
  queryText : Option String := none
  /-- Stored hashes, where the host stores them. -/
  hashes : Option (List SeenImpression) := none
  /-- Whether the impression queue reports what it is told about persistence. -/
  reportsPersistence : Bool := true
  /-- Whether telemetry goes to metrics and not to the log. -/
  hasMetrics : Bool := false
  hasPush : Bool := true
  clientName : String := "default"

/-- The host and the client. -/
structure World where
  setup : HostSetup
  /-- Counts nanoseconds from the start. -/
  clock : Nat := 0
  /-- Counts nanoseconds from the epoch. -/
  wall : Int
  faults : List String
  automatic : List (String × Outcome)
  reactions : List (String × List Reaction)
  lanes : List (String × List Json) := []
  workers : List MadeWorker := []
  jobs : List Job := []
  released : List Holding := []
  storedFlags : List FeatureFlag
  storedChange : Int
  storedQuery : Option String
  storedHashes : List SeenImpression
  metrics : Metrics := {}
  /-- What the user allows, as a stand-in for the synchronizer keeps it. -/
  consent : Consent
  inbox : Channel StatusEvent := {}
  identities : List Identity := []
  flags : Option FlagSync.State := none
  tracker : Option ImpressionTracker.State := none
  events : Option EventRecorder.State := none
  registry : Option Registry.State := none
  synchronizer : Option Synchronizer.State := none
  manager : Option Manager.State := none
  alarms : Option (TimerTable AlarmTask) := none
  retry : Option (BackoffTimer String) := none
  interval : Option IntervalWorker := none

/-- The world at its start, without a client. -/
def World.new (setup : HostSetup) : World :=
  { setup
    wall := setup.now * 1000000
    faults := setup.faults
    automatic := setup.automatic
    reactions := setup.reactions
    storedFlags := setup.flags
    storedChange := setup.changeNumber
    storedQuery := setup.queryText
    storedHashes := setup.hashes.getD []
    consent := setup.settings.userConsent }

/-- Programs that run in the world and may end early. -/
abbrev Sim := ExceptT Halt (StateM World)

/-- A part of the client that may not be there. -/
def part {σ : Type} (read : World → Option σ) (write : σ → World → World) : Cell Sim σ :=
  { get := do
      match read (← get) with
      | some s => return s
      | none => throw .noSuchPart
    set := fun s => modify (write s) }

namespace World

/-- Whether a reference is still held. -/
def holds (w : World) (h : Holding) : Bool := !w.released.contains h

/-- Whether the manager is alive: someone holds it, or its loop runs. -/
def managerAlive (w : World) : Bool :=
  match w.manager with
  | some st => w.holds .manager || st.loop = .running
  | none => false

/-- Whether the synchronizer is alive. -/
def synchronizerAlive (w : World) : Bool := w.synchronizer.isSome && (w.holds .synchronizer || w.managerAlive)

/-- Whether the flag synchronizer is alive. -/
def flagsAlive (w : World) : Bool := w.holds .flags || w.synchronizerAlive

/-- Whether the segment synchronizers are alive. -/
def segmentsAlive (w : World) : Bool := w.holds .segments

/-- Whether anyone can still send status events: their senders are the broadcaster and the flag synchronizer's workers. -/
def hasSenders (w : World) : Bool := w.holds .broadcaster || w.flags.isSome

/-- The identity that a bundle belongs to. -/
def identity (w : World) (bundle : BundleId) : Identity := w.identities[bundle]?.getD default

/-- Adds an entry to a lane of the log. -/
def log (w : World) (lane : String) (entry : Json) : World :=
  { w with lanes := putNamed lane ((w.lanes.lookup lane).getD [] ++ [entry]) w.lanes }

/-- The wall clock in milliseconds. -/
def nowMillis (w : World) : Int := w.wall / 1000000

/-- Lets time pass. -/
def advance (w : World) (d : Duration) : World := { w with clock := w.clock + d.toNanos, wall := w.wall + d.toNanos }

/-- Sets the wall clock. -/
def setClock (w : World) (millis : Int) : World := { w with wall := millis * 1000000 }

end World

end FlagKeeper.Simulation
