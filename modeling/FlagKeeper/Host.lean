import FlagKeeper.Error
import FlagKeeper.Impressions.SeenCache
import FlagKeeper.Model.Event
import FlagKeeper.Model.Flag
import FlagKeeper.Model.Impression
import FlagKeeper.Telemetry
import FlagKeeper.Workers.Worker

/-!
# What the client asks of its host

The parts of the client are programs in any monad `m`. What they keep lies in cells, and what they need of the host (storage,
workers, the streaming connection, telemetry, clocks) is given to them as records of operations in `m`. So the same program
runs in a simulated host, and can be reasoned about over a plain state with a list of the calls that were made.

A host may call back into the client while it serves a call; a program therefore reads a cell again after each call.
-/

namespace FlagKeeper

/-- A place that holds a value. -/
structure Cell (m : Type → Type) (σ : Type) where
  get : m σ
  set : σ → m Unit

namespace Cell

variable {m : Type → Type} [Monad m] {σ τ α : Type}

/-- Changes the value. -/
def modify (c : Cell m σ) (change : σ → σ) : m Unit := do
  c.set (change (← c.get))

/-- Changes the value and gives an answer. -/
def step (c : Cell m σ) (change : σ → α × σ) : m α := do
  let (answer, next) := change (← c.get)
  c.set next
  return answer

/-- A part of the value as a place of its own. -/
def focus (c : Cell m σ) (read : σ → τ) (write : τ → σ → σ) : Cell m τ :=
  { get := read <$> c.get, set := fun part => c.modify (write part) }

end Cell

/-- The store of flag definitions. -/
structure FlagStore (m : Type → Type) where
  loadLocal : m Outcome
  all : m (List FeatureFlag)
  /-- The last change that was applied, -1 when none is known. -/
  changeNumber : m Int
  setChangeNumber : Int → m Outcome
  delete : List String → m Outcome
  /-- Applies a kill order; says no when the stored flag is newer or not there. -/
  kill : FlagKill → m (Except SyncError Bool)
  /-- The query text that the stored flags were fetched with. -/
  queryText : m (Option String)
  setQueryText : String → m Outcome

/-- The store of one kind of segment memberships, by matching key. -/
structure SegmentStore (m : Type → Type) where
  loadLocal : String → m Outcome
  changeNumber : String → m Int

/-- The store of an identity's attributes, by matching key. -/
structure AttributeStore (m : Type → Type) where
  loadLocal : String → m Outcome
  /-- Drops everything held for a key. -/
  destroy : String → m Unit

/-- A queue of items that wait to be sent. -/
structure Queue (m : Type → Type) (α : Type) where
  push : α → m Outcome
  setPersistence : Bool → m Unit

/-- The store of impression counts. -/
structure CountStore (m : Type → Type) where
  pushMany : List FeatureCount → m Outcome

/-- The store of impression hashes. -/
structure HashStore (m : Type → Type) where
  all : m (Except SyncError (List SeenImpression))
  replace : List SeenImpression → m Outcome

/-- The record of which key was seen with which feature. -/
structure UniqueKeys (m : Type → Type) where
  track : String → String → m Unit
  /-- Persists what was tracked and starts over. -/
  saveAndClear : m Unit

/-- Where telemetry goes. -/
structure TelemetrySink (m : Type → Type) where
  impressions : ImpressionFate → Nat → m Unit
  events : EventFate → Nat → m Unit
  syncMode : SyncMode → m Unit
  streamingEvent : StatusEvent → m Unit

/-- The makers of workers. -/
structure Workers (m : Type → Type) where
  create : WorkerKind → m Worker
  tell : Worker → WorkerOrder → m Unit

/-- What the streaming connection can be told. -/
inductive PushOrder where
  | start
  | pause
  | resume
  /-- To close for good. -/
  | stop
  /-- To drop the connection; a start reconnects. -/
  | disconnect
  deriving DecidableEq, Repr

/-- The clocks of the host, in nanoseconds. -/
structure Clocks (m : Type → Type) where
  /-- Counts from some start and never goes back. -/
  steady : m Nat
  /-- Counts from the epoch. -/
  wall : m Int

namespace Clocks

variable {m : Type → Type} [Monad m]

/-- The wall clock in milliseconds. -/
def wallMillis (c : Clocks m) : m Int := do return (← c.wall) / 1000000

/-- The wall clock in seconds. -/
def wallSecs (c : Clocks m) : m Int := do return (← c.wall) / 1000000000

end Clocks

end FlagKeeper
