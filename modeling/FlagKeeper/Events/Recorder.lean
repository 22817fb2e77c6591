import FlagKeeper.Channel
import FlagKeeper.Delivery
import FlagKeeper.Model.Event
import FlagKeeper.Settings.Basic

/-!
# Recording events

The event recorder takes the events that the host application reports. They go through a channel to a pipeline that queues them
and has the queue sent when it is due. Orders to the periodic worker do not go through the channel.
-/

namespace FlagKeeper

namespace EventRecorder

/-- What the pipeline handles. -/
inductive Order where
  | push (event : TrackedEvent)
  | flush

/-- What the recorder can be told. -/
inductive Command where
  /-- To start the periodic worker. -/
  | start
  | stop
  | push (event : TrackedEvent)
  | flush
  | pause
  | resume
  | destroy

/-- What the recorder keeps. -/
structure State where
  recorder : Worker
  periodic : Worker
  destroyed : Bool := false
  orders : Channel Order := {}
  gauge : FlushGauge

end EventRecorder

/-- The event recorder in its surroundings. -/
structure EventRecorder (m : Type → Type) where
  state : Cell m EventRecorder.State
  queue : Queue m TrackedEvent
  telemetry : TelemetrySink m
  workers : Workers m

namespace EventRecorder

variable {m : Type → Type} [Monad m]

/-- Makes the workers of a new recorder. -/
def create (settings : Settings) (workers : Workers m) : m State := do
  let recorder ← workers.create .eventsRecorder
  let periodic ← workers.create .periodicEvents
  return { recorder, periodic, gauge := { maxCount := settings.eventsQueueSize, maxBytes := settings.eventsQueueBytes } }

/-- Hands an order to the pipeline. -/
def send (r : EventRecorder m) (order : Order) : m Unit :=
  r.state.modify fun st => { st with orders := st.orders.send order }

/-- Tells the periodic worker. -/
def tellPeriodic (r : EventRecorder m) (order : WorkerOrder) : m Unit := do
  r.workers.tell (← r.state.get).periodic order

/-- Does what the recorder is told. -/
def run (r : EventRecorder m) : Command → m Unit
  | .start => do if !(← r.state.get).destroyed then r.tellPeriodic .start
  | .stop => r.tellPeriodic .stop
  | .push event => do
    if (← r.state.get).destroyed then r.telemetry.events .dropped 1 else r.send (.push event)
  | .flush => do if !(← r.state.get).destroyed then r.send .flush
  | .pause => r.tellPeriodic .pause
  | .resume => r.tellPeriodic .resume
  | .destroy => do
    if !(← r.state.get).destroyed then
      r.state.modify fun st => { st with destroyed := true }
      r.tellPeriodic .destroy

/-- The gauge of the queue. -/
def gauge (r : EventRecorder m) : Cell m FlushGauge := r.state.focus State.gauge fun gauge st => { st with gauge }

/-- Has the queued events sent. -/
def sendEvents (r : EventRecorder m) : m Unit := do
  r.workers.tell (← r.state.get).recorder .flush
  r.gauge.modify .reset

/-- Handles an order of the pipeline. -/
def handle (r : EventRecorder m) : Order → m Unit
  | .push event => do
    if ← r.queue.offer r.gauge event event.byteSize then r.sendEvents
    r.telemetry.events .queued 1
  | .flush => r.sendEvents

/-- Handles the next order, if one waits; says whether one did. -/
def handleNext (r : EventRecorder m) : m Bool := do
  let next ← r.state.step fun st =>
    let (next, orders) := st.orders.receive
    (next, { st with orders })
  match next with
  | none => return false
  | some order =>
    r.handle order
    return true

end EventRecorder

end FlagKeeper
