import FlagKeeper.Simulation.Client

/-!
# The schedule

After every step the world runs until nothing moves. Background work goes first: the pipelines handle what waits for them, then
the jobs run in the order in which they came. When the background is idle the loop of the manager handles its events, and then
whatever is due runs: timers in the order in which they come due, and the ticks of the interval worker. All this starts over until
there is nothing left to do.

Work that ends early, because the host broke down, ends only itself: a pipeline or the loop handles nothing more, a job or a
timer's task is over.
-/

namespace FlagKeeper.Simulation

/-- Programs that leave no early end behind. -/
abbrev Settled := StateM World

/-- Runs a piece of work, and what is to be done if it ends early. -/
def runGuarded {α : Type} (work : Sim α) (otherwise : Settled α) : Settled α := do
  match ← work.run with
  | .ok a => return a
  | .error _ => otherwise

/-- Runs work on the client as the world stands. -/
def withClient {α : Type} (work : Client → Sim α) : Sim α := do work (← currentClient)

/-- The impression tracker handles nothing more. -/
def closeTracker : Settled Unit :=
  modify fun w => { w with tracker := w.tracker.map fun st => { st with orders := st.orders.close } }

/-- The event recorder handles nothing more. -/
def closeEvents : Settled Unit :=
  modify fun w => { w with events := w.events.map fun st => { st with orders := st.orders.close } }

/-- The loop of the manager is over. -/
def closeLoop : Settled Unit :=
  modify fun w => { w with manager := w.manager.map fun st => { st with loop := .ended }, inbox := w.inbox.close }

/-- Runs a background job. -/
def runBackground : Job → Sim Unit
  | .flags job => withClient fun c => c.flags.runJob job
  | .loadSegments bundle => withClient fun c => (c.segments bundle).loadCaches
  | .registry job => withClient fun c => c.registry.runJob job

/-- Does one piece of background work, if there is one; says whether there was. -/
def backgroundStep : Settled Bool := do
  let w ← get
  if (w.tracker.map fun st => !st.orders.queue.isEmpty) = some true then
    runGuarded (withClient fun c => c.tracker.handleNext) do
      closeTracker
      return true
  else if (w.events.map fun st => !st.orders.queue.isEmpty) = some true then
    runGuarded (withClient fun c => c.events.handleNext) do
      closeEvents
      return true
  else
    match w.jobs with
    | [] => return false
    | job :: rest =>
      set { w with jobs := rest }
      runGuarded (runBackground job) (return ())
      return true

/-- One round of the manager's loop; says whether there was anything to do. The loop also ends when nobody holds the manager, or
when nobody can send events any more. -/
def loopStep : Settled Bool := do
  let w ← get
  match w.manager with
  | none => return false
  | some st =>
    if st.loop ≠ .running then return false
    else if !w.holds .manager || (w.inbox.queue.isEmpty && !w.hasSenders) then
      closeLoop
      return true
    else
      runGuarded (withClient fun c => c.manager.serveNext) do
        closeLoop
        return true

/-- Whom a timer belongs to. -/
inductive TimerOwner where
  | manager
  | segments (bundle : BundleId)
  | table
  | retry
  deriving DecidableEq, Repr

/-- The longest that anything sleeps by the clock of the doubles: thirty years of 365 days. -/
def longestSleep : Option Nat := some (30 * 365 * 86400 * nanosPerSec)

/-- A timer whose time has come. -/
structure DueTimer where
  time : Nat
  armed : Nat
  owner : TimerOwner
  id : Nat

/-- The due timers of one table. -/
def dueOf {τ : Type} (owner : TimerOwner) (clock : Nat) (t : TimerTable τ) : List DueTimer :=
  (t.due longestSleep clock).map fun s => ⟨TimerTable.wakeTime longestSleep s, s.armed, owner, s.id⟩

/-- The due timers of the world, the earliest first. -/
def World.dueTimers (w : World) : List DueTimer :=
  let ofManager := (w.manager.map fun st => dueOf .manager w.clock st.reconnect.timers).getD []
  let ofIdentities := w.identities.mapIdx fun bundle i => (i.sync.map fun st => dueOf (.segments bundle) w.clock st.timers).getD []
  let ofTable := (w.alarms.map (dueOf .table w.clock)).getD []
  let ofRetry := (w.retry.map fun t => dueOf .retry w.clock t.timers).getD []
  (ofManager ++ ofIdentities.flatten ++ ofTable ++ ofRetry).mergeSort fun a b =>
    a.time < b.time || (a.time = b.time && a.armed ≤ b.armed)

/-- The lane of plain timers. -/
def timersLane : String := "timers"

/-- Logs that a plain timer went off. -/
def logFired (label : String) : Sim Unit :=
  modify fun w => w.log timersLane (.arr [.str "fired", .str label, .int w.nowMillis])

/-- What a timer of the table does when it goes off. -/
def runAlarm (task : AlarmTask) : Sim Unit := do
  logFired task.label
  match task.following with
  | [] => return ()
  | next :: rest =>
    let w ← get
    let (added, alarms) := (w.alarms.getD {}).add next.name w.clock next.delay ⟨next.label, rest⟩
    set { w with alarms := some alarms }
    modify fun w => w.log timersLane (.arr [.str "rescheduled", .bool added])

/-- Lets a due timer go off, unless it was cancelled in the meantime. What it was set for is skipped once its owner is gone. -/
def fire (t : DueTimer) : Sim Unit := do
  let w ← get
  match t.owner with
  | .manager =>
    if w.manager.isSome then
      withClient fun c => do
        if (← c.manager.timerOver t.id) && w.managerAlive then c.manager.reconnectDue
  | .segments bundle =>
    match (w.identity bundle).sync with
    | none => return ()
    | some st =>
      let (task, timers) := st.timers.wake t.id
      set { w with identities := changeAt (fun i => { i with sync := some { st with timers } }) bundle w.identities }
      if task.isSome && w.segmentsAlive then withClient fun c => (c.segments bundle).delayOver
  | .table =>
    match w.alarms with
    | none => return ()
    | some table =>
      let (task, alarms) := table.wake t.id
      set { w with alarms := some alarms }
      task.forM runAlarm
  | .retry =>
    match w.retry with
    | none => return ()
    | some timer =>
      let (task, timers) := timer.timers.wake t.id
      set { w with retry := some { timer with timers } }
      task.forM logFired

/-- Lets all due timers go off; says whether there were any. -/
def timersStep : Settled Bool := do
  let due := (← get).dueTimers
  due.forM fun t => runGuarded (fire t) (return ())
  return !due.isEmpty

/-- The lane of plain calls. -/
def callsLane : String := "calls"

/-- Makes the ticks of the interval worker that have come; says whether there were any. -/
def intervalStep : Settled Bool := do
  let w ← get
  match w.interval with
  | none => return false
  | some worker =>
    let (runs, worker) := worker.tick w.clock
    let entry : Json := .arr [.str "run", .int w.nowMillis]
    set ((List.replicate runs entry).foldl (fun w e => w.log callsLane e) { w with interval := some worker })
    return runs ≠ 0

/-- Repeats a step until it says that there was nothing to do, at most so many times; says whether there was anything. -/
def repeatStep (step : Settled Bool) : Nat → Settled Bool
  | 0 => return true
  | fuel + 1 => do
    if ← step then
      let _ ← repeatStep step fuel
      return true
    else return false

/-- More rounds than any run takes. -/
def roundLimit : Nat := 100000

/-- One round: the background until it is idle, the loop until it is idle, then what is due. -/
def settleRound : Settled Bool := do
  let inBackground ← repeatStep backgroundStep roundLimit
  let inLoop ← repeatStep loopStep roundLimit
  let inTimers ← timersStep
  let inInterval ← intervalStep
  return inBackground || inLoop || inTimers || inInterval

/-- Runs the world until nothing moves. -/
def settle : Settled Unit := do
  let _ ← repeatStep settleRound roundLimit

end FlagKeeper.Simulation
