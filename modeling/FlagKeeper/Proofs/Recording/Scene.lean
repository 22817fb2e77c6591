import FlagKeeper.Proofs.Ensemble.Ground
import FlagKeeper.Proofs.Keeps

/-!
# The recording of user data on a plain host

The synchronizer over the impression tracker and the event recorder, each part the program that it is, on the host that writes every
call down. The flags and the identities have no part in the recording: orders to them come to nothing here. What can happen is an
`Input`: the synchronizer is told something, one of the two pipelines has its turn, and the host answers otherwise from now on.
-/

namespace FlagKeeper.Recording

open Ensemble (Ground Call Answers)

/-- The parts that record, and their host. -/
structure Scene where
  mode : ImpressionsMode
  /-- Whether the host stores the hashes of impressions. -/
  keepsHashes : Bool
  ground : Ground
  synchronizer : Synchronizer.State
  tracker : ImpressionTracker.State
  events : EventRecorder.State

/-- Programs on the plain host. -/
abbrev Plain := StateM Scene

/-- The place of the host. -/
def groundCell : Cell Plain Ground where
  get := return (← get).ground
  set ground := modify fun s => { s with ground }

/-- The place of what the synchronizer keeps. -/
def synchronizerCell : Cell Plain Synchronizer.State where
  get := return (← get).synchronizer
  set synchronizer := modify fun s => { s with synchronizer }

/-- The place of what the tracker keeps. -/
def trackerCell : Cell Plain ImpressionTracker.State where
  get := return (← get).tracker
  set tracker := modify fun s => { s with tracker }

/-- The place of what the recorder keeps. -/
def eventsCell : Cell Plain EventRecorder.State where
  get := return (← get).events
  set events := modify fun s => { s with events }

/-- The makers of workers; nothing is done here when one is done. -/
def makers : Workers Plain := Ground.makers groundCell fun _ _ => return ()

/-- The impression tracker. -/
def tracker (mode : ImpressionsMode) (keepsHashes : Bool) : ImpressionTracker Plain where
  mode
  state := trackerCell
  queue := Ground.impressionQueue groundCell
  counts := Ground.countStore groundCell
  hashes := if keepsHashes then some (Ground.hashStore groundCell) else none
  uniqueKeys := Ground.uniqueKeys groundCell
  telemetry := Ground.telemetry groundCell
  workers := makers

/-- The event recorder. -/
def recorder : EventRecorder Plain where
  state := eventsCell
  queue := Ground.eventQueue groundCell
  telemetry := Ground.telemetry groundCell
  workers := makers

/-- A registry without identities. -/
def nobody : Registry Plain where
  state := { get := return {}, set := fun _ => return () }
  bundle _ :=
    { segments := fun _ => return ()
      attributes := { loadLocal := fun _ => return .ok (), destroy := fun _ => return () }
      signal := fun _ => return ()
      stopSignals := return () }
  background _ := return ()

/-- The synchronizer. -/
def facade (mode : ImpressionsMode) (keepsHashes : Bool) : Synchronizer Plain where
  state := synchronizerCell
  flags _ := return ()
  registry := nobody
  impressions := (tracker mode keepsHashes).run
  events := recorder.run

/-- What can happen to the parts that record. -/
inductive Input where
  | tell (command : Synchronizer.Command)
  /-- The pipeline of the impressions has its turn. -/
  | impressionsStep
  /-- The pipeline of the events has its turn. -/
  | eventsStep
  /-- The host answers otherwise from now on. -/
  | answer (answers : Answers)

/-- What is done about an input. -/
def Input.program (s : Scene) : Input → Plain Unit
  | .tell command => (facade s.mode s.keepsHashes).run command
  | .impressionsStep => do let _ ← (tracker s.mode s.keepsHashes).handleNext
  | .eventsStep => do let _ ← recorder.handleNext
  | .answer answers => modify fun s => { s with ground := { s.ground with answers } }

/-- The scene after an input. -/
def Scene.take (s : Scene) (i : Input) : Scene := ((i.program s).run s).2

/-- The scene after some inputs, the latest first. -/
def Scene.after (s : Scene) : List Input → Scene
  | [] => s
  | i :: past => (s.after past).take i

/-- What the parts that record are put together from, and where. -/
structure Setup where
  settings : Settings
  keepsHashes : Bool
  answers : Answers

/-- The place of the host while the parts are made. -/
def alone : Cell (StateM Ground) Ground := { get := get, set := set }

/-- The store of hashes while the parts are made, if the host has one. -/
def Setup.hashStore (u : Setup) : Option (HashStore (StateM Ground)) :=
  if u.keepsHashes then some (Ground.hashStore alone) else none

/-- Makes the parts that record. -/
def Setup.parts (u : Setup) : StateM Ground (ImpressionTracker.State × EventRecorder.State) := do
  let makers := Ground.makers alone fun _ _ => return ()
  let tracker ← ImpressionTracker.create u.settings (Ground.impressionQueue alone) u.hashStore makers
  let events ← EventRecorder.create u.settings makers
  return (tracker, events)

/-- New parts that record. -/
def Setup.scene (u : Setup) : Scene where
  mode := u.settings.impressionsMode
  keepsHashes := u.keepsHashes
  ground := (u.parts.run { answers := u.answers }).2
  synchronizer := { consent := u.settings.userConsent }
  tracker := (u.parts.run { answers := u.answers }).1.1
  events := (u.parts.run { answers := u.answers }).1.2

/-- New parts that record after some inputs, the latest first. -/
def Setup.after (u : Setup) (inputs : List Input) : Scene := u.scene.after inputs

/-! ## What the programs leave behind -/

namespace Scene

variable (s : Scene)

/-- A call was written down. -/
def noted (c : Call) : Scene := { s with ground := s.ground.note c }

/-- Some workers were told something, one after the other. -/
def told (order : WorkerOrder) (workers : List Worker) : Scene := workers.foldl (fun s w => s.noted (.tell w order)) s

/-- The tracker came to keep something else. -/
def tracked (st : ImpressionTracker.State) : Scene := { s with tracker := st }

/-- The recorder came to keep something else. -/
def recorded (st : EventRecorder.State) : Scene := { s with events := st }

/-- Whether the host takes the item that a call offers. -/
def accepts (c : Call) : Bool :=
  match s.ground.answers.outcome (c :: s.ground.calls) with
  | .ok () => true
  | .error _ => false

/-- The hashes of the observer were stored, where there is a store. -/
def hashesSaved : Scene := if s.keepsHashes then s.noted (.replaceHashes s.tracker.observer.snapshot) else s

/-- The queued impressions were sent. -/
def impressionsSent : Scene :=
  (s.noted (.tell s.tracker.crew.impressions .flush)).tracked { s.tracker with queueGauge := s.tracker.queueGauge.reset }

/-- The unique keys were sent. -/
def uniqueKeysSent : Scene :=
  (s.noted (.tell s.tracker.crew.uniqueKeys .flush)).tracked { s.tracker with uniqueGauge := s.tracker.uniqueGauge.reset }

/-- An impression was counted for its feature and hour. -/
def counted (i : Impression) : Scene :=
  s.tracked { s.tracker with counter := s.tracker.counter.increment i.featureName i.time 1 }

/-- The queued events were sent. -/
def eventsSent : Scene :=
  (s.noted (.tell s.events.recorder .flush)).recorded { s.events with gauge := s.events.gauge.reset }

end Scene

section Run

variable {s : Scene} {mode : ImpressionsMode} {keepsHashes : Bool}

theorem run_bind {α β : Type} (x : Plain α) (f : α → Plain β) : (x >>= f).run s = (f (x.run s).1).run (x.run s).2 := rfl

/-- A worker is told anything: nothing more comes of it here. -/
theorem run_tell (w : Worker) (order : WorkerOrder) : (makers.tell w order).run s = ((), s.noted (.tell w order)) := by
  show ((if order = .start then _ else pure () : Plain Unit).run (s.noted (.tell w order))) = _
  by_cases start : order = .start
  · rw [if_pos start]
    show ((Ground.answer groundCell Answers.completion >>= _).run (s.noted (.tell w order))) = _
    rw [run_bind]
    generalize ((Ground.answer groundCell Answers.completion).run (s.noted (.tell w order))).1 = result
    cases result <;> rfl
  · rw [if_neg start]
    rfl

theorem run_tracker_tell (w : Worker) (order : WorkerOrder) :
    ((tracker mode keepsHashes).workers.tell w order).run s = ((), s.noted (.tell w order)) := run_tell w order

theorem run_tracker_state : ((tracker mode keepsHashes).state.get).run s = (s.tracker, s) := rfl

theorem run_tellAll (workers : List Worker) (order : WorkerOrder) :
    (workers.forM fun w => makers.tell w order).run s = ((), s.told order workers) := by
  induction workers generalizing s with
  | nil => rfl
  | cons w rest ih =>
    show ((makers.tell w order >>= fun _ => rest.forM fun w => makers.tell w order).run s) = _
    rw [run_bind, run_tell, ih]
    rfl

theorem run_tellPeriodic (order : WorkerOrder) :
    ((tracker mode keepsHashes).tellPeriodic order).run s = ((), s.told order s.tracker.crew.periodic) := run_tellAll _ order

theorem run_pushImpression (i : Impression) : ((Ground.impressionQueue groundCell).push i).run s =
    (s.ground.answers.outcome (.queueImpression i :: s.ground.calls), s.noted (.queueImpression i)) := rfl

theorem run_pushEvent (e : TrackedEvent) : ((Ground.eventQueue groundCell).push e).run s =
    (s.ground.answers.outcome (.queueEvent e :: s.ground.calls), s.noted (.queueEvent e)) := rfl

/-- Something is offered for delivery: the gauge counts it if the host takes it. -/
theorem run_offerImpression (i : Impression) (size : Nat) :
    ((Ground.impressionQueue groundCell).offer (tracker mode keepsHashes).queueGauge i size).run s =
      if s.accepts (.queueImpression i) then
        ((s.tracker.queueGauge.add size).isDue,
          (s.noted (.queueImpression i)).tracked { s.tracker with queueGauge := s.tracker.queueGauge.add size })
      else (false, s.noted (.queueImpression i)) := by
  unfold Scene.accepts Queue.offer
  rw [run_bind, run_pushImpression]
  cases s.ground.answers.outcome (.queueImpression i :: s.ground.calls) <;> rfl

theorem run_offerEvent (e : TrackedEvent) (size : Nat) :
    ((Ground.eventQueue groundCell).offer recorder.gauge e size).run s =
      if s.accepts (.queueEvent e) then
        ((s.events.gauge.add size).isDue,
          (s.noted (.queueEvent e)).recorded { s.events with gauge := s.events.gauge.add size })
      else (false, s.noted (.queueEvent e)) := by
  unfold Scene.accepts Queue.offer
  rw [run_bind, run_pushEvent]
  cases s.ground.answers.outcome (.queueEvent e :: s.ground.calls) <;> rfl

theorem run_saveHashes (same : s.keepsHashes = keepsHashes) :
    ((tracker mode keepsHashes).saveHashes).run s = ((), s.hashesSaved) := by
  subst same
  obtain ⟨_, keepsHashes, _, _, _, _⟩ := s
  cases keepsHashes <;> rfl

theorem run_sendImpressions : ((tracker mode keepsHashes).sendImpressions).run s = ((), s.impressionsSent) := by
  unfold ImpressionTracker.sendImpressions
  rw [run_bind, run_tracker_state, run_bind, run_tracker_tell]
  rfl

theorem run_sendEvents : (recorder.sendEvents).run s = ((), s.eventsSent) := by
  show ((makers.tell s.events.recorder .flush >>= fun _ => recorder.gauge.modify .reset).run s) = _
  rw [run_bind, run_tell]
  rfl

/-- What is done with an impression that may be delivered once it is known when it was last seen. -/
def delivery (mode : ImpressionsMode) (keepsHashes : Bool) (i : Impression) : Plain Unit := do
  let t := tracker mode keepsHashes
  if mode = .debug || ImpressionTracker.isFirstInHour i then
    if ← t.queue.offer t.queueGauge i ImpressionTracker.impressionBytes then t.sendImpressions
    t.telemetry.impressions .queued 1
  else t.telemetry.impressions .deduped 1

/-- An impression with the time at which it was last seen. -/
def Scene.lastSeen (s : Scene) (i : Impression) : Impression :=
  { i with previousTime := (s.tracker.observer.testAndSet i.identityHash i.time).1 }

/-- The observer saw an impression, which was counted, if it is to be. -/
def Scene.observed (s : Scene) (mode : ImpressionsMode) (i : Impression) : Scene :=
  let s' := s.tracked { s.tracker with observer := (s.tracker.observer.testAndSet i.identityHash i.time).2 }
  if mode = .optimized then s'.counted i else s'

theorem run_handleDelivered (i : Impression) :
    ((tracker mode keepsHashes).handleDelivered i).run s = (delivery mode keepsHashes (s.lastSeen i)).run (s.observed mode i) := by
  cases mode <;> rfl

theorem run_tracker_handleNext : ((tracker mode keepsHashes).handleNext).run s = (match s.tracker.orders.receive.1 with
    | none => pure false
    | some order => do
      (tracker mode keepsHashes).handle order
      return true : Plain Bool).run (s.tracked { s.tracker with orders := s.tracker.orders.receive.2 }) := rfl

theorem run_recorder_handleNext : (recorder.handleNext).run s = (match s.events.orders.receive.1 with
    | none => pure false
    | some order => do
      recorder.handle order
      return true : Plain Bool).run (s.recorded { s.events with orders := s.events.orders.receive.2 }) := rfl

end Run

end FlagKeeper.Recording
