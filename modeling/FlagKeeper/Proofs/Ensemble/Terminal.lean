import FlagKeeper.Proofs.Ensemble.Reached

/-!
# The end of a client is for good

`destroy_is_terminal`: once the manager of a client was destroyed, nothing that was under way goes on and nothing new begins,
whatever is asked of the client and whichever of its workers, timers and pipelines still have a turn.

Two things carry this. The books are sound, so that the end found every worker that was under way at an open desk and told it to
stop, and nobody else has done so. And from the end on the client is `Over`: its pipelines hold nothing but orders to end, no
background work waits, and every call that it still makes is one that starts nothing.
-/

namespace FlagKeeper.Ensemble

/-- Whether a call puts a worker to work, tells the streaming connection anything, or hands on what the application pushed. -/
def Call.isActive : Call → Bool
  | .create _ => true
  | .tell _ order => order = .start || order = .resume || order = .flush
  | .push _ => true
  | .queueImpression _ => true
  | .queueEvent _ => true
  | .trackUnique _ _ => true
  | _ => false

/-- Whether an input brings a new identity. -/
def Input.registers : Input → Bool
  | .register _ => true
  | _ => false

/-- Since some calls no active call was made, and none is in store: no background work waits, no event, and of the orders to the
pipeline of the impressions only those that end things. -/
structure Quiet (base calls : List Call) (jobs : List Job) (orders : List ImpressionTracker.Order)
    (events : List EventRecorder.Order) : Prop where
  calls : ∃ new, calls = new ++ base ∧ ∀ c ∈ new, c.isActive = false
  jobs : jobs = []
  orders : ∀ order ∈ orders, order = .stop ∨ order = .destroy
  events : events = []

/-- An ensemble has been quiet since some calls. -/
def Calm (base : List Call) (s : Ensemble) : Prop :=
  Quiet base s.ground.calls s.jobs s.tracker.orders.queue s.events.orders.queue

variable {base : List Call} {s e : Ensemble}

/-! ## What ends things is quiet -/

section Calm

theorem Calm.note (h : Calm base s) {c : Call} (inactive : c.isActive = false) : Calm base (s.note c) := by
  obtain ⟨new, since, quiet⟩ := h.calls
  refine ⟨⟨c :: new, ?_, List.forall_mem_cons.2 ⟨inactive, quiet⟩⟩, h.jobs, h.orders, h.events⟩
  show c :: s.ground.calls = c :: new ++ base
  rw [since]
  rfl

theorem calm_serve {c : Call} (inactive : c.isActive = false) : Keeps (Calm base) (Ground.serve hostCell c) :=
  fun _ h => h.note inactive

theorem calm_serveWith {α : Type} {c : Call} (inactive : c.isActive = false) (ask : Answers → List Call → α) :
    Keeps (Calm base) (Ground.serveWith hostCell c ask) := fun _ h => h.note inactive

/-- The orders to a worker that end things. -/
def endsWork (order : WorkerOrder) : Prop := order = .stop ∨ order = .destroy

theorem calm_tell {order : WorkerOrder} (ends : endsWork order) (fin : Worker → Outcome → Playing Unit) (w : Worker) :
    Keeps (Calm base) ((Ground.makers hostCell fin).tell w order) := by
  intro s h
  obtain rfl | rfl := ends
  · rw [run_tell (by simp)]
    exact h.note rfl
  · rw [run_tell (by simp)]
    exact h.note rfl

/-- A worker that is done starts nothing. -/
theorem calm_finish (owner : Option BundleId) (w : Worker) (result : Outcome) : Keeps (Calm base) (e.finish owner w result) := by
  unfold finish
  split
  · unfold FlagSync.mainCompleted
    cases FlagSync.mainReport result <;> exact fun _ h => h
  · refine Keeps.bind (fun _ h => h) fun _ => ?_
    cases result <;> exact fun _ h => h
  · exact fun _ h => h
  · exact fun _ h => h
  · exact Keeps.pure _

theorem calm_flags_tellPeriodic {order : WorkerOrder} (ends : endsWork order) : Keeps (Calm base) (e.flagSync.tellPeriodic order) :=
  Keeps.bind (Keeps.get _ _) fun st => Keeps.option (fun w => calm_tell ends _ w) st.periodicWorker

theorem calm_flags_shutDown : Keeps (Calm base) e.flagSync.shutDown := by
  refine Keeps.bind (Keeps.get _ _) fun st => Keeps.ite (Keeps.pure _) (Keeps.bind (fun _ h => h) fun _ => ?_)
  refine Keeps.bind (calm_tell (.inl rfl) _ _) fun _ => Keeps.bind (calm_flags_tellPeriodic (.inl rfl)) fun _ => ?_
  refine Keeps.bind (calm_flags_tellPeriodic (.inr rfl)) fun _ => Keeps.bind (fun _ h => h) fun inFlight => ?_
  exact Keeps.forM _ fun w _ => calm_tell (.inl rfl) _ w

theorem calm_segments_tellPeriodic {bundle : BundleId} {order : WorkerOrder} (ends : endsWork order) :
    Keeps (Calm base) ((e.segmentSync bundle).tellPeriodic order) :=
  Keeps.bind (Keeps.get _ _) fun st => Keeps.option (fun w => calm_tell ends _ w) st.periodicWorker

theorem calm_segments_shutDown {bundle : BundleId} : Keeps (Calm base) (e.segmentSync bundle).shutDown := by
  refine Keeps.bind (Keeps.get _ _) fun st => Keeps.ite (Keeps.pure _) (Keeps.bind (fun _ h => h) fun _ => ?_)
  refine Keeps.bind (calm_tell (.inl rfl) _ _) fun _ => Keeps.bind (calm_segments_tellPeriodic (.inr rfl)) fun _ => ?_
  refine Keeps.bind (fun _ h => h) fun _ => Keeps.bind (fun _ h => h) fun inFlight => ?_
  exact Keeps.forM _ fun w _ => calm_tell (.inl rfl) _ w

/-- The end of an identity is quiet. -/
theorem calm_tearDown (key : Key) (bundle : BundleId) : Keeps (Calm base) (e.identityRegistry.tearDown key bundle) := by
  refine Keeps.bind (calm_segments_tellPeriodic (.inl rfl)) fun _ => Keeps.bind calm_segments_shutDown fun _ => ?_
  exact Keeps.bind (calm_serve rfl) fun _ => calm_serve rfl

theorem calm_tearDownAny (key : Key) (going : Option BundleId) : Keeps (Calm base) (e.tearDownAny key going) := by
  cases going with
  | none => exact Keeps.pure _
  | some bundle => exact calm_tearDown key bundle

/-- So is what the registry does for a key at its end. -/
theorem calm_letGo (key : Key) : Keeps (Calm base) (e.letGo key) := by
  intro s h
  rw [run_letGo]
  exact calm_tearDownAny key _ (s.without key) h

/-- An order that ends things is handed to the pipeline of the impressions. -/
theorem calm_tracker_send {order : ImpressionTracker.Order} (ends : order = .stop ∨ order = .destroy) :
    Keeps (Calm base) (e.impressionTracker.send order) := by
  intro s h
  refine ⟨h.calls, h.jobs, fun other inside => ?_, h.events⟩
  change other ∈ (s.tracker.orders.send order).queue at inside
  unfold Channel.send at inside
  split at inside
  · rcases List.mem_append.1 inside with before | last
    · exact h.orders other before
    · rw [List.mem_singleton.1 last]
      exact ends
  · exact h.orders other inside

theorem calm_recorder_tellPeriodic {order : WorkerOrder} (ends : endsWork order) :
    Keeps (Calm base) (eventRecorder.tellPeriodic order) := Keeps.bind (Keeps.get _ _) fun _ => calm_tell ends _ _

/-- The end of the synchronizer is quiet. -/
theorem calm_synchronizer_shutDown : Keeps (Calm base) (e.fullSynchronizer.run .destroy) := by
  refine keeps_ifAlive (Keeps.bind (fun _ h => h) fun _ => Keeps.bind calm_flags_shutDown fun _ => Keeps.bind ?_ fun _ =>
    Keeps.bind ?_ fun _ => ?_)
  · exact Keeps.bind (Keeps.get _ _) fun st => Keeps.forM _ fun key _ => calm_letGo key
  · refine Keeps.check fun _ => ?_
    exact Keeps.bind (fun _ h => h) fun _ => calm_tracker_send (.inr rfl)
  · refine Keeps.check fun _ => ?_
    exact Keeps.bind (fun _ h => h) fun _ => calm_recorder_tellPeriodic (.inr rfl)

/-- Once the synchronizer is destroyed, whatever it is told is quiet. -/
theorem calm_synchronizer_destroyed (destroyed : s.synchronizer.destroyed = true) (h : Calm base s)
    (command : Synchronizer.Command) : Calm base ((e.fullSynchronizer.run command).run s).2 := by
  have skipped {act : Playing Unit} : Calm base ((e.fullSynchronizer.ifAlive act).run s).2 := by
    rw [run_ifAlive_destroyed destroyed]
    exact h
  cases command with
  | stopFetching =>
    have polling : Keeps (Calm base) e.identityRegistry.stopPolling :=
      Keeps.bind (fun _ h => h) fun _ => keeps_tellSegments fun _ => calm_segments_tellPeriodic (.inl rfl)
    exact Keeps.bind (calm_flags_tellPeriodic (.inl rfl)) (fun _ => polling) s h
  | stopRecording =>
    exact Keeps.bind (calm_tracker_send (.inl rfl)) (fun _ => calm_recorder_tellPeriodic (.inl rfl)) s h
  | notifySegmentsUpdated scope => exact keeps_tellSegments (fun _ => calm_serve rfl) s h
  | notifyLargeSegmentsUpdated scope => exact keeps_tellSegments (fun _ => calm_serve rfl) s h
  | notifyFlagsUpdated => exact calm_serve rfl s h
  | _ => exact skipped

/-- An order to the pipeline of the impressions that ends things: what was gathered before is saved. -/
theorem calm_tracker_handle {order : ImpressionTracker.Order} (ends : order = .stop ∨ order = .destroy) :
    Keeps (Calm base) (e.impressionTracker.handle order) := by
  have periodic {order : WorkerOrder} (ends : endsWork order) : Keeps (Calm base) (e.impressionTracker.tellPeriodic order) :=
    Keeps.bind (Keeps.get _ _) fun _ => Keeps.forM _ fun w _ => calm_tell ends _ w
  obtain rfl | rfl := ends
  · exact periodic (.inl rfl)
  · refine Keeps.bind (periodic (.inr rfl)) fun _ => Keeps.bind ?_ fun _ => Keeps.bind ?_ fun _ => Keeps.bind ?_ fun _ s h => ?_
    · refine Keeps.check fun _ => Keeps.bind (fun _ h => h) fun counts => ?_
      exact Keeps.ite (Keeps.bind (calm_serveWith rfl _) fun _ => Keeps.pure _) (Keeps.pure _)
    · exact Keeps.check fun _ => calm_serve rfl
    · refine Keeps.bind (Keeps.get _ _) fun st => ?_
      show Keeps (Calm base) (st.observer.save (if e.keepsHashes then some (Ground.hashStore hostCell) else none))
      cases e.keepsHashes with
      | true => exact Keeps.bind (calm_serveWith rfl _) fun _ => Keeps.pure _
      | false => exact Keeps.pure _
    · exact ⟨h.calls, h.jobs, List.forall_mem_nil _, h.events⟩

/-- The pipeline of the impressions takes what came first. -/
theorem run_tracker_handleNext : e.impressionTracker.handleNext.run s = (match s.tracker.orders.receive.1 with
    | none => pure false
    | some order => do
      e.impressionTracker.handle order
      return true : Playing Bool).run { s with tracker := { s.tracker with orders := s.tracker.orders.receive.2 } } := rfl

/-- A turn of the pipeline of the impressions. -/
theorem calm_tracker_handleNext : Keeps (Calm base) e.impressionTracker.handleNext := by
  intro s h
  rw [run_tracker_handleNext]
  unfold Channel.receive
  cases waiting : s.tracker.orders.queue with
  | nil => exact h
  | cons order rest =>
    have ends := h.orders
    rw [waiting] at ends
    have received : Calm base { s with tracker := { s.tracker with orders := { s.tracker.orders with queue := rest } } } :=
      ⟨h.calls, h.jobs, fun other inside => ends other (List.mem_cons_of_mem _ inside), h.events⟩
    exact Keeps.bind (calm_tracker_handle (ends order List.mem_cons_self)) (fun _ => Keeps.pure _) _ received

end Calm

/-! ## After the end -/

section Over

/-- A client that is over: its books are sound, its manager is stopped, its synchronizer destroyed, and it has been quiet since some
calls. -/
structure Over (base : List Call) (s : Ensemble) : Prop where
  sound : Sound s
  stopped : s.manager.stopped = true
  destroyed : s.synchronizer.destroyed = true
  calm : Calm base s

/-- What is quiet and takes on no work leaves a client over. -/
theorem Over.since {s' : Ensemble} (h : Over base s) (steps : Since .settling s.ledger s') (calm : Calm base s') :
    Over base s' := by
  obtain ⟨ended, -, above⟩ := steps.fixed
  refine ⟨steps.sound h.sound nofun, ?_, ended.trans h.destroyed, calm⟩
  show s'.ledger.above.stopped = true
  rw [above]
  exact h.stopped

theorem over_endLoop : Keeps (Over base) e.syncManager.endLoop :=
  fun s h => ⟨sound_endLoop s h.sound, h.stopped, h.destroyed, h.calm⟩

/-- Handling a status event writes it down. -/
theorem over_handleEvent (event : StatusEvent) : Keeps (Over base) (e.syncManager.handleEvent event) := by
  intro s h
  have noted : Over base (s.note (.event event)) := h.since (Since.of_eq .refl (ledger_note rfl)) (h.calm.note rfl)
  show Over base ((if (s.note (.event event)).manager.stopped = true then pure () else _ : Playing Unit).run
    (s.note (.event event))).2
  rw [if_pos noted.stopped]
  exact noted

/-- A round of the loop ends it, or writes down an event. -/
theorem over_serveNext : Keeps (Over base) e.syncManager.serveNext := by
  refine Keeps.bind (Keeps.get _ _) fun st => Keeps.ite (Keeps.pure _) (Keeps.ite ?_ ?_)
  · exact Keeps.bind over_endLoop fun _ => Keeps.pure _
  · refine Keeps.bind (fun s h => ⟨h.sound, h.stopped, h.destroyed, h.calm⟩) fun next => ?_
    cases next with
    | none => exact Keeps.pure _
    | some event => exact Keeps.bind (over_handleEvent event) fun _ => Keeps.pure _

/-- An identity that goes ends quietly. -/
theorem Over.unregister (h : Over base s) (key : Key) : Over base (s.take (.unregister key)) := by
  have run : s.take (.unregister key) = ((s.tearDownAny key (s.registry.bundles.lookup key)).run (s.without key)).2 :=
    run_unregister key
  have sound := h.sound.take (.unregister key)
  have steps : Since .closing (s.without key).ledger (s.take (.unregister key)) := by
    rw [run]
    exact keeps_tearDownAny key _ _ .refl
  obtain ⟨ended, -, above⟩ := steps.fixed
  refine ⟨sound, (congrArg Manager.State.stopped above).trans h.stopped, ended.trans h.destroyed, ?_⟩
  rw [run]
  exact calm_tearDownAny key _ (s.without key) h.calm

/-- No timer of the manager waits. -/
theorem Over.reconnectTimer (h : Over base s) (id : Nat) : s.take (.reconnectTimer id) = s := by
  have idle : s.manager.reconnect.timers.wake id = (none, s.manager.reconnect.timers) :=
    TimerTable.wake_of_sleepers_nil (h.sound.stopped h.stopped).1.sleepers id
  show ((if (s.manager.reconnect.timers.wake id).1.isSome then s.syncManager.reconnectDue else pure () : Playing Unit).run
    { s with
      manager :=
        { s.manager with
          reconnect := { s.manager.reconnect with timers := (s.manager.reconnect.timers.wake id).2 } } }).2 = s
  rw [idle]
  rfl

/-- No timer of an identity waits. -/
theorem Over.segmentsTimer (h : Over base s) (bundle : BundleId) (id : Nat) :
    s.take (.segmentsTimer bundle id) = s.setSegments bundle (s.identity bundle).segments := by
  have rests := (h.sound.rests h.destroyed (bundle + 1)).2
  rw [desk_segments] at rests
  have idle : (s.identity bundle).segments.timers.wake id = (none, (s.identity bundle).segments.timers) :=
    TimerTable.wake_of_sleepers_nil rests id
  show ((if ((s.identity bundle).segments.timers.wake id).1.isSome then (s.segmentSync bundle).delayOver
    else pure () : Playing Unit).run
      (s.setSegments bundle { (s.identity bundle).segments with timers := ((s.identity bundle).segments.timers.wake id).2 })).2 = _
  rw [idle]
  rfl

/-- The pipeline of the events takes what came first. -/
theorem run_recorder_handleNext : eventRecorder.handleNext.run s = (match s.events.orders.receive.1 with
    | none => pure false
    | some order => do
      eventRecorder.handle order
      return true : Playing Bool).run { s with events := { s.events with orders := s.events.orders.receive.2 } } := rfl

/-- No event waits. -/
theorem Over.eventsStep (h : Over base s) : s.take .eventsStep = s := by
  have idle : s.events.orders.receive = (none, s.events.orders) := by
    unfold Channel.receive
    rw [h.calm.events]
  show (eventRecorder.handleNext.run s).2 = s
  rw [run_recorder_handleNext, idle]
  rfl

/-- No background work waits. -/
theorem Over.jobStep (h : Over base s) : s.take .jobStep = s := by
  show (s.nextJob.run s).2 = s
  rw [run_nextJob, h.calm.jobs]
  rfl

/-- What the clocks show does not matter. -/
theorem Over.clocks (h : Over base s) (steady : Nat) (wall : Int) : Over base { s with steady, wall } :=
  ⟨h.sound.clocks steady wall, h.stopped, h.destroyed, h.calm⟩

/-- Every input but a new identity leaves a client over. -/
theorem Over.take (h : Over base s) {i : Input} (known : i.registers = false) : Over base (s.take i) := by
  have stays {st : Bool} (going : ¬(s.manager.stopped || st) = true) : False := by
    rw [h.stopped] at going
    exact going rfl
  have ends (going : (!s.manager.stopped) = true) : False := by
    rw [h.stopped] at going
    cases going
  cases i with
  | start =>
    refine after_check (c := fun st : Manager.State => st.loop = .waiting) rfl h fun _ => ?_
    rw [if_pos h.stopped]
    exact over_endLoop s h
  | pause =>
    exact after_guard (c := fun st : Manager.State => (st.stopped || st.paused) = true) rfl h fun going => (stays going).elim
  | resume =>
    exact after_guard (c := fun st : Manager.State => (st.stopped || !st.paused) = true) rfl h fun going => (stays going).elim
  | destroy => exact after_check (c := fun st : Manager.State => (!st.stopped) = true) rfl h fun going => (ends going).elim
  | setConsent consent =>
    exact after_check (c := fun st : Manager.State => (!st.stopped) = true) rfl h fun going => (ends going).elim
  | tell command =>
    have steps : Since .settling s.ledger (s.take (.tell command)) := since_synchronizer_destroyed h.destroyed .refl command
    exact h.since steps (calm_synchronizer_destroyed h.destroyed h.calm command)
  | register key => cases known
  | unregister key => exact h.unregister key
  | broadcast event => exact ⟨h.sound.take _, h.stopped, h.destroyed, h.calm⟩
  | loop => exact Keeps.bind over_serveNext (fun _ => Keeps.pure _) s h
  | finish owner w result =>
    exact h.since (keeps_finish (by simp) owner w result s .refl) (calm_finish owner w result s h.calm)
  | reconnectTimer id =>
    rw [h.reconnectTimer]
    exact h
  | segmentsTimer bundle id =>
    have sound := h.sound.take (.segmentsTimer bundle id)
    rw [h.segmentsTimer] at sound ⊢
    exact ⟨sound, h.stopped, h.destroyed, h.calm⟩
  | impressionsStep => exact h.since (keeps_tracker_handleNext s .refl) (calm_tracker_handleNext s h.calm)
  | eventsStep =>
    rw [h.eventsStep]
    exact h
  | jobStep =>
    rw [h.jobStep]
    exact h
  | advance d => exact h.clocks _ _
  | setClock wall => exact h.clocks _ _
  | answer answers => exact ⟨h.sound.take _, h.stopped, h.destroyed, h.calm⟩

/-- A client that is over stays so as long as no identity is brought to it. -/
theorem Over.after (h : Over base s) {later : List Input} (known : ∀ i ∈ later, i.registers = false) :
    Over base (s.after later) := by
  induction later with
  | nil => exact h
  | cons i rest ih =>
    exact (ih fun j inside => known j (List.mem_cons_of_mem i inside)).take (known i List.mem_cons_self)

end Over

/-! ## The end -/

section End

/-- Nothing is in store for an ensemble: no background work waits, and its pipelines hold nothing but orders to end. -/
def Idle (s : Ensemble) : Prop := Calm s.ground.calls s

theorem Calm.idle (h : Calm base s) : Idle s := ⟨⟨[], rfl, List.forall_mem_nil _⟩, h.jobs, h.orders, h.events⟩

/-- What is quiet leaves nothing in store. -/
theorem idle_of_calm {α : Type} {x : Playing α} (kept : ∀ base, Keeps (Calm base) x) : Keeps Idle x :=
  fun s h => (kept s.ground.calls s h).idle

/-- The end of the manager leaves nothing in store. -/
theorem idle_destroy : Keeps Idle e.syncManager.destroy := by
  have push : Keeps Idle (e.syncManager.tellPush .stop) := by
    unfold Manager.tellPush syncManager
    cases e.hasPush with
    | true => exact fun s h => ⟨⟨[], rfl, List.forall_mem_nil _⟩, h.jobs, h.orders, h.events⟩
    | false => exact Keeps.pure _
  refine Keeps.check fun _ => Keeps.bind (fun _ h => h) fun _ => ?_
  refine Keeps.bind (fun _ h => h) fun _ => Keeps.bind push fun _ => ?_
  refine Keeps.bind (idle_of_calm fun _ => calm_synchronizer_shutDown) fun _ => Keeps.bind (fun _ h => h) fun _ => ?_
  exact Keeps.bind (fun _ h => h) fun _ => idle_of_calm fun _ => calm_serve rfl

/-- A client whose manager was destroyed while nothing was in store is over. -/
theorem over_destroy (h : Sound s) (idle : Idle s) : Over (s.take .destroy).ground.calls (s.take .destroy) := by
  obtain ⟨sound, stopped, -⟩ := sound_destroy (e := s) h
  exact ⟨sound, stopped, (sound.stopped stopped).2.2, idle_destroy s idle⟩

/-- Where everything rests, nothing is under way. -/
theorem Ledger.IsAtRest.inFlight {l : Ledger} (h : l.IsAtRest) : l.inFlight = [] := by
  refine List.flatMap_eq_nil_iff.2 fun k inside => ?_
  obtain ⟨d, there, rfl⟩ := List.mem_iff_getElem.1 inside
  have rests := (h d).1
  rw [Ledger.desk, List.getElem?_eq_getElem there] at rests
  exact rests

/-- What is under way was made for a target. -/
theorem Ledger.IsOrderly.targeted {l : Ledger} (h : l.IsOrderly) {w : Worker} (inside : w ∈ l.inFlight) : w.isTargeted = true := by
  obtain ⟨k, atDesk, underWay⟩ := List.mem_flatMap.1 inside
  obtain ⟨d, there, rfl⟩ := List.mem_iff_getElem.1 atDesk
  refine (h.desks d).underWay w ?_
  rw [Ledger.desk, List.getElem?_eq_getElem there]
  exact underWay

/-- What is under way has not been told to stop, and is booked once. -/
theorem Ledger.IsOrderly.charge_inFlight {l : Ledger} (h : l.IsOrderly) {w : Worker} (inside : w ∈ l.inFlight) :
    l.charge w = 1 := by
  have most := h.booked w (h.targeted inside)
  have some := List.count_pos_iff.2 inside
  unfold Ledger.charge at most ⊢
  split at most <;> omega

/-- A worker that was under way when the manager was destroyed is told to stop by it, and by nobody else. -/
theorem count_stops (h : Sound s) (gone : Over base (s.take .destroy)) {e : Ensemble} {new : List Call}
    (sound : Sound e) (grown : e.ground.calls = new ++ (s.take .destroy).ground.calls) {w : Worker}
    (inside : w ∈ s.ledger.inFlight) : (stops e.ground.calls).count w = 1 := by
  have targeted := h.orderly.targeted inside
  have charged : (s.take .destroy).ledger.charge w = 1 :=
    ((sound_destroy (e := s) h).2.2 w targeted).trans (h.orderly.charge_inFlight inside)
  have rests := (gone.sound.rests gone.destroyed).inFlight
  -- nothing is under way any more, so what was charged for the worker is the one order to stop
  have told : (stops (s.take .destroy).ground.calls).count w = 1 := by
    unfold Ledger.charge at charged
    rw [rests] at charged
    exact charged
  have most : e.ledger.charge w ≤ 1 := Nat.le_trans (sound.orderly.booked w targeted) (by split <;> omega)
  have least : (stops e.ground.calls).count w ≤ e.ledger.charge w := Nat.le_add_right _ _
  rw [grown, stops_append, List.count_append] at least ⊢
  omega

end End

/-- The end of a client is for good. Let a client have come somehow to where it is, with no background work and no order of a
pipeline waiting; let its manager be destroyed, and then let anything happen but that an identity is brought to the client. Then
1. every worker that was under way for a target was told to stop exactly once,
2. no timer waits, neither the one for reconnecting nor one of an identity,
3. no call since the end made, started, resumed or flushed a worker, told the streaming connection anything, or handed an impression
   or an event on,
4. an impression or an event that is pushed now leaves no trace,
5. the manager is stopped, not ready, and waits for no reconnection. -/
theorem destroy_is_terminal (u : Setup) (inputs later : List Input) (jobs : (u.after inputs).jobs = [])
    (impressions : (u.after inputs).tracker.orders.queue = []) (events : (u.after inputs).events.orders.queue = [])
    (known : ∀ i ∈ later, i.registers = false) :
    let s := u.after inputs
    let t := s.take .destroy
    let e := t.after later
    (∀ w ∈ s.ledger.inFlight, (stops e.ground.calls).count w = 1) ∧
    (e.manager.reconnect.timers.sleepers = [] ∧ ∀ i ∈ e.identities, i.segments.timers.sleepers = []) ∧
    (∃ new, e.ground.calls = new ++ t.ground.calls ∧ ∀ c ∈ new, c.isActive = false) ∧
    ((∀ pushed, e.take (.tell (.pushImpression pushed)) = e) ∧ ∀ event, e.take (.tell (.pushEvent event)) = e) ∧
    (e.manager.phase = .stopped ∧ e.manager.health.report.ready = false ∧ e.manager.reconnect.isScheduled = false) := by
  intro s t e
  have sound : Sound s := u.sound inputs
  have idle : Idle s := ⟨⟨[], rfl, List.forall_mem_nil _⟩, jobs, by rw [impressions]; exact List.forall_mem_nil _, events⟩
  have ended : Over t.ground.calls t := over_destroy sound idle
  have gone : Over t.ground.calls e := ended.after known
  obtain ⟨holds, unready, -⟩ := gone.sound.stopped gone.stopped
  have rests := gone.sound.rests gone.destroyed
  obtain ⟨new, grown, quiet⟩ := gone.calm.calls
  refine ⟨fun w inside => count_stops sound ended gone.sound grown inside, ⟨holds.sleepers, fun i inside => ?_⟩,
    ⟨new, grown, quiet⟩, ⟨fun pushed => ?_, fun event => ?_⟩, ?_, ?_, holds.isScheduled⟩
  · obtain ⟨b, there, rfl⟩ := List.mem_iff_getElem.1 inside
    have slept := (rests (b + 1)).2
    rw [desk_segments, identity, List.getElem?_eq_getElem there] at slept
    exact slept
  · exact congrArg Prod.snd (run_ifAlive_destroyed (e := e) gone.destroyed)
  · exact congrArg Prod.snd (run_ifAlive_destroyed (e := e) gone.destroyed)
  · unfold Manager.State.phase
    rw [if_pos gone.stopped]
  · show (e.manager.health.ready && _) = false
    rw [show e.manager.health.ready = false from unready]
    rfl

/-- A client of the settings that hold when nothing is said, with a streaming connection, on a host whose workers take their
time. -/
def Setup.standard : Setup where
  settings := Manager.Setup.standard.settings
  backoff := Manager.Setup.standard.backoff
  hasPush := true
  keepsHashes := true
  answers := {}
  steady := 0
  wall := Manager.Setup.standard.wall
  manager := Manager.Setup.standard.state
  built := Manager.Setup.standard.built

/-- What comes too late for a client. -/
def Setup.tooLate : List Input := [.resume, .loop, .broadcast .pushSubsystemUp, .tell (.synchronizeFlagsTo 8), .impressionsStep]

/-- A client catches up with a change when its manager is destroyed; another change, a status event and the end of a pause come too
late. -/
theorem destroy_is_terminal_catchUp :
    (Setup.standard.after [.tell (.synchronizeFlagsTo 7)]).ledger.inFlight = [⟨.flagsUpdate 7, 10⟩] ∧
      (stops (((Setup.standard.after [.tell (.synchronizeFlagsTo 7)]).take .destroy).after Setup.tooLate).ground.calls).count
        ⟨.flagsUpdate 7, 10⟩ = 1 := by
  have underWay : (Setup.standard.after [.tell (.synchronizeFlagsTo 7)]).ledger.inFlight = [⟨.flagsUpdate 7, 10⟩] := by
    decide +kernel
  have terminal := destroy_is_terminal Setup.standard [.tell (.synchronizeFlagsTo 7)] Setup.tooLate rfl rfl rfl (by decide)
  refine ⟨underWay, terminal.1 _ ?_⟩
  rw [underWay]
  exact List.mem_singleton_self _

end FlagKeeper.Ensemble
