import FlagKeeper.Proofs.Recording.Scene

/-!
# What the parts that record do, step by step

The programs of the tracker, the recorder and the synchronizer, written out as steps from scene to scene. A command is a change of
what the parts keep, with a call here and there (`Scene.toldTracker`, `Scene.toldRecorder`, `Scene.toldSynchronizer`). An order of a
pipeline is the list of the calls that it leads to, and what is kept afterwards (`Scene.handled`, `Scene.handledEvent`). Each program
is shown to be its step, so that whatever is to be known about a run can be read off these.
-/

namespace FlagKeeper.Recording

open Ensemble (Ground Call Answers)

namespace Scene

variable (s : Scene)

/-- Some calls were written down, the latest first. -/
def wrote (calls : List Call) : Scene := { s with ground := { s.ground with calls := calls ++ s.ground.calls } }

/-- The tracker came to keep something else, and some calls were written down, the latest first. -/
def became (st : ImpressionTracker.State) (calls : List Call) : Scene := (s.tracked st).wrote calls

/-- The synchronizer came to keep something else. -/
def synchronized (st : Synchronizer.State) : Scene := { s with synchronizer := st }

theorem became_became (st st' : ImpressionTracker.State) (calls calls' : List Call) :
    (s.became st calls).became st' calls' = s.became st' (calls' ++ calls) := by
  unfold became wrote
  rw [List.append_assoc]
  rfl

/-! ## Commands -/

/-- An order was handed to the pipeline of the impressions. -/
def sent (order : ImpressionTracker.Order) : Scene := s.tracked { s.tracker with orders := s.tracker.orders.send order }

/-- An order was handed to the pipeline of the impressions, unless the tracker is destroyed. -/
def sentIfAlive (order : ImpressionTracker.Order) : Scene := if s.tracker.destroyed then s else s.sent order

/-- The tracker was told something. -/
def toldTracker : ImpressionTracker.Command → Scene
  | .push pushed =>
    if s.tracker.destroyed then s
    else if s.tracker.tracking then s.sent (.push pushed)
    else s.noted (.impressions .dropped 1)
  | .start => s.sentIfAlive .start
  | .stop => s.sent .stop
  | .pause => s.sentIfAlive .pause
  | .resume => s.sentIfAlive .resume
  | .flush => s.sentIfAlive .flush
  | .destroy => if s.tracker.destroyed then s else (s.tracked { s.tracker with destroyed := true }).sent .destroy
  | .enableTracking enable => s.tracked { s.tracker with tracking := enable }
  | .enablePersistence enable => (s.tracked { s.tracker with persistence := enable }).noted (.persistImpressions enable)

/-- The periodic worker of the events was told something. -/
def eventsTold (order : WorkerOrder) : Scene := s.noted (.tell s.events.periodic order)

/-- An order was handed to the pipeline of the events. -/
def sentEvents (order : EventRecorder.Order) : Scene := s.recorded { s.events with orders := s.events.orders.send order }

/-- The recorder was told something. -/
def toldRecorder : EventRecorder.Command → Scene
  | .start => if s.events.destroyed then s else s.eventsTold .start
  | .stop => s.eventsTold .stop
  | .push event => if s.events.destroyed then s.noted (.events .dropped 1) else s.sentEvents (.push event)
  | .flush => if s.events.destroyed then s else s.sentEvents .flush
  | .pause => s.eventsTold .pause
  | .resume => s.eventsTold .resume
  | .destroy => if s.events.destroyed then s else (s.recorded { s.events with destroyed := true }).eventsTold .destroy

/-- What is done only while the synchronizer is not destroyed. -/
def ifThere (s' : Scene) : Scene := if s.synchronizer.destroyed then s else s'

/-- The recording was started. -/
def started : Scene := s.ifThere ((s.toldTracker .start).toldRecorder .start)

/-- The recording was stopped. -/
def stopped : Scene := (s.toldTracker .stop).toldRecorder .stop

/-- The tracker got the leave that goes with an answer of the user. -/
def permitted (consent : Consent) : Scene :=
  (s.toldTracker (.enableTracking consent.allowsTracking)).toldTracker (.enablePersistence consent.allowsPersistence)

/-- The user answered. -/
def consented (consent : Consent) : Scene :=
  let s' := (s.synchronized { s.synchronizer with consent }).permitted consent
  if consent = .granted then s'.started else s'.stopped

/-- The synchronizer was told something. What concerns neither impressions nor events leaves no trace here. -/
def toldSynchronizer : Synchronizer.Command → Scene
  | .startRecording => s.started
  | .stopRecording => s.stopped
  | .setConsent consent => s.ifThere (s.consented consent)
  | .pushImpression pushed => s.ifThere (s.toldTracker (.push pushed))
  | .pushEvent event => s.ifThere (if s.synchronizer.consent.allowsTracking then s.toldRecorder (.push event) else s)
  | .pause => s.ifThere ((s.toldTracker .pause).toldRecorder .pause)
  | .resume => s.ifThere ((s.toldTracker .resume).toldRecorder .resume)
  | .flush => s.ifThere ((s.toldTracker .flush).toldRecorder .flush)
  | .destroy =>
    s.ifThere (((s.synchronized { s.synchronizer with destroyed := true }).toldTracker .destroy).toldRecorder .destroy)
  | _ => s

/-! ## Orders -/

/-- What saving the counts leads to: nothing without leave to persist, or without counts. -/
def savesCounts : List Call :=
  if s.tracker.persistence && !s.tracker.counter.isEmpty then [.pushCounts s.tracker.counter.counts] else []

/-- The counter once the counts were saved, if they may be. -/
def counterSaved : HourCounter := if s.tracker.persistence then {} else s.tracker.counter

/-- What saving the unique keys leads to: nothing without leave to persist. -/
def savesUnique : List Call := if s.tracker.persistence then [.saveUnique] else []

/-- What saving the hashes of the observer leads to: nothing where there is no store. -/
def savesHashes : List Call := if s.keepsHashes then [.replaceHashes s.tracker.observer.snapshot] else []

/-- The periodic workers are told something. -/
def tellsPeriodic (order : WorkerOrder) : List Call := (s.tracker.crew.periodic.map (Call.tell · order)).reverse

/-- Whether an impression goes into the queue if it is found to be seen last at the time that it carries. -/
def isQueued (i : Impression) : Bool := s.mode = .debug || ImpressionTracker.isFirstInHour i

/-- Whether the host takes an impression and the queue is due to be sent then. -/
def fillsQueue (i : Impression) : Bool :=
  s.accepts (.queueImpression i) && (s.tracker.queueGauge.add ImpressionTracker.impressionBytes).isDue

/-- What an impression that is only counted leads to. -/
def callsOfCounted (i : Impression) : List Call :=
  (if (s.tracker.uniqueGauge.add ImpressionTracker.uniqueKeyBytes).isDue
    then .tell s.tracker.crew.uniqueKeys .flush :: s.savesUnique else []) ++ [.trackUnique i.keyName i.featureName]

/-- What an impression that may be delivered leads to, once it is known when it was last seen. -/
def callsOfDelivery (i : Impression) : List Call :=
  if s.isQueued i then
    .impressions .queued 1 :: ((if s.fillsQueue i then [.tell s.tracker.crew.impressions .flush] else []) ++ [.queueImpression i])
  else [.impressions .deduped 1]

/-- The calls that an order of the impressions leads to, the latest first. -/
def callsOf : ImpressionTracker.Order → List Call
  | .push pushed =>
    if pushed.disabled || s.mode = .none then s.callsOfCounted pushed.impression
    else s.callsOfDelivery (s.lastSeen pushed.impression)
  | .flush =>
    .tell s.tracker.crew.uniqueKeys .flush :: (s.savesUnique ++
      .tell s.tracker.crew.counts .flush :: .tell s.tracker.crew.impressions .flush :: s.savesCounts)
  | .start => s.tellsPeriodic .start
  | .stop => s.tellsPeriodic .stop
  | .pause => s.tellsPeriodic .pause ++ (s.savesHashes ++ (s.savesUnique ++ s.savesCounts))
  | .resume => s.tellsPeriodic .resume
  | .destroy => s.savesHashes ++ (s.savesUnique ++ (s.savesCounts ++ s.tellsPeriodic .destroy))

/-- What shows of an order of the impressions besides upkeep: what becomes of an impression. -/
def fateOf : ImpressionTracker.Order → List Call
  | .push pushed =>
    if pushed.disabled || s.mode = .none then [.trackUnique pushed.impression.keyName pushed.impression.featureName]
    else if s.isQueued (s.lastSeen pushed.impression) then [.impressions .queued 1, .queueImpression (s.lastSeen pushed.impression)]
    else [.impressions .deduped 1]
  | _ => []

/-- A gauge after something went into its queue, which is sent if it is due then. -/
def gaugeAfter (gauge : FlushGauge) (size : Nat) : FlushGauge :=
  if (gauge.add size).isDue then (gauge.add size).reset else gauge.add size

/-- What the tracker keeps once it has handled an impression that is only counted. -/
def stateAfterCounted (i : Impression) : ImpressionTracker.State :=
  { s.tracker with
    counter := s.tracker.counter.increment i.featureName i.time 1
    uniqueGauge := gaugeAfter s.tracker.uniqueGauge ImpressionTracker.uniqueKeyBytes }

/-- What the tracker keeps once an impression was offered for delivery, if it was. -/
def stateAfterDelivery (i : Impression) : ImpressionTracker.State :=
  { s.tracker with
    queueGauge :=
      if s.isQueued i && s.accepts (.queueImpression i)
      then gaugeAfter s.tracker.queueGauge ImpressionTracker.impressionBytes else s.tracker.queueGauge }

/-- What the tracker keeps once it has handled an order of the impressions. -/
def stateAfter : ImpressionTracker.Order → ImpressionTracker.State
  | .push pushed =>
    if pushed.disabled || s.mode = .none then s.stateAfterCounted pushed.impression
    else (s.observed s.mode pushed.impression).stateAfterDelivery (s.lastSeen pushed.impression)
  | .flush =>
    { s.tracker with
      counter := s.counterSaved, queueGauge := s.tracker.queueGauge.reset, uniqueGauge := s.tracker.uniqueGauge.reset }
  | .pause => { s.tracker with counter := s.counterSaved }
  | .destroy => { s.tracker with counter := s.counterSaved, orders := s.tracker.orders.close }
  | _ => s.tracker

/-- An order of the impressions was handled. -/
def handled (order : ImpressionTracker.Order) : Scene := s.became (s.stateAfter order) (s.callsOf order)

/-- The pipeline of the impressions had its turn. -/
def impressionsStepped : Scene :=
  match s.tracker.orders.queue with
  | [] => s
  | order :: rest => (s.tracked { s.tracker with orders := { s.tracker.orders with queue := rest } }).handled order

theorem impressionsStepped_nil {s : Scene} (waiting : s.tracker.orders.queue = []) : s.impressionsStepped = s := by
  unfold impressionsStepped
  rw [waiting]

theorem impressionsStepped_cons {s : Scene} {order : ImpressionTracker.Order} {rest : List ImpressionTracker.Order}
    (waiting : s.tracker.orders.queue = order :: rest) : s.impressionsStepped =
      (s.tracked { s.tracker with orders := { s.tracker.orders with queue := rest } }).handled order := by
  unfold impressionsStepped
  rw [waiting]

/-- The calls that an order of the events leads to, the latest first. -/
def callsOfEvent : EventRecorder.Order → List Call
  | .push event =>
    .events .queued 1 ::
      ((if s.accepts (.queueEvent event) && (s.events.gauge.add event.byteSize).isDue then [.tell s.events.recorder .flush]
        else []) ++ [.queueEvent event])
  | .flush => [.tell s.events.recorder .flush]

/-- What the recorder keeps once it has handled an order of the events. -/
def eventsAfter : EventRecorder.Order → EventRecorder.State
  | .push event =>
    { s.events with
      gauge := if s.accepts (.queueEvent event) then gaugeAfter s.events.gauge event.byteSize else s.events.gauge }
  | .flush => { s.events with gauge := s.events.gauge.reset }

/-- An order of the events was handled. -/
def handledEvent (order : EventRecorder.Order) : Scene := (s.recorded (s.eventsAfter order)).wrote (s.callsOfEvent order)

/-- The pipeline of the events had its turn. -/
def eventsStepped : Scene :=
  match s.events.orders.queue with
  | [] => s
  | order :: rest => (s.recorded { s.events with orders := { s.events.orders with queue := rest } }).handledEvent order

theorem eventsStepped_nil {s : Scene} (waiting : s.events.orders.queue = []) : s.eventsStepped = s := by
  unfold eventsStepped
  rw [waiting]

theorem eventsStepped_cons {s : Scene} {order : EventRecorder.Order} {rest : List EventRecorder.Order}
    (waiting : s.events.orders.queue = order :: rest) : s.eventsStepped =
      (s.recorded { s.events with orders := { s.events.orders with queue := rest } }).handledEvent order := by
  unfold eventsStepped
  rw [waiting]

end Scene

/-! ## The programs are these steps -/

section Commands

variable {s : Scene} {mode : ImpressionsMode} {keepsHashes : Bool}

theorem run_sendIfAlive (order : ImpressionTracker.Order) :
    ((tracker mode keepsHashes).sendIfAlive order).run s = ((), s.sentIfAlive order) := by
  show ((if (!s.tracker.destroyed) = true then (tracker mode keepsHashes).send order else pure () : Plain Unit).run s) = _
  unfold Scene.sentIfAlive
  cases s.tracker.destroyed <;> rfl

theorem run_tracker_run (command : ImpressionTracker.Command) :
    ((tracker mode keepsHashes).run command).run s = ((), s.toldTracker command) := by
  unfold Scene.toldTracker
  cases command with
  | push pushed =>
    show ((if s.tracker.destroyed = true then pure ()
      else if s.tracker.tracking = true then (tracker mode keepsHashes).send (.push pushed)
      else Ground.serve groundCell (.impressions .dropped 1) : Plain Unit).run s) = _
    cases s.tracker.destroyed <;> cases s.tracker.tracking <;> rfl
  | stop => rfl
  | destroy =>
    show ((if (!s.tracker.destroyed) = true then _ else pure () : Plain Unit).run s) = _
    cases s.tracker.destroyed <;> rfl
  | enableTracking enable => rfl
  | enablePersistence enable => rfl
  | _ => exact run_sendIfAlive _

theorem run_recorder_tellPeriodic (order : WorkerOrder) :
    (recorder.tellPeriodic order).run s = ((), s.eventsTold order) := run_tell _ _

theorem run_recorder_run (command : EventRecorder.Command) : (recorder.run command).run s = ((), s.toldRecorder command) := by
  unfold Scene.toldRecorder
  cases command with
  | start =>
    show ((if (!s.events.destroyed) = true then recorder.tellPeriodic .start else pure () : Plain Unit).run s) = _
    cases s.events.destroyed with
    | false => exact run_recorder_tellPeriodic .start
    | true => rfl
  | push event =>
    show ((if s.events.destroyed = true then Ground.serve groundCell (.events .dropped 1)
      else recorder.send (.push event) : Plain Unit).run s) = _
    cases s.events.destroyed <;> rfl
  | flush =>
    show ((if (!s.events.destroyed) = true then recorder.send .flush else pure () : Plain Unit).run s) = _
    cases s.events.destroyed <;> rfl
  | destroy =>
    show ((if (!s.events.destroyed) = true then
      eventsCell.modify (fun st => { st with destroyed := true }) >>= fun _ => recorder.tellPeriodic .destroy
      else pure () : Plain Unit).run s) = _
    cases s.events.destroyed with
    | false => exact run_recorder_tellPeriodic (s := s.recorded { s.events with destroyed := true }) .destroy
    | true => rfl
  | _ => exact run_recorder_tellPeriodic _

/-- The tracker is told something, and then the recorder. -/
theorem run_both (command : ImpressionTracker.Command) (command' : EventRecorder.Command) :
    ((tracker mode keepsHashes).run command >>= fun _ => recorder.run command' : Plain Unit).run s =
      ((), (s.toldTracker command).toldRecorder command') := by
  rw [run_bind, run_tracker_run, run_recorder_run]

theorem run_ifAlive {act : Plain Unit} {s' : Scene} (done : act.run s = ((), s')) :
    ((facade mode keepsHashes).ifAlive act).run s = ((), s.ifThere s') := by
  show ((if (!s.synchronizer.destroyed) = true then act else pure () : Plain Unit).run s) = _
  unfold Scene.ifThere
  cases s.synchronizer.destroyed with
  | false => exact done
  | true => rfl

theorem run_setConsent (consent : Consent) :
    ((facade mode keepsHashes).setConsent consent).run s = ((), s.consented consent) := by
  let s₁ := s.synchronized { s.synchronizer with consent }
  show (((tracker mode keepsHashes).run (.enableTracking consent.allowsTracking) >>= fun _ =>
      (tracker mode keepsHashes).run (.enablePersistence consent.allowsPersistence) >>= fun _ =>
        if consent = .granted then (facade mode keepsHashes).startRecording else (facade mode keepsHashes).stopRecording :
      Plain Unit).run s₁) = _
  rw [run_bind, run_tracker_run, run_bind, run_tracker_run]
  unfold Scene.consented
  dsimp only
  by_cases granted : consent = .granted
  · rw [if_pos granted, if_pos granted]
    exact run_ifAlive (run_both .start .start)
  · rw [if_neg granted, if_neg granted]
    exact run_both .stop .stop

/-- The synchronizer is told something. -/
theorem run_facade_run (command : Synchronizer.Command) :
    ((facade mode keepsHashes).run command).run s = ((), s.toldSynchronizer command) := by
  cases command with
  | startRecording => exact run_ifAlive (run_both .start .start)
  | stopRecording => exact run_both .stop .stop
  | setConsent consent => exact run_ifAlive (run_setConsent consent)
  | pushImpression pushed => exact run_ifAlive (run_tracker_run (.push pushed))
  | pushEvent event =>
    refine run_ifAlive ?_
    show ((if s.synchronizer.consent.allowsTracking = true then recorder.run (.push event) else pure () : Plain Unit).run s) = _
    cases s.synchronizer.consent.allowsTracking with
    | false => rfl
    | true => exact run_recorder_run (.push event)
  | pause => exact run_ifAlive (run_both .pause .pause)
  | resume => exact run_ifAlive (run_both .resume .resume)
  | flush => exact run_ifAlive (run_both .flush .flush)
  | destroy =>
    refine run_ifAlive ?_
    exact run_both (s := s.synchronized { s.synchronizer with destroyed := true }) .destroy .destroy
  | stopFetching => rfl
  | notifySegmentsUpdated => rfl
  | notifyLargeSegmentsUpdated => rfl
  | notifyFlagsUpdated => rfl
  | _ =>
    have idle : ((), s.ifThere s) = ((), s) := congrArg (Prod.mk ()) (ite_self s)
    refine Eq.trans ?_ idle
    exact run_ifAlive rfl

end Commands

section Orders

variable {s : Scene} {mode : ImpressionsMode} {keepsHashes : Bool}

/-- Workers are told something one after the other. -/
theorem told_eq_became (order : WorkerOrder) (workers : List Worker) :
    s.told order workers = s.became s.tracker (workers.map (Call.tell · order)).reverse := by
  unfold Scene.told
  induction workers generalizing s with
  | nil => rfl
  | cons w rest ih =>
    rw [List.foldl_cons, ih, List.map_cons, List.reverse_cons]
    exact s.became_became s.tracker s.tracker [.tell w order] _

theorem run_savesCounts : ((tracker mode keepsHashes).saveCounts).run s =
    ((), s.became { s.tracker with counter := s.counterSaved } s.savesCounts) := by
  show ((if s.tracker.persistence = true then _ else pure () : Plain Unit).run s) = _
  unfold Scene.counterSaved Scene.savesCounts
  cases s.tracker.persistence with
  | false => rfl
  | true =>
    show ((if (!s.tracker.counter.counts.isEmpty) = true then _ else pure () : Plain Unit).run
      (s.tracked { s.tracker with counter := {} })) = _
    unfold HourCounter.isEmpty
    cases s.tracker.counter.counts.isEmpty <;> rfl

theorem run_savesUnique : ((tracker mode keepsHashes).saveUniqueKeys).run s = ((), s.became s.tracker s.savesUnique) := by
  show ((if s.tracker.persistence = true then _ else pure () : Plain Unit).run s) = _
  unfold Scene.savesUnique
  cases s.tracker.persistence <;> rfl

theorem run_savesHashes (same : s.keepsHashes = keepsHashes) :
    ((tracker mode keepsHashes).saveHashes).run s = ((), s.became s.tracker s.savesHashes) := by
  rw [run_saveHashes same]
  unfold Scene.hashesSaved Scene.savesHashes
  cases s.keepsHashes <;> rfl

theorem run_sendsUnique : ((tracker mode keepsHashes).sendUniqueKeys).run s =
    ((), s.became { s.tracker with uniqueGauge := s.tracker.uniqueGauge.reset }
      (.tell s.tracker.crew.uniqueKeys .flush :: s.savesUnique)) := by
  unfold ImpressionTracker.sendUniqueKeys
  rw [run_bind, run_savesUnique, run_bind, run_tracker_state, run_bind, run_tracker_tell]
  rfl

theorem run_handleCounted (i : Impression) :
    ((tracker mode keepsHashes).handleCounted i).run s = ((), s.became (s.stateAfterCounted i) (s.callsOfCounted i)) := by
  let s₁ := (s.counted i).noted (.trackUnique i.keyName i.featureName)
  let s₂ := s₁.tracked { s₁.tracker with uniqueGauge := s.tracker.uniqueGauge.add ImpressionTracker.uniqueKeyBytes }
  show ((if (s.tracker.uniqueGauge.add ImpressionTracker.uniqueKeyBytes).isDue = true then
    (tracker mode keepsHashes).sendUniqueKeys else pure () : Plain Unit).run s₂) = _
  unfold Scene.stateAfterCounted Scene.callsOfCounted Scene.gaugeAfter
  by_cases due : (s.tracker.uniqueGauge.add ImpressionTracker.uniqueKeyBytes).isDue = true
  · rw [if_pos due, if_pos due, if_pos due, run_sendsUnique]
    exact congrArg (Prod.mk ()) (s.became_became s₂.tracker _ [.trackUnique i.keyName i.featureName] _)
  · rw [if_neg due, if_neg due, if_neg due]
    rfl

theorem run_delivery (same : s.mode = mode) (i : Impression) :
    (delivery mode keepsHashes i).run s = ((), s.became (s.stateAfterDelivery i) (s.callsOfDelivery i)) := by
  subst same
  let note : Plain Unit := Ground.serve groundCell (.impressions .queued 1)
  show ((if s.isQueued i = true then
      (Ground.impressionQueue groundCell).offer (tracker s.mode keepsHashes).queueGauge i
          ImpressionTracker.impressionBytes >>= fun due =>
        if due = true then (tracker s.mode keepsHashes).sendImpressions >>= fun _ => note else note
    else Ground.serve groundCell (.impressions .deduped 1) : Plain Unit).run s) = _
  unfold Scene.stateAfterDelivery Scene.callsOfDelivery Scene.fillsQueue Scene.gaugeAfter
  cases s.isQueued i with
  | false => rfl
  | true =>
    rw [if_pos rfl, if_pos rfl, Bool.true_and, run_bind, run_offerImpression]
    cases s.accepts (.queueImpression i) with
    | false => rfl
    | true =>
      rw [if_pos rfl, if_pos rfl, Bool.true_and]
      by_cases due : (s.tracker.queueGauge.add ImpressionTracker.impressionBytes).isDue = true
      · rw [if_pos due, if_pos due, if_pos due, run_bind, run_sendImpressions]
        rfl
      · rw [if_neg due, if_neg due, if_neg due]
        rfl

/-- That an impression was observed is all the same to the host, and to what is done with an impression then. -/
theorem observed_became (mode : ImpressionsMode) (i j : Impression) (st : ImpressionTracker.State) :
    (s.observed mode i).became st ((s.observed mode i).callsOfDelivery j) = s.became st (s.callsOfDelivery j) ∧
      (s.observed mode i).mode = s.mode := by
  cases mode <;> exact ⟨rfl, rfl⟩

/-- An order of the impressions is handled. -/
theorem run_handle (order : ImpressionTracker.Order) :
    ((tracker s.mode s.keepsHashes).handle order).run s = ((), s.handled order) := by
  unfold ImpressionTracker.handle Scene.handled Scene.stateAfter Scene.callsOf
  cases order with
  | push pushed =>
    show ((if (pushed.disabled || s.mode = .none) = true then
      (tracker s.mode s.keepsHashes).handleCounted pushed.impression
      else (tracker s.mode s.keepsHashes).handleDelivered pushed.impression : Plain Unit).run s) = _
    dsimp only
    by_cases counted : (pushed.disabled || s.mode = .none) = true
    · rw [if_pos counted, if_pos counted, if_pos counted, run_handleCounted]
    · rw [if_neg counted, if_neg counted, if_neg counted, run_handleDelivered]
      obtain ⟨same, mode⟩ := observed_became (s := s) s.mode pushed.impression (s.lastSeen pushed.impression)
        ((s.observed s.mode pushed.impression).stateAfterDelivery (s.lastSeen pushed.impression))
      rw [run_delivery mode, same]
  | flush =>
    rw [run_bind, run_savesCounts, run_bind, run_sendImpressions, run_bind, run_tracker_state, run_bind, run_tracker_tell,
      run_sendsUnique]
    exact congrArg (Prod.mk ())
      (s.became_became { s.tracker with counter := s.counterSaved, queueGauge := s.tracker.queueGauge.reset } _
        (.tell s.tracker.crew.counts .flush :: .tell s.tracker.crew.impressions .flush :: s.savesCounts) _)
  | pause =>
    rw [run_bind, run_savesCounts, run_bind, run_savesUnique, run_bind, run_savesHashes, run_tellPeriodic, told_eq_became]
    · simp only [Scene.became_became]
      rfl
    · rfl
  | destroy =>
    rw [run_bind, run_tellPeriodic, told_eq_became, run_bind, run_savesCounts, run_bind, run_savesUnique, run_bind,
      run_savesHashes]
    · simp only [Scene.became_became]
      rfl
    · rfl
  | _ =>
    rw [run_tellPeriodic, told_eq_became]
    rfl

/-- The pipeline of the impressions has its turn. -/
theorem run_handleNext :
    ((tracker s.mode s.keepsHashes).handleNext >>= fun _ => pure () : Plain Unit).run s = ((), s.impressionsStepped) := by
  rw [run_bind, run_tracker_handleNext]
  unfold Channel.receive
  cases waiting : s.tracker.orders.queue with
  | nil =>
    rw [Scene.impressionsStepped_nil waiting]
    rfl
  | cons order rest =>
    rw [Scene.impressionsStepped_cons waiting]
    exact congrArg (fun out : Unit × Scene => ((), out.2))
      (run_handle (s := s.tracked { s.tracker with orders := { s.tracker.orders with queue := rest } }) order)

/-- An order of the events is handled. -/
theorem run_handleEvent (order : EventRecorder.Order) : (recorder.handle order).run s = ((), s.handledEvent order) := by
  unfold Scene.handledEvent Scene.eventsAfter Scene.callsOfEvent Scene.gaugeAfter
  cases order with
  | flush => exact run_sendEvents
  | push event =>
    let note : Plain Unit := Ground.serve groundCell (.events .queued 1)
    show (((Ground.eventQueue groundCell).offer recorder.gauge event event.byteSize >>= fun due =>
      if due = true then recorder.sendEvents >>= fun _ => note else note : Plain Unit).run s) = _
    dsimp only
    rw [run_bind, run_offerEvent]
    cases s.accepts (.queueEvent event) with
    | false => rfl
    | true =>
      rw [if_pos rfl, if_pos rfl, Bool.true_and]
      by_cases due : (s.events.gauge.add event.byteSize).isDue = true
      · rw [if_pos due, if_pos due, if_pos due, run_bind, run_sendEvents]
        rfl
      · rw [if_neg due, if_neg due, if_neg due]
        rfl

/-- The pipeline of the events has its turn. -/
theorem run_handleNextEvent : (recorder.handleNext >>= fun _ => pure () : Plain Unit).run s = ((), s.eventsStepped) := by
  rw [run_bind, run_recorder_handleNext]
  unfold Channel.receive
  cases waiting : s.events.orders.queue with
  | nil =>
    rw [Scene.eventsStepped_nil waiting]
    rfl
  | cons order rest =>
    rw [Scene.eventsStepped_cons waiting]
    exact congrArg (fun out : Unit × Scene => ((), out.2))
      (run_handleEvent (s := s.recorded { s.events with orders := { s.events.orders with queue := rest } }) order)

end Orders

/-! ## Kinds of calls -/

/-- Whether a call records that an impression was dropped. -/
def isDrop : Call → Bool
  | .impressions .dropped _ => true
  | _ => false

/-- The records of dropped impressions so far, the latest first. -/
def Scene.drops (s : Scene) : List Call := s.ground.calls.filter isDrop

/-- Whether a call tells a worker something, or saves what is kept. -/
def isUpkeep : Call → Bool
  | .tell _ _ => true
  | .pushCounts _ => true
  | .replaceHashes _ => true
  | .saveUnique => true
  | _ => false

section Upkeep

variable (s : Scene)

theorem upkeep_savesCounts : s.savesCounts.all isUpkeep = true := by
  unfold Scene.savesCounts
  split <;> rfl

theorem upkeep_savesUnique : s.savesUnique.all isUpkeep = true := by
  unfold Scene.savesUnique
  split <;> rfl

theorem upkeep_savesHashes : s.savesHashes.all isUpkeep = true := by
  unfold Scene.savesHashes
  split <;> rfl

theorem upkeep_tellsPeriodic (order : WorkerOrder) : (s.tellsPeriodic order).all isUpkeep = true := by
  simp [Scene.tellsPeriodic, isUpkeep]

variable {p : Call → Bool} (tells : ∀ w order, p (.tell w order) = false) (counts : ∀ counts, p (.pushCounts counts) = false)
  (hashes : ∀ seen, p (.replaceHashes seen) = false) (unique : p .saveUnique = false)

include tells counts hashes unique in
theorem filter_upkeep {calls : List Call} (upkeep : calls.all isUpkeep = true) : calls.filter p = [] := by
  rw [List.filter_eq_nil_iff]
  intro c inside
  have kind := List.all_eq_true.1 upkeep c inside
  cases c with
  | tell w order => simp [tells]
  | pushCounts taken => simp [counts]
  | replaceHashes seen => simp [hashes]
  | saveUnique => simp [unique]
  | _ => cases kind

include counts in
theorem filter_savesCounts : s.savesCounts.filter p = [] := by
  unfold Scene.savesCounts
  split
  · exact List.filter_cons_of_neg (Bool.eq_false_iff.1 (counts _))
  · rfl

include unique in
theorem filter_savesUnique : s.savesUnique.filter p = [] := by
  unfold Scene.savesUnique
  split
  · exact List.filter_cons_of_neg (Bool.eq_false_iff.1 unique)
  · rfl

include hashes in
theorem filter_savesHashes : s.savesHashes.filter p = [] := by
  unfold Scene.savesHashes
  split
  · exact List.filter_cons_of_neg (Bool.eq_false_iff.1 (hashes _))
  · rfl

theorem filter_tellsPeriodic {order : WorkerOrder} (tells : ∀ w, p (.tell w order) = false) :
    (s.tellsPeriodic order).filter p = [] := by
  rw [List.filter_eq_nil_iff]
  simp [Scene.tellsPeriodic, tells]

include tells counts hashes unique in
/-- Apart from upkeep, an order leads to no call but those that say what becomes of an impression. -/
theorem filter_callsOf (order : ImpressionTracker.Order) : (s.callsOf order).filter p = (s.fateOf order).filter p := by
  have savesCounts := upkeep_savesCounts s
  have savesUnique := upkeep_savesUnique s
  have savesHashes := upkeep_savesHashes s
  have kept {calls : List Call} (upkeep : calls.all isUpkeep = true) : calls.filter p = [] :=
    filter_upkeep tells counts hashes unique upkeep
  have none {order : ImpressionTracker.Order} (upkeep : (s.callsOf order).all isUpkeep = true) (fate : s.fateOf order = []) :
      (s.callsOf order).filter p = (s.fateOf order).filter p := by
    rw [kept upkeep, fate, List.filter_nil]
  cases order with
  | push pushed =>
    unfold Scene.callsOf Scene.fateOf
    dsimp only
    split
    · have upkeep : (if (s.tracker.uniqueGauge.add ImpressionTracker.uniqueKeyBytes).isDue
          then .tell s.tracker.crew.uniqueKeys .flush :: s.savesUnique else []).all isUpkeep = true := by
        split
        · exact savesUnique
        · rfl
      unfold Scene.callsOfCounted
      rw [List.filter_append, kept upkeep, List.nil_append]
    · unfold Scene.callsOfDelivery
      split
      · have upkeep : (if s.fillsQueue (s.lastSeen pushed.impression) then
            [Call.tell s.tracker.crew.impressions .flush] else []).all isUpkeep = true := by
          split <;> rfl
        rw [List.filter_cons, List.filter_append, kept upkeep, List.nil_append, ← List.filter_cons]
      · rfl
  | flush =>
    refine none ?_ rfl
    unfold Scene.callsOf
    simp [savesCounts, savesUnique, isUpkeep]
  | pause =>
    refine none ?_ rfl
    unfold Scene.callsOf
    simp [savesCounts, savesUnique, savesHashes, upkeep_tellsPeriodic]
  | destroy =>
    refine none ?_ rfl
    unfold Scene.callsOf
    simp [savesCounts, savesUnique, savesHashes, upkeep_tellsPeriodic]
  | _ => exact none (upkeep_tellsPeriodic s _) rfl

/-- The pipeline drops no impression. -/
theorem drops_callsOf (order : ImpressionTracker.Order) : (s.callsOf order).filter isDrop = [] := by
  rw [filter_callsOf s (fun _ _ => rfl) (fun _ => rfl) (fun _ => rfl) rfl, List.filter_eq_nil_iff]
  unfold Scene.fateOf
  cases order with
  | push pushed =>
    dsimp only
    split
    · simp [isDrop]
    · split <;> simp [isDrop]
  | _ => simp

end Upkeep

/-! ## A whole turn -/

namespace Scene

variable (s : Scene)

theorem take_tell (command : Synchronizer.Command) : s.take (.tell command) = s.toldSynchronizer command :=
  congrArg Prod.snd (run_facade_run command)

theorem take_impressionsStep : s.take .impressionsStep = s.impressionsStepped := congrArg Prod.snd run_handleNext

theorem take_eventsStep : s.take .eventsStep = s.eventsStepped := congrArg Prod.snd run_handleNextEvent

end Scene

/-! ## New parts -/

/-- Whether a call is of the kinds that are made when the parts are new: workers are made, the queue gets its leave, and the stored
hashes are read. -/
def isOpening : Call → Bool
  | .create _ => true
  | .persistImpressions _ => true
  | .readHashes => true
  | _ => false

namespace Setup

variable (u : Setup)

/-- The stored hashes that the observer starts with: none without a store, or from a store that fails. -/
def restored : List SeenImpression :=
  if u.keepsHashes then
    match u.answers.hashes [.readHashes] with
    | .ok seen => seen
    | .error _ => []
  else []

theorem run_restore : (SeenCache.restore u.settings.observerCapacity u.hashStore).run { answers := u.answers } =
    (SeenCache.ofList u.settings.observerCapacity u.restored,
      { answers := u.answers, calls := if u.keepsHashes then [.readHashes] else [] }) := by
  unfold hashStore restored
  cases u.keepsHashes with
  | false => rfl
  | true =>
    show (match u.answers.hashes [.readHashes] with
      | .ok seen => pure (SeenCache.ofList u.settings.observerCapacity seen)
      | .error _ => pure (SeenCache.new u.settings.observerCapacity) : StateM Ground SeenCache).run
        { answers := u.answers, calls := [.readHashes] } = _
    cases u.answers.hashes [.readHashes] <;> rfl

theorem observer_scene : u.scene.tracker.observer = SeenCache.ofList u.settings.observerCapacity u.restored := by
  show ((SeenCache.restore u.settings.observerCapacity u.hashStore).run { answers := u.answers }).1 = _
  rw [run_restore]

theorem answers_scene : u.scene.ground.answers = u.answers := by
  show ((SeenCache.restore u.settings.observerCapacity u.hashStore).run { answers := u.answers }).2.answers = _
  rw [run_restore]

theorem opening_scene : u.scene.ground.calls.all isOpening = true := by
  show ((SeenCache.restore u.settings.observerCapacity u.hashStore).run { answers := u.answers }).2.calls.all isOpening = true
  rw [run_restore]
  cases u.keepsHashes <;> rfl

/-- New parts have made no call of another kind. -/
theorem filter_scene {p : Call → Bool} (creates : ∀ w, p (.create w) = false)
    (persists : ∀ enable, p (.persistImpressions enable) = false) (reads : p .readHashes = false) :
    u.scene.ground.calls.filter p = [] := by
  rw [List.filter_eq_nil_iff]
  intro c inside
  have kind := List.all_eq_true.1 u.opening_scene c inside
  cases c with
  | create w => simp [creates]
  | persistImpressions enable => simp [persists]
  | readHashes => simp [reads]
  | _ => cases kind

theorem drops_scene : u.scene.drops = [] := u.filter_scene (fun _ => rfl) (fun _ => rfl) rfl

/-- Parts with the settings that are given by default, over a host that takes everything and stores no hashes. -/
def plain : Setup where
  settings := {}
  keepsHashes := false
  answers := {}

end Setup

end FlagKeeper.Recording
