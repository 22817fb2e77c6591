import FlagKeeper.Proofs.Recording.Scene

/-!
# What leaves the client without the user's consent

Tracked data is to be persisted and sent only once the user agreed. Two of the ways out ask for that: counts and unique keys are not
saved before. The others do not: a flush, or a queue that is full, has the workers send what was recorded so far, and a pause or the
end stores the hashes of the observer. `Setup.disclosures` is the account of what leaves the client in a run in which the user never
agrees, turn by turn.
-/

namespace FlagKeeper.Recording

open Ensemble (Ground Call Answers)

/-- Whether a call persists or sends tracked data. -/
def discloses : Call → Bool
  | .pushCounts _ => true
  | .saveUnique => true
  | .replaceHashes _ => true
  | .tell _ order => order = .flush
  | _ => false

namespace Scene

variable (s : Scene)

/-- The calls so far that persist or send tracked data, the latest first. -/
def disclosed : List Call := s.ground.calls.filter discloses

/-- What leaves the client when an impression is handled: the queue that it fills up is sent. -/
def disclosedByPush (pushed : TrackedImpression) : List Call :=
  if pushed.disabled || s.mode = .none then
    if (s.tracker.uniqueGauge.add ImpressionTracker.uniqueKeyBytes).isDue then [.tell s.tracker.crew.uniqueKeys .flush] else []
  else
    let i := s.lastSeen pushed.impression
    if (s.mode = .debug || ImpressionTracker.isFirstInHour i) && s.accepts (.queueImpression i) &&
      (s.tracker.queueGauge.add ImpressionTracker.impressionBytes).isDue
    then [.tell s.tracker.crew.impressions .flush] else []

/-- What leaves the client when an order is handled: a flush sends everything, and a pause and the end store the hashes, where there
is a store. -/
def disclosedByOrder : ImpressionTracker.Order → List Call
  | .push pushed => s.disclosedByPush pushed
  | .flush =>
    [.tell s.tracker.crew.uniqueKeys .flush, .tell s.tracker.crew.counts .flush, .tell s.tracker.crew.impressions .flush]
  | .pause => if s.keepsHashes then [.replaceHashes s.tracker.observer.snapshot] else []
  | .destroy => if s.keepsHashes then [.replaceHashes s.tracker.observer.snapshot] else []
  | _ => []

/-- What leaves the client when an order about events is handled. -/
def disclosedByEvents : EventRecorder.Order → List Call
  | .push event =>
    if s.accepts (.queueEvent event) && (s.events.gauge.add event.byteSize).isDue then [.tell s.events.recorder .flush] else []
  | .flush => [.tell s.events.recorder .flush]

/-- What leaves the client at an input: only the pipelines let anything out. -/
def disclosures : Input → List Call
  | .impressionsStep => (s.tracker.orders.queue.head?.map s.disclosedByOrder).getD []
  | .eventsStep => (s.events.orders.queue.head?.map s.disclosedByEvents).getD []
  | _ => []

/-- The user has not agreed, and some calls have persisted or sent tracked data so far. -/
structure Withholds (calls : List Call) (s : Scene) : Prop where
  persistence : s.tracker.persistence = false
  disclosed : s.disclosed = calls

end Scene

/-! ## What the commands keep -/

section Commands

variable {calls : List Call} {mode : ImpressionsMode} {keepsHashes : Bool}

theorem disclosed_noted {s : Scene} {c : Call} (quiet : discloses c = false) : (s.noted c).disclosed = s.disclosed :=
  List.filter_cons_of_neg (by simp [quiet])

/-- Telling workers anything but to flush discloses nothing. -/
theorem told_fixed (s : Scene) {order : WorkerOrder} (other : order ≠ .flush) (workers : List Worker) :
    (s.told order workers).tracker = s.tracker ∧ (s.told order workers).keepsHashes = s.keepsHashes ∧
      (s.told order workers).disclosed = s.disclosed := by
  unfold Scene.told
  induction workers generalizing s with
  | nil => exact ⟨rfl, rfl, rfl⟩
  | cons w rest ih =>
    obtain ⟨tracker, keepsHashes, disclosed⟩ := ih (s.noted (.tell w order))
    exact ⟨tracker, keepsHashes, disclosed.trans (disclosed_noted (by simpa [discloses] using other))⟩

theorem keeps_serve {c : Call} (quiet : discloses c = false) : Keeps (Scene.Withholds calls) (Ground.serve groundCell c) := by
  intro s h
  exact ⟨h.persistence, (disclosed_noted quiet).trans h.disclosed⟩

theorem keeps_tell {order : WorkerOrder} (other : order ≠ .flush) (w : Worker) :
    Keeps (Scene.Withholds calls) (makers.tell w order) := by
  intro s h
  rw [run_tell]
  exact ⟨h.persistence, (disclosed_noted (by simpa [discloses] using other)).trans h.disclosed⟩

/-- The tracker changes anything but its leave to persist. -/
theorem keeps_tracker_modify {change : ImpressionTracker.State → ImpressionTracker.State}
    (kept : ∀ st, st.persistence = false → (change st).persistence = false) :
    Keeps (Scene.Withholds calls) (trackerCell.modify change) := fun _ h => ⟨kept _ h.persistence, h.disclosed⟩

theorem keeps_events_modify (change : EventRecorder.State → EventRecorder.State) :
    Keeps (Scene.Withholds calls) (eventsCell.modify change) := fun _ h => ⟨h.persistence, h.disclosed⟩

theorem keeps_synchronizer_modify (change : Synchronizer.State → Synchronizer.State) :
    Keeps (Scene.Withholds calls) (synchronizerCell.modify change) := fun _ h => ⟨h.persistence, h.disclosed⟩

theorem keeps_send (order : ImpressionTracker.Order) : Keeps (Scene.Withholds calls) ((tracker mode keepsHashes).send order) :=
  keeps_tracker_modify fun _ held => held

theorem keeps_sendIfAlive (order : ImpressionTracker.Order) :
    Keeps (Scene.Withholds calls) ((tracker mode keepsHashes).sendIfAlive order) :=
  (Keeps.read _).bind fun _ => Keeps.ite (keeps_send order) (Keeps.pure ())

/-- The tracker is told anything but that data may be persisted. -/
theorem keeps_tracker_run (command : ImpressionTracker.Command) (withheld : command ≠ .enablePersistence true) :
    Keeps (Scene.Withholds calls) ((tracker mode keepsHashes).run command) := by
  cases command with
  | push pushed =>
    refine (Keeps.read _).bind fun st => Keeps.ite (Keeps.pure ()) (Keeps.ite (keeps_send _) ?_)
    exact keeps_serve rfl
  | stop => exact keeps_send .stop
  | destroy =>
    refine (Keeps.read _).bind fun st => Keeps.ite ?_ (Keeps.pure ())
    refine Keeps.bind (keeps_tracker_modify ?_) fun _ => keeps_send .destroy
    exact fun _ held => held
  | enableTracking enable => exact keeps_tracker_modify fun _ held => held
  | enablePersistence enable =>
    cases enable with
    | true => exact (withheld rfl).elim
    | false => exact (keeps_tracker_modify fun _ _ => rfl).bind fun _ => keeps_serve rfl
  | _ => exact keeps_sendIfAlive _

theorem keeps_recorder_tellPeriodic {order : WorkerOrder} (other : order ≠ .flush) :
    Keeps (Scene.Withholds calls) (recorder.tellPeriodic order) := (Keeps.read _).bind fun _ => keeps_tell other _

theorem keeps_recorder_run (command : EventRecorder.Command) : Keeps (Scene.Withholds calls) (recorder.run command) := by
  cases command with
  | start => exact (Keeps.read _).bind fun _ => Keeps.ite (keeps_recorder_tellPeriodic (by simp)) (Keeps.pure ())
  | push event => exact (Keeps.read _).bind fun _ => Keeps.ite (keeps_serve rfl) (keeps_events_modify _)
  | flush => exact (Keeps.read _).bind fun _ => Keeps.ite (keeps_events_modify _) (Keeps.pure ())
  | destroy =>
    refine (Keeps.read _).bind fun _ => Keeps.ite ?_ (Keeps.pure ())
    exact (keeps_events_modify _).bind fun _ => keeps_recorder_tellPeriodic (by simp)
  | _ => exact keeps_recorder_tellPeriodic (by simp)

theorem keeps_ifAlive {act : Plain Unit} (kept : Keeps (Scene.Withholds calls) act) :
    Keeps (Scene.Withholds calls) ((facade mode keepsHashes).ifAlive act) :=
  (Keeps.read _).bind fun _ => Keeps.ite kept (Keeps.pure ())

/-- The user's answer is anything but a yes. -/
theorem keeps_setConsent {consent : Consent} (withheld : consent ≠ .granted) :
    Keeps (Scene.Withholds calls) ((facade mode keepsHashes).setConsent consent) := by
  have forbids : consent.allowsPersistence = false := by simpa [Consent.allowsPersistence] using withheld
  refine Keeps.bind (keeps_synchronizer_modify _) fun _ => ?_
  refine Keeps.bind (keeps_tracker_run (.enableTracking consent.allowsTracking) (by simp)) fun _ => ?_
  refine Keeps.bind (keeps_tracker_run (.enablePersistence consent.allowsPersistence) (by simp [forbids])) fun _ => ?_
  refine Keeps.ite (keeps_ifAlive ?_) ?_
  · exact Keeps.bind (keeps_tracker_run .start (by simp)) fun _ => keeps_recorder_run .start
  · exact Keeps.bind (keeps_tracker_run .stop (by simp)) fun _ => keeps_recorder_run .stop

/-- An order that does not concern the recording comes to nothing. -/
theorem keeps_idle {x : Plain Unit} (still : ∀ s, (x.run s).2 = s) : Keeps (Scene.Withholds calls) x := by
  intro s h
  rw [still s]
  exact h

/-- The synchronizer is told anything but that the user agreed. -/
theorem keeps_facade_run {command : Synchronizer.Command} (withheld : command ≠ .setConsent .granted) :
    Keeps (Scene.Withholds calls) ((facade mode keepsHashes).run command) := by
  cases command with
  | startRecording =>
    refine keeps_ifAlive ?_
    exact Keeps.bind (keeps_tracker_run .start (by simp)) fun _ => keeps_recorder_run .start
  | stopRecording => exact Keeps.bind (keeps_tracker_run .stop (by simp)) fun _ => keeps_recorder_run .stop
  | setConsent consent =>
    refine keeps_ifAlive (keeps_setConsent ?_)
    rintro rfl
    exact withheld rfl
  | pushImpression pushed => exact keeps_ifAlive (keeps_tracker_run (.push pushed) (by simp))
  | pushEvent event =>
    refine keeps_ifAlive (Keeps.bind (Keeps.read _) fun _ => ?_)
    exact Keeps.ite (keeps_recorder_run (.push event)) (Keeps.pure ())
  | pause =>
    refine keeps_ifAlive (Keeps.bind (Keeps.pure ()) fun _ => Keeps.bind (keeps_idle fun _ => rfl) fun _ => ?_)
    exact Keeps.bind (keeps_tracker_run .pause (by simp)) fun _ => keeps_recorder_run .pause
  | resume =>
    refine keeps_ifAlive (Keeps.bind (Keeps.pure ()) fun _ => Keeps.bind (keeps_idle fun _ => rfl) fun _ => ?_)
    exact Keeps.bind (keeps_tracker_run .resume (by simp)) fun _ => keeps_recorder_run .resume
  | flush =>
    refine keeps_ifAlive ?_
    exact Keeps.bind (keeps_tracker_run .flush (by simp)) fun _ => keeps_recorder_run .flush
  | destroy =>
    refine keeps_ifAlive (Keeps.bind (keeps_synchronizer_modify _) fun _ => Keeps.bind (Keeps.pure ()) fun _ => ?_)
    refine Keeps.bind (keeps_idle fun _ => rfl) fun _ => ?_
    exact Keeps.bind (keeps_tracker_run .destroy (by simp)) fun _ => keeps_recorder_run .destroy
  | stopFetching => exact keeps_idle fun _ => rfl
  | notifySegmentsUpdated => exact keeps_idle fun _ => rfl
  | notifyLargeSegmentsUpdated => exact keeps_idle fun _ => rfl
  | notifyFlagsUpdated => exact Keeps.pure ()
  | _ => exact keeps_ifAlive (keeps_idle fun _ => rfl)

end Commands

/-! ## What the pipelines let out -/

/-- A scene came out of another one by a turn that let some calls out, the latest first. -/
structure Scene.Lets (s : Scene) (calls : List Call) (s' : Scene) : Prop where
  persistence : s'.tracker.persistence = false
  disclosed : s'.disclosed = calls ++ s.disclosed

section Pipelines

variable {s : Scene} {mode : ImpressionsMode} {keepsHashes : Bool}

theorem run_saveCounts (held : s.tracker.persistence = false) : ((tracker mode keepsHashes).saveCounts).run s = ((), s) := by
  show ((if s.tracker.persistence = true then _ else pure () : Plain Unit).run s) = _
  rw [held]
  rfl

theorem run_saveUniqueKeys (held : s.tracker.persistence = false) :
    ((tracker mode keepsHashes).saveUniqueKeys).run s = ((), s) := by
  show ((if s.tracker.persistence = true then _ else pure () : Plain Unit).run s) = _
  rw [held]
  rfl

theorem run_sendUniqueKeys (held : s.tracker.persistence = false) :
    ((tracker mode keepsHashes).sendUniqueKeys).run s = ((), s.uniqueKeysSent) := by
  unfold ImpressionTracker.sendUniqueKeys
  rw [run_bind, run_saveUniqueKeys held, run_bind, run_tracker_state, run_bind, run_tracker_tell]
  rfl

/-- Neither the counts nor the unique keys are saved, be it on a pause or at the end. -/
theorem run_saveNothing (held : s.tracker.persistence = false) (next : Plain Unit) :
    ((do
      (tracker mode keepsHashes).saveCounts
      (tracker mode keepsHashes).saveUniqueKeys
      next : Plain Unit).run s) = next.run s := by
  rw [run_bind, run_saveCounts held, run_bind, run_saveUniqueKeys held]

/-- What a turn let out, and then another one. -/
theorem Scene.Lets.trans {s' s'' : Scene} {calls calls' : List Call} (h : s.Lets calls s') (h' : s'.Lets calls' s'') :
    s.Lets (calls' ++ calls) s'' := by
  refine ⟨h'.persistence, ?_⟩
  rw [h'.disclosed, h.disclosed, List.append_assoc]

theorem lets_told (held : s.tracker.persistence = false) {order : WorkerOrder} (other : order ≠ .flush) (workers : List Worker) :
    s.Lets [] (s.told order workers) := by
  obtain ⟨tracker, -, disclosed⟩ := told_fixed s other workers
  exact ⟨(congrArg ImpressionTracker.State.persistence tracker).trans held, disclosed⟩

theorem lets_hashesSaved (held : s.tracker.persistence = false) :
    s.Lets (if s.keepsHashes then [.replaceHashes s.tracker.observer.snapshot] else []) s.hashesSaved := by
  unfold Scene.hashesSaved
  cases s.keepsHashes <;> exact ⟨held, rfl⟩

theorem lets_counted (held : s.tracker.persistence = false) (i : Impression) :
    s.Lets (if (s.tracker.uniqueGauge.add ImpressionTracker.uniqueKeyBytes).isDue then [.tell s.tracker.crew.uniqueKeys .flush]
      else []) (((tracker mode keepsHashes).handleCounted i).run s).2 := by
  let s₁ := (s.counted i).noted (.trackUnique i.keyName i.featureName)
  let s₂ := s₁.tracked { s₁.tracker with uniqueGauge := s.tracker.uniqueGauge.add ImpressionTracker.uniqueKeyBytes }
  show s.Lets _ ((if (s.tracker.uniqueGauge.add ImpressionTracker.uniqueKeyBytes).isDue = true then
    (tracker mode keepsHashes).sendUniqueKeys else pure () : Plain Unit).run s₂).2
  by_cases due : (s.tracker.uniqueGauge.add ImpressionTracker.uniqueKeyBytes).isDue = true
  · have held' : s₂.tracker.persistence = false := held
    rw [if_pos due, if_pos due, run_sendUniqueKeys held']
    exact ⟨held, rfl⟩
  · rw [if_neg due, if_neg due]
    exact ⟨held, rfl⟩

/-- An impression is queued, if it is to be, and the queue is sent, if it is due then. -/
theorem lets_delivery (held : s.tracker.persistence = false) (mode : ImpressionsMode) (keepsHashes : Bool) (i : Impression) :
    s.Lets (if (mode = .debug || ImpressionTracker.isFirstInHour i) && s.accepts (.queueImpression i) &&
        (s.tracker.queueGauge.add ImpressionTracker.impressionBytes).isDue
      then [.tell s.tracker.crew.impressions .flush] else []) ((delivery mode keepsHashes i).run s).2 := by
  let note : Plain Unit := Ground.serve groundCell (.impressions .queued 1)
  show s.Lets _ ((if (mode = .debug || ImpressionTracker.isFirstInHour i) = true then
      (Ground.impressionQueue groundCell).offer (tracker mode keepsHashes).queueGauge i
          ImpressionTracker.impressionBytes >>= fun due =>
        if due = true then (tracker mode keepsHashes).sendImpressions >>= fun _ => note else note
    else Ground.serve groundCell (.impressions .deduped 1) : Plain Unit).run s).2
  by_cases queued : (mode = .debug || ImpressionTracker.isFirstInHour i) = true
  · rw [if_pos queued, queued, Bool.true_and, run_bind, run_offerImpression]
    by_cases accepted : s.accepts (.queueImpression i) = true
    · rw [if_pos accepted, accepted, Bool.true_and]
      by_cases due : (s.tracker.queueGauge.add ImpressionTracker.impressionBytes).isDue = true
      · rw [if_pos due, if_pos due, run_bind, run_sendImpressions]
        exact ⟨held, rfl⟩
      · rw [if_neg due, if_neg due]
        exact ⟨held, rfl⟩
    · rw [if_neg accepted, if_neg (by simp [accepted])]
      exact ⟨held, rfl⟩
  · rw [if_neg queued, if_neg (by simp [queued])]
    exact ⟨held, rfl⟩

/-- The observer and the counter have no part in what the host does and in what is held against the queue. -/
theorem observed_fixed (s : Scene) (mode : ImpressionsMode) (i : Impression) :
    (s.observed mode i).ground = s.ground ∧ (s.observed mode i).tracker.persistence = s.tracker.persistence ∧
      (s.observed mode i).tracker.crew = s.tracker.crew ∧ (s.observed mode i).tracker.queueGauge = s.tracker.queueGauge := by
  cases mode <;> exact ⟨rfl, rfl, rfl, rfl⟩

/-- An impression that is not only counted is handled. -/
theorem lets_delivered (held : s.tracker.persistence = false) (pushed : TrackedImpression)
    (delivered : ¬(pushed.disabled || s.mode = .none) = true) :
    s.Lets (s.disclosedByPush pushed) (((tracker s.mode s.keepsHashes).handleDelivered pushed.impression).run s).2 := by
  rw [run_handleDelivered]
  unfold Scene.disclosedByPush
  rw [if_neg delivered]
  obtain ⟨ground, persistence, crew, gauge⟩ := observed_fixed s s.mode pushed.impression
  obtain ⟨kept, lets⟩ := lets_delivery (persistence.trans held) s.mode s.keepsHashes (s.lastSeen pushed.impression)
  unfold Scene.accepts Scene.disclosed at lets
  rw [ground, crew, gauge] at lets
  exact ⟨kept, lets⟩

/-- An order of the impressions is handled. -/
theorem lets_handle (held : s.tracker.persistence = false) (order : ImpressionTracker.Order) :
    s.Lets (s.disclosedByOrder order) (((tracker s.mode s.keepsHashes).handle order).run s).2 := by
  unfold ImpressionTracker.handle
  cases order with
  | push pushed =>
    show s.Lets (s.disclosedByPush pushed) ((if (pushed.disabled || s.mode = .none) = true then
      (tracker s.mode s.keepsHashes).handleCounted pushed.impression
      else (tracker s.mode s.keepsHashes).handleDelivered pushed.impression : Plain Unit).run s).2
    by_cases counted : (pushed.disabled || s.mode = .none) = true
    · unfold Scene.disclosedByPush
      rw [if_pos counted, if_pos counted]
      exact lets_counted held pushed.impression
    · rw [if_neg counted]
      exact lets_delivered held pushed counted
  | flush =>
    rw [run_bind, run_saveCounts held, run_bind, run_sendImpressions, run_bind, run_tracker_state, run_bind, run_tracker_tell,
      run_sendUniqueKeys]
    · exact ⟨held, rfl⟩
    · exact held
  | start =>
    rw [run_tellPeriodic]
    exact lets_told held (by simp) _
  | stop =>
    rw [run_tellPeriodic]
    exact lets_told held (by simp) _
  | resume =>
    rw [run_tellPeriodic]
    exact lets_told held (by simp) _
  | pause =>
    have saved := lets_hashesSaved held
    rw [run_saveNothing held, run_bind, run_saveHashes rfl, run_tellPeriodic]
    exact saved.trans (lets_told saved.persistence (by simp) _)
  | destroy =>
    have other : WorkerOrder.destroy ≠ .flush := by simp
    obtain ⟨kept', place, -⟩ := told_fixed s other s.tracker.crew.periodic
    have told : s.Lets [] (s.told .destroy s.tracker.crew.periodic) := lets_told held other _
    rw [run_bind, run_tellPeriodic, run_saveNothing told.persistence, run_bind, run_saveHashes place]
    obtain ⟨kept, lets⟩ := told.trans (lets_hashesSaved told.persistence)
    rw [place, kept', List.append_nil] at lets
    exact ⟨kept, lets⟩

/-- An order about events is handled. -/
theorem lets_handleEvents (held : s.tracker.persistence = false) (order : EventRecorder.Order) :
    s.Lets (s.disclosedByEvents order) ((recorder.handle order).run s).2 := by
  cases order with
  | flush =>
    show s.Lets _ ((recorder.sendEvents).run s).2
    rw [run_sendEvents]
    exact ⟨held, rfl⟩
  | push event =>
    let note : Plain Unit := Ground.serve groundCell (.events .queued 1)
    show s.Lets (if s.accepts (.queueEvent event) && (s.events.gauge.add event.byteSize).isDue then _ else [])
      (((Ground.eventQueue groundCell).offer recorder.gauge event event.byteSize >>= fun due =>
        if due = true then recorder.sendEvents >>= fun _ => note else note : Plain Unit).run s).2
    rw [run_bind, run_offerEvent]
    by_cases accepted : s.accepts (.queueEvent event) = true
    · rw [if_pos accepted, accepted, Bool.true_and]
      by_cases due : (s.events.gauge.add event.byteSize).isDue = true
      · rw [if_pos due, if_pos due, run_bind, run_sendEvents]
        exact ⟨held, rfl⟩
      · rw [if_neg due, if_neg due]
        exact ⟨held, rfl⟩
    · rw [if_neg accepted, if_neg (by simp [accepted])]
      exact ⟨held, rfl⟩

/-- The pipeline of the impressions has its turn. -/
theorem lets_impressionsStep (held : s.tracker.persistence = false) :
    s.Lets (s.disclosures .impressionsStep) (s.take .impressionsStep) := by
  show s.Lets _ (((tracker s.mode s.keepsHashes).handleNext >>= fun _ => pure ()).run s).2
  rw [run_bind, run_tracker_handleNext]
  unfold Scene.disclosures Channel.receive
  cases s.tracker.orders.queue with
  | nil => exact ⟨held, rfl⟩
  | cons order rest =>
    let s₁ := s.tracked { s.tracker with orders := { s.tracker.orders with queue := rest } }
    have held' : s₁.tracker.persistence = false := held
    obtain ⟨kept, lets⟩ := lets_handle held' order
    refine ⟨kept, lets.trans ?_⟩
    cases order <;> rfl

/-- The pipeline of the events has its turn. -/
theorem lets_eventsStep (held : s.tracker.persistence = false) : s.Lets (s.disclosures .eventsStep) (s.take .eventsStep) := by
  show s.Lets _ ((recorder.handleNext >>= fun _ => pure ()).run s).2
  rw [run_bind, run_recorder_handleNext]
  unfold Scene.disclosures Channel.receive
  cases s.events.orders.queue with
  | nil => exact ⟨held, rfl⟩
  | cons order rest =>
    let s₁ := s.recorded { s.events with orders := { s.events.orders with queue := rest } }
    have held' : s₁.tracker.persistence = false := held
    obtain ⟨kept, lets⟩ := lets_handleEvents held' order
    refine ⟨kept, lets.trans ?_⟩
    cases order <;> rfl

/-- Whatever happens but that the user agrees. -/
theorem Scene.lets (held : s.tracker.persistence = false) {i : Input} (withheld : i ≠ .tell (.setConsent .granted)) :
    s.Lets (s.disclosures i) (s.take i) := by
  cases i with
  | tell command =>
    have kept : Keeps (Scene.Withholds s.disclosed) ((facade s.mode s.keepsHashes).run command) := by
      refine keeps_facade_run ?_
      rintro rfl
      exact withheld rfl
    obtain ⟨persistence, disclosed⟩ := kept s ⟨held, rfl⟩
    exact ⟨persistence, disclosed⟩
  | impressionsStep => exact lets_impressionsStep held
  | eventsStep => exact lets_eventsStep held
  | answer answers => exact ⟨held, rfl⟩

end Pipelines

/-! ## A run in which the user does not agree -/

/-- What leaves the client in a run, the latest first. -/
def Setup.disclosures (u : Setup) : List Input → List Call
  | [] => []
  | i :: past => (u.after past).disclosures i ++ u.disclosures past

/-- Reading the stored hashes is all that the host is asked for when the observer is made. -/
theorem Setup.keeps_restore (u : Setup) :
    Keeps (fun g : Ground => g.calls.filter discloses = []) (SeenCache.restore u.settings.observerCapacity u.hashStore) := by
  unfold Setup.hashStore
  cases u.keepsHashes with
  | false => exact Keeps.pure _
  | true =>
    have read : Keeps (fun g : Ground => g.calls.filter discloses = []) (Ground.hashStore alone).all := fun _ kept => kept
    refine read.bind fun seen => ?_
    cases seen <;> exact Keeps.pure _

/-- New parts have let nothing out, and may not persist anything if the user has not agreed. -/
theorem Setup.lets_scene (u : Setup) (withheld : u.settings.userConsent ≠ .granted) :
    u.scene.tracker.persistence = false ∧ u.scene.disclosed = [] := by
  constructor
  · show u.settings.userConsent.allowsPersistence = false
    simpa [Consent.allowsPersistence] using withheld
  · show ((SeenCache.restore u.settings.observerCapacity u.hashStore).run { answers := u.answers }).2.calls.filter discloses = []
    exact u.keeps_restore _ rfl

theorem Setup.lets (u : Setup) (withheld : u.settings.userConsent ≠ .granted) {inputs : List Input}
    (never : .tell (.setConsent .granted) ∉ inputs) :
    (u.after inputs).tracker.persistence = false ∧ (u.after inputs).disclosed = u.disclosures inputs := by
  induction inputs with
  | nil => exact u.lets_scene withheld
  | cons i past ih =>
    rw [List.mem_cons, not_or] at never
    obtain ⟨held, account⟩ := ih never.2
    obtain ⟨kept, lets⟩ := Scene.lets held (Ne.symm never.1)
    refine ⟨kept, lets.trans ?_⟩
    rw [account]
    rfl

/-- A call that is let out on some condition. -/
theorem eq_of_mem_ite {p : Prop} [Decidable p] {c other : Call} (out : c ∈ if p then [other] else []) : c = other := by
  by_cases holds : p
  · rw [if_pos holds] at out
    exact List.mem_singleton.1 out
  · rw [if_neg holds] at out
    cases out

/-- What an impression lets out is an order to send. -/
theorem Scene.flush_of_mem_disclosedByPush {s : Scene} {pushed : TrackedImpression} {c : Call}
    (out : c ∈ s.disclosedByPush pushed) : ∃ w, c = .tell w .flush := by
  unfold Scene.disclosedByPush at out
  by_cases counted : (pushed.disabled || s.mode = .none) = true
  · rw [if_pos counted] at out
    exact ⟨_, eq_of_mem_ite out⟩
  · rw [if_neg counted] at out
    exact ⟨_, eq_of_mem_ite out⟩

/-- What a turn lets out is an order to send, or the hashes of the observer. -/
theorem Scene.disclosures_cases {s : Scene} {i : Input} {c : Call} (out : c ∈ s.disclosures i) :
    (∃ w, c = .tell w .flush) ∨ ∃ seen, c = .replaceHashes seen := by
  unfold Scene.disclosures at out
  cases i with
  | tell command => cases out
  | answer answers => cases out
  | impressionsStep =>
    cases waiting : s.tracker.orders.queue with
    | nil => simp [waiting] at out
    | cons order rest =>
      rw [waiting] at out
      cases order with
      | push pushed => exact .inl (flush_of_mem_disclosedByPush out)
      | flush =>
        rcases List.mem_cons.1 out with rfl | out
        · exact .inl ⟨_, rfl⟩
        · rcases List.mem_cons.1 out with rfl | out
          · exact .inl ⟨_, rfl⟩
          · exact .inl ⟨_, List.mem_singleton.1 out⟩
      | pause => exact .inr ⟨_, eq_of_mem_ite out⟩
      | destroy => exact .inr ⟨_, eq_of_mem_ite out⟩
      | start => cases out
      | stop => cases out
      | resume => cases out
  | eventsStep =>
    cases waiting : s.events.orders.queue with
    | nil => simp [waiting] at out
    | cons order rest =>
      rw [waiting] at out
      cases order with
      | push event => exact .inl ⟨_, eq_of_mem_ite out⟩
      | flush => exact .inl ⟨_, List.mem_singleton.1 out⟩

theorem Setup.mem_disclosures (u : Setup) {inputs : List Input} {c : Call} (out : c ∈ u.disclosures inputs) :
    (∃ w, c = .tell w .flush) ∨ ∃ seen, c = .replaceHashes seen := by
  induction inputs with
  | nil => cases out
  | cons i past ih =>
    rcases List.mem_append.1 out with now | before
    · exact Scene.disclosures_cases now
    · exact ih before

/-- Nothing leaves the client in a run if and only if nothing does at any turn of it. -/
theorem Setup.disclosures_eq_nil_iff (u : Setup) (inputs : List Input) :
    u.disclosures inputs = [] ↔ ∀ i past, i :: past <:+ inputs → (u.after past).disclosures i = [] := by
  induction inputs with
  | nil =>
    refine ⟨fun _ i past inside => ?_, fun _ => rfl⟩
    cases List.suffix_nil.1 inside
  | cons i past ih =>
    show (u.after past).disclosures i ++ u.disclosures past = [] ↔ _
    rw [List.append_eq_nil_iff, ih]
    constructor
    · rintro ⟨now, before⟩ j earlier inside
      rcases List.suffix_cons_iff.1 inside with same | inside
      · cases same
        exact now
      · exact before j earlier inside
    · intro all
      exact ⟨all i past (List.suffix_refl _), fun j earlier inside => all j earlier (inside.trans (List.suffix_cons i past))⟩

/-- **Without consent.** In a run in which the user never agrees, of any settings and over any host:

1. What was persisted and sent is what the account says: a flush has the workers of all queues send, a queue that is due is sent, and
   a pause and the end store the hashes of the observer, where there is a store.
2. No counts and no unique keys are persisted.
3. So nothing at all was persisted or sent if and only if the account is empty for every turn. -/
theorem disclosed_without_consent (u : Setup) (inputs : List Input) (withheld : u.settings.userConsent ≠ .granted)
    (never : .tell (.setConsent .granted) ∉ inputs) :
    (u.after inputs).ground.calls.filter discloses = u.disclosures inputs ∧
    (∀ c ∈ (u.after inputs).ground.calls, (∀ counts, c ≠ .pushCounts counts) ∧ c ≠ .saveUnique) ∧
    ((∀ c ∈ (u.after inputs).ground.calls, discloses c = false) ↔
      ∀ i past, i :: past <:+ inputs → (u.after past).disclosures i = []) := by
  obtain ⟨-, account⟩ := u.lets withheld never
  have account : (u.after inputs).ground.calls.filter discloses = u.disclosures inputs := account
  refine ⟨account, ?_, ?_⟩
  · intro c inside
    by_cases open_ : discloses c = true
    · have out : c ∈ u.disclosures inputs := by
        rw [← account]
        exact List.mem_filter.2 ⟨inside, open_⟩
      rcases u.mem_disclosures out with ⟨w, rfl⟩ | ⟨seen, rfl⟩ <;> simp
    · constructor
      · rintro counts rfl
        exact open_ rfl
      · rintro rfl
        exact open_ rfl
  · rw [← u.disclosures_eq_nil_iff, ← account, List.filter_eq_nil_iff]
    simp

/-- Parts with the settings that are given by default, but for a user who has not answered, over a host that stores hashes. -/
def Setup.undecided : Setup where
  settings := { userConsent := .unknown }
  keepsHashes := true
  answers := {}

/-- A pause and a flush: the hashes are stored, and every queue is sent. -/
theorem disclosed_without_consent_flush :
    (Setup.undecided.after [.eventsStep, .impressionsStep, .impressionsStep, .tell .flush, .tell .pause]).ground.calls.filter
        discloses =
      [.tell ⟨.eventsRecorder, 6⟩ .flush, .tell ⟨.uniqueKeysRecorder, 2⟩ .flush, .tell ⟨.countRecorder, 1⟩ .flush,
        .tell ⟨.impressionsRecorder, 0⟩ .flush, .replaceHashes []] :=
  (disclosed_without_consent Setup.undecided [.eventsStep, .impressionsStep, .impressionsStep, .tell .flush, .tell .pause]
    (by decide) (by simp)).1.trans rfl

/-- Some impression. -/
def someImpression : Impression := ⟨"user", none, "checkout", "on", none, 0, none, none, none⟩

/-- An impression that was tracked before the user answered is sent when the client is told to flush. -/
theorem sent_without_consent :
    ¬∀ c ∈ (Setup.undecided.after
        [.impressionsStep, .impressionsStep, .tell .flush, .tell (.pushImpression { impression := someImpression })]).ground.calls,
      discloses c = false := by
  intro kept
  have sent := kept (.tell ⟨.impressionsRecorder, 0⟩ .flush)
    (List.mem_cons_of_mem _ (List.mem_cons_of_mem _ List.mem_cons_self))
  cases sent

end FlagKeeper.Recording
