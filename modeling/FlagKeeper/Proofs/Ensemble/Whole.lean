import FlagKeeper.Proofs.Ensemble.Parts

/-!
# The synchronizer keeps the books

The programs of the registry, of the two pipelines and of the synchronizer over them. Whatever the synchronizer is told that is not
its end, the books come by steps to where they are then; work is taken on only while it is not destroyed.
-/

namespace FlagKeeper.Ensemble

open Ledger (Pace)

variable {p : Pace} {l : Ledger} {s e : Ensemble}

/-! ## The registry -/

section Registry

variable {P : Ensemble → Prop} {scope : Option String} {bundle : BundleId}

/-- Doing something for every bundle in scope. -/
theorem keeps_forEach {act : Key → BundleId → Playing Unit} (each : ∀ key bundle, Keeps P (act key bundle)) :
    Keeps P (e.identityRegistry.forEach scope act) :=
  Keeps.bind (Keeps.get _ _) fun _ => Keeps.forM _ fun entry _ => each entry.1 entry.2

/-- Telling the segment synchronizers in scope. -/
theorem keeps_tellSegments {command : SegmentSync.Command} (each : ∀ bundle, Keeps P ((e.segmentSync bundle).run command)) :
    Keeps P (e.identityRegistry.tellSegments scope command) := keeps_forEach fun _ bundle => each bundle

/-- Telling the segment synchronizer of one identity. -/
theorem keeps_tellKey (key : Key) (command : SegmentSync.Command) :
    Keeps (Since .working l) (e.identityRegistry.tellKey key command) := by
  refine Keeps.bind (Keeps.bind (Keeps.get _ _) fun _ => Keeps.pure _) fun found => ?_
  cases found with
  | none => exact Keeps.pure _
  | some bundle => exact keeps_segments_run command

/-- Loading attributes does not concern the books. -/
theorem keeps_loadAttributes : Keeps (Since p l) (e.identityRegistry.loadAttributes scope) :=
  keeps_forEach fun _ _ => Keeps.later _

theorem keeps_registry_runJob (job : Registry.Job) : Keeps (Since p l) (e.identityRegistry.runJob job) := by
  cases job with
  | loadAttributes matching bundle => exact Keeps.bind (Keeps.serveWith_aside rfl _) fun _ => Keeps.serve_aside rfl

/-- Bringing a new identity up to date. -/
theorem keeps_startSync (key : Key) : Keeps (Since .working l) (e.identityRegistry.startSync key) := by
  refine Keeps.bind (keeps_tellSegments fun bundle => keeps_segments_run _) fun _ => ?_
  refine Keeps.bind keeps_loadAttributes fun _ => Keeps.bind (keeps_tellKey key _) fun _ => ?_
  exact Keeps.check fun _ => keeps_tellKey key _

/-- Polling the identities. -/
theorem keeps_startPolling : Keeps (Since .working l) e.identityRegistry.startPolling :=
  Keeps.bind (Keeps.modify_aside fun _ => rfl) fun _ => keeps_tellSegments fun _ => keeps_segments_run _

/-- The end of polling. -/
theorem keeps_stopPolling : Keeps (Since p l) e.identityRegistry.stopPolling :=
  Keeps.bind (Keeps.modify_aside fun _ => rfl) fun _ => keeps_tellSegments fun _ => keeps_segments_stopPeriodic

/-- The end of an identity only closes things. -/
theorem keeps_tearDown (key : Key) : Keeps (Since p l) (e.identityRegistry.tearDown key bundle) := by
  refine Keeps.bind keeps_segments_stopPeriodic fun _ => Keeps.bind keeps_segments_shutDown fun _ => ?_
  exact Keeps.bind (Keeps.serve_aside rfl) fun _ => Keeps.serve_aside rfl

/-- The end of an identity leaves its desk closed. -/
theorem closed_tearDown (key : Key) :
    (((e.identityRegistry.tearDown key bundle).run s).2.ledger.desk (bundle + 1)).closed = true := by
  let s' := ((e.segmentSync bundle).shutDown.run (((e.segmentSync bundle).tellPeriodic .stop).run s).2).2
  have run : ((e.identityRegistry.tearDown key bundle).run s).2 =
      (s'.note (.destroyAttributes key.matching)).note (.stopSignals bundle) := rfl
  rw [run, ledger_note rfl, ledger_note rfl]
  exact closed_segments_shutDown

end Registry

/-! ## The pipelines -/

section Pipelines

/-- The workers of the pipelines stand by. -/
theorem keeps_makers_tell (w : Worker) {order : WorkerOrder} (other : order ≠ .stop) : Keeps (Since p l) (makers.tell w order) :=
  keeps_tell other (fun _ _ => Keeps.pure _) w

/-- Handing an order to the pipeline of the impressions does not concern the books. -/
theorem keeps_tracker_send (order : ImpressionTracker.Order) : Keeps (Since p l) (e.impressionTracker.send order) :=
  Keeps.modify_aside fun _ => rfl

/-- Whatever the impression tracker is told, its pipeline does it later. -/
theorem keeps_tracker_run (command : ImpressionTracker.Command) : Keeps (Since p l) (e.impressionTracker.run command) := by
  have guarded (order : ImpressionTracker.Order) : Keeps (Since p l) (e.impressionTracker.sendIfAlive order) :=
    Keeps.check fun _ => keeps_tracker_send _
  cases command with
  | push pushed =>
    refine Keeps.bind (Keeps.get _ _) fun _ => Keeps.ite (Keeps.pure _) ?_
    exact Keeps.ite (keeps_tracker_send _) (Keeps.serve_aside rfl)
  | start => exact guarded _
  | stop => exact keeps_tracker_send _
  | pause => exact guarded _
  | resume => exact guarded _
  | flush => exact guarded _
  | destroy =>
    refine Keeps.check fun _ => ?_
    exact Keeps.bind (Keeps.modify_aside fun _ => rfl) fun _ => keeps_tracker_send _
  | enableTracking enable => exact Keeps.modify_aside fun _ => rfl
  | enablePersistence enable => exact Keeps.bind (Keeps.modify_aside fun _ => rfl) fun _ => Keeps.serve_aside rfl

/-- Telling the periodic workers of the tracker. -/
theorem keeps_tracker_tellPeriodic (order : WorkerOrder) : Keeps (Since p l) (e.impressionTracker.tellPeriodic order) := by
  by_cases stop : order = .stop
  · subst stop
    intro s h
    show Since p l ((s.tracker.crew.periodic.forM fun w => makers.tell w .stop).run s).2
    unfold makers
    rw [run_stopAll]
    refine h.trans ?_
    rw [ledger_noteAll, stops_reverse, stops_tell_stop]
    refine Ledger.steps_standDown fun w inside => .inl ?_
    exact List.mem_cons_of_mem _ (List.mem_reverse.1 inside)
  · exact Keeps.bind (Keeps.get _ _) fun _ => Keeps.forM _ fun w _ => keeps_makers_tell w stop

theorem keeps_saveCounts : Keeps (Since p l) e.impressionTracker.saveCounts := by
  refine Keeps.check fun _ => ?_
  refine Keeps.bind (Keeps.step_aside fun _ => rfl) fun counts => Keeps.ite ?_ (Keeps.pure _)
  exact Keeps.bind (Keeps.serveWith_aside rfl _) fun _ => Keeps.pure _

theorem keeps_saveUniqueKeys : Keeps (Since p l) e.impressionTracker.saveUniqueKeys :=
  Keeps.check fun _ => Keeps.serve_aside rfl

theorem keeps_saveHashes : Keeps (Since p l) e.impressionTracker.saveHashes := by
  refine Keeps.bind (Keeps.get _ _) fun st => ?_
  show Keeps (Since p l) (st.observer.save (if e.keepsHashes then some (Ground.hashStore hostCell) else none))
  cases e.keepsHashes with
  | true => exact Keeps.bind (Keeps.serveWith_aside rfl _) fun _ => Keeps.pure _
  | false => exact Keeps.pure _

theorem keeps_sendImpressions : Keeps (Since p l) e.impressionTracker.sendImpressions := by
  refine Keeps.bind (Keeps.get _ _) fun _ => Keeps.bind (keeps_makers_tell _ (by simp)) fun _ => ?_
  exact fun _ h => h

theorem keeps_sendUniqueKeys : Keeps (Since p l) e.impressionTracker.sendUniqueKeys := by
  refine Keeps.bind keeps_saveUniqueKeys fun _ => Keeps.bind (Keeps.get _ _) fun _ => ?_
  exact Keeps.bind (keeps_makers_tell _ (by simp)) fun _ _ h => h

/-- Offering an impression for delivery, if it is not a repetition. -/
theorem keeps_deliver (i : Impression) :
    Keeps (Since p l)
      (if e.settings.impressionsMode = .debug || ImpressionTracker.isFirstInHour i then do
        if ← e.impressionTracker.queue.offer e.impressionTracker.queueGauge i ImpressionTracker.impressionBytes then
          e.impressionTracker.sendImpressions
        e.impressionTracker.telemetry.impressions .queued 1
      else e.impressionTracker.telemetry.impressions .deduped 1) := by
  have offered : Keeps (Since p l)
      (e.impressionTracker.queue.offer e.impressionTracker.queueGauge i ImpressionTracker.impressionBytes) := by
    refine Keeps.bind (Keeps.serveWith_aside rfl _) fun result => ?_
    cases result with
    | error _ => exact Keeps.pure _
    | ok _ => exact fun _ h => h
  refine Keeps.ite (Keeps.bind offered fun due => ?_) (Keeps.serve_aside rfl)
  exact Keeps.ite (Keeps.bind keeps_sendImpressions fun _ => Keeps.serve_aside rfl) (Keeps.serve_aside rfl)

/-- An impression of the pipeline. -/
theorem keeps_tracker_push (pushed : TrackedImpression) : Keeps (Since p l) (e.impressionTracker.handle (.push pushed)) := by
  refine Keeps.ite ?_ ?_
  · refine Keeps.bind (Keeps.modify_aside fun _ => rfl) fun _ => Keeps.bind (Keeps.serve_aside rfl) fun _ => ?_
    exact Keeps.bind (fun _ h => h) fun due => Keeps.ite keeps_sendUniqueKeys (Keeps.pure _)
  · refine Keeps.bind (Keeps.step_aside fun _ => rfl) fun previous => ?_
    exact Keeps.ite (Keeps.bind (Keeps.modify_aside fun _ => rfl) fun _ => keeps_deliver _) (keeps_deliver _)

/-- An order of the pipeline of the impressions. -/
theorem keeps_tracker_handle (order : ImpressionTracker.Order) : Keeps (Since p l) (e.impressionTracker.handle order) := by
  cases order with
  | push pushed => exact keeps_tracker_push pushed
  | flush =>
    refine Keeps.bind keeps_saveCounts fun _ => Keeps.bind keeps_sendImpressions fun _ => ?_
    refine Keeps.bind (Keeps.get _ _) fun _ => Keeps.bind (keeps_makers_tell _ (by simp)) fun _ => ?_
    exact keeps_sendUniqueKeys
  | start => exact keeps_tracker_tellPeriodic _
  | stop => exact keeps_tracker_tellPeriodic _
  | pause =>
    refine Keeps.bind keeps_saveCounts fun _ => Keeps.bind keeps_saveUniqueKeys fun _ => ?_
    exact Keeps.bind keeps_saveHashes fun _ => keeps_tracker_tellPeriodic _
  | resume => exact keeps_tracker_tellPeriodic _
  | destroy =>
    refine Keeps.bind (keeps_tracker_tellPeriodic _) fun _ => Keeps.bind keeps_saveCounts fun _ => ?_
    refine Keeps.bind keeps_saveUniqueKeys fun _ => Keeps.bind keeps_saveHashes fun _ => ?_
    exact Keeps.modify_aside fun _ => rfl

/-- A turn of the pipeline of the impressions. -/
theorem keeps_tracker_handleNext : Keeps (Since p l) e.impressionTracker.handleNext := by
  refine Keeps.bind (Keeps.step_aside fun _ => rfl) fun next => ?_
  cases next with
  | none => exact Keeps.pure _
  | some order => exact Keeps.bind (keeps_tracker_handle order) fun _ => Keeps.pure _

/-- Telling the periodic worker of the event recorder. -/
theorem keeps_recorder_tellPeriodic (order : WorkerOrder) : Keeps (Since p l) (eventRecorder.tellPeriodic order) := by
  by_cases stop : order = .stop
  · subst stop
    refine Keeps.get_bind fun s h => ?_
    exact since_stop h (.inl List.mem_cons_self)
  · exact Keeps.bind (Keeps.get _ _) fun _ => keeps_makers_tell _ stop

/-- Whatever the event recorder is told. -/
theorem keeps_recorder_run (command : EventRecorder.Command) : Keeps (Since p l) (eventRecorder.run command) := by
  cases command with
  | start => exact Keeps.check fun _ => keeps_recorder_tellPeriodic _
  | stop => exact keeps_recorder_tellPeriodic _
  | push event => exact Keeps.bind (Keeps.get _ _) fun _ => Keeps.ite (Keeps.serve_aside rfl) (Keeps.modify_aside fun _ => rfl)
  | flush => exact Keeps.check fun _ => Keeps.modify_aside fun _ => rfl
  | pause => exact keeps_recorder_tellPeriodic _
  | resume => exact keeps_recorder_tellPeriodic _
  | destroy =>
    refine Keeps.check fun _ => ?_
    exact Keeps.bind (Keeps.modify_aside fun _ => rfl) fun _ => keeps_recorder_tellPeriodic _

theorem keeps_sendEvents : Keeps (Since p l) eventRecorder.sendEvents :=
  Keeps.bind (Keeps.get _ _) fun _ => Keeps.bind (keeps_makers_tell _ (by simp)) fun _ _ h => h

/-- A turn of the pipeline of the events. -/
theorem keeps_recorder_handleNext : Keeps (Since p l) eventRecorder.handleNext := by
  refine Keeps.bind (Keeps.step_aside fun _ => rfl) fun next => ?_
  match next with
  | none => exact Keeps.pure _
  | some .flush => exact Keeps.bind keeps_sendEvents fun _ => Keeps.pure _
  | some (.push event) =>
    have offered : Keeps (Since p l) (eventRecorder.queue.offer eventRecorder.gauge event event.byteSize) := by
      refine Keeps.bind (Keeps.serveWith_aside rfl _) fun result => ?_
      cases result with
      | error _ => exact Keeps.pure _
      | ok _ => exact fun _ h => h
    refine Keeps.bind (Keeps.bind offered fun due => ?_) fun _ => Keeps.pure _
    exact Keeps.ite (Keeps.bind keeps_sendEvents fun _ => Keeps.serve_aside rfl) (Keeps.serve_aside rfl)

end Pipelines

/-! ## The synchronizer -/

section Synchronizer

open Synchronizer (Command)

variable {P : Ensemble → Prop} {act : Playing Unit}

/-- What is done only while the synchronizer is not destroyed. -/
theorem keeps_ifAlive (kept : Keeps P act) : Keeps P (e.fullSynchronizer.ifAlive act) :=
  Keeps.check fun _ => kept

/-- Once the synchronizer is destroyed, that is not done. -/
theorem run_ifAlive_destroyed (destroyed : s.synchronizer.destroyed = true) :
    (e.fullSynchronizer.ifAlive act).run s = ((), s) := by
  show (if (!s.synchronizer.destroyed) = true then act else pure () : Playing Unit).run s = _
  rw [destroyed]
  rfl

/-- Starting to record concerns the pipelines only. -/
theorem keeps_startRecording : Keeps (Since p l) e.fullSynchronizer.startRecording :=
  keeps_ifAlive (Keeps.bind (keeps_tracker_run _) fun _ => keeps_recorder_run _)

theorem keeps_stopRecording : Keeps (Since p l) e.fullSynchronizer.stopRecording :=
  Keeps.bind (keeps_tracker_run _) fun _ => keeps_recorder_run _

/-- The user's answer concerns the pipelines only. -/
theorem keeps_setConsent (consent : Consent) : Keeps (Since p l) (e.fullSynchronizer.setConsent consent) := by
  refine Keeps.bind (Keeps.modify_aside fun _ => rfl) fun _ => Keeps.bind (keeps_tracker_run _) fun _ => ?_
  exact Keeps.bind (keeps_tracker_run _) fun _ => Keeps.ite keeps_startRecording keeps_stopRecording

/-- Whatever the synchronizer is told but to end. -/
theorem keeps_synchronizer_run {command : Command} (other : command ≠ .destroy) :
    Keeps (Since .working l) (e.fullSynchronizer.run command) := by
  cases command with
  | loadFlags => exact keeps_ifAlive (keeps_flags_run _)
  | loadAndSynchronizeFlags => exact keeps_ifAlive (keeps_flags_run _)
  | loadSegments scope => exact keeps_ifAlive (keeps_tellSegments fun _ => keeps_segments_run _)
  | loadAttributes scope => exact keeps_ifAlive keeps_loadAttributes
  | startKey key => exact keeps_ifAlive (keeps_startSync key)
  | synchronizeAll =>
    exact keeps_ifAlive (Keeps.bind (keeps_flags_run _) fun _ => keeps_tellSegments fun _ => keeps_segments_run _)
  | synchronizeFlags => exact keeps_ifAlive (keeps_flags_run _)
  | synchronizeFlagsTo changeNumber => exact keeps_ifAlive (keeps_flags_run _)
  | synchronizeSegments scope => exact keeps_ifAlive (keeps_tellSegments fun _ => keeps_segments_run _)
  | forceSegments scope target delay => exact keeps_ifAlive (keeps_tellSegments fun _ => keeps_segments_run _)
  | startFetching => exact keeps_ifAlive (Keeps.bind (keeps_flags_run _) fun _ => keeps_startPolling)
  | stopFetching => exact Keeps.bind keeps_flags_stopPeriodic fun _ => keeps_stopPolling
  | startRecording => exact keeps_startRecording
  | stopRecording => exact keeps_stopRecording
  | setConsent consent => exact keeps_ifAlive (keeps_setConsent consent)
  | pushImpression pushed => exact keeps_ifAlive (keeps_tracker_run _)
  | pushEvent event =>
    refine keeps_ifAlive (Keeps.bind (Keeps.bind (Keeps.get _ _) fun _ => Keeps.pure _) fun _ => ?_)
    exact Keeps.ite (keeps_recorder_run _) (Keeps.pure _)
  | notifySegmentsUpdated scope => exact keeps_tellSegments fun _ => keeps_segments_run _
  | notifyLargeSegmentsUpdated scope => exact keeps_tellSegments fun _ => keeps_segments_run _
  | notifyFlagsUpdated => exact keeps_flags_run _
  | notifyFlagKilled kill => exact keeps_ifAlive (Keeps.bind (keeps_flags_run _) fun _ => keeps_flags_run _)
  | pause =>
    refine keeps_ifAlive (Keeps.bind (keeps_flags_run _) fun _ => ?_)
    refine Keeps.bind (keeps_tellSegments fun _ => keeps_segments_run _) fun _ => ?_
    exact Keeps.bind (keeps_tracker_run _) fun _ => keeps_recorder_run _
  | resume =>
    refine keeps_ifAlive (Keeps.bind (keeps_flags_run _) fun _ => ?_)
    refine Keeps.bind (keeps_tellSegments fun _ => keeps_segments_run _) fun _ => ?_
    exact Keeps.bind (keeps_tracker_run _) fun _ => keeps_recorder_run _
  | flush => exact keeps_ifAlive (Keeps.bind (keeps_tracker_run _) fun _ => keeps_recorder_run _)
  | destroy => exact (other rfl).elim

/-- Once the synchronizer is destroyed, whatever it is told only closes things. -/
theorem since_synchronizer_destroyed (destroyed : s.synchronizer.destroyed = true) (h : Since p l s) (command : Command) :
    Since p l ((e.fullSynchronizer.run command).run s).2 := by
  have skipped {act : Playing Unit} : Since p l ((e.fullSynchronizer.ifAlive act).run s).2 := by
    rw [run_ifAlive_destroyed destroyed]
    exact h
  cases command with
  | stopFetching => exact Keeps.bind keeps_flags_stopPeriodic (fun _ => keeps_stopPolling) s h
  | stopRecording => exact keeps_stopRecording s h
  | notifySegmentsUpdated scope => exact keeps_tellSegments (fun _ => Keeps.serve_aside rfl) s h
  | notifyLargeSegmentsUpdated scope => exact keeps_tellSegments (fun _ => Keeps.serve_aside rfl) s h
  | notifyFlagsUpdated => exact Keeps.serve_aside rfl s h
  | _ => exact skipped

end Synchronizer

end FlagKeeper.Ensemble
