import FlagKeeper.Proofs.Ensemble.Keeps

/-!
# The parts keep their books

Each program of the parts below the manager, at the pace that it needs. Closing down only tells workers to stop; starting a worker
may let it go, for it may be done at once; and only catching up with a target takes on work.
-/

namespace FlagKeeper.Ensemble

open Ledger (Pace)

variable {p : Pace} {l : Ledger} {s e : Ensemble}

/-! ## Telling workers -/

section Tell

variable {fin : Worker → Outcome → Playing Unit}

/-- A worker that is told anything but to start is told so, and that is all. -/
theorem run_tell {order : WorkerOrder} (other : order ≠ .start) (w : Worker) :
    ((Ground.makers hostCell fin).tell w order).run s = ((), s.note (.tell w order)) := by
  show ((if order = .start then _ else pure () : Playing Unit).run (s.note (.tell w order))) = _
  rw [if_neg other]
  rfl

/-- The same of a worker that there may be. -/
theorem run_tellAny {order : WorkerOrder} (other : order ≠ .start) (w? : Option Worker) :
    (match w? with
      | some w => (Ground.makers hostCell fin).tell w order
      | none => pure () : Playing Unit).run s = ((), s.noteAll (w?.toList.map (Call.tell · order))) := by
  cases w? with
  | none => rfl
  | some w => exact run_tell other w

/-- Telling a worker anything but to stop, if what is done when it is done is kept track of. -/
theorem keeps_tell {order : WorkerOrder} (other : order ≠ .stop) (finished : ∀ w result, Keeps (Since p l) (fin w result))
    (w : Worker) : Keeps (Since p l) ((Ground.makers hostCell fin).tell w order) := by
  have aside : (Call.tell w order).stop? = none := by
    cases order <;> first | rfl | exact (other rfl).elim
  refine Keeps.bind (Keeps.serve_aside aside) fun _ => Keeps.ite (Keeps.bind (Keeps.answer _) fun result => ?_) (Keeps.pure _)
  cases result with
  | none => exact Keeps.pure _
  | some result => exact finished w result

/-- Telling a worker that stands by to stop. -/
theorem since_stop (h : Since p l s) {w : Worker}
    (stands : w ∈ s.ledger.pipelines ∨ ∃ d, w ∈ (s.ledger.desk d).standing) :
    Since p l (((Ground.makers hostCell fin).tell w .stop).run s).2 := by
  rw [run_tell (by simp)]
  exact h.of_step (.standDown w stands)

/-- Telling anything but to start or to stop. -/
theorem keeps_tell_aside {order : WorkerOrder} (other : order ≠ .stop) (start : order ≠ .start) (w : Worker) :
    Keeps (Since p l) ((Ground.makers hostCell fin).tell w order) := by
  intro s h
  have aside : (Call.tell w order).stop? = none := by
    cases order <;> first | rfl | exact (other rfl).elim
  rw [run_tell start]
  exact h.of_eq (ledger_note aside)

/-- What is under way is told to stop, and that is all. -/
theorem run_stopAll (workers : List Worker) :
    ((workers.forM fun w => (Ground.makers hostCell fin).tell w .stop).run s).2 =
      s.noteAll (workers.map fun w => Call.tell w .stop).reverse := by
  induction workers generalizing s with
  | nil => rfl
  | cons w rest ih =>
    show ((rest.forM fun w => (Ground.makers hostCell fin).tell w .stop).run (s.note (.tell w .stop))).2 = _
    rw [ih]
    simp [noteAll, note, Ground.note]

end Tell

section Stops

theorem stops_append (a b : List Call) : stops (a ++ b) = stops a ++ stops b := List.filterMap_append

theorem stops_reverse (calls : List Call) : stops calls.reverse = (stops calls).reverse := List.filterMap_reverse

theorem stops_tell_stop (workers : List Worker) : stops (workers.map (Call.tell · .stop)) = workers := by
  induction workers with
  | nil => rfl
  | cons w rest ih => exact congrArg (w :: ·) ih

theorem stops_tell_destroy (workers : List Worker) : stops (workers.map (Call.tell · .destroy)) = [] := by
  induction workers with
  | nil => rfl
  | cons w rest ih => exact ih

theorem note_eq_noteAll (c : Call) : s.note c = s.noteAll [c] := rfl

theorem noteAll_noteAll (first later : List Call) : (s.noteAll first).noteAll later = s.noteAll (later ++ first) := by
  simp [noteAll]

theorem ledger_noteAll (calls : List Call) :
    (s.noteAll calls).ledger = { s.ledger with stops := stops calls ++ s.ledger.stops } := by
  unfold ledger noteAll
  rw [stops_append]

end Stops

/-! ## A worker that is done -/

section Finish

/-- Taking the worker of a target out leaves the others. -/
theorem remove_sublist {τ : Type} [DecidableEq τ] (c : Catalog τ Worker) (target : τ) :
    ((c.remove target).2.entries.map (·.2)).Sublist (c.entries.map (·.2)) :=
  List.Sublist.map _ (List.filter_sublist ..)

/-- Putting a desk where it stands changes nothing. -/
theorem put_desk (l : Ledger) (d : Nat) : l.put d (l.desk d) = l := by
  unfold Ledger.put Ledger.desk
  have same : l.desks.set d (l.desks[d]?.getD (segmentsDesk nobody.segments)) = l.desks := by
    refine List.ext_getElem? fun i => ?_
    rw [List.getElem?_set]
    by_cases at_d : d = i
    · subst at_d
      cases there : l.desks[d]? with
      | none => simp [List.getElem?_eq_none_iff.1 there]
      | some k => simp [(List.getElem?_eq_some_iff.1 there).1]
    · rw [if_neg at_d]
  rw [same]

/-- What the desk of an identity does not show does not concern the books. -/
theorem ledger_setSegments_aside {bundle : BundleId} {st : SegmentSync.State}
    (same : segmentsDesk st = segmentsDesk (s.identity bundle).segments) : (s.setSegments bundle st).ledger = s.ledger := by
  rw [ledger_setSegments, same, ← desk_segments, put_desk]

/-- A step at the desk of an identity. -/
theorem since_setSegments (h : Since p l s) {bundle : BundleId} {st : SegmentSync.State} {k : Desk}
    (shown : segmentsDesk st = k) (step : Ledger.Step p s.ledger (s.ledger.put (bundle + 1) k)) :
    Since p l (s.setSegments bundle st) := by
  refine h.of_step ?_
  rw [ledger_setSegments, shown]
  exact step

/-- A catch-up that is over lets its target go. -/
theorem keeps_catchUpCompleted (calm : p ≠ .closing) (changeNumber : Int) (result : Outcome) :
    Keeps (Since p l) ((e.flagSyncWith leave).catchUpCompleted changeNumber result) := by
  refine Keeps.bind (Keeps.modify fun s h => ?_) fun _ => ?_
  · exact h.of_step (.letGo calm 0 _ (remove_sublist s.flags.catalog changeNumber))
  · cases result with
    | ok _ => exact Keeps.broadcast _
    | error _ => exact Keeps.pure _

/-- A worker that has reached its target lets it go. -/
theorem keeps_reachCompleted (calm : p ≠ .closing) (bundle : BundleId) (target : ChangeNumbers) :
    Keeps (Since p l) ((e.segmentSyncWith leave bundle).reachCompleted target) := by
  refine Keeps.modify fun s h => ?_
  have desk := desk_segments s bundle
  have fewer := remove_sublist (s.identity bundle).segments.catalog target
  rw [show (s.identity bundle).segments.catalog.entries.map (·.2) = (s.ledger.desk (bundle + 1)).underWay by rw [desk]; rfl]
    at fewer
  have step := Ledger.Step.letGo (l := s.ledger) calm (bundle + 1) _ fewer
  rw [desk] at step
  exact since_setSegments h rfl step

/-- A full refresh that is over does not concern the books. -/
theorem keeps_refreshCompleted (bundle : BundleId) :
    Keeps (Since p l) (e.segmentSyncWith leave bundle).refreshCompleted :=
  Keeps.modify_aside fun _ => ledger_setSegments_aside rfl

/-- A fetch of all flags that is over does not concern the books. -/
theorem keeps_mainCompleted (result : Outcome) : Keeps (Since p l) (FlagSync.mainCompleted broadcast result) := by
  unfold FlagSync.mainCompleted
  cases FlagSync.mainReport result with
  | some event => exact Keeps.broadcast event
  | none => exact Keeps.pure _

/-- A worker that is done lets its target go, at most. -/
theorem keeps_finish (calm : p ≠ .closing) (owner : Option BundleId) (w : Worker) (result : Outcome) :
    Keeps (Since p l) (e.finish owner w result) := by
  unfold finish
  split
  · exact keeps_mainCompleted result
  · exact keeps_catchUpCompleted calm _ result
  · exact keeps_refreshCompleted _
  · exact keeps_reachCompleted calm _ _
  · exact Keeps.pure _

end Finish

/-! ## The flag synchronizer -/

section Flags

/-- Telling the periodic worker anything but to stop. -/
theorem keeps_flags_tellPeriodic {order : WorkerOrder} (other : order ≠ .stop) (calm : order = .start → p ≠ .closing) :
    Keeps (Since p l) (e.flagSync.tellPeriodic order) := by
  refine Keeps.bind (Keeps.get _ _) fun st => Keeps.option (fun w => ?_) st.periodicWorker
  by_cases start : order = .start
  · exact keeps_tell other (fun w result => keeps_finish (calm start) none w result) w
  · exact keeps_tell_aside other start w

/-- Telling the periodic worker to stop. -/
theorem keeps_flags_stopPeriodic : Keeps (Since p l) (e.flagSync.tellPeriodic .stop) := by
  refine Keeps.get_bind fun s h => ?_
  cases standing : s.flags.periodicWorker with
  | none => exact h
  | some w =>
    refine since_stop h (.inr ⟨0, ?_⟩)
    rw [desk_flags, flagsDesk, standing]
    simp

/-- Starting a fetch of all flags. -/
theorem keeps_fetchAll (calm : p ≠ .closing) : Keeps (Since p l) e.flagSync.fetchAll := by
  refine Keeps.bind (Keeps.get _ _) fun st => ?_
  exact Keeps.ite (keeps_tell (by simp) (fun w result => keeps_finish calm none w result) _) (Keeps.pure _)

/-- Catching up with a change takes on one worker at most. -/
theorem keeps_catchUp (changeNumber : Int) : Keeps (Since .working l) (e.flagSync.catchUp changeNumber) := by
  intro s h
  refine after_guard rfl h fun gone => after_guard rfl h fun _ => after_guard rfl h fun absent => ?_
  let w : Worker := ⟨.flagsUpdate changeNumber, s.ground.made⟩
  have opened : s.flags.stopped = false := by
    simp only [Bool.or_eq_true, not_or, Bool.not_eq_true] at gone
    exact gone.1
  have new : s.flags.catalog.insertIfAbsent changeNumber w = (true, ⟨s.flags.catalog.entries ++ [(changeNumber, w)]⟩) :=
    if_neg absent
  show Since .working l ((if (s.flags.catalog.insertIfAbsent changeNumber w).1 = true then e.flagSync.workers.tell w .start
    else pure () : Playing Unit).run
      { s with
        ground := { s.ground with made := s.ground.made + 1, calls := .create w :: s.ground.calls }
        flags := { s.flags with catalog := (s.flags.catalog.insertIfAbsent changeNumber w).2 } }).2
  rw [new]
  refine keeps_tell (by simp) (fun w result => keeps_finish (by simp) none w result) w _ (h.of_step ?_)
  have step := Ledger.Step.take (p := .working) (l := s.ledger) rfl 0 opened w rfl rfl
  rw [desk_flags] at step
  simpa [ledger, flagsDesk, Ledger.put, stops, Call.stop?, List.filterMap_cons] using step

/-- Telling the periodic worker anything but to start. -/
theorem run_flags_tellPeriodic {order : WorkerOrder} (other : order ≠ .start) :
    (e.flagSync.tellPeriodic order).run s = ((), s.noteAll (s.flags.periodicWorker.toList.map (Call.tell · order))) :=
  run_tellAny other s.flags.periodicWorker

theorem run_flags_modify (f : FlagSync.State → FlagSync.State) :
    (flagsCell.modify f).run s = ((), { s with flags := f s.flags }) := rfl

theorem run_flags_step {α : Type} (f : FlagSync.State → α × FlagSync.State) :
    (flagsCell.step f).run s = ((f s.flags).1, { s with flags := (f s.flags).2 }) := rfl

/-- The end of the flag synchronizer. -/
theorem run_flags_shutDown (opened : s.flags.stopped = false) :
    (e.flagSync.shutDown.run s).2 =
      noteAll { s with flags := { s.flags with stopped := true, catalog := {} } }
        (((s.flags.catalog.entries.map (·.2)).map fun w => Call.tell w .stop).reverse ++
          (s.flags.periodicWorker.toList.map (Call.tell · .destroy) ++
            (s.flags.periodicWorker.toList.map (Call.tell · .stop) ++ [.tell s.flags.mainWorker .stop]))) := by
  show ((if s.flags.stopped = true then pure () else do
    flagsCell.modify fun st => { st with stopped := true }
    (Ground.makers hostCell (e.finish none)).tell s.flags.mainWorker .stop
    e.flagSync.tellPeriodic .stop
    e.flagSync.tellPeriodic .destroy
    let inFlight ← flagsCell.step fun st => (st.catalog.takeAll.1, { st with catalog := st.catalog.takeAll.2 })
    inFlight.forM fun w => (Ground.makers hostCell (e.finish none)).tell w .stop : Playing Unit).run s).2 = _
  rw [opened, if_neg Bool.false_ne_true]
  have stop : WorkerOrder.stop ≠ .start := by decide
  have destroy : WorkerOrder.destroy ≠ .start := by decide
  simp only [run_bind, run_flags_modify, run_tell stop, run_flags_tellPeriodic stop, run_flags_tellPeriodic destroy,
    run_flags_step, run_stopAll]
  simp [noteAll, note, Ground.note, Catalog.takeAll]

/-- The end of the flag synchronizer closes its desk. -/
theorem keeps_flags_shutDown : Keeps (Since p l) e.flagSync.shutDown := by
  intro s h
  cases stopped : s.flags.stopped with
  | true => exact after_guard (c := fun st : FlagSync.State => st.stopped = true) rfl h fun opened => (opened stopped).elim
  | false =>
    rw [run_flags_shutDown stopped]
    have standing : ∀ w ∈ s.flags.periodicWorker.toList ++ [s.flags.mainWorker], w ∈ (s.ledger.desk 0).standing := by
      intro w inside
      rw [List.mem_append, List.mem_singleton] at inside
      rcases inside with periodic | rfl
      · exact List.mem_cons_of_mem _ periodic
      · exact List.mem_cons_self
    have closes := Ledger.steps_close (p := p) (l := s.ledger) (d := 0) stopped standing
    refine h.trans ?_
    rw [ledger_noteAll, stops_append, stops_append, stops_append, stops_reverse, stops_tell_stop, stops_tell_stop,
      stops_tell_destroy, List.append_assoc]
    exact closes

/-- After the end of the flag synchronizer its desk is closed. -/
theorem closed_flags_shutDown : ((e.flagSync.shutDown.run s).2.ledger.desk 0).closed = true := by
  cases stopped : s.flags.stopped with
  | true =>
    exact after_guard (P := fun s' => (s'.ledger.desk 0).closed = true) (c := fun st : FlagSync.State => st.stopped = true) rfl
      stopped fun opened => (opened stopped).elim
  | false =>
    rw [run_flags_shutDown stopped]
    rfl

/-- One operation after another, the second only after a success. -/
theorem keeps_andThen {P : Ensemble → Prop} {first next : Playing Outcome} (hfirst : Keeps P first) (hnext : Keeps P next) :
    Keeps P (FlagSync.andThen first next) := by
  refine Keeps.bind hfirst fun result => ?_
  cases result with
  | ok _ => exact hnext
  | error _ => exact Keeps.pure _

/-- Bringing the cache in line with the filter does not concern the books. -/
theorem keeps_reconcile : Keeps (Since p l) e.flagSync.reconcile := by
  refine Keeps.bind (Keeps.answer _) fun query => Keeps.ite (Keeps.pure _) (Keeps.bind (Keeps.answer _) fun flags => ?_)
  refine keeps_andThen (Keeps.ite (Keeps.pure _) ?_) (Keeps.serveWith_aside rfl _)
  exact keeps_andThen (Keeps.serveWith_aside rfl _) (Keeps.serveWith_aside rfl _)

/-- Loading the flags does not concern the books. -/
theorem keeps_loadFromCache : Keeps (Since p l) e.flagSync.loadFromCache := by
  refine Keeps.bind (Keeps.serveWith_aside rfl _) fun _ => Keeps.bind keeps_reconcile fun _ => ?_
  exact Keeps.bind (Keeps.answer _) fun flags => Keeps.ite (Keeps.serve_aside rfl) (Keeps.pure _)

/-- Background work for the flags starts a fetch at most. -/
theorem keeps_flags_runJob (calm : p ≠ .closing) (job : FlagSync.Job) : Keeps (Since p l) (e.flagSync.runJob job) := by
  cases job with
  | loadAndAnnounce => exact Keeps.bind keeps_loadFromCache fun _ => Keeps.broadcast _
  | loadAndFetch => exact Keeps.bind keeps_loadFromCache fun _ => keeps_fetchAll calm
  | kill kill =>
    refine Keeps.bind (Keeps.serveWith_aside rfl _) fun result => ?_
    split
    · exact Keeps.serve_aside rfl
    · exact Keeps.pure _

/-- Whatever the flag synchronizer is told. -/
theorem keeps_flags_run (command : FlagSync.Command) : Keeps (Since .working l) (e.flagSync.run command) := by
  cases command with
  | load => exact Keeps.later _
  | loadAndSynchronize => exact Keeps.later _
  | synchronize => exact keeps_fetchAll (by simp)
  | synchronizeTo changeNumber => exact keeps_catchUp changeNumber
  | startPeriodic =>
    exact Keeps.check fun st => keeps_flags_tellPeriodic (by simp) (by simp)
  | stopPeriodic => exact keeps_flags_stopPeriodic
  | notifyKilled kill => exact Keeps.check fun st => Keeps.later _
  | notifyUpdated => exact Keeps.serve_aside rfl
  | pause => exact keeps_flags_tellPeriodic (by simp) (by simp)
  | resume =>
    exact Keeps.check fun st => keeps_flags_tellPeriodic (by simp) (by simp)
  | stop => exact keeps_flags_shutDown

end Flags

/-! ## The segment synchronizers -/

section Segments

variable {bundle : BundleId}

/-- A segment synchronizer that is not destroyed is one of an identity. -/
theorem lt_of_alive (alive : (s.identity bundle).segments.destroyed = false) : bundle < s.identities.length := by
  refine Nat.lt_of_not_le fun gone => ?_
  rw [identity, List.getElem?_eq_none gone] at alive
  cases alive

/-- What was put for an identity is what is there then. -/
theorem identity_setSegments (there : bundle < s.identities.length) (st : SegmentSync.State) :
    ((s.setSegments bundle st).identity bundle).segments = st := by
  unfold identity setSegments
  rw [List.getElem?_modify_eq, List.getElem?_eq_getElem there]
  rfl

theorem setSegments_setSegments (st st' : SegmentSync.State) :
    (s.setSegments bundle st).setSegments bundle st' = s.setSegments bundle st' := by
  unfold setSegments
  rw [List.modify_modify_eq]
  rfl

theorem run_segments_modify (f : SegmentSync.State → SegmentSync.State) :
    ((segmentsCell bundle).modify f).run s = ((), s.setSegments bundle (f (s.identity bundle).segments)) := rfl

theorem run_segments_step {α : Type} (f : SegmentSync.State → α × SegmentSync.State) :
    ((segmentsCell bundle).step f).run s =
      ((f (s.identity bundle).segments).1, s.setSegments bundle (f (s.identity bundle).segments).2) := rfl

/-- Telling the periodic worker of an identity anything but to stop. -/
theorem keeps_segments_tellPeriodic {order : WorkerOrder} (other : order ≠ .stop) (calm : order = .start → p ≠ .closing) :
    Keeps (Since p l) ((e.segmentSync bundle).tellPeriodic order) := by
  refine Keeps.bind (Keeps.get _ _) fun st => Keeps.option (fun w => ?_) st.periodicWorker
  by_cases start : order = .start
  · exact keeps_tell other (fun w result => keeps_finish (calm start) (some bundle) w result) w
  · exact keeps_tell_aside other start w

/-- Telling the periodic worker of an identity to stop. -/
theorem keeps_segments_stopPeriodic : Keeps (Since p l) ((e.segmentSync bundle).tellPeriodic .stop) := by
  refine Keeps.get_bind fun s h => ?_
  cases standing : (s.identity bundle).segments.periodicWorker with
  | none => exact h
  | some w =>
    refine since_stop h (.inr ⟨bundle + 1, ?_⟩)
    rw [desk_segments, segmentsDesk, standing]
    simp

/-- A full refresh of an identity. -/
theorem keeps_refresh (calm : p ≠ .closing) : Keeps (Since p l) (e.segmentSync bundle).refresh := by
  refine Keeps.bind (Keeps.get _ _) fun st => Keeps.ite (Keeps.pure _) ?_
  refine Keeps.bind (Keeps.modify_aside fun s => ledger_setSegments_aside rfl) fun _ => ?_
  exact keeps_tell (by simp) (fun w result => keeps_finish calm (some bundle) w result) _

/-- Reaching a target takes on one worker at most. -/
theorem keeps_reach (target : ChangeNumbers) : Keeps (Since .working l) ((e.segmentSync bundle).reach target) := by
  intro s h
  refine after_guard rfl h fun free => ?_
  rw [Bool.or_eq_true, not_or, Bool.not_eq_true] at free
  obtain ⟨alive, absent⟩ := free
  let w : Worker := ⟨.segmentsUpdate (e.identity bundle).key target, s.ground.made⟩
  let st := (s.identity bundle).segments
  have new : st.catalog.insertIfAbsent target w = (true, ⟨st.catalog.entries ++ [(target, w)]⟩) := if_neg absent
  show Since .working l ((if (st.catalog.insertIfAbsent target w).1 = true then (e.segmentSync bundle).workers.tell w .start
    else pure () : Playing Unit).run
      (setSegments { s with ground := { s.ground with made := s.ground.made + 1, calls := .create w :: s.ground.calls } } bundle
        { st with catalog := (st.catalog.insertIfAbsent target w).2 })).2
  rw [new]
  refine keeps_tell (by simp) (fun w result => keeps_finish (by simp) (some bundle) w result) w _ (h.of_step ?_)
  have opened : (s.ledger.desk (bundle + 1)).closed = false := by
    rw [desk_segments]
    exact alive
  have step := Ledger.Step.take (p := .working) (l := s.ledger) rfl (bundle + 1) opened w rfl rfl
  rw [desk_segments] at step
  rw [ledger_setSegments]
  simpa [ledger, segmentsDesk, Ledger.put, stops, Call.stop?, List.filterMap_cons, st] using step

/-- A notification takes on a worker, or sets a timer, at most. -/
theorem keeps_force (target : ChangeNumbers) (delay : Duration) :
    Keeps (Since .working l) ((e.segmentSync bundle).force target delay) := by
  intro s h
  refine after_guard rfl h fun going => after_guard rfl h fun _ => ?_
  rw [Bool.or_eq_true, not_or, Bool.not_eq_true] at going
  -- the raised target is nothing that the desk shows
  let merged := (s.identity bundle).segments.target.merge target
  let s' := s.setSegments bundle { (s.identity bundle).segments with target := merged }
  have h' : Since .working l s' := h.of_eq (ledger_setSegments_aside rfl)
  have alive : (s'.identity bundle).segments.destroyed = false := by
    rw [identity_setSegments (lt_of_alive going.1)]
    exact going.1
  show Since .working l (((segmentsCell bundle).get >>= fun st =>
    if st.timers.isScheduled .syncSegments || st.catalog.contains merged then pure ()
    else if delay.isZero then (e.segmentSync bundle).reach merged
    else clocks.steady >>= fun now =>
      (segmentsCell bundle).modify fun st => { st with timers := (st.timers.add .syncSegments now delay ()).2 }).run s').2
  refine after_guard rfl h' fun _ => ?_
  by_cases atOnce : delay.isZero = true
  · rw [if_pos atOnce]
    exact keeps_reach merged s' h'
  · rw [if_neg atOnce]
    have opened : (s'.ledger.desk (bundle + 1)).closed = false := by
      rw [desk_segments]
      exact alive
    have step := Ledger.Step.arm (p := .working) (l := s'.ledger) rfl (bundle + 1) opened s'.steady delay
    rw [desk_segments] at step
    exact since_setSegments h' rfl step

/-- The delay of a notification is over. -/
theorem keeps_delayOver : Keeps (Since .working l) (e.segmentSync bundle).delayOver :=
  Keeps.bind (Keeps.get _ _) fun st => keeps_reach st.target

/-- Telling the periodic worker of an identity anything but to start. -/
theorem run_segments_tellPeriodic {order : WorkerOrder} (other : order ≠ .start) :
    ((e.segmentSync bundle).tellPeriodic order).run s =
      ((), s.noteAll ((s.identity bundle).segments.periodicWorker.toList.map (Call.tell · order))) :=
  run_tellAny other (s.identity bundle).segments.periodicWorker

theorem identity_noteAll (calls : List Call) : (s.noteAll calls).identity bundle = s.identity bundle := rfl

theorem noteAll_setSegments (calls : List Call) (st : SegmentSync.State) :
    (s.noteAll calls).setSegments bundle st = (s.setSegments bundle st).noteAll calls := rfl

/-- The end of a segment synchronizer. -/
theorem run_segments_shutDown (alive : (s.identity bundle).segments.destroyed = false) {st : SegmentSync.State}
    (held : (s.identity bundle).segments = st) :
    ((e.segmentSync bundle).shutDown.run s).2 =
      noteAll (s.setSegments bundle { st with destroyed := true, timers := st.timers.cancelAll, catalog := {} })
        (((st.catalog.entries.map (·.2)).map fun w => Call.tell w .stop).reverse ++
          (st.periodicWorker.toList.map (Call.tell · .destroy) ++ [.tell st.mainWorker .stop])) := by
  have there := lt_of_alive alive
  subst held
  show ((if (s.identity bundle).segments.destroyed = true then pure () else do
    (segmentsCell bundle).modify fun st => { st with destroyed := true }
    (Ground.makers hostCell (e.finish (some bundle))).tell (s.identity bundle).segments.mainWorker .stop
    (e.segmentSync bundle).tellPeriodic .destroy
    (segmentsCell bundle).modify fun st => { st with timers := st.timers.cancelAll }
    let inFlight ← (segmentsCell bundle).step fun st => (st.catalog.takeAll.1, { st with catalog := st.catalog.takeAll.2 })
    inFlight.forM fun w => (Ground.makers hostCell (e.finish (some bundle))).tell w .stop : Playing Unit).run s).2 = _
  rw [alive, if_neg Bool.false_ne_true]
  have stop : WorkerOrder.stop ≠ .start := by decide
  have destroy : WorkerOrder.destroy ≠ .start := by decide
  simp only [run_bind, run_segments_modify, run_tell stop, run_segments_tellPeriodic destroy, run_segments_step, run_stopAll,
    noteAll_setSegments, identity_noteAll, identity_setSegments there, setSegments_setSegments,
    noteAll_noteAll, note_eq_noteAll]
  rfl

/-- The end of a segment synchronizer closes its desk. -/
theorem keeps_segments_shutDown : Keeps (Since p l) (e.segmentSync bundle).shutDown := by
  intro s h
  cases destroyed : (s.identity bundle).segments.destroyed with
  | true =>
    exact after_guard (c := fun st : SegmentSync.State => st.destroyed = true) rfl h fun alive => (alive destroyed).elim
  | false =>
    rw [run_segments_shutDown destroyed rfl]
    have desk := desk_segments s bundle
    have opened : (s.ledger.desk (bundle + 1)).closed = false := by
      rw [desk]
      exact destroyed
    have standing : ∀ w ∈ [(s.identity bundle).segments.mainWorker], w ∈ (s.ledger.desk (bundle + 1)).standing := by
      intro w inside
      rw [List.mem_singleton.1 inside, desk]
      exact List.mem_cons_self
    have closes := Ledger.steps_close (p := p) opened standing
    refine h.trans ?_
    rw [ledger_noteAll, stops_append, stops_append, stops_reverse, stops_tell_stop, stops_tell_destroy, ledger_setSegments,
      List.append_assoc]
    rw [desk] at closes
    exact closes

/-- After the end of a segment synchronizer its desk is closed. -/
theorem closed_segments_shutDown :
    (((e.segmentSync bundle).shutDown.run s).2.ledger.desk (bundle + 1)).closed = true := by
  cases destroyed : (s.identity bundle).segments.destroyed with
  | true =>
    refine after_guard (P := fun s' => (s'.ledger.desk (bundle + 1)).closed = true)
      (c := fun st : SegmentSync.State => st.destroyed = true) rfl ?_ fun alive => (alive destroyed).elim
    rw [desk_segments]
    exact destroyed
  | false =>
    rw [run_segments_shutDown destroyed rfl, desk_segments, identity_noteAll, identity_setSegments (lt_of_alive destroyed)]
    rfl

/-- Loading the segments does not concern the books. -/
theorem keeps_loadCaches : Keeps (Since p l) (e.segmentSync bundle).loadCaches := by
  refine Keeps.bind (Keeps.serveWith_aside rfl _) fun _ => Keeps.bind (Keeps.serve_aside rfl) fun _ => ?_
  exact Keeps.bind (Keeps.serveWith_aside rfl _) fun _ => Keeps.serve_aside rfl

/-- Whatever a segment synchronizer is told. -/
theorem keeps_segments_run (command : SegmentSync.Command) : Keeps (Since .working l) ((e.segmentSync bundle).run command) := by
  cases command with
  | loadFromCache => exact Keeps.check fun st => Keeps.later _
  | synchronize => exact keeps_refresh (by simp)
  | force target delay => exact keeps_force target delay
  | startPeriodic =>
    exact Keeps.check fun st => keeps_segments_tellPeriodic (by simp) (by simp)
  | stopPeriodic => exact keeps_segments_stopPeriodic
  | notifyUpdated => exact Keeps.serve_aside rfl
  | notifyLargeUpdated => exact Keeps.serve_aside rfl
  | pause => exact keeps_segments_tellPeriodic (by simp) (by simp)
  | resume =>
    exact Keeps.check fun st => keeps_segments_tellPeriodic (by simp) (by simp)
  | destroy => exact keeps_segments_shutDown

end Segments

end FlagKeeper.Ensemble
