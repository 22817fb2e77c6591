import FlagKeeper.Proofs.Ensemble.Opening
import FlagKeeper.Proofs.Ensemble.Terminal

/-!
# How a start goes on

`Starting.take`: whatever happens to a client that starts and belongs to a start, its frame stays what it is, and its tally changes by
a `Move`. There are six moves but to stay: an announcement of the cache comes, the flags are loaded and announced, some other work is
done in the background, an announcement is handled and everything begins, one is handled later, and the pipeline of the impressions
begins.
-/

namespace FlagKeeper.Ensemble

/-- Whether an input announces the cache. -/
def Input.announces : Input → Bool
  | .broadcast event => event = .splitLoadedFromCache
  | _ => false

/-- Whether an input belongs to a start: another start, the end of a pause that there is not, the announcement of the cache or the
report of a fetch, a turn of the loop, of a pipeline or of the background, a worker that is done, time that passes, or a host that
changes its mind. -/
def Input.isStartUp : Input → Bool
  | .start => true
  | .resume => true
  | .broadcast event => event.isReport || event = .splitLoadedFromCache
  | .loop => true
  | .finish _ _ _ => true
  | .impressionsStep => true
  | .eventsStep => true
  | .jobStep => true
  | .advance _ => true
  | .setClock _ => true
  | .answer _ => true
  | _ => false

/-- The identities that have no full refresh under way: all that are registered, until fetching begins. -/
def Frame.idle (f : Frame) (t : Tally) : List BundleId := if t.begun then [] else f.bundles.map Prod.snd

/-- A client is starting: in its background it only loads, and its pipelines have nothing to do but to begin. -/
structure Starting (f : Frame) (t : Tally) (s : Ensemble) : Prop where
  stands : Stands f t (f.idle t) s
  jobs : ∀ job ∈ t.jobs, job.loads = true
  orders : ∀ order ∈ t.orders.queue, order = .start
  events : f.events.orders.queue = []

/-- A tally after an announcement was handled. -/
def Tally.handled (t : Tally) : Tally := { t with waiting := t.waiting - 1, announced := t.announced + 1 }

/-- A tally after fetching, streaming and recording have begun. -/
def Tally.beginning (t : Tally) (f : Frame) : Tally :=
  { t.opened f.beginning with begun := true, orders := if f.records then t.orders.send .start else t.orders }

/-- What an input can do to the tally of a client that starts. -/
inductive Tally.Move (f : Frame) (t : Tally) : Input → Tally → Prop where
  | stay (i : Input) (quiet : i.announces = false) (work : i = .jobStep → t.jobs = [])
      (records : i = .impressionsStep → t.orders.queue = []) : Move f t i t
  /-- An announcement comes. -/
  | announce : Move f t (.broadcast .splitLoadedFromCache) { t with waiting := t.waiting + 1 }
  /-- The flags are loaded and announced, and the host is notified or not. -/
  | load (rest : List Job) (first : t.jobs = .flags .loadAndAnnounce :: rest) (notices : Nat) :
    Move f t .jobStep { t with jobs := rest, notices, waiting := t.waiting + 1 }
  /-- Something else is loaded. -/
  | work (job : Job) (rest : List Job) (first : t.jobs = job :: rest) (other : job.announces = false) :
    Move f t .jobStep { t with jobs := rest }
  /-- An announcement is handled, and everything begins. -/
  | begin (waits : 0 < t.waiting) (fresh : t.begun = false) : Move f t .loop (t.handled.beginning f)
  /-- An announcement is handled after everything has begun. -/
  | again (waits : 0 < t.waiting) (begun : t.begun = true) : Move f t .loop t.handled
  /-- The pipeline of the impressions begins. -/
  | record (rest : List ImpressionTracker.Order) (first : t.orders.queue = .start :: rest) :
    Move f t .impressionsStep { t.opened f.recording with orders := { t.orders with queue := rest } }

variable {f : Frame} {t : Tally} {idle : List BundleId} {s e : Ensemble}

/-! ## The loop -/

section Loop

/-- An ensemble after the first event was taken out of its inbox and written down. -/
def taken (s : Ensemble) (event : StatusEvent) (rest : List StatusEvent) : Ensemble :=
  Ensemble.note { s with inbox := { s.inbox with queue := rest } } (.event event)

/-- A round of the loop of a client that starts: it acts on the event that came first. -/
theorem Stands.run_loop (going : f.IsGoing) (h : Stands f t idle s) :
    s.take .loop = match s.inbox.queue with
      | [] => s
      | event :: rest => ((s.syncManager.act event).run (s.taken event rest)).2 := by
  have loop : s.manager.loop = .running := (congrArg (·.loop) h.frame).trans going.loop
  have goesOn : s.manager.shutdownSent = false := (congrArg (·.shutdownSent) h.frame).trans going.shutdownSent
  have stopped : s.manager.stopped = false := (congrArg (·.stopped) h.frame).trans going.stopped
  have paused : s.manager.paused = false := (congrArg (·.paused) h.frame).trans going.paused
  show ((if s.manager.loop ≠ .running then pure false else if s.manager.shutdownSent = true then _
    else inboxCell.step Channel.receive >>= _ : Playing Bool).run s).2 = _
  rw [if_neg (not_not.2 loop), goesOn, if_neg Bool.false_ne_true, run_bind]
  cases waits : s.inbox.queue with
  | nil =>
    have nothing : (inboxCell.step Channel.receive).run s = (none, s) := by
      show (s.inbox.receive.1, { s with inbox := s.inbox.receive.2 }) = _
      unfold Channel.receive
      rw [waits]
    rw [nothing]
    rfl
  | cons event rest =>
    have first : (inboxCell.step Channel.receive).run s = (some event, { s with inbox := { s.inbox with queue := rest } }) := by
      show (s.inbox.receive.1, { s with inbox := s.inbox.receive.2 }) = _
      unfold Channel.receive
      rw [waits]
    rw [first]
    show ((if s.manager.stopped = true then pure () else if s.manager.paused = true then _ else s.syncManager.act event :
      Playing Unit).run (s.taken event rest)).2 = _
    rw [stopped, paused]
    rfl

/-- Taking the report of a fetch out of the inbox leaves a client where it stands. -/
theorem Stands.taken_report (h : Stands f t idle s) {event : StatusEvent} {rest : List StatusEvent}
    (first : s.inbox.queue = event :: rest) (report : event.isReport = true) : Stands f t idle (s.taken event rest) := by
  have other : event ≠ .splitLoadedFromCache := by
    rintro rfl
    cases report
  have aside : (Call.event event).isAside = true := by
    cases event <;> first | rfl | exact (other rfl).elim
  have without : Stands f t idle { s with inbox := { s.inbox with queue := rest } } := by
    refine ⟨h.frame, ?_, h.inboxOpen, fun event' inside => ?_, h.idle⟩
    · rw [← h.tally]
      unfold Ensemble.tally
      rw [first, List.count_cons_of_ne other]
    · exact h.inbox event' (first ▸ List.mem_cons_of_mem _ inside)
  exact without.note aside

/-- Taking an announcement out of the inbox. -/
theorem Stands.taken_announcement (h : Stands f t idle s) {rest : List StatusEvent}
    (first : s.inbox.queue = .splitLoadedFromCache :: rest) :
    0 < t.waiting ∧ Stands f t.handled idle (s.taken .splitLoadedFromCache rest) := by
  have waiting : t.waiting = rest.count .splitLoadedFromCache + 1 := by
    rw [← h.tally]
    unfold Ensemble.tally
    rw [first, List.count_cons_self]
  refine ⟨by omega, ⟨h.frame, ?_, h.inboxOpen, fun event inside => ?_, h.idle⟩⟩
  · unfold Tally.handled
    rw [waiting, Nat.add_sub_cancel, ← h.tally]
    simp [Ensemble.tally, taken, Ensemble.note, Ground.note, Call.isOpening, Call.isNotice]
    exact List.countP_cons_of_pos rfl
  · exact h.inbox event (first ▸ List.mem_cons_of_mem _ inside)

/-- Acting on the report of a fetch leaves a client where it stands. -/
theorem stands_act_report (staffed : f.IsStaffed) {event : StatusEvent} (report : event.isReport = true) :
    Keeps (Stands f t idle) (e.syncManager.act event) := by
  cases event with
  | syncExecuted => exact Keeps.bind (fun _ h => h) fun _ => stands_modify fun _ => ⟨rfl, rfl⟩
  | uriTooLongOnSync => exact stands_stopTransports staffed
  | _ => cases report

/-- Stopping the transports puts nothing into the inbox. -/
theorem inbox_stopTransports (inbox : Channel StatusEvent) : Keeps (fun s => s.inbox = inbox) e.syncManager.stopTransports := by
  have push : Keeps (fun s => s.inbox = inbox) (e.syncManager.tellPush .stop) := by
    unfold Manager.tellPush syncManager
    cases e.hasPush with
    | true => exact fun _ h => h
    | false => exact Keeps.pure _
  have fetching : Keeps (fun s => s.inbox = inbox) (e.fullSynchronizer.run .stopFetching) := by
    refine Keeps.bind (fun s h => ?_) fun _ => Keeps.bind (fun _ h => h) fun _ => keeps_tellSegments fun bundle s h => ?_
    · exact (congrArg (fun r : Unit × Ensemble => r.2.inbox) (run_flags_tellPeriodic (by simp))).trans h
    · exact (congrArg (fun r : Unit × Ensemble => r.2.inbox) (run_segments_tellPeriodic (by simp))).trans h
  have noted (change : Health → Int → Health) : Keeps (fun s => s.inbox = inbox) (e.syncManager.noteHealth change) :=
    Keeps.bind (fun _ h => h) fun _ _ h => h
  refine Keeps.bind (fun _ h => h) fun _ => Keeps.bind push fun _ => Keeps.bind fetching fun _ => ?_
  refine Keeps.bind (fun _ h => h) fun _ => Keeps.bind (noted _) fun _ => Keeps.bind (noted _) fun _ => ?_
  exact Keeps.bind (noted _) fun _ _ h => h

/-- Acting on the report of a fetch puts nothing into the inbox. -/
theorem inbox_act_report {event : StatusEvent} (report : event.isReport = true) (inbox : Channel StatusEvent) :
    Keeps (fun s => s.inbox = inbox) (e.syncManager.act event) := by
  cases event with
  | syncExecuted => exact Keeps.bind (fun _ h => h) fun _ _ h => h
  | uriTooLongOnSync => exact inbox_stopTransports inbox
  | _ => cases report

/-- After everything has begun, an announcement leaves it at that. -/
theorem Stands.act_again (h : Stands f t idle s) (begun : t.begun = true) :
    (e.syncManager.act .splitLoadedFromCache).run s = ((), s) := by
  have started : s.manager.remoteStarted = true := (congrArg Tally.begun h.tally).trans begun
  show (if (!s.manager.remoteStarted) = true then _ else pure () : Playing Unit).run s = _
  rw [started]
  rfl

end Loop

/-! ## The background -/

section Background

/-- The flags that the store of the host gives now. -/
def cached (s : Ensemble) : List FeatureFlag := s.ground.answers.flags s.ground.calls

/-- An ensemble after its host was notified that there are flags in the cache, if there are. -/
def notified (s : Ensemble) : Ensemble := if s.cached.isEmpty then s else s.note (.signal none .splitsLoadedFromCache)

/-- An ensemble after the piece of background work that came first was taken up and the flags were loaded and reconciled. -/
def reconciled (s : Ensemble) : Ensemble := (s.flagSync.reconcile.run (Ensemble.note { s with jobs := s.jobs.tail } .loadFlags)).2

/-- An ensemble after the cache was announced. -/
def announced (s : Ensemble) : Ensemble := { s with inbox := s.inbox.send .splitLoadedFromCache }

/-- The background loads the flags and announces them: however loading and reconciling go, the host is notified if there are flags,
and then the cache is announced. -/
theorem run_announce {rest : List Job} (first : s.jobs = .flags .loadAndAnnounce :: rest) :
    s.take .jobStep = s.reconciled.notified.announced := by
  have notify (s : Ensemble) : ((if (!s.cached.isEmpty) = true then Ground.serve hostCell (.signal none .splitsLoadedFromCache)
      else pure () : Playing Unit).run s).2 = s.notified := by
    unfold notified
    cases s.cached.isEmpty <;> rfl
  have run : s.take .jobStep = Ensemble.announced ((if (!s.reconciled.cached.isEmpty) = true then
      Ground.serve hostCell (.signal none .splitsLoadedFromCache) else pure () : Playing Unit).run s.reconciled).2 := by
    unfold reconciled
    rw [first]
    show (s.nextJob.run s).2 = _
    rw [run_nextJob, first]
    rfl
  rw [run, notify]

/-- Taking up the piece of background work that comes first. -/
theorem Stands.takenUp (h : Stands f t idle s) (rest : List Job) : Stands f { t with jobs := rest } idle { s with jobs := rest } := by
  refine ⟨h.frame, ?_, h.inboxOpen, h.inbox, h.idle⟩
  rw [← h.tally]
  rfl

/-- The host is notified if there are flags. -/
theorem Stands.notified (h : Stands f t idle s) :
    Stands f { t with notices := t.notices + (if s.cached.isEmpty then 0 else 1) } idle s.notified := by
  unfold Ensemble.notified
  cases s.cached.isEmpty with
  | true => exact h
  | false =>
    refine ⟨h.frame, ?_, h.inboxOpen, h.inbox, h.idle⟩
    rw [← h.tally]
    simp only [Ensemble.tally, Ensemble.note, Ground.note]
    rw [if_neg Bool.false_ne_true, if_neg Bool.false_ne_true, List.countP_cons_of_pos rfl,
      List.countP_cons_of_neg Bool.false_ne_true, List.filter_cons_of_neg Bool.false_ne_true]

/-- The cache is announced. -/
theorem Stands.announced (h : Stands f t idle s) : Stands f { t with waiting := t.waiting + 1 } idle s.announced := by
  have sent : s.inbox.send .splitLoadedFromCache = { s.inbox with queue := s.inbox.queue ++ [.splitLoadedFromCache] } := by
    unfold Channel.send
    rw [if_pos h.inboxOpen]
  unfold Ensemble.announced
  rw [sent]
  refine ⟨h.frame, ?_, h.inboxOpen, fun event inside => ?_, h.idle⟩
  · rw [← h.tally]
    unfold Ensemble.tally
    rw [List.count_append, List.count_singleton_self]
  · rcases List.mem_append.1 inside with before | last
    · exact h.inbox event before
    · exact .inr (List.mem_singleton.1 last)

/-- The background of a client that starts loads its flags. -/
theorem Stands.loaded (h : Stands f t idle s) {rest : List Job} (first : s.jobs = .flags .loadAndAnnounce :: rest) :
    Stands f
      { t with jobs := rest, notices := t.notices + (if s.reconciled.cached.isEmpty then 0 else 1), waiting := t.waiting + 1 }
      idle (s.take .jobStep) := by
  have tail : s.jobs.tail = rest := congrArg List.tail first
  have reconciled : Stands f { t with jobs := rest } idle s.reconciled := by
    unfold reconciled
    rw [tail]
    exact stands_reconcile _ ((h.takenUp rest).note rfl)
  rw [run_announce first]
  exact reconciled.notified.announced

/-- The background of a client that starts loads something else. -/
theorem Stands.worked (h : Stands f t idle s) {job : Job} {rest : List Job} (first : s.jobs = job :: rest)
    (loads : job.loads = true) (other : job.announces = false) : Stands f { t with jobs := rest } idle (s.take .jobStep) := by
  have taken := h.takenUp rest
  show Stands f _ idle (s.nextJob.run s).2
  rw [run_nextJob, first]
  show Stands f _ idle ((s.runJob job).run { s with jobs := rest }).2
  cases job with
  | flags job =>
    cases job with
    | loadAndAnnounce => cases other
    | loadAndFetch => cases loads
    | kill _ => cases loads
  | loadSegments bundle => exact stands_loadCaches _ taken
  | registry job => exact stands_registry_runJob job _ taken

end Background

/-! ## The pipeline of the impressions -/

section Pipeline

/-- Starting some workers that nothing is done for when they are done. -/
theorem run_startAll (workers : List Worker) :
    (workers.forM fun w => makers.tell w .start).run s = ((), s.noteAll (workers.map (Call.tell · .start)).reverse) := by
  induction workers generalizing s with
  | nil => rfl
  | cons w rest ih =>
    have one : (makers.tell w .start).run s = ((), s.note (.tell w .start)) := by
      show (Ground.serve hostCell (.tell w .start) >>= fun _ =>
        if WorkerOrder.start = .start then Ground.answer hostCell Answers.completion >>= _ else pure () : Playing Unit).run s = _
      rw [run_bind, if_pos rfl, run_bind]
      cases ((Ground.answer hostCell Answers.completion).run ((Ground.serve hostCell (.tell w .start)).run s).2).1 <;> rfl
    show (makers.tell w .start >>= fun _ => rest.forM fun w => makers.tell w .start : Playing Unit).run s = _
    rw [run_bind, one, ih, List.map_cons, List.reverse_cons]
    simp [noteAll, Ensemble.note, Ground.note]

/-- The pipeline of the impressions starts the workers that send again and again. -/
theorem run_record {rest : List ImpressionTracker.Order} (first : s.tracker.orders.queue = .start :: rest) :
    s.take .impressionsStep =
      noteAll { s with tracker := { s.tracker with orders := { s.tracker.orders with queue := rest } } }
        (s.tracker.crew.periodic.map (Call.tell · .start)).reverse := by
  have received : s.tracker.orders.receive = (some .start, { s.tracker.orders with queue := rest }) := by
    unfold Channel.receive
    rw [first]
  show (s.impressionTracker.handleNext.run s).2 = _
  rw [run_tracker_handleNext, received]
  show ((s.tracker.crew.periodic.forM fun w => makers.tell w .start).run
    { s with tracker := { s.tracker with orders := { s.tracker.orders with queue := rest } } }).2 = _
  rw [run_startAll]

/-- Writing down calls that open something. -/
theorem Stands.openedAll (h : Stands f t idle s) {calls : List Call} (opening : ∀ c ∈ calls, c.isOpening = true) :
    Stands f (t.opened calls) idle (s.noteAll calls) := by
  induction calls with
  | nil => exact h
  | cons c rest ih =>
    have before := ih fun other inside => opening other (List.mem_cons_of_mem c inside)
    have after := before.opened (opening c List.mem_cons_self)
    rw [Tally.opened_opened] at after
    exact after

/-- The pipeline of the impressions begins. -/
theorem Stands.recorded (staffed : f.IsStaffed) (h : Stands f t idle s) {rest : List ImpressionTracker.Order}
    (first : t.orders.queue = .start :: rest) :
    Stands f { t.opened f.recording with orders := { t.orders with queue := rest } } idle (s.take .impressionsStep) := by
  have orders : s.tracker.orders = t.orders := congrArg Tally.orders h.tally
  have crew : s.tracker.crew.periodic = f.tracker.crew.periodic := congrArg (·.tracker.crew.periodic) h.frame
  have waits : s.tracker.orders.queue = .start :: rest := by rw [orders, first]
  rw [run_record waits, crew]
  have shorter : Stands f { t with orders := { t.orders with queue := rest } } idle
      { s with tracker := { s.tracker with orders := { s.tracker.orders with queue := rest } } } := by
    refine ⟨h.frame, ?_, h.inboxOpen, h.inbox, h.idle⟩
    rw [← h.tally]
    rfl
  refine shorter.openedAll fun c inside => ?_
  obtain ⟨w, member, rfl⟩ := List.mem_map.1 (List.mem_reverse.1 inside)
  exact staffed.crew member

end Pipeline

/-! ## What happens to a client that starts -/

/-- What the clocks show does not matter. -/
theorem Stands.clocks (h : Stands f t idle s) (steady : Nat) (wall : Int) : Stands f t idle { s with steady, wall } :=
  ⟨h.frame, h.tally, h.inboxOpen, h.inbox, h.idle⟩

section Take

/-- What leaves a client where it stands leaves it starting. -/
theorem Starting.stay (h : Starting f t s) {s' : Ensemble} (stands : Stands f t (f.idle t) s') : Starting f t s' :=
  { h with stands }

variable (staffed : f.IsStaffed) (going : f.IsGoing)

include staffed going

/-- A turn of the loop takes an event out of the inbox; only as everything begins more may come in. -/
theorem Starting.loop (h : Starting f t s) : ∃ t', Starting f t' (s.take .loop) ∧ t.Move f .loop t' ∧
    ((s.take .loop).inbox.queue = s.inbox.queue.tail ∨ t.begun = false ∧ t'.begun = true) := by
  rw [h.stands.run_loop going]
  cases waits : s.inbox.queue with
  | nil => exact ⟨t, h, .stay _ rfl nofun nofun, .inl waits⟩
  | cons event rest =>
    rcases h.stands.inbox event (waits ▸ List.mem_cons_self) with report | rfl
    · have acted := stands_act_report (e := s) staffed report _ (h.stands.taken_report waits report)
      have inbox := inbox_act_report (e := s) report { s.inbox with queue := rest } (s.taken event rest) rfl
      exact ⟨t, h.stay acted, .stay _ rfl nofun nofun, .inl (congrArg Channel.queue inbox)⟩
    · obtain ⟨waiting, taken⟩ := h.stands.taken_announcement waits
      cases begun : t.begun with
      | false =>
        rw [Frame.idle, begun, if_neg Bool.false_ne_true] at taken
        have beginning := taken.begin (e := s) staffed going (congrArg Frame.hasPush h.stands.frame) begun
        refine ⟨t.handled.beginning f, ⟨beginning, h.jobs, fun order inside => ?_, h.events⟩, .begin waiting begun, .inr ⟨rfl, rfl⟩⟩
        change order ∈ (if f.records then t.orders.send .start else t.orders).queue at inside
        split at inside
        · unfold Channel.send at inside
          split at inside
          · rcases List.mem_append.1 inside with before | last
            · exact h.orders order before
            · exact List.mem_singleton.1 last
          · exact h.orders order inside
        · exact h.orders order inside
      | true =>
        show ∃ t', Starting f t' ((s.syncManager.act .splitLoadedFromCache).run (s.taken .splitLoadedFromCache rest)).2 ∧ _ ∧
          (((s.syncManager.act .splitLoadedFromCache).run (s.taken .splitLoadedFromCache rest)).2.inbox.queue = _ ∨ _)
        rw [taken.act_again begun]
        exact ⟨t.handled, ⟨taken, h.jobs, h.orders, h.events⟩, .again waiting begun, .inl rfl⟩

omit going in
/-- A turn of the pipeline of the impressions. -/
theorem Starting.impressionsStep (h : Starting f t s) :
    ∃ t', Starting f t' (s.take .impressionsStep) ∧ t.Move f .impressionsStep t' := by
  have orders : s.tracker.orders = t.orders := congrArg Tally.orders h.stands.tally
  cases waits : t.orders.queue with
  | nil =>
    have nothing : s.tracker.orders.receive = (none, s.tracker.orders) := by
      unfold Channel.receive
      rw [orders, waits]
    have same : s.take .impressionsStep = s := by
      show (s.impressionTracker.handleNext.run s).2 = s
      rw [run_tracker_handleNext, nothing]
      rfl
    rw [same]
    exact ⟨t, h, .stay _ rfl nofun fun _ => waits⟩
  | cons order rest =>
    obtain rfl := h.orders order (waits ▸ List.mem_cons_self)
    refine ⟨_, ⟨h.stands.recorded staffed waits, h.jobs, fun other inside => ?_, h.events⟩, .record rest waits⟩
    exact h.orders other (waits ▸ List.mem_cons_of_mem _ inside)

omit staffed going in
/-- A turn of the background. -/
theorem Starting.jobStep (h : Starting f t s) : ∃ t', Starting f t' (s.take .jobStep) ∧ t.Move f .jobStep t' := by
  have jobs : s.jobs = t.jobs := congrArg Tally.jobs h.stands.tally
  cases waits : t.jobs with
  | nil =>
    have same : s.take .jobStep = s := by
      show (s.nextJob.run s).2 = s
      rw [run_nextJob, jobs, waits]
      rfl
    rw [same]
    exact ⟨t, h, .stay _ rfl (fun _ => waits) nofun⟩
  | cons job rest =>
    have first : s.jobs = job :: rest := jobs.trans waits
    have loads : ∀ other ∈ rest, other.loads = true := fun other inside => h.jobs other (waits ▸ List.mem_cons_of_mem _ inside)
    cases announces : job.announces with
    | false =>
      have worked := h.stands.worked first (h.jobs job (waits ▸ List.mem_cons_self)) announces
      exact ⟨_, ⟨worked, loads, h.orders, h.events⟩, .work job rest waits announces⟩
    | true =>
      have same : job = .flags .loadAndAnnounce := by
        cases job with
        | flags job => cases job <;> first | rfl | cases announces
        | loadSegments bundle => cases announces
        | registry job => cases announces
      subst same
      exact ⟨_, ⟨h.stands.loaded first, loads, h.orders, h.events⟩, .load rest waits _⟩

/-- Whatever belongs to a start leaves a client starting, and changes its tally by a move. -/
theorem Starting.take (h : Starting f t s) {i : Input} (ordinary : i.isStartUp = true) :
    ∃ t', Starting f t' (s.take i) ∧ t.Move f i t' := by
  have loop : s.manager.loop = .running := (congrArg (·.loop) h.stands.frame).trans going.loop
  have paused : s.manager.paused = false := (congrArg (·.paused) h.stands.frame).trans going.paused
  cases i with
  | start =>
    refine ⟨t, h.stay ?_, .stay _ rfl nofun nofun⟩
    refine after_check (c := fun st : Manager.State => st.loop = .waiting) rfl h.stands fun waiting => ?_
    cases loop.symm.trans waiting
  | resume =>
    refine ⟨t, h.stay ?_, .stay _ rfl nofun nofun⟩
    refine after_guard (c := fun st : Manager.State => (st.stopped || !st.paused) = true) rfl h.stands fun going => ?_
    rw [paused, Bool.not_false, Bool.or_true] at going
    exact (going rfl).elim
  | broadcast event =>
    by_cases announcement : event = .splitLoadedFromCache
    · subst announcement
      exact ⟨_, ⟨h.stands.announced, h.jobs, h.orders, h.events⟩, .announce⟩
    · have report : event.isReport = true := by
        simpa [Input.isStartUp, announcement] using ordinary
      exact ⟨t, h.stay (stands_report report s h.stands), .stay _ (decide_eq_false announcement) nofun nofun⟩
  | loop =>
    obtain ⟨t', after, move, -⟩ := h.loop staffed going
    exact ⟨t', after, move⟩
  | finish owner w result => exact ⟨t, h.stay (stands_finish owner w result s h.stands), .stay _ rfl nofun nofun⟩
  | impressionsStep => exact h.impressionsStep staffed
  | eventsStep =>
    have events : s.events = f.events := congrArg Frame.events h.stands.frame
    have nothing : s.events.orders.receive = (none, s.events.orders) := by
      unfold Channel.receive
      rw [events, h.events]
    have same : s.take .eventsStep = s := by
      show (eventRecorder.handleNext.run s).2 = s
      rw [run_recorder_handleNext, nothing]
      rfl
    rw [same]
    exact ⟨t, h, .stay _ rfl nofun nofun⟩
  | jobStep => exact h.jobStep
  | advance d => exact ⟨t, h.stay (h.stands.clocks _ _), .stay _ rfl nofun nofun⟩
  | setClock wall => exact ⟨t, h.stay (h.stands.clocks _ _), .stay _ rfl nofun nofun⟩
  | answer answers =>
    have same : Stands f t (f.idle t) (s.take (.answer answers)) :=
      ⟨h.stands.frame, h.stands.tally, h.stands.inboxOpen, h.stands.inbox, h.stands.idle⟩
    exact ⟨t, h.stay same, .stay _ rfl nofun nofun⟩
  | _ => cases ordinary

end Take

end FlagKeeper.Ensemble
