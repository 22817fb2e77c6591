import Mathlib.Data.List.Nodup
import FlagKeeper.Proofs.Ensemble.Staff

/-!
# What a start is about

A client opens by calls of a few kinds: its main workers are started, the streaming connection is, and the workers that send again
and again what was recorded. Of everything else about the client a start only needs to know a `Frame`, which stays what it is while
the client starts, and a `Tally`, which says how far the start has come: the opening calls so far, the announcements of the cache
that were handled and those that wait, the notices to the host, the background work, and whether fetching has begun.

`Stands` says where a client is by its frame and its tally. Whatever is done when a worker is done, whatever a worker is told that
does not open anything, and every fetch that is only reported leave a client where it stands.
-/

namespace FlagKeeper

/-- Whether a worker of a kind is started when a client opens. -/
def WorkerKind.opens : WorkerKind → Bool
  | .flagsSync => true
  | .segmentsSync _ => true
  | .periodicImpressions => true
  | .periodicCounts => true
  | .periodicUniqueKeys => true
  | .periodicEvents => true
  | _ => false

/-- Whether a status event reports how a fetch of flags went. -/
def StatusEvent.isReport : StatusEvent → Bool
  | .syncExecuted => true
  | .uriTooLongOnSync => true
  | _ => false

namespace Ensemble

/-- The worker that a call starts. -/
def Call.start? : Call → Option Worker
  | .tell w .start => some w
  | _ => none

/-- The workers that some calls start. -/
def starts (calls : List Call) : List Worker := calls.filterMap Call.start?

/-- Whether a call opens something: fetching, streaming or recording. -/
def Call.isOpening : Call → Bool
  | .tell w .start => w.kind.opens
  | .push .start => true
  | _ => false

/-- Whether a call tells the host that flags were loaded from the cache. -/
def Call.isNotice : Call → Bool
  | .signal none .splitsLoadedFromCache => true
  | _ => false

/-- Whether a call reports that the announcement of the cache is handled. -/
def Call.isAnnounced : Call → Bool
  | .event .splitLoadedFromCache => true
  | _ => false

/-- Whether a call is none of what a start is about. -/
def Call.isAside (c : Call) : Bool := !(c.isOpening || c.isNotice || c.isAnnounced)

/-- Whether a piece of background work is to load the flags and announce them. -/
def Job.announces : Job → Bool
  | .flags .loadAndAnnounce => true
  | _ => false

/-- Whether a piece of background work only loads something. -/
def Job.loads : Job → Bool
  | .flags .loadAndAnnounce => true
  | .loadSegments _ => true
  | .registry _ => true
  | _ => false

/-- What of a part that fetches stays what it is: the workers that stand by, and whether the part has ended. -/
structure Post where
  main : Worker
  periodic : Option Worker
  closed : Bool

/-- What of a client stays what it is while it starts. -/
structure Frame where
  hasPush : Bool
  syncEnabled : Bool
  streamingEnabled : Bool
  loop : Manager.LoopState
  shutdownSent : Bool
  paused : Bool
  stopped : Bool
  synchronizer : Synchronizer.State
  bundles : List (Key × BundleId)
  flags : Post
  segments : BundleId → Post
  /-- The impression tracker, but for what its pipeline has still to do. -/
  tracker : ImpressionTracker.State
  events : EventRecorder.State

/-- How far the start of a client has come. -/
structure Tally where
  /-- The calls that opened something, the latest first. -/
  openings : List Call
  notices : Nat
  /-- How many announcements of the cache were handled. -/
  announced : Nat
  /-- How many announcements of the cache wait. -/
  waiting : Nat
  jobs : List Job
  /-- What the pipeline of the impressions has still to do. -/
  orders : Channel ImpressionTracker.Order
  /-- Whether fetching has begun. -/
  begun : Bool

/-- The post of a flag synchronizer. -/
def flagsPost (st : FlagSync.State) : Post := ⟨st.mainWorker, st.periodicWorker, st.stopped⟩

/-- The post of a segment synchronizer. -/
def segmentsPost (st : SegmentSync.State) : Post := ⟨st.mainWorker, st.periodicWorker, st.destroyed⟩

/-- The frame of an ensemble. -/
def frame (s : Ensemble) : Frame where
  hasPush := s.hasPush
  syncEnabled := s.manager.syncEnabled
  streamingEnabled := s.manager.streamingEnabled
  loop := s.manager.loop
  shutdownSent := s.manager.shutdownSent
  paused := s.manager.paused
  stopped := s.manager.stopped
  synchronizer := s.synchronizer
  bundles := s.registry.bundles
  flags := flagsPost s.flags
  segments bundle := segmentsPost (s.identity bundle).segments
  tracker := { s.tracker with orders := {} }
  events := s.events

/-- The tally of an ensemble. -/
def tally (s : Ensemble) : Tally where
  openings := s.ground.calls.filter Call.isOpening
  notices := s.ground.calls.countP Call.isNotice
  announced := s.ground.calls.countP Call.isAnnounced
  waiting := s.inbox.queue.count .splitLoadedFromCache
  jobs := s.jobs
  orders := s.tracker.orders
  begun := s.manager.remoteStarted

/-- A tally after some more calls that open something, the latest first. -/
def Tally.opened (t : Tally) (calls : List Call) : Tally := { t with openings := calls ++ t.openings }

/-- A client stands at a frame and a tally: what waits in its inbox reports fetches or announces the cache, and none of some
identities has a full refresh under way. -/
structure Stands (f : Frame) (t : Tally) (idle : List BundleId) (s : Ensemble) : Prop where
  frame : s.frame = f
  tally : s.tally = t
  inboxOpen : s.inbox.isOpen = true
  inbox : ∀ event ∈ s.inbox.queue, event.isReport = true ∨ event = .splitLoadedFromCache
  idle : ∀ bundle ∈ idle, (s.identity bundle).segments.refreshing = false

variable {f : Frame} {t : Tally} {idle : List BundleId} {s s' e : Ensemble} {bundle : BundleId} {α : Type}

/-! ## What leaves a client where it stands -/

section Aside

/-- Writing down what a start is not about. -/
theorem Stands.note (h : Stands f t idle s) {c : Call} (aside : c.isAside = true) : Stands f t idle (s.note c) := by
  unfold Call.isAside at aside
  simp only [Bool.not_eq_true', Bool.or_eq_false_iff] at aside
  obtain ⟨⟨opening, notice⟩, announced⟩ := aside
  refine ⟨h.frame, ?_, h.inboxOpen, h.inbox, h.idle⟩
  rw [← h.tally]
  simp [Ensemble.tally, Ensemble.note, Ground.note, opening, notice, announced]

/-- Writing down what opens something. -/
theorem Stands.opened (h : Stands f t idle s) {c : Call} (opening : c.isOpening = true) :
    Stands f (t.opened [c]) idle (s.note c) := by
  have others : c.isNotice = false ∧ c.isAnnounced = false := by
    cases c <;> first | exact ⟨rfl, rfl⟩ | cases opening
  refine ⟨h.frame, ?_, h.inboxOpen, h.inbox, h.idle⟩
  rw [← h.tally]
  simp [Ensemble.tally, Ensemble.note, Ground.note, Tally.opened, opening, others.1, others.2]

/-- Serving a call that a start is not about. -/
theorem stands_serve {c : Call} (aside : c.isAside = true) : Keeps (Stands f t idle) (Ground.serve hostCell c) :=
  fun _ h => h.note aside

theorem stands_serveWith {c : Call} (aside : c.isAside = true) (ask : Answers → List Call → α) :
    Keeps (Stands f t idle) (Ground.serveWith hostCell c ask) := fun _ h => h.note aside

/-- Changing of the manager what its frame and its tally do not show. -/
theorem stands_modify {change : Manager.State → Manager.State}
    (aside : ∀ s : Ensemble, Ensemble.frame { s with manager := change s.manager } = s.frame ∧
      (change s.manager).remoteStarted = s.manager.remoteStarted) :
    Keeps (Stands f t idle) (managerCell.modify change) := by
  intro s h
  obtain ⟨frame, begun⟩ := aside s
  refine ⟨frame.trans h.frame, ?_, h.inboxOpen, h.inbox, h.idle⟩
  rw [← h.tally]
  show { s.tally with begun := (change s.manager).remoteStarted } = s.tally
  rw [begun]
  rfl

theorem stands_noteHealth (change : Health → Int → Health) : Keeps (Stands f t idle) (e.syncManager.noteHealth change) :=
  Keeps.bind (fun _ h => h) fun _ => stands_modify fun _ => ⟨rfl, rfl⟩

/-- Sending a report of a fetch. -/
theorem stands_report {event : StatusEvent} (report : event.isReport = true) :
    Keeps (Stands f t idle) (broadcast event) := by
  intro s h
  have queue : (s.inbox.send event).queue = s.inbox.queue ++ [event] := by
    unfold Channel.send
    rw [if_pos h.inboxOpen]
  have other : event ≠ .splitLoadedFromCache := by
    rintro rfl
    cases report
  refine ⟨h.frame, ?_, ?_, fun event' inside => ?_, h.idle⟩
  · rw [← h.tally]
    show { s.tally with waiting := (s.inbox.send event).queue.count .splitLoadedFromCache } = s.tally
    rw [queue, List.count_append, List.count_singleton, if_neg (by simpa using other)]
    rfl
  · show (s.inbox.send event).isOpen = true
    unfold Channel.send
    rw [if_pos h.inboxOpen]
    exact h.inboxOpen
  · change event' ∈ (s.inbox.send event).queue at inside
    rw [queue, List.mem_append, List.mem_singleton] at inside
    rcases inside with before | rfl
    · exact h.inbox event' before
    · exact .inl report

/-- What is put for an identity shows there at most. -/
theorem identity_put (s : Ensemble) (bundle other : BundleId) (st : SegmentSync.State) :
    ((s.setSegments bundle st).identity other) = s.identity other ∨
      other = bundle ∧ ((s.setSegments bundle st).identity other).segments = st := by
  unfold identity setSegments
  by_cases here : bundle = other
  · subst here
    rw [List.getElem?_modify_eq]
    cases s.identities[bundle]? with
    | none => exact .inl rfl
    | some i => exact .inr ⟨rfl, rfl⟩
  · rw [List.getElem?_modify_ne _ _ here]
    exact .inl rfl

/-- Changing of an identity what its post does not show, and not to a full refresh if it is one of those that have none. -/
theorem Stands.setSegments (h : Stands f t idle s) {st : SegmentSync.State}
    (post : segmentsPost st = segmentsPost (s.identity bundle).segments) (calm : bundle ∈ idle → st.refreshing = false) :
    Stands f t idle (s.setSegments bundle st) := by
  have posts (other : BundleId) :
      segmentsPost ((s.setSegments bundle st).identity other).segments = segmentsPost (s.identity other).segments := by
    rcases identity_put s bundle other st with kept | ⟨rfl, put⟩
    · rw [kept]
    · rw [put, post]
  refine ⟨?_, h.tally, h.inboxOpen, h.inbox, fun other inside => ?_⟩
  · rw [← h.frame]
    show { s.frame with segments := fun other => segmentsPost ((s.setSegments bundle st).identity other).segments } = s.frame
    rw [funext posts]
    rfl
  · rcases identity_put s bundle other st with kept | ⟨rfl, put⟩
    · rw [kept]
      exact h.idle other inside
    · rw [put]
      exact calm inside

/-- Whatever is done when a worker is done. -/
theorem stands_finish (owner : Option BundleId) (w : Worker) (result : Outcome) :
    Keeps (Stands f t idle) (e.finish owner w result) := by
  unfold finish
  split
  · unfold FlagSync.mainCompleted
    cases reported : FlagSync.mainReport result with
    | none => exact Keeps.pure _
    | some event =>
      refine stands_report ?_
      unfold FlagSync.mainReport at reported
      split at reported <;> cases reported <;> rfl
  · refine Keeps.bind (fun s h => ⟨h.frame, h.tally, h.inboxOpen, h.inbox, h.idle⟩) fun _ => ?_
    cases result with
    | ok _ => exact stands_report rfl
    | error _ => exact Keeps.pure _
  · exact fun s h => h.setSegments rfl fun _ => rfl
  · exact fun s h => h.setSegments rfl fun inside => h.idle _ inside
  · exact Keeps.pure _

end Aside

/-! ## Workers that are told something -/

section Tell

variable {fin : Worker → Outcome → Playing Unit} (finished : ∀ f t idle w result, Keeps (Stands f t idle) (fin w result))

include finished

/-- What is done after a worker was told something. -/
theorem stands_told (w : Worker) (order : WorkerOrder) (h : Stands f t idle (s.note (.tell w order))) :
    Stands f t idle (((Ground.makers hostCell fin).tell w order).run s).2 := by
  refine Keeps.ite (Keeps.bind (Keeps.answer Answers.completion) fun result => ?_) (Keeps.pure _) (s.note (.tell w order)) h
  cases result with
  | none => exact Keeps.pure _
  | some result => exact finished f t idle w result

/-- Telling a worker what opens nothing. -/
theorem stands_tell {w : Worker} {order : WorkerOrder} (aside : (Call.tell w order).isAside = true) :
    Keeps (Stands f t idle) ((Ground.makers hostCell fin).tell w order) :=
  fun _ h => stands_told finished w order (h.note aside)

/-- Starting a worker that opens something. -/
theorem Stands.start (h : Stands f t idle s) {w : Worker} (opens : w.kind.opens = true) :
    Stands f (t.opened [.tell w .start]) idle (((Ground.makers hostCell fin).tell w .start).run s).2 :=
  stands_told finished w .start (h.opened opens)

end Tell

/-! ## The frame of a client that goes on -/

/-- The workers of a post are those that were made for it. -/
def Post.IsStaffed (p : Post) (main periodic : WorkerKind) : Prop := p.main.kind = main ∧ ∀ w, p.periodic = some w → w.kind = periodic

namespace Frame

/-- The workers of a frame are those that were made for their posts, and no key is registered twice. -/
structure IsStaffed (f : Frame) : Prop where
  flags : f.flags.IsStaffed .flagsSync .periodicFlags
  registered : ∀ key b, (key, b) ∈ f.bundles → (f.segments b).IsStaffed (.segmentsSync key) (.periodicSegments key)
  tracker : f.tracker.crew.periodic.map Worker.kind = [.periodicImpressions, .periodicCounts, .periodicUniqueKeys]
  events : f.events.periodic.kind = .periodicEvents
  keys : (f.bundles.map Prod.fst).Nodup

/-- No part has ended, and the loop of the manager acts on every event. -/
structure IsGoing (f : Frame) : Prop where
  loop : f.loop = .running
  shutdownSent : f.shutdownSent = false
  paused : f.paused = false
  stopped : f.stopped = false
  synchronizer : f.synchronizer.destroyed = false
  flags : f.flags.closed = false
  registered : ∀ entry ∈ f.bundles, (f.segments entry.2).closed = false
  tracker : f.tracker.destroyed = false
  events : f.events.destroyed = false

/-- Whether a client begins with the streaming connection. -/
def streams (f : Frame) : Bool := f.syncEnabled && (f.hasPush && f.streamingEnabled)

/-- Whether a client records from the start. -/
def records (f : Frame) : Bool := f.synchronizer.consent = .granted

/-- The calls by which a client begins to fetch, the latest first. -/
def fetching (f : Frame) : List Call :=
  (f.bundles.map fun entry => Call.tell (f.segments entry.2).main .start).reverse ++ [.tell f.flags.main .start]

/-- The calls by which the manager of a client begins, the latest first. -/
def beginning (f : Frame) : List Call :=
  (if f.records then [.tell f.events.periodic .start] else []) ++ ((if f.streams then [.push .start] else []) ++ f.fetching)

/-- The calls by which the pipeline of the impressions begins, the latest first. -/
def recording (f : Frame) : List Call := (f.tracker.crew.periodic.map (Call.tell · .start)).reverse

/-- A bundle is registered for one key only. -/
theorem IsStaffed.ids (staffed : f.IsStaffed) : (f.bundles.map Prod.snd).Nodup := by
  refine List.Nodup.map_on ?_ (List.Nodup.of_map _ staffed.keys)
  rintro ⟨key, b⟩ inside ⟨key', b'⟩ inside' same
  cases same
  have kind := (staffed.registered key b inside).1.symm.trans (staffed.registered key' b inside').1
  cases kind
  rfl

/-- The periodic workers of the impressions open something. -/
theorem IsStaffed.crew (staffed : f.IsStaffed) {w : Worker} (inside : w ∈ f.tracker.crew.periodic) : w.kind.opens = true := by
  have kind : w.kind ∈ f.tracker.crew.periodic.map Worker.kind := List.mem_map.2 ⟨w, inside, rfl⟩
  rw [staffed.tracker] at kind
  simp only [List.mem_cons, List.not_mem_nil, or_false] at kind
  rcases kind with kind | kind | kind <;> rw [kind] <;> rfl

end Frame

/-- A worker that opens nothing may be told anything. -/
theorem isAside_tell {w : Worker} (opens : w.kind.opens = false) (order : WorkerOrder) : (Call.tell w order).isAside = true := by
  cases order <;> simp [Call.isAside, Call.isOpening, Call.isNotice, Call.isAnnounced, opens]

/-! ## The parts of a client that starts -/

section Parts

variable (staffed : f.IsStaffed)

include staffed

/-- Whatever the periodic worker of the flags is told. -/
theorem stands_flags_tellPeriodic (order : WorkerOrder) : Keeps (Stands f t idle) (e.flagSync.tellPeriodic order) := by
  refine Keeps.get_bind fun s h => ?_
  have post : s.flags.periodicWorker = f.flags.periodic := congrArg (·.flags.periodic) h.frame
  rw [post]
  cases stands : f.flags.periodic with
  | none => exact h
  | some w =>
    have kind := staffed.flags.2 w stands
    refine stands_tell (fun _ _ _ => stands_finish none) (isAside_tell ?_ order) s h
    rw [kind]
    rfl

/-- Whatever the periodic worker of a registered identity is told. -/
theorem stands_segments_tellPeriodic (order : WorkerOrder) {key : Key} (inside : (key, bundle) ∈ f.bundles) :
    Keeps (Stands f t idle) ((e.segmentSync bundle).tellPeriodic order) := by
  refine Keeps.get_bind fun s h => ?_
  have post : (s.identity bundle).segments.periodicWorker = (f.segments bundle).periodic :=
    congrArg (fun f => (f.segments bundle).periodic) h.frame
  rw [post]
  cases stands : (f.segments bundle).periodic with
  | none => exact h
  | some w =>
    have kind := (staffed.registered key bundle inside).2 w stands
    refine stands_tell (fun _ _ _ => stands_finish (some bundle)) (isAside_tell ?_ order) s h
    rw [kind]
    rfl

omit staffed in
/-- Whatever the identities are told, if each of them may be. -/
theorem stands_tellSegments {scope : Option String} {command : SegmentSync.Command}
    (each : ∀ key b, (key, b) ∈ f.bundles → Keeps (Stands f t idle) ((e.segmentSync b).run command)) :
    Keeps (Stands f t idle) (e.identityRegistry.tellSegments scope command) := by
  refine Keeps.get_bind fun s h => Keeps.forM _ (fun entry inside => ?_) s h
  refine each entry.1 entry.2 ?_
  rw [← h.frame]
  exact (List.mem_filter.1 inside).1

/-- Polling begins. -/
theorem stands_startFetching : Keeps (Stands f t idle) (e.fullSynchronizer.run .startFetching) := by
  refine keeps_ifAlive (Keeps.bind (Keeps.check fun _ => stands_flags_tellPeriodic staffed _) fun _ => ?_)
  refine Keeps.bind (fun s h => ⟨h.frame, h.tally, h.inboxOpen, h.inbox, h.idle⟩) fun _ => ?_
  exact stands_tellSegments fun key b inside => Keeps.check fun _ => stands_segments_tellPeriodic staffed _ inside

/-- Polling ends. -/
theorem stands_stopFetching : Keeps (Stands f t idle) (e.fullSynchronizer.run .stopFetching) := by
  refine Keeps.bind (stands_flags_tellPeriodic staffed _) fun _ => ?_
  refine Keeps.bind (fun s h => ⟨h.frame, h.tally, h.inboxOpen, h.inbox, h.idle⟩) fun _ => ?_
  exact stands_tellSegments fun key b inside => stands_segments_tellPeriodic staffed _ inside

theorem stands_enablePolling (reason : String) : Keeps (Stands f t idle) (e.syncManager.enablePolling reason) := by
  refine Keeps.check fun _ => Keeps.bind (stands_modify fun _ => ⟨rfl, rfl⟩) fun _ => ?_
  refine Keeps.bind (stands_startFetching staffed) fun _ => Keeps.bind (stands_noteHealth _) fun _ => ?_
  exact Keeps.bind (stands_serve rfl) fun _ => stands_serve rfl

/-- Nothing can be fetched. -/
theorem stands_stopTransports : Keeps (Stands f t idle) e.syncManager.stopTransports := by
  have push : Keeps (Stands f t idle) (e.syncManager.tellPush .stop) := by
    unfold Manager.tellPush syncManager
    cases e.hasPush with
    | true => exact stands_serve rfl
    | false => exact Keeps.pure _
  refine Keeps.bind (stands_modify fun _ => ⟨rfl, rfl⟩) fun _ => Keeps.bind push fun _ => ?_
  refine Keeps.bind (stands_stopFetching staffed) fun _ => Keeps.bind (stands_modify fun _ => ⟨rfl, rfl⟩) fun _ => ?_
  refine Keeps.bind (stands_noteHealth _) fun _ => Keeps.bind (stands_noteHealth _) fun _ => ?_
  exact Keeps.bind (stands_noteHealth _) fun _ => stands_serve rfl

omit staffed in
theorem stands_loadCaches : Keeps (Stands f t idle) (e.segmentSync bundle).loadCaches := by
  refine Keeps.bind (stands_serveWith rfl _) fun _ => Keeps.bind (stands_serve rfl) fun _ => ?_
  exact Keeps.bind (stands_serveWith rfl _) fun _ => stands_serve rfl

omit staffed in
theorem stands_registry_runJob (job : Registry.Job) : Keeps (Stands f t idle) (e.identityRegistry.runJob job) := by
  cases job with
  | loadAttributes matching bundle => exact Keeps.bind (stands_serveWith rfl _) fun _ => stands_serve rfl

omit staffed in
/-- Bringing the cache in line with the filter. -/
theorem stands_reconcile : Keeps (Stands f t idle) e.flagSync.reconcile := by
  refine Keeps.bind (Keeps.answer _) fun query => Keeps.ite (Keeps.pure _) (Keeps.bind (Keeps.answer _) fun flags => ?_)
  refine keeps_andThen (Keeps.ite (Keeps.pure _) ?_) (stands_serveWith rfl _)
  exact keeps_andThen (stands_serveWith rfl _) (stands_serveWith rfl _)

end Parts

/-! ## The beginning -/

section Beginning

theorem Tally.opened_opened (t : Tally) (first later : List Call) : (t.opened first).opened later = t.opened (later ++ first) := by
  simp [Tally.opened]

variable (staffed : f.IsStaffed) (going : f.IsGoing)

include going in
/-- What the synchronizer does unless it is destroyed, it does. -/
theorem Stands.run_ifAlive (h : Stands f t idle s) (act : Playing Unit) : (e.fullSynchronizer.ifAlive act).run s = act.run s := by
  have alive : s.synchronizer.destroyed = false := (congrArg (·.synchronizer.destroyed) h.frame).trans going.synchronizer
  show (if (!s.synchronizer.destroyed) = true then act else pure () : Playing Unit).run s = _
  rw [alive]
  rfl

include staffed going

/-- A fetch of all flags is started. -/
theorem Stands.fetchAll (h : Stands f t idle s) :
    Stands f (t.opened [.tell f.flags.main .start]) idle (e.flagSync.fetchAll.run s).2 := by
  have alive : s.flags.stopped = false := (congrArg (·.flags.closed) h.frame).trans going.flags
  have main : s.flags.mainWorker = f.flags.main := congrArg (·.flags.main) h.frame
  show Stands f _ idle ((if (!s.flags.stopped) = true then (Ground.makers hostCell (e.finish none)).tell s.flags.mainWorker .start
    else pure () : Playing Unit).run s).2
  rw [alive, main]
  refine Stands.start (fun _ _ _ => stands_finish none) h ?_
  rw [staffed.flags.1]
  rfl

/-- A full refresh of a registered identity is started that has none under way. -/
theorem Stands.refresh {key : Key} (inside : (key, bundle) ∈ f.bundles) (once : bundle ∉ idle)
    (h : Stands f t (bundle :: idle) s) :
    Stands f (t.opened [.tell (f.segments bundle).main .start]) idle ((e.segmentSync bundle).refresh.run s).2 := by
  let st := (s.identity bundle).segments
  have alive : st.destroyed = false := (congrArg (fun f => (f.segments bundle).closed) h.frame).trans (going.registered _ inside)
  have main : st.mainWorker = (f.segments bundle).main := congrArg (fun f => (f.segments bundle).main) h.frame
  have free : st.refreshing = false := h.idle bundle List.mem_cons_self
  have others : Stands f t idle s := { h with idle := fun b inside => h.idle b (List.mem_cons_of_mem _ inside) }
  show Stands f _ idle ((if (st.destroyed || st.refreshing) = true then pure () else do
    (segmentsCell bundle).modify fun st => { st with refreshing := true }
    (Ground.makers hostCell (e.finish (some bundle))).tell st.mainWorker .start : Playing Unit).run s).2
  rw [alive, free, main]
  have begun : Stands f t idle (s.setSegments bundle { st with refreshing := true }) :=
    others.setSegments rfl fun again => (once again).elim
  refine Stands.start (fun _ _ _ => stands_finish (some bundle)) begun ?_
  rw [(staffed.registered key bundle inside).1]
  rfl

/-- A full refresh is started of each of some registered identities that have none under way. -/
theorem Stands.refreshAll {entries : List (Key × BundleId)} (inside : ∀ entry ∈ entries, entry ∈ f.bundles)
    (once : (entries.map Prod.snd).Nodup) (h : Stands f t (entries.map Prod.snd) s) :
    Stands f (t.opened (entries.map fun entry => Call.tell (f.segments entry.2).main .start).reverse) []
      ((entries.forM fun entry => (e.segmentSync entry.2).refresh).run s).2 := by
  induction entries generalizing s t with
  | nil => exact h
  | cons entry rest ih =>
    rw [List.map_cons, List.nodup_cons] at once
    have first := Stands.refresh (e := e) staffed going (inside entry List.mem_cons_self) once.1 h
    have later := ih (fun other among => inside other (List.mem_cons_of_mem _ among)) once.2 first
    rw [Tally.opened_opened] at later
    rw [List.map_cons, List.reverse_cons]
    exact later

/-- Everything is fetched that no refresh is under way for. -/
theorem Stands.synchronizeAll (h : Stands f t (f.bundles.map Prod.snd) s) :
    Stands f (t.opened f.fetching) [] ((e.fullSynchronizer.run .synchronizeAll).run s).2 := by
  have flags := h.fetchAll (e := e) staffed going
  have all := Stands.refreshAll (e := e) staffed going (fun _ inside => inside) staffed.ids flags
  rw [Tally.opened_opened] at all
  have bundles : (e.flagSync.fetchAll.run s).2.registry.bundles = f.bundles := congrArg (·.bundles) flags.frame
  have whole : (f.bundles.filter fun entry => Registry.inScope none entry.1) = f.bundles := List.filter_eq_self.2 fun _ _ => rfl
  show Stands f _ [] ((e.fullSynchronizer.ifAlive do
    e.flagSync.fetchAll
    e.identityRegistry.tellSegments none .synchronize).run s).2
  rw [h.run_ifAlive going, run_bind]
  show Stands f _ [] ((((e.flagSync.fetchAll.run s).2.registry.bundles.filter fun entry => Registry.inScope none entry.1).forM
    fun entry => (e.segmentSync entry.2).refresh : Playing Unit).run (e.flagSync.fetchAll.run s).2).2
  rw [bundles, whole]
  exact all

omit staffed going in
/-- Telling the streaming connection to start opens it, if there is one. -/
theorem Stands.connect (h : Stands f t idle s) (push : e.hasPush = true) :
    Stands f (t.opened [.push .start]) idle ((e.syncManager.tellPush .start).run s).2 := by
  unfold Manager.tellPush syncManager
  rw [push]
  exact h.opened rfl

omit going in
/-- The transport is chosen. -/
theorem Stands.chooseTransport (h : Stands f t idle s) (same : e.hasPush = f.hasPush) :
    Stands f (t.opened (if f.streams then [.push .start] else [])) idle (e.syncManager.chooseTransport.run s).2 := by
  have sync : s.manager.syncEnabled = f.syncEnabled := congrArg (·.syncEnabled) h.frame
  have streaming : s.manager.streamingEnabled = f.streamingEnabled := congrArg (·.streamingEnabled) h.frame
  have push : e.syncManager.push.isSome = f.hasPush := by
    rw [← same]
    unfold syncManager
    cases e.hasPush <;> rfl
  show Stands f _ idle ((if (!s.manager.syncEnabled) = true then do
      e.syncManager.noteDegraded streamingName "sync disabled, single fetch only"
      e.syncManager.noteDegraded pollingName "sync disabled, single fetch only"
    else if (e.syncManager.push.isSome && s.manager.streamingEnabled) = true then e.syncManager.tellPush .start
    else do
      managerCell.modify fun st => { st with streamingStopped := true }
      e.syncManager.enablePolling "streaming disabled" : Playing Unit).run s).2
  rw [sync, streaming, push]
  unfold Frame.streams
  cases f.syncEnabled with
  | false => exact Keeps.bind (stands_noteHealth _) (fun _ => stands_noteHealth _) s h
  | true =>
    cases both : f.hasPush && f.streamingEnabled with
    | true =>
      rw [Bool.and_eq_true] at both
      exact h.connect (same.trans both.1)
    | false =>
      refine Keeps.bind (stands_modify fun _ => ⟨rfl, rfl⟩) (fun _ => stands_enablePolling staffed _) s h

/-- Recording begins: the recorder of events is started, and the pipeline of the impressions is told to. -/
theorem Stands.startRecording (h : Stands f t idle s) :
    Stands f { t.opened [.tell f.events.periodic .start] with orders := t.orders.send .start } idle
      ((e.fullSynchronizer.run .startRecording).run s).2 := by
  have tracker : s.tracker.destroyed = false := (congrArg (·.tracker.destroyed) h.frame).trans going.tracker
  have events : s.events = f.events := congrArg (·.events) h.frame
  let s' : Ensemble := { s with tracker := { s.tracker with orders := s.tracker.orders.send .start } }
  have sent : Stands f { t with orders := t.orders.send .start } idle s' := by
    refine ⟨h.frame, ?_, h.inboxOpen, h.inbox, h.idle⟩
    rw [← h.tally]
    rfl
  show Stands f _ idle ((e.fullSynchronizer.ifAlive do
    e.impressionTracker.sendIfAlive .start
    eventRecorder.run .start).run s).2
  have handed : (e.impressionTracker.sendIfAlive .start).run s = ((), s') := by
    show (if (!s.tracker.destroyed) = true then e.impressionTracker.send .start else pure () : Playing Unit).run s = _
    rw [tracker]
    rfl
  rw [h.run_ifAlive going, run_bind, handed]
  show Stands f _ idle ((if (!s.events.destroyed) = true then eventRecorder.tellPeriodic .start else pure () : Playing Unit).run
    s').2
  rw [events, going.events]
  show Stands f _ idle ((makers.tell s.events.periodic .start).run s').2
  rw [events]
  refine Stands.start (fun _ _ _ _ _ => Keeps.pure _) sent ?_
  rw [staffed.events]
  rfl

/-- Fetching, streaming and recording begin. -/
theorem Stands.begin (h : Stands f t (f.bundles.map Prod.snd) s) (same : e.hasPush = f.hasPush) (fresh : t.begun = false) :
    Stands f { t.opened f.beginning with
        begun := true, orders := if f.records then t.orders.send .start else t.orders } [] (e.syncManager.startRemote.run s).2 := by
  have waits : s.manager.remoteStarted = false := (congrArg Tally.begun h.tally).trans fresh
  let s₁ : Ensemble :=
    { s with manager := { s.manager with remoteStarted := true, health := s.manager.health.setReady true } }
  have ready : Stands f { t with begun := true } (f.bundles.map Prod.snd) s₁ := by
    refine ⟨h.frame, ?_, h.inboxOpen, h.inbox, h.idle⟩
    rw [← h.tally]
    rfl
  let s₂ := ((e.fullSynchronizer.run .synchronizeAll).run s₁).2
  let s₃ := (e.syncManager.chooseTransport.run s₂).2
  have fetched : Stands f (Tally.opened { t with begun := true } f.fetching) [] s₂ := ready.synchronizeAll staffed going
  have chosen := fetched.chooseTransport staffed same
  have run : (e.syncManager.startRemote.run s).2 = ((if s₃.synchronizer.consent = .granted then
      e.fullSynchronizer.run .startRecording else e.syncManager.noteDegraded telemetryName "user consent not granted" :
        Playing Unit).run s₃).2 := by
    show ((if (!s.manager.remoteStarted) = true then _ else pure () : Playing Unit).run s).2 = _
    rw [waits]
    rfl
  have consent : s₃.synchronizer.consent = f.synchronizer.consent := congrArg (·.synchronizer.consent) chosen.frame
  rw [run, consent]
  unfold Frame.beginning Frame.records
  by_cases granted : f.synchronizer.consent = .granted
  · have recording := chosen.startRecording (e := e) staffed going
    rw [if_pos granted]
    simpa [granted, Tally.opened] using recording
  · have noted : Stands f _ [] ((e.syncManager.noteDegraded telemetryName "user consent not granted").run s₃).2 :=
      stands_noteHealth _ s₃ chosen
    rw [if_neg granted]
    simpa [granted, Tally.opened] using noted

end Beginning

end Ensemble

end FlagKeeper
