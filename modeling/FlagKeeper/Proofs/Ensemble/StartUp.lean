import FlagKeeper.Proofs.Ensemble.Preparation
import FlagKeeper.Proofs.Ensemble.Settling

/-!
# A start leads to one first fetch

`start_fetches_once`: whatever the store of flags holds and whichever of its operations fail, a client that is started comes to rest,
and by then it has announced its cache once, has notified its host before that if there were flags, and has opened exactly once what
a client opens. More starts and more announcements change nothing about that.

What carries this is an account that every move keeps (`Account`). The announcement is in the background, in the inbox or handled,
and nowhere else, so that one is handled in the end; and the first that is handled opens everything, and no other anything.
-/

namespace FlagKeeper.Ensemble

variable {f : Frame} {t t' base : Tally} {sent : Nat} {s e : Ensemble} {i : Input}

/-! ## The account of a start -/

/-- The calls by which a client opens, the latest first. -/
def Frame.opening (f : Frame) : List Call := (if f.records then f.recording else []) ++ f.beginning

/-- The account of a start since a tally, after some announcements have come from outside: one announcement more than these is in the
background, waits, or was handled; nothing is opened until the first is handled; and then the manager has begun, and the pipeline of
the impressions as well, or has still to. -/
structure Account (f : Frame) (base : Tally) (sent : Nat) (t : Tally) : Prop where
  announcements : t.jobs.countP Job.announces + t.waiting + t.announced = base.announced + 1 + sent
  ordersOpen : t.orders.isOpen = true
  before : t.begun = false → t.announced = base.announced ∧ t.orders.queue = [] ∧ t.openings = base.openings
  after : t.begun = true →
    t.orders.queue = [] ∧ t.openings = f.opening ++ base.openings ∨
      f.records = true ∧ t.orders.queue = [.start] ∧ t.openings = f.beginning ++ base.openings

/-- Every move keeps the account. -/
theorem Tally.Move.account (move : t.Move f i t') (h : Account f base sent t) :
    Account f base (sent + if i.announces then 1 else 0) t' := by
  obtain ⟨announcements, ordersOpen, before, after⟩ := h
  cases move with
  | stay i quiet work records =>
    rw [quiet, if_neg Bool.false_ne_true]
    exact ⟨announcements, ordersOpen, before, after⟩
  | announce =>
    refine ⟨?_, ordersOpen, before, after⟩
    show t.jobs.countP Job.announces + (t.waiting + 1) + t.announced = base.announced + 1 + (sent + 1)
    omega
  | load rest first notices =>
    rw [first, List.countP_cons_of_pos rfl] at announcements
    refine ⟨?_, ordersOpen, before, after⟩
    show rest.countP Job.announces + (t.waiting + 1) + t.announced = base.announced + 1 + sent
    omega
  | work job rest first other =>
    rw [first, List.countP_cons_of_neg (by rw [other]; exact Bool.false_ne_true)] at announcements
    exact ⟨announcements, ordersOpen, before, after⟩
  | begin waits fresh =>
    obtain ⟨-, empty, openings⟩ := before fresh
    have sent' : t.orders.send .start = { t.orders with queue := [.start] } := by
      unfold Channel.send
      rw [if_pos ordersOpen, empty]
      rfl
    refine ⟨?_, ?_, nofun, fun _ => ?_⟩
    · show t.jobs.countP Job.announces + (t.waiting - 1) + (t.announced + 1) = base.announced + 1 + sent
      omega
    · show (if f.records then t.orders.send .start else t.orders).isOpen = true
      rw [sent']
      split <;> exact ordersOpen
    · show (if f.records then t.orders.send .start else t.orders).queue = [] ∧ f.beginning ++ t.openings = _ ∨
        _ ∧ (if f.records then t.orders.send .start else t.orders).queue = _ ∧ f.beginning ++ t.openings = _
      rw [sent', openings]
      unfold Frame.opening
      cases f.records with
      | true => exact .inr ⟨rfl, rfl, rfl⟩
      | false => exact .inl ⟨empty, rfl⟩
  | again waits begun =>
    refine ⟨?_, ordersOpen, fun fresh => (Bool.false_ne_true (fresh.symm.trans begun)).elim, after⟩
    show t.jobs.countP Job.announces + (t.waiting - 1) + (t.announced + 1) = base.announced + 1 + sent
    omega
  | record rest first =>
    have begun : t.begun = true := by
      cases fresh : t.begun with
      | true => rfl
      | false =>
        rw [(before fresh).2.1] at first
        cases first
    refine ⟨announcements, ordersOpen, fun fresh => (Bool.false_ne_true (fresh.symm.trans begun)).elim, fun _ => ?_⟩
    rcases after begun with ⟨empty, -⟩ | ⟨records, one, openings⟩
    · rw [empty] at first
      cases first
    · rw [one] at first
      cases first
      left
      refine ⟨rfl, ?_⟩
      show f.recording ++ t.openings = f.opening ++ base.openings
      rw [openings]
      unfold Frame.opening
      rw [if_pos records, List.append_assoc]

/-- A client goes on starting, and its account goes on with it. -/
theorem Starting.after (staffed : f.IsStaffed) (going : f.IsGoing) (h : Starting f t s) (account : Account f base sent t)
    {later : List Input} (ordinary : ∀ i ∈ later, i.isStartUp = true) :
    ∃ t', Starting f t' (s.after later) ∧ Account f base (sent + later.countP Input.announces) t' := by
  induction later with
  | nil => exact ⟨t, h, account⟩
  | cons i rest ih =>
    obtain ⟨t₁, before, account₁⟩ := ih fun j inside => ordinary j (List.mem_cons_of_mem i inside)
    obtain ⟨t₂, after, move⟩ := before.take staffed going (ordinary i List.mem_cons_self)
    refine ⟨t₂, after, ?_⟩
    rw [List.countP_cons, ← Nat.add_assoc]
    exact move.account account₁

/-! ## The turn that announces -/

/-- A move leaves the announcements that the background has still to make, and the notices to the host, as they are, unless it is the
turn of the background that announces. -/
theorem Tally.Move.quiet (move : t.Move f i t') :
    (t'.jobs.countP Job.announces = t.jobs.countP Job.announces ∧ t'.notices = t.notices) ∨
      i = .jobStep ∧ ∃ rest, t.jobs = .flags .loadAndAnnounce :: rest ∧ t'.jobs = rest := by
  cases move with
  | load rest first notices => exact .inr ⟨rfl, rest, first, rfl⟩
  | work job rest first other =>
    refine .inl ⟨?_, rfl⟩
    rw [first, List.countP_cons_of_neg (by rw [other]; exact Bool.false_ne_true)]
  | stay => exact .inl ⟨rfl, rfl⟩
  | announce => exact .inl ⟨rfl, rfl⟩
  | begin => exact .inl ⟨rfl, rfl⟩
  | again => exact .inl ⟨rfl, rfl⟩
  | record => exact .inl ⟨rfl, rfl⟩

/-- Among some inputs there is a turn of the background that announces the cache: the host is notified before that if there are flags
once they are loaded and reconciled, and is not notified in any other turn. -/
def AnnouncedOnce (s : Ensemble) (later : List Input) : Prop :=
  ∃ turns earlier, later = turns ++ .jobStep :: earlier ∧
    let b := s.after earlier
    b.take .jobStep = b.reconciled.notified.announced ∧
      (s.after later).tally.notices = s.tally.notices + if b.reconciled.cached.isEmpty then 0 else 1

/-- Where the background has one announcement to make, it makes it in one turn. -/
theorem Starting.announcedOnce (staffed : f.IsStaffed) (going : f.IsGoing) (h : Starting f t s)
    (once : t.jobs.countP Job.announces = 1) {later : List Input} (ordinary : ∀ i ∈ later, i.isStartUp = true) :
    ∃ t', Starting f t' (s.after later) ∧
      (t'.jobs.countP Job.announces = 1 ∧ t'.notices = t.notices ∨
        t'.jobs.countP Job.announces = 0 ∧ AnnouncedOnce s later) := by
  have start : s.tally.notices = t.notices := congrArg Tally.notices h.stands.tally
  induction later with
  | nil => exact ⟨t, h, .inl ⟨once, rfl⟩⟩
  | cons i rest ih =>
    obtain ⟨t₁, before, reached⟩ := ih fun j inside => ordinary j (List.mem_cons_of_mem i inside)
    obtain ⟨t₂, after, move⟩ := before.take staffed going (ordinary i List.mem_cons_self)
    have notices₁ : (s.after rest).tally.notices = t₁.notices := congrArg Tally.notices before.stands.tally
    have notices₂ : (s.after (i :: rest)).tally.notices = t₂.notices := congrArg Tally.notices after.stands.tally
    refine ⟨t₂, after, ?_⟩
    rcases move.quiet with ⟨same, notices⟩ | ⟨rfl, left, first, rest'⟩
    · rw [same, notices]
      refine reached.imp id fun ⟨done, turns, earlier, split, turn, noticed⟩ => ⟨done, i :: turns, earlier, ?_, turn, ?_⟩
      · rw [split]
        rfl
      · rw [notices₂, notices, ← notices₁]
        exact noticed
    · rw [first, List.countP_cons_of_pos rfl] at reached
      rw [rest']
      rcases reached with ⟨one, unnoticed⟩ | ⟨done, -⟩
      · have jobs : (s.after rest).jobs = .flags .loadAndAnnounce :: left :=
          (congrArg Tally.jobs before.stands.tally).trans first
        have loaded := congrArg Tally.notices (before.stands.loaded jobs).tally
        refine .inr ⟨Nat.succ.inj one, [], rest, rfl, run_announce jobs, ?_⟩
        show ((s.after rest).take .jobStep).tally.notices = _
        rw [loaded, unnoticed, start]
      · omega

/-! ## The workers that are started -/

section Openers

/-- The workers that a client starts as it opens, the latest first: those that send again and again, if it records from the start,
the main ones of the registered identities, and that of the flags. -/
def Frame.openers (f : Frame) : List Worker :=
  (if f.records then f.tracker.crew.periodic.reverse ++ [f.events.periodic] else []) ++
    ((f.bundles.map fun entry => (f.segments entry.2).main).reverse ++ [f.flags.main])

theorem starts_append (later earlier : List Call) : starts (later ++ earlier) = starts later ++ starts earlier :=
  List.filterMap_append

theorem starts_tell_start (workers : List Worker) : starts (workers.map (Call.tell · .start)) = workers := by
  induction workers with
  | nil => rfl
  | cons w rest ih => exact congrArg (w :: ·) ih

theorem starts_reverse (calls : List Call) : starts calls.reverse = (starts calls).reverse := List.filterMap_reverse

/-- The calls by which a client opens start its openers. -/
theorem starts_opening (f : Frame) : starts f.opening = f.openers := by
  have push : starts (if f.streams then [.push .start] else []) = [] := by
    cases f.streams <;> rfl
  have mains : starts f.fetching = (f.bundles.map fun entry => (f.segments entry.2).main).reverse ++ [f.flags.main] := by
    have told : f.bundles.map (fun entry => Call.tell (f.segments entry.2).main .start) =
        (f.bundles.map fun entry => (f.segments entry.2).main).map (Call.tell · .start) := by
      rw [List.map_map]
      rfl
    unfold Frame.fetching
    rw [starts_append, starts_reverse, told, starts_tell_start]
    rfl
  unfold Frame.opening Frame.beginning Frame.openers
  rw [starts_append, starts_append, starts_append, push, mains, List.nil_append]
  cases f.records with
  | true =>
    rw [if_pos rfl, if_pos rfl, if_pos rfl, Frame.recording, starts_reverse, starts_tell_start, List.append_assoc]
    rfl
  | false => rfl

/-- No worker is started twice as a client opens. -/
theorem Frame.IsStaffed.openers_nodup (staffed : f.IsStaffed) : f.openers.Nodup := by
  refine List.Nodup.of_map Worker.kind ?_
  have mains : (f.bundles.map fun entry => (f.segments entry.2).main).map Worker.kind =
      (f.bundles.map Prod.fst).map WorkerKind.segmentsSync := by
    rw [List.map_map, List.map_map]
    exact List.map_congr_left fun entry inside => (staffed.registered entry.1 entry.2 inside).1
  have once : ((f.bundles.map Prod.fst).map WorkerKind.segmentsSync).Nodup :=
    staffed.keys.map fun _ _ same => WorkerKind.segmentsSync.inj same
  have fetchers : (((f.bundles.map Prod.fst).map WorkerKind.segmentsSync).reverse ++ [WorkerKind.flagsSync]).Nodup := by
    refine List.nodup_append.2 ⟨List.nodup_reverse.2 once, List.nodup_singleton _, ?_⟩
    rintro _ identity _ flags rfl
    obtain ⟨key, -, rfl⟩ := List.mem_map.1 (List.mem_reverse.1 identity)
    cases List.mem_singleton.1 flags
  unfold Frame.openers
  rw [List.map_append, List.map_append, List.map_reverse, mains, List.map_singleton, staffed.flags.1]
  cases f.records with
  | false => exact fetchers
  | true =>
    rw [if_pos rfl, List.map_append, List.map_reverse, staffed.tracker, List.map_singleton, staffed.events]
    refine List.nodup_append.2 ⟨by decide, fetchers, ?_⟩
    rintro _ recorder _ fetcher rfl
    rcases List.mem_append.1 fetcher with identity | flags
    · obtain ⟨key, -, rfl⟩ := List.mem_map.1 (List.mem_reverse.1 identity)
      simp at recorder
    · rw [List.mem_singleton.1 flags] at recorder
      simp at recorder

/-- The openers open something by their kinds. -/
theorem Frame.IsStaffed.opens (staffed : f.IsStaffed) {w : Worker} (inside : w ∈ f.openers) : w.kind.opens = true := by
  unfold Frame.openers at inside
  rw [List.mem_append, List.mem_append, List.mem_singleton] at inside
  rcases inside with recorder | identity | rfl
  · split at recorder
    · rcases List.mem_append.1 recorder with crew | events
      · exact staffed.crew (List.mem_reverse.1 crew)
      · rw [List.mem_singleton.1 events, staffed.events]
        rfl
    · cases recorder
  · obtain ⟨entry, registered, rfl⟩ := List.mem_map.1 (List.mem_reverse.1 identity)
    rw [(staffed.registered entry.1 entry.2 registered).1]
    rfl
  · rw [staffed.flags.1]
    rfl

theorem starts_cons (c : Call) (calls : List Call) : starts (c :: calls) = c.start?.toList ++ starts calls := by
  unfold starts
  rw [List.filterMap_cons]
  cases c.start? <;> rfl

/-- How often a worker was started that opens something shows in the calls that open something. -/
theorem count_starts {w : Worker} (opens : w.kind.opens = true) (calls : List Call) :
    (starts calls).count w = (starts (calls.filter Call.isOpening)).count w := by
  induction calls with
  | nil => rfl
  | cons c rest ih =>
    cases opening : c.isOpening with
    | true => rw [List.filter_cons_of_pos opening, starts_cons, starts_cons, List.count_append, List.count_append, ih]
    | false =>
      have other : w ∉ c.start?.toList := by
        rw [Option.mem_toList]
        intro started
        cases c with
        | tell w' order =>
          cases order <;> cases started
          exact Bool.false_ne_true (opening.symm.trans opens)
        | _ => cases started
      rw [List.filter_cons_of_neg (by rw [opening]; exact Bool.false_ne_true), starts_cons, List.count_append,
        List.count_eq_zero.2 other, Nat.zero_add, ih]

end Openers

/-! ## The start -/

section Start

/-- A client whose manager was started: its loop runs, and its caches are to be loaded in the background. -/
def started (s : Ensemble) : Ensemble :=
  { s with
    ground := s.ground.note (.log (.started s.manager.syncEnabled s.manager.streamingEnabled))
    manager := { s.manager with loop := .running }
    jobs := .flags .loadAndAnnounce :: ((s.registry.bundles.map fun entry => .loadSegments entry.2) ++
      s.registry.bundles.map fun entry => .registry (.loadAttributes entry.1.matching entry.2)) }

/-- Handing one piece of work to the background for each of some identities. -/
theorem run_laterAll {entries : List (Key × BundleId)} {act : Key × BundleId → Playing Unit} {job : Key × BundleId → Job}
    (each : ∀ entry ∈ entries, ∀ jobs, (act entry).run { s with jobs } = ((), { s with jobs := jobs ++ [job entry] }))
    (jobs : List Job) : (entries.forM act).run { s with jobs } = ((), { s with jobs := jobs ++ entries.map job }) := by
  induction entries generalizing jobs with
  | nil =>
    rw [List.map_nil, List.append_nil]
    rfl
  | cons entry rest ih =>
    have later := ih (fun other inside => each other (List.mem_cons_of_mem _ inside)) (jobs ++ [job entry])
    show (act entry >>= fun _ => rest.forM act : Playing Unit).run { s with jobs } = _
    rw [run_bind, each entry List.mem_cons_self, List.map_cons]
    rw [List.append_assoc] at later
    exact later

/-- The start of the manager. -/
theorem Poised.run_start (h : Poised s) : s.take .start = s.started := by
  let s₁ : Ensemble :=
    { s with
      ground := s.ground.note (.log (.started s.manager.syncEnabled s.manager.streamingEnabled))
      manager := { s.manager with loop := .running } }
  have whole : (s.registry.bundles.filter fun entry => Registry.inScope none entry.1) = s.registry.bundles :=
    List.filter_eq_self.2 fun _ _ => rfl
  have alive (jobs : List Job) (act : Playing Unit) :
      (s.fullSynchronizer.ifAlive act).run { s₁ with jobs } = act.run { s₁ with jobs } := by
    show (if (!s.synchronizer.destroyed) = true then act else pure () : Playing Unit).run { s₁ with jobs } = _
    rw [h.synchronizer]
    rfl
  have segments (jobs : List Job) : (s.fullSynchronizer.run (.loadSegments none)).run { s₁ with jobs } =
      ((), { s₁ with jobs := jobs ++ s.registry.bundles.map fun entry => .loadSegments entry.2 }) := by
    refine (alive jobs _).trans ?_
    show ((s.registry.bundles.filter fun entry => Registry.inScope none entry.1).forM fun entry =>
      (s.segmentSync entry.2).run .loadFromCache : Playing Unit).run { s₁ with jobs } = _
    rw [whole]
    refine run_laterAll (fun entry inside jobs => ?_) jobs
    show (if (!(s.identity entry.2).segments.destroyed) = true then later (.loadSegments entry.2) else pure () :
      Playing Unit).run { s₁ with jobs } = _
    rw [(h.identities entry inside).1]
    rfl
  have attributes (jobs : List Job) : (s.fullSynchronizer.run (.loadAttributes none)).run { s₁ with jobs } =
      ((), { s₁ with jobs := jobs ++ s.registry.bundles.map fun entry => .registry (.loadAttributes entry.1.matching entry.2) }) := by
    refine (alive jobs _).trans ?_
    show ((s.registry.bundles.filter fun entry => Registry.inScope none entry.1).forM fun entry =>
      later (.registry (.loadAttributes entry.1.matching entry.2)) : Playing Unit).run { s₁ with jobs } = _
    rw [whole]
    exact run_laterAll (fun _ _ _ => rfl) jobs
  have flags : (s.fullSynchronizer.run .loadFlags).run s₁ = ((), { s₁ with jobs := s.jobs ++ [.flags .loadAndAnnounce] }) :=
    alive s.jobs _
  show ((if s.manager.loop = .waiting then if s.manager.stopped = true then s.syncManager.endLoop else do
      Ground.serve hostCell (.log (.started s.manager.syncEnabled s.manager.streamingEnabled))
      managerCell.modify fun st => { st with loop := .running }
      s.fullSynchronizer.run .loadFlags
      s.fullSynchronizer.run (.loadSegments none)
      s.fullSynchronizer.run (.loadAttributes none)
    else pure () : Playing Unit).run s).2 = _
  rw [if_pos h.loop, h.stopped, if_neg Bool.false_ne_true]
  show ((do
    s.fullSynchronizer.run .loadFlags
    s.fullSynchronizer.run (.loadSegments none)
    s.fullSynchronizer.run (.loadAttributes none) : Playing Unit).run s₁).2 = _
  rw [run_bind, flags, run_bind]
  show ((s.fullSynchronizer.run (.loadAttributes none)).run ((s.fullSynchronizer.run (.loadSegments none)).run
    { s₁ with jobs := s.jobs ++ [.flags .loadAndAnnounce] }).2).2 = _
  rw [segments]
  show ((s.fullSynchronizer.run (.loadAttributes none)).run { s₁ with jobs := _ }).2 = _
  rw [attributes, h.jobs, List.nil_append, List.append_assoc]
  rfl

/-- The frame of a client whose staff is that which was made. -/
theorem Staffed.frame (staffed : Staffed s) (keys : (s.registry.bundles.map Prod.fst).Nodup) : s.frame.IsStaffed := by
  have post {st : Worker} {periodic : Option Worker} {closed : Bool} {underWay : List Worker} {timers : TimerTable Unit}
      {main other : WorkerKind} (desk : Desk.IsStaffed ⟨st :: periodic.toList, underWay, timers, closed⟩ main other) :
      Post.IsStaffed ⟨st, periodic, closed⟩ main other := by
    obtain ⟨w, rest, same, kind, kinds⟩ := desk
    cases same
    exact ⟨kind, fun w held => kinds w (Option.mem_toList.2 held)⟩
  have pipelines := staffed.pipelines
  refine ⟨post staffed.flags, fun key b inside => ?_, (List.cons.inj pipelines).2, (List.cons.inj pipelines).1, keys⟩
  have desk := (staffed.registered key b inside).2
  rw [desk_segments] at desk
  exact post desk

/-- A client that is poised goes on once it was started. -/
theorem Poised.going (h : Poised s) : s.started.frame.IsGoing where
  loop := rfl
  shutdownSent := h.shutdownSent
  paused := h.paused
  stopped := h.stopped
  synchronizer := h.synchronizer
  flags := h.flags
  registered entry inside := (h.identities entry inside).1
  tracker := h.tracker
  events := h.events

/-- A client that is poised is starting once it was started. -/
theorem Poised.starting (h : Poised s) : Starting s.started.frame s.started.tally s.started := by
  refine ⟨⟨rfl, rfl, ?_, fun event inside => ?_, fun bundle inside => ?_⟩, fun job inside => ?_, fun order inside => ?_, h.eventOrders⟩
  · show s.inbox.isOpen = true
    rw [h.inbox]
  · change event ∈ s.inbox.queue at inside
    rw [h.inbox] at inside
    cases inside
  · have unbegun : s.started.tally.begun = false := h.begun
    rw [Frame.idle, unbegun, if_neg Bool.false_ne_true] at inside
    obtain ⟨entry, registered, rfl⟩ := List.mem_map.1 inside
    exact (h.identities entry registered).2
  · rcases List.mem_cons.1 inside with rfl | later
    · rfl
    · rcases List.mem_append.1 later with segments | attributes
      · obtain ⟨entry, -, rfl⟩ := List.mem_map.1 segments
        rfl
      · obtain ⟨entry, -, rfl⟩ := List.mem_map.1 attributes
        rfl
  · change order ∈ s.tracker.orders.queue at inside
    rw [h.trackerOrders] at inside
    cases inside

/-- The background has one announcement to make once a client was started. -/
theorem announces_once (s : Ensemble) : s.started.tally.jobs.countP Job.announces = 1 := by
  have others : ((s.registry.bundles.map fun entry => Job.loadSegments entry.2) ++
      s.registry.bundles.map fun entry => Job.registry (.loadAttributes entry.1.matching entry.2)).countP Job.announces = 0 := by
    refine List.countP_eq_zero.2 fun job inside => ?_
    rcases List.mem_append.1 inside with segments | attributes
    · obtain ⟨entry, -, rfl⟩ := List.mem_map.1 segments
      exact Bool.false_ne_true
    · obtain ⟨entry, -, rfl⟩ := List.mem_map.1 attributes
      exact Bool.false_ne_true
  show (Job.flags .loadAndAnnounce :: (_ ++ _)).countP Job.announces = 1
  rw [List.countP_cons_of_pos rfl, others]

/-- The account of a client that was started. -/
theorem Poised.account (h : Poised s) : Account s.started.frame s.started.tally 0 s.started.tally := by
  have waiting : s.started.tally.waiting = 0 := by
    show s.inbox.queue.count .splitLoadedFromCache = 0
    rw [h.inbox]
    rfl
  refine ⟨?_, ?_, fun _ => ⟨rfl, ?_, rfl⟩, fun begun => (Bool.false_ne_true (h.begun.symm.trans begun)).elim⟩
  · rw [s.announces_once, waiting]
    omega
  · show s.tracker.orders.isOpen = true
    rw [h.trackerOrders]
  · show s.tracker.orders.queue = []
    rw [h.trackerOrders]

end Start

/-- A start leads to one first fetch. Let a client have come somehow to where it may be started: nothing of it has ended, nothing is
in store for it, and no registered identity has a full refresh under way. Let its manager be started, and then let anything happen
that belongs to a start, in any order: turns of the loop, of the pipelines and of the background, workers that are done, time, a
host that changes its mind, more starts, and more announcements of the cache. However the host answers,
1. turn by turn, nothing is in store for the client any more in the end.
When that is so,
2. the cache was announced in one turn of the background: once the flags were loaded and reconciled, however that went, the host was
   notified if there were flags then and at no other time, and the announcement followed,
3. this announcement and those from outside were handled, and no other,
4. the calls that open something are those by which a client opens: the main worker of the flags is started, then that of each
   registered identity, then the streaming connection if the client streams, and then what records if the user allows it,
5. each of these workers was started once. -/
theorem start_fetches_once (u : Setup) (past later : List Input) (poised : Poised (u.after past))
    (ordinary : ∀ i ∈ later, i.isStartUp = true) :
    let s := u.after past
    let t := s.take .start
    let e := t.after later
    (∃ turns, (∀ i ∈ turns, i.isTurn = true) ∧ Settled (e.after turns)) ∧
    (Settled e →
      AnnouncedOnce t later ∧
      e.tally.announced = s.tally.announced + 1 + later.countP Input.announces ∧
      e.tally.openings = s.frame.opening ++ s.tally.openings ∧
      ∀ w ∈ s.frame.openers, (starts e.ground.calls).count w = (starts s.ground.calls).count w + 1) := by
  intro s t e
  have started : t = s.started := poised.run_start
  have staffed : s.started.frame.IsStaffed := by
    have before := Staffed.frame (u.staffed past) (u.sound past).covered.keys
    exact ⟨before.flags, before.registered, before.tracker, before.events, before.keys⟩
  have going := poised.going
  have unfolded : e = s.started.after later := congrArg (·.after later) started
  obtain ⟨t₁, reached, account⟩ := poised.starting.after staffed going poised.account ordinary
  obtain ⟨t₂, reached', announced⟩ := poised.starting.announcedOnce staffed going s.announces_once ordinary
  rw [← unfolded] at reached reached'
  refine ⟨reached.settles staffed going, fun ⟨jobs, inbox, orders⟩ => ?_⟩
  have jobs₁ : t₁.jobs = [] := (congrArg Tally.jobs reached.stands.tally).symm.trans jobs
  have jobs₂ : t₂.jobs = [] := (congrArg Tally.jobs reached'.stands.tally).symm.trans jobs
  have orders₁ : t₁.orders.queue = [] := (congrArg (·.orders.queue) reached.stands.tally).symm.trans orders
  have waiting₁ : t₁.waiting = 0 := by
    rw [← reached.stands.tally]
    exact List.count_eq_zero.2 (inbox ▸ List.not_mem_nil)
  have handled : t₁.announced = s.tally.announced + 1 + later.countP Input.announces := by
    have total := account.announcements
    rw [jobs₁, waiting₁, List.countP_nil, Nat.zero_add, Nat.zero_add] at total
    exact total
  -- one announcement was handled at least, so that everything has begun
  have begun : t₁.begun = true := by
    cases fresh : t₁.begun with
    | true => rfl
    | false =>
      have none : t₁.announced = s.tally.announced := (account.before fresh).1
      omega
  have openings : t₁.openings = s.frame.opening ++ s.tally.openings := by
    rcases account.after begun with ⟨-, opened⟩ | ⟨-, one, -⟩
    · exact opened
    · rw [one] at orders₁
      cases orders₁
  have opened : e.tally.openings = s.frame.opening ++ s.tally.openings :=
    (congrArg Tally.openings reached.stands.tally).trans openings
  refine ⟨?_, (congrArg Tally.announced reached.stands.tally).trans handled, opened, fun w inside => ?_⟩
  · rw [started]
    rcases announced with ⟨one, -⟩ | ⟨-, once⟩
    · rw [jobs₂] at one
      cases one
    · exact once
  · have opens := staffed.opens inside
    have one : s.frame.openers.count w = 1 := List.count_eq_one_of_mem staffed.openers_nodup inside
    rw [count_starts opens e.ground.calls, count_starts opens s.ground.calls]
    show (starts e.tally.openings).count w = (starts s.tally.openings).count w + 1
    rw [opened, starts_append, starts_opening, List.count_append, one, Nat.add_comm]

/-- A client whose host holds a flag and fails at whatever its stores are to do. -/
def Setup.failing : Setup :=
  { Setup.standard with
    answers := { outcome := fun _ => .error (.storage "full"), flags := fun _ => [⟨"checkout", 1, .empty, false, "off"⟩] } }

/-- What happens to a client that starts, the latest first: a second start and an announcement from outside among it. -/
def Setup.starting : List Input :=
  [.impressionsStep, .loop, .loop, .jobStep, .jobStep, .broadcast .splitLoadedFromCache, .start, .jobStep, .loop]

/-- A client with one identity starts on a host that fails at everything, and its worker is started once. -/
theorem start_fetches_once_failing :
    let s := Setup.failing.after [.register ⟨"ann", none⟩]
    let t := s.take .start
    let e := t.after Setup.starting
    Poised s ∧ (∀ i ∈ Setup.starting, i.isStartUp = true) ∧ Settled e ∧ AnnouncedOnce t Setup.starting ∧
      e.tally.announced = 2 ∧ (starts e.ground.calls).count ⟨.segmentsSync ⟨"ann", none⟩, 10⟩ = 1 := by
  intro s t e
  have poised : Poised s := Setup.failing.poised (by decide)
  have ordinary : ∀ i ∈ Setup.starting, i.isStartUp = true := by decide
  have empty : (e.jobs.isEmpty && e.inbox.queue.isEmpty && e.tracker.orders.queue.isEmpty) = true := by decide +kernel
  have settled : Settled e := by
    simpa [Settled, List.isEmpty_iff, and_assoc] using empty
  have fresh : s.tally.announced = 0 := by decide +kernel
  have outside : Setup.starting.countP Input.announces = 1 := by decide
  obtain ⟨announced, handled, -, once⟩ := (start_fetches_once Setup.failing _ _ poised ordinary).2 settled
  have opener : ⟨.segmentsSync ⟨"ann", none⟩, 10⟩ ∈ s.frame.openers := by decide +kernel
  have before : (starts s.ground.calls).count ⟨.segmentsSync ⟨"ann", none⟩, 10⟩ = 0 := by decide +kernel
  refine ⟨poised, ordinary, settled, announced, ?_, ?_⟩
  · rw [handled, fresh, outside]
  · rw [once _ opener, before]

end FlagKeeper.Ensemble
