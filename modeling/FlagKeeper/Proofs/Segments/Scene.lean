import FlagKeeper.Proofs.Timing.TimerTable
import FlagKeeper.Proofs.Workshop.Journal
import FlagKeeper.Segments.SegmentSync

/-!
# A segment synchronizer in a workshop

The segment synchronizer of one identity, the program that it is, over the workshop that keeps a journal. What can happen to it is
an `Input`: it is told something, a timer of it runs out, a worker that is under way is done, the caches come to have other change
numbers, they are loaded in the background, and time passes. `Scene.take` runs the program for an input. Each line of the journal
says what the target was at that moment.

The `run` and `take` lemmas say what the programs leave behind. There are four things that a turn is made of: a worker is told
something that concerns no target (`wrote`), a worker is launched for a target (`launched`), the full refresh is started
(`refreshed`), and a worker is done (`finished`).
-/

namespace FlagKeeper

/-- The target that a kind of worker has among the segments of an identity. -/
def WorkerKind.segmentTarget? : WorkerKind → Option ChangeNumbers
  | .segmentsUpdate _ target => some target
  | _ => none

/-- Which workers refresh the segments of an identity in full. -/
def WorkerKind.fullRefresh? : WorkerKind → Option Unit
  | .segmentsSync _ => some ()
  | _ => none

namespace SegmentSync

/-- A segment synchronizer and its plain host. -/
structure Scene where
  key : Key
  syncEnabled : Bool
  state : State
  /-- The change numbers that the caches have. -/
  stored : ChangeNumbers
  /-- How loading a cache ends. -/
  loading : Outcome
  /-- Counts nanoseconds from some start. -/
  steady : Nat
  shop : Workshop ChangeNumbers

/-- Programs on the plain host. -/
abbrev Plain := StateM Scene

/-- The place of what the synchronizer keeps. -/
def stateCell : Cell Plain State where
  get := return (← get).state
  set st := modify fun s => { s with state := st }

/-- The place of the workshop. What the journal shows of a moment is the target. -/
def bench : Workshop.Place Scene ChangeNumbers where
  shop := Scene.shop
  put shop s := { s with shop }
  look s := s.state.target

/-- The synchronizer on the plain host, given what is to be done when a worker is done. -/
def plainWith (key : Key) (syncEnabled : Bool) (finish : Worker → Outcome → Plain Unit) : SegmentSync Plain where
  key
  syncEnabled
  state := stateCell
  segments := { loadLocal := fun _ => return (← get).loading, changeNumber := fun _ => return (← get).stored.segments }
  largeSegments :=
    { loadLocal := fun _ => return (← get).loading, changeNumber := fun _ => return (← get).stored.largeSegments }
  signal _ := return ()
  workers := Workshop.workers bench.cell bench.sight finish
  clocks := { steady := return (← get).steady, wall := return 0 }
  loadLater := return ()

/-- A worker is done: the synchronizer takes note of it. -/
def settle (key : Key) (syncEnabled : Bool) (w : Worker) (_ : Outcome) : Plain Unit :=
  match w.kind with
  | .segmentsSync _ => (plainWith key syncEnabled fun _ _ => return ()).refreshCompleted
  | .segmentsUpdate _ target => (plainWith key syncEnabled fun _ _ => return ()).reachCompleted target
  | _ => return ()

/-- The synchronizer on the plain host, whose workers report when they are done. -/
def plain (key : Key) (syncEnabled : Bool) : SegmentSync Plain := plainWith key syncEnabled (settle key syncEnabled)

/-- What can happen to a segment synchronizer. -/
inductive Input where
  | tell (command : Command)
  /-- A timer of the synchronizer runs out. -/
  | timer (id : Nat)
  /-- A worker is done; this happens only to one that is under way. -/
  | finish (w : Worker) (result : Outcome)
  /-- The caches have other change numbers from now on. -/
  | store (numbers : ChangeNumbers)
  /-- The caches are loaded in the background. -/
  | load
  /-- Time passes. -/
  | advance (d : Duration)

/-- A timer runs out: it gives up its slot, and what it delayed is done if it was pending. -/
def timerOver (sync : SegmentSync Plain) (id : Nat) : Plain Unit := do
  let task ← stateCell.step fun st =>
    let (task, timers) := st.timers.wake id
    (task, { st with timers })
  if task.isSome then sync.delayOver

/-- What is done about an input. -/
def Input.program (s : Scene) : Input → Plain Unit
  | .tell command => (plain s.key s.syncEnabled).run command
  | .timer id => timerOver (plain s.key s.syncEnabled) id
  | .finish w result =>
    if w.kind.reports && w ∈ Workshop.running s.shop.journal then
      Workshop.report bench.cell bench.sight (settle s.key s.syncEnabled) w result
    else return ()
  | .store numbers => modify fun s => { s with stored := numbers }
  | .load => (plain s.key s.syncEnabled).loadCaches
  | .advance d => modify fun s => { s with steady := s.steady + d.toNanos }

/-- The scene after an input. -/
def Scene.take (s : Scene) (i : Input) : Scene := ((i.program s).run s).2

/-- The scene after some inputs, the latest first. -/
def Scene.after (s : Scene) : List Input → Scene
  | [] => s
  | i :: past => (s.after past).take i

/-- What a segment synchronizer is put together from, and where. -/
structure Setup where
  key : Key
  syncEnabled : Bool
  stored : ChangeNumbers
  loading : Outcome
  steady : Nat
  /-- How a worker ends that is done as soon as it is started, by the journal. -/
  prompt : List (Workshop.Line ChangeNumbers) → Option Outcome

/-- Makes the workers of a new synchronizer, for which there is no target yet. -/
def Setup.parts (u : Setup) : StateM (Workshop ChangeNumbers) State :=
  create u.key u.syncEnabled
    (Workshop.workers { get := get, set := set } (return ChangeNumbers.unknown) fun _ _ => return ())

/-- A new segment synchronizer. -/
def Setup.scene (u : Setup) : Scene where
  key := u.key
  syncEnabled := u.syncEnabled
  state := (u.parts.run { prompt := u.prompt }).1
  stored := u.stored
  loading := u.loading
  steady := u.steady
  shop := (u.parts.run { prompt := u.prompt }).2

/-- A new segment synchronizer after some inputs, the latest first. -/
def Setup.after (u : Setup) (inputs : List Input) : Scene := u.scene.after inputs

/-- A synchronizer over empty caches whose workers are never done at once. -/
def Setup.standard : Setup where
  key := ⟨"key", none⟩
  syncEnabled := true
  stored := .unknown
  loading := .ok ()
  steady := 0
  prompt _ := none

/-! ## What a turn is made of -/

namespace Scene

variable (s : Scene)

/-- Something was written down. -/
def wrote (what : Workshop.Happening) : Scene := bench.wrote s what

/-- A worker of a kind is done, as far as the synchronizer is concerned. -/
def settled (kind : WorkerKind) : State :=
  match kind with
  | .segmentsSync _ => { s.state with refreshing := false }
  | .segmentsUpdate _ target => { s.state with catalog := (s.state.catalog.remove target).2 }
  | _ => s.state

/-- The synchronizer took note that a worker is done. -/
def noted (w : Worker) (_ : Outcome) : Scene := { s with state := s.settled w.kind }

/-- A worker is done. -/
def finished (w : Worker) (result : Outcome) : Scene := bench.finished (fun w result s => s.noted w result) s w result

/-- A worker was started, and may be done already. -/
def started (w : Worker) : Scene := bench.started (fun w result s => s.noted w result) s w

/-- The worker that is made next if it is to reach a target. -/
def nextWorker (target : ChangeNumbers) : Worker := ⟨.segmentsUpdate s.key target, s.shop.made⟩

/-- A worker for a target was made and is in the catalog. -/
def entered (target : ChangeNumbers) : Scene :=
  let s' := s.wrote (.made (s.nextWorker target))
  { s' with
    shop := { s'.shop with made := s.shop.made + 1 }
    state := { s.state with catalog := ⟨s.state.catalog.entries ++ [(target, s.nextWorker target)]⟩ } }

/-- A worker for a target was made, put into the catalog and started. -/
def launched (target : ChangeNumbers) : Scene := (s.entered target).started (s.nextWorker target)

/-- A target is reached: by a new worker, unless one is under way or the synchronizer is destroyed. -/
def reached (target : ChangeNumbers) : Scene :=
  if s.state.destroyed || s.state.catalog.contains target then s else s.launched target

/-- A full refresh is under way from now on. -/
def marked : Scene := { s with state := { s.state with refreshing := true } }

/-- The full refresh was started. -/
def refreshed : Scene := s.marked.started s.state.mainWorker

/-- A notification raised the target. -/
def raised (target : ChangeNumbers) : Scene := { s with state := { s.state with target := s.state.target.merge target } }

/-- The timer was set. -/
def armed (delay : Duration) : Scene :=
  { s with state := { s.state with timers := (s.state.timers.add .syncSegments s.steady delay ()).2 } }

/-- A timer gave up its slot. -/
def rung (id : Nat) : Scene := { s with state := { s.state with timers := (s.state.timers.wake id).2 } }

/-- The periodic worker was told something, if there is one. -/
def periodicTold (order : WorkerOrder) : Scene :=
  bench.toldIfAny (fun w result s => s.noted w result) s s.state.periodicWorker order

/-- Some workers were told to stop, one after the other. -/
def stopped (workers : List Worker) : Scene := workers.foldl (fun s w => s.wrote (.told w .stop)) s

/-- The synchronizer is destroyed from now on. -/
def doomed : Scene := { s with state := { s.state with destroyed := true } }

/-- The timer and the targets were dropped. -/
def emptied : Scene := { s with state := { s.state with timers := s.state.timers.cancelAll, catalog := {} } }

/-- Everything under way was ended. -/
def closed : Scene :=
  let s' := (s.doomed.wrote (.told s.state.mainWorker .stop)).periodicTold .destroy
  s'.emptied.stopped (s'.state.catalog.entries.map (·.2))

end Scene

/-! ## What the programs leave behind -/

section Run

variable {s : Scene} {key : Key} {enabled : Bool}

theorem run_bind {α β : Type} (x : Plain α) (f : α → Plain β) : (x >>= f).run s = (f (x.run s).1).run (x.run s).2 := rfl

theorem run_settle (w : Worker) (result : Outcome) (s : Scene) : (settle key enabled w result).run s = ((), s.noted w result) := by
  unfold settle Scene.noted Scene.settled
  cases w.kind <;> rfl

theorem run_start (w : Worker) : ((plain key enabled).workers.tell w .start).run s = ((), s.started w) :=
  Workshop.Place.run_start run_settle w

theorem run_tellPeriodic (order : WorkerOrder) :
    ((plain key enabled).tellPeriodic order).run s = ((), s.periodicTold order) :=
  Workshop.Place.run_tellIfAny run_settle s.state.periodicWorker order

theorem run_reach (same : s.key = key) (target : ChangeNumbers) :
    ((plain key enabled).reach target).run s = ((), s.reached target) := by
  subst same
  show ((if (s.state.destroyed || s.state.catalog.contains target) = true then pure () else _ : Plain Unit).run s) = _
  unfold Scene.reached
  by_cases stays : (s.state.destroyed || s.state.catalog.contains target) = true
  · rw [if_pos stays, if_pos stays]
    rfl
  · rw [if_neg stays, if_neg stays]
    have fresh : s.state.catalog.contains target = false := by
      simp only [Bool.or_eq_true, not_or, Bool.not_eq_true] at stays
      exact stays.2
    show ((if (s.state.catalog.insertIfAbsent target (s.nextWorker target)).1 = true then
        (plain s.key enabled).workers.tell (s.nextWorker target) .start else pure () : Plain Unit).run
      { s.entered target with
        state := { s.state with catalog := (s.state.catalog.insertIfAbsent target (s.nextWorker target)).2 } }) = _
    rw [Catalog.insertIfAbsent_of_fresh fresh]
    exact run_start (s.nextWorker target)

theorem run_delayOver (same : s.key = key) :
    ((plain key enabled).delayOver).run s = ((), s.reached s.state.target) := run_reach same _

theorem run_refresh :
    ((plain key enabled).refresh).run s = ((), if s.state.destroyed || s.state.refreshing then s else s.refreshed) := by
  show ((if (s.state.destroyed || s.state.refreshing) = true then pure () else _ : Plain Unit).run s) = _
  by_cases stays : (s.state.destroyed || s.state.refreshing) = true
  · rw [if_pos stays, if_pos stays]
    rfl
  · rw [if_neg stays, if_neg stays]
    exact run_start s.state.mainWorker

theorem run_stopAll (workers : List Worker) :
    ((workers.forM fun w => (plain key enabled).workers.tell w .stop).run s) = ((), s.stopped workers) :=
  Workshop.Place.run_tellAll (by simp) workers

theorem run_shutDown :
    ((plain key enabled).shutDown).run s = ((), if s.state.destroyed then s else s.closed) := by
  show ((if s.state.destroyed = true then pure () else _ : Plain Unit).run s) = _
  by_cases stays : s.state.destroyed = true
  · rw [if_pos stays, if_pos stays]
    rfl
  · rw [if_neg stays, if_neg stays, run_bind, run_bind, run_bind, run_tellPeriodic]
    exact run_stopAll _

end Run

/-! ## What a turn leaves behind -/

namespace Scene

variable {s : Scene}

theorem take_synchronize :
    s.take (.tell .synchronize) = if s.state.destroyed || s.state.refreshing then s else s.refreshed :=
  congrArg Prod.snd run_refresh

theorem take_destroy : s.take (.tell .destroy) = if s.state.destroyed then s else s.closed := congrArg Prod.snd run_shutDown

/-- What is done about a notification that comes when something is to be refreshed. -/
theorem run_force {target : ChangeNumbers} {delay : Duration} (opened : (s.state.destroyed || !s.syncEnabled) = false) :
    ((plain s.key s.syncEnabled).force target delay).run s =
      if (!target.isNewerThan s.stored) = true then ((), s)
      else if (s.state.timers.isScheduled .syncSegments || s.state.catalog.contains (s.state.target.merge target)) = true then
        ((), s.raised target)
      else if delay.isZero = true then
        ((plain s.key s.syncEnabled).reach (s.state.target.merge target)).run (s.raised target)
      else ((), (s.raised target).armed delay) := by
  show ((if (s.state.destroyed || !s.syncEnabled) = true then pure () else _ : Plain Unit).run s) = _
  rw [opened, if_neg Bool.false_ne_true]
  show ((if (!target.isNewerThan s.stored) = true then pure () else _ : Plain Unit).run s) = _
  by_cases stale : (!target.isNewerThan s.stored) = true
  · rw [if_pos stale, if_pos stale]
    rfl
  · rw [if_neg stale, if_neg stale]
    show ((if (s.state.timers.isScheduled .syncSegments || s.state.catalog.contains (s.state.target.merge target)) = true then
        pure ()
      else if delay.isZero = true then (plain s.key s.syncEnabled).reach (s.state.target.merge target)
      else _ : Plain Unit).run (s.raised target)) = _
    by_cases covered : (s.state.timers.isScheduled .syncSegments || s.state.catalog.contains (s.state.target.merge target)) = true
    · rw [if_pos covered, if_pos covered]
      rfl
    · rw [if_neg covered, if_neg covered]
      by_cases now : delay.isZero = true
      · rw [if_pos now, if_pos now]
      · rw [if_neg now, if_neg now]
        rfl

/-- A notification that is not taken: nothing is to be refreshed any more, or at all, or it brings nothing new. -/
theorem take_force_ignored {target : ChangeNumbers} {delay : Duration}
    (ignored : s.state.destroyed = true ∨ s.syncEnabled = false ∨ target.isNewerThan s.stored = false) :
    s.take (.tell (.force target delay)) = s := by
  show (((plain s.key s.syncEnabled).force target delay).run s).2 = s
  by_cases opened : (s.state.destroyed || !s.syncEnabled) = false
  · have stale : target.isNewerThan s.stored = false := by
      simp only [Bool.or_eq_false_iff, Bool.not_eq_false'] at opened
      simpa [opened.1, opened.2] using ignored
    rw [run_force opened, stale]
    rfl
  · show ((if (s.state.destroyed || !s.syncEnabled) = true then pure () else _ : Plain Unit).run s).2 = s
    rw [if_pos (Bool.not_eq_false _ ▸ opened)]
    rfl

/-- A notification that is taken: it raises the target, which is then reached by what is under way, now, or after the delay. -/
theorem take_force {target : ChangeNumbers} {delay : Duration} (alive : s.state.destroyed = false)
    (enabled : s.syncEnabled = true) (newer : target.isNewerThan s.stored = true) :
    s.take (.tell (.force target delay)) =
      if s.state.timers.isScheduled .syncSegments || s.state.catalog.contains (s.state.target.merge target) then s.raised target
      else if delay.isZero then (s.raised target).reached (s.state.target.merge target)
      else (s.raised target).armed delay := by
  have opened : (s.state.destroyed || !s.syncEnabled) = false := by simp [alive, enabled]
  have fresh : ¬ (!target.isNewerThan s.stored) = true := by simp [newer]
  show (((plain s.key s.syncEnabled).force target delay).run s).2 = _
  rw [run_force opened, if_neg fresh]
  by_cases covered : (s.state.timers.isScheduled .syncSegments || s.state.catalog.contains (s.state.target.merge target)) = true
  · rw [if_pos covered, if_pos covered]
  · rw [if_neg covered, if_neg covered]
    by_cases now : delay.isZero = true
    · rw [if_pos now, if_pos now]
      exact congrArg Prod.snd (run_reach rfl _)
    · rw [if_neg now, if_neg now]

theorem take_startPeriodic :
    s.take (.tell .startPeriodic) = if s.state.destroyed then s else s.periodicTold .start := by
  show ((if (!s.state.destroyed) = true then (plain s.key s.syncEnabled).tellPeriodic .start else pure () : Plain Unit).run s).2 = _
  cases s.state.destroyed with
  | true => rfl
  | false => exact congrArg Prod.snd (run_tellPeriodic _)

theorem take_resume : s.take (.tell .resume) = if s.state.destroyed then s else s.periodicTold .resume := by
  show ((if (!s.state.destroyed) = true then (plain s.key s.syncEnabled).tellPeriodic .resume
    else pure () : Plain Unit).run s).2 = _
  cases s.state.destroyed with
  | true => rfl
  | false => exact congrArg Prod.snd (run_tellPeriodic _)

theorem take_stopPeriodic : s.take (.tell .stopPeriodic) = s.periodicTold .stop := congrArg Prod.snd (run_tellPeriodic _)

theorem take_pause : s.take (.tell .pause) = s.periodicTold .pause := congrArg Prod.snd (run_tellPeriodic _)

/-- What the synchronizer only passes on. -/
theorem take_loadFromCache : s.take (.tell .loadFromCache) = s := by
  show ((if (!s.state.destroyed) = true then pure () else pure () : Plain Unit).run s).2 = s
  cases s.state.destroyed <;> rfl

theorem take_notifyUpdated : s.take (.tell .notifyUpdated) = s := rfl

theorem take_notifyLargeUpdated : s.take (.tell .notifyLargeUpdated) = s := rfl

theorem take_timer {id : Nat} :
    s.take (.timer id) =
      if (s.state.timers.wake id).1.isSome then (s.rung id).reached s.state.target else s.rung id := by
  show ((if (s.state.timers.wake id).1.isSome = true then (plain s.key s.syncEnabled).delayOver else pure () : Plain Unit).run
    (s.rung id)).2 = _
  by_cases due : (s.state.timers.wake id).1.isSome = true
  · rw [if_pos due, if_pos due]
    exact congrArg Prod.snd (run_delayOver rfl)
  · rw [if_neg due, if_neg due]
    rfl

/-- A worker that is done, if it was under way. -/
theorem take_finish {w : Worker} {result : Outcome} :
    s.take (.finish w result) =
      if w.kind.reports = true ∧ w ∈ Workshop.running s.shop.journal then s.finished w result else s := by
  show ((if (w.kind.reports && decide (w ∈ Workshop.running s.shop.journal)) = true then
      Workshop.report bench.cell bench.sight (settle s.key s.syncEnabled) w result else pure () : Plain Unit).run s).2 = _
  by_cases underWay : w.kind.reports = true ∧ w ∈ Workshop.running s.shop.journal
  · rw [if_pos underWay, if_pos (by simpa using underWay), Workshop.Place.run_report run_settle]
    rfl
  · rw [if_neg underWay, if_neg (by simpa using underWay)]
    rfl

theorem take_store {numbers : ChangeNumbers} : s.take (.store numbers) = { s with stored := numbers } := rfl

theorem take_load : s.take .load = s := rfl

theorem take_advance {d : Duration} : s.take (.advance d) = { s with steady := s.steady + d.toNanos } := rfl

/-! ## The turns there are -/

/-- A started worker is under way, or done already. -/
theorem started_cases (s : Scene) (w : Worker) :
    s.started w = s.wrote (.told w .start) ∨
      ∃ result, w.kind.reports = true ∧ s.started w = (s.wrote (.told w .start)).finished w result :=
  bench.started_cases (fun w result s => s.noted w result) s w

theorem finished_eq (w : Worker) (result : Outcome) :
    s.finished w result = { s.wrote (.done w result) with state := s.settled w.kind } := rfl

/-- The target that a notification asks for, if it brings something new. -/
def heard (s : Scene) : Input → Option ChangeNumbers
  | .tell (.force target _) =>
    if s.stored.segments < target.segments ∨ s.stored.largeSegments < target.largeSegments then some target else none
  | _ => none

/-- The turns that an input can lead to. -/
inductive Turn (s : Scene) : Input → Scene → Prop where
  /-- The synchronizer keeps what it keeps, and tells no worker anything. -/
  | aside {i : Input} {s' : Scene} (state : s'.state = s.state) (shop : s'.shop = s.shop) (enabled : s'.syncEnabled = s.syncEnabled)
      (unheard : s.state.destroyed = false → s.syncEnabled = true → s.heard i = none)
      (idle : i = .tell .synchronize → s.state.destroyed = true ∨ s.state.refreshing = true) : Turn s i s'
  | periodic {i : Input} (order : WorkerOrder) (unheard : s.heard i = none) (idle : i ≠ .tell .synchronize) :
      Turn s i (s.periodicTold order)
  | refresh (alive : s.state.destroyed = false) (free : s.state.refreshing = false) : Turn s (.tell .synchronize) s.refreshed
  /-- A notification is left to what is under way. -/
  | merge {target : ChangeNumbers} {delay : Duration} (alive : s.state.destroyed = false)
      (heard : s.heard (.tell (.force target delay)) = some target)
      (held : s.state.timers.isScheduled .syncSegments = true ∨ s.state.catalog.contains (s.state.target.merge target) = true) :
      Turn s (.tell (.force target delay)) (s.raised target)
  | now {target : ChangeNumbers} {delay : Duration} (alive : s.state.destroyed = false)
      (heard : s.heard (.tell (.force target delay)) = some target) :
      Turn s (.tell (.force target delay)) ((s.raised target).reached (s.state.target.merge target))
  | later {target : ChangeNumbers} {delay : Duration} (alive : s.state.destroyed = false)
      (heard : s.heard (.tell (.force target delay)) = some target) :
      Turn s (.tell (.force target delay)) ((s.raised target).armed delay)
  | ring {id : Nat} (due : (s.state.timers.wake id).1.isSome = true) : Turn s (.timer id) ((s.rung id).reached s.state.target)
  | finish {w : Worker} {result : Outcome} (inside : w ∈ Workshop.running s.shop.journal) :
      Turn s (.finish w result) (s.finished w result)
  | close (alive : s.state.destroyed = false) : Turn s (.tell .destroy) s.closed

/-- A timer that does not wait any more runs out in vain. -/
theorem rung_of_none {id : Nat} (gone : (s.state.timers.wake id).1.isSome = false) : s.rung id = s := by
  unfold rung
  have same : (s.state.timers.wake id).2 = s.state.timers := by
    unfold TimerTable.wake at gone ⊢
    cases found : s.state.timers.sleepers.find? fun sleeper => sleeper.id = id with
    | none => rfl
    | some sleeper =>
      rw [found] at gone
      cases gone
  rw [same]

/-- A notification comes. -/
theorem turn_force (s : Scene) (target : ChangeNumbers) (delay : Duration) :
    s.Turn (.tell (.force target delay)) (s.take (.tell (.force target delay))) := by
  have fresh_iff : target.isNewerThan s.stored = true ↔
      s.stored.segments < target.segments ∨ s.stored.largeSegments < target.largeSegments := by
    simp [ChangeNumbers.isNewerThan]
  by_cases alive : s.state.destroyed = false
  · by_cases enabled : s.syncEnabled = true
    · by_cases newer : target.isNewerThan s.stored = true
      · have heard : s.heard (.tell (.force target delay)) = some target := if_pos (fresh_iff.1 newer)
        rw [take_force alive enabled newer]
        by_cases held : (s.state.timers.isScheduled .syncSegments || s.state.catalog.contains (s.state.target.merge target)) = true
        · rw [if_pos held]
          exact .merge alive heard (by simpa using held)
        · rw [if_neg held]
          by_cases zero : delay.isZero = true
          · rw [if_pos zero]
            exact .now alive heard
          · rw [if_neg zero]
            exact .later alive heard
      · have unheard : s.heard (.tell (.force target delay)) = none := if_neg fun news => newer (fresh_iff.2 news)
        rw [take_force_ignored (.inr (.inr (by simpa using newer)))]
        exact .aside rfl rfl rfl (fun _ _ => unheard) (by simp)
    · rw [take_force_ignored (.inr (.inl (by simpa using enabled)))]
      exact .aside rfl rfl rfl (fun _ on => (enabled on).elim) (by simp)
  · rw [take_force_ignored (.inl (by simpa using alive))]
    exact .aside rfl rfl rfl (fun still _ => (alive still).elim) (by simp)

/-- Whatever happens, it is one of the turns. -/
theorem turn (s : Scene) (i : Input) : s.Turn i (s.take i) := by
  have still {i : Input} (unheard : s.heard i = none) (idle : i ≠ .tell .synchronize) : s.Turn i s :=
    .aside rfl rfl rfl (fun _ _ => unheard) fun same => (idle same).elim
  cases i with
  | tell command =>
    cases command with
    | loadFromCache =>
      rw [take_loadFromCache]
      exact still rfl (by simp)
    | synchronize =>
      rw [take_synchronize]
      by_cases busy : (s.state.destroyed || s.state.refreshing) = true
      · rw [if_pos busy]
        exact .aside rfl rfl rfl (fun _ _ => rfl) fun _ => by simpa using busy
      · rw [if_neg busy]
        obtain ⟨alive, free⟩ : s.state.destroyed = false ∧ s.state.refreshing = false := by simpa using busy
        exact .refresh alive free
    | force target delay => exact turn_force s target delay
    | startPeriodic =>
      rw [take_startPeriodic]
      by_cases gone : s.state.destroyed = true
      · rw [if_pos gone]
        exact still rfl (by simp)
      · rw [if_neg gone]
        exact .periodic .start rfl (by simp)
    | stopPeriodic =>
      rw [take_stopPeriodic]
      exact .periodic .stop rfl (by simp)
    | notifyUpdated =>
      rw [take_notifyUpdated]
      exact still rfl (by simp)
    | notifyLargeUpdated =>
      rw [take_notifyLargeUpdated]
      exact still rfl (by simp)
    | pause =>
      rw [take_pause]
      exact .periodic .pause rfl (by simp)
    | resume =>
      rw [take_resume]
      by_cases gone : s.state.destroyed = true
      · rw [if_pos gone]
        exact still rfl (by simp)
      · rw [if_neg gone]
        exact .periodic .resume rfl (by simp)
    | destroy =>
      rw [take_destroy]
      by_cases gone : s.state.destroyed = true
      · rw [if_pos gone]
        exact still rfl (by simp)
      · rw [if_neg gone]
        exact .close (by simpa using gone)
  | timer id =>
    rw [take_timer]
    by_cases due : (s.state.timers.wake id).1.isSome = true
    · rw [if_pos due]
      exact .ring due
    · rw [if_neg due, rung_of_none (by simpa using due)]
      exact still rfl (by simp)
  | finish w result =>
    rw [take_finish]
    by_cases underWay : w.kind.reports = true ∧ w ∈ Workshop.running s.shop.journal
    · rw [if_pos underWay]
      exact .finish underWay.2
    · rw [if_neg underWay]
      exact still rfl (by simp)
  | store numbers =>
    rw [take_store]
    exact .aside rfl rfl rfl (fun _ _ => rfl) (by simp)
  | load =>
    rw [take_load]
    exact still rfl (by simp)
  | advance d =>
    rw [take_advance]
    exact .aside rfl rfl rfl (fun _ _ => rfl) (by simp)

/-! ## What a turn keeps -/

section Keeps

variable {w : Worker} {kind : WorkerKind} {target : ChangeNumbers} {order : WorkerOrder}

@[simp] theorem destroyed_settled : (s.settled kind).destroyed = s.state.destroyed := by cases kind <;> rfl

@[simp] theorem timers_settled : (s.settled kind).timers = s.state.timers := by cases kind <;> rfl

@[simp] theorem target_settled : (s.settled kind).target = s.state.target := by cases kind <;> rfl

theorem refreshing_settled (free : s.state.refreshing = false) : (s.settled kind).refreshing = false := by
  cases kind <;> first | exact free | rfl

/-- Starting a worker leaves what is kept as it is, unless the worker is done at once. -/
theorem state_started : (s.started w).state = s.state ∨ (s.started w).state = s.settled w.kind := by
  rcases started_cases s w with same | ⟨result, -, same⟩ <;> rw [same]
  · exact .inl rfl
  · exact .inr rfl

@[simp] theorem destroyed_started : (s.started w).state.destroyed = s.state.destroyed := by
  rcases state_started (s := s) (w := w) with same | same <;> simp [same]

theorem refreshing_started (free : s.state.refreshing = false) : (s.started w).state.refreshing = false := by
  rcases state_started (s := s) (w := w) with same | same
  · rw [same]
    exact free
  · rw [same]
    exact refreshing_settled free

@[simp] theorem destroyed_reached : (s.reached target).state.destroyed = s.state.destroyed := by
  unfold reached
  by_cases stays : (s.state.destroyed || s.state.catalog.contains target) = true
  · rw [if_pos stays]
  · rw [if_neg stays]
    exact destroyed_started

theorem refreshing_reached (free : s.state.refreshing = false) : (s.reached target).state.refreshing = false := by
  unfold reached
  by_cases stays : (s.state.destroyed || s.state.catalog.contains target) = true
  · rw [if_pos stays]
    exact free
  · rw [if_neg stays]
    exact refreshing_started free

/-- The periodic worker is told something: it is started, or that is only written down. -/
theorem periodicTold_cases (s : Scene) (order : WorkerOrder) :
    s.periodicTold order = s ∨ ∃ w, s.state.periodicWorker = some w ∧
      (s.periodicTold order = s.started w ∨ order ≠ .start ∧ s.periodicTold order = s.wrote (.told w order)) :=
  bench.toldIfAny_cases (fun w result s => s.noted w result) s s.state.periodicWorker order

@[simp] theorem destroyed_periodicTold : (s.periodicTold order).state.destroyed = s.state.destroyed := by
  rcases periodicTold_cases s order with same | ⟨w, -, same | ⟨-, same⟩⟩ <;> rw [same]
  · exact destroyed_started
  · rfl

theorem refreshing_periodicTold (free : s.state.refreshing = false) : (s.periodicTold order).state.refreshing = false := by
  rcases periodicTold_cases s order with same | ⟨w, -, same | ⟨-, same⟩⟩ <;> rw [same]
  · exact free
  · exact refreshing_started free
  · exact free

@[simp] theorem state_stopped (workers : List Worker) : (s.stopped workers).state = s.state := by
  unfold stopped
  induction workers generalizing s with
  | nil => rfl
  | cons w rest ih => exact ih

/-- Only a call to destroy destroys. -/
theorem Turn.alive {i : Input} {s' : Scene} (turn : s.Turn i s') (spared : i ≠ .tell .destroy)
    (alive : s.state.destroyed = false) : s'.state.destroyed = false := by
  cases turn with
  | aside state => rw [state, alive]
  | periodic order => rw [destroyed_periodicTold, alive]
  | refresh => exact destroyed_started.trans alive
  | merge => exact alive
  | now => exact destroyed_reached.trans alive
  | later => exact alive
  | ring => exact destroyed_reached.trans alive
  | finish => exact destroyed_settled.trans alive
  | close => exact (spared rfl).elim

/-- Ending everything that is under way destroys. -/
theorem destroyed_closed : s.closed.state.destroyed = true :=
  (congrArg State.destroyed (state_stopped _)).trans destroyed_periodicTold

/-- Once it is destroyed, a synchronizer stays so. -/
theorem Turn.gone {i : Input} {s' : Scene} (turn : s.Turn i s') (gone : s.state.destroyed = true) :
    s'.state.destroyed = true := by
  cases turn with
  | aside state => rw [state, gone]
  | periodic order => rw [destroyed_periodicTold, gone]
  | refresh => exact destroyed_started.trans gone
  | merge => exact gone
  | now => exact destroyed_reached.trans gone
  | later => exact gone
  | ring => exact destroyed_reached.trans gone
  | finish => exact destroyed_settled.trans gone
  | close => exact destroyed_closed

/-- Only a call to refresh starts a refresh. -/
theorem Turn.free {i : Input} {s' : Scene} (turn : s.Turn i s') (unasked : i ≠ .tell .synchronize)
    (free : s.state.refreshing = false) : s'.state.refreshing = false := by
  cases turn with
  | aside state => rw [state, free]
  | periodic order => exact refreshing_periodicTold free
  | refresh => exact (unasked rfl).elim
  | merge => exact free
  | now => exact refreshing_reached free
  | later => exact free
  | ring => exact refreshing_reached free
  | finish => exact refreshing_settled free
  | close =>
    refine (congrArg State.refreshing (state_stopped _)).trans ?_
    exact refreshing_periodicTold free

end Keeps

end Scene

/-- A new synchronizer is not destroyed. -/
theorem Setup.alive_scene (u : Setup) : u.scene.state.destroyed = false := by
  obtain ⟨key, enabled, stored, loading, steady, prompt⟩ := u
  cases enabled <;> rfl

end SegmentSync

end FlagKeeper
