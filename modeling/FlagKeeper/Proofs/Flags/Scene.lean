import FlagKeeper.Flags.FlagSync
import FlagKeeper.Proofs.Keeps
import FlagKeeper.Proofs.Workshop.Journal

/-!
# The flag synchronizer in a workshop

The flag synchronizer, the program that it is, over the workshop that keeps a journal and over any store of flags (`Shelf`): what a
store holds may be anything, and so may what is left of it after an operation. What can happen to the synchronizer is an `Input`: it
is told something, a worker of it is done, a job is done in the background, and the store comes to hold something else. Each line of
the journal says what the stored change number was at that moment.

`Scene.turn` says what an input can lead to: a turn that concerns no worker, an order to the periodic worker, a fetch of all flags,
a catch-up that is launched, a worker that is done, or the end of everything.
-/

namespace FlagKeeper

/-- The change number that a kind of worker is to reach. -/
def WorkerKind.changeNumber? : WorkerKind → Option Int
  | .flagsUpdate n => some n
  | _ => none

namespace FlagSync

/-- Any store of flags: what is read from what it holds, and what is left of that after each operation. -/
structure Shelf (β : Type) where
  flags : β → List FeatureFlag
  changeNumber : β → Int
  queryText : β → Option String
  loadLocal : β → Outcome × β
  setChangeNumber : Int → β → Outcome × β
  delete : List String → β → Outcome × β
  kill : FlagKill → β → Except SyncError Bool × β
  setQueryText : String → β → Outcome × β

/-- The flag synchronizer and its plain host. -/
structure Scene (β : Type) where
  filter : FlagFilter
  syncEnabled : Bool
  shelf : Shelf β
  /-- What the store holds. -/
  stock : β
  state : State
  /-- The work that waits for the background. -/
  jobs : List Job := []
  /-- The status events that were broadcast, the latest first. -/
  sent : List StatusEvent := []
  shop : Workshop Int

variable {β : Type}

/-- Programs on the plain host. -/
abbrev Plain (β : Type) := StateM (Scene β)

/-- The place of what the synchronizer keeps. -/
def stateCell : Cell (Plain β) State where
  get := return (← get).state
  set st := modify fun s => { s with state := st }

/-- The place of the workshop. What the journal shows of a moment is the stored change number. -/
def bench : Workshop.Place (Scene β) Int where
  shop := Scene.shop
  put shop s := { s with shop }
  look s := s.shelf.changeNumber s.stock

/-- Operates on the store. -/
def stockStep {α : Type} (change : β → α × β) : Plain β α := do
  let s ← get
  let (answer, stock) := change s.stock
  set { s with stock }
  return answer

/-- The store on the plain host. -/
def Shelf.store (shelf : Shelf β) : FlagStore (Plain β) where
  loadLocal := stockStep shelf.loadLocal
  all := return shelf.flags (← get).stock
  changeNumber := return shelf.changeNumber (← get).stock
  setChangeNumber n := stockStep (shelf.setChangeNumber n)
  delete names := stockStep (shelf.delete names)
  kill k := stockStep (shelf.kill k)
  queryText := return shelf.queryText (← get).stock
  setQueryText text := stockStep (shelf.setQueryText text)

/-- The synchronizer on the plain host, given what is to be done when a worker is done. -/
def plainWith (filter : FlagFilter) (syncEnabled : Bool) (shelf : Shelf β) (finish : Worker → Outcome → Plain β Unit) :
    FlagSync (Plain β) where
  filter
  syncEnabled
  state := stateCell
  store := shelf.store
  signal _ := return ()
  broadcast e := modify fun s => { s with sent := e :: s.sent }
  workers := Workshop.workers bench.cell bench.sight finish
  background job := modify fun s => { s with jobs := s.jobs ++ [job] }

/-- A worker is done: the synchronizer takes note of it. -/
def settle (filter : FlagFilter) (syncEnabled : Bool) (shelf : Shelf β) (w : Worker) (result : Outcome) : Plain β Unit :=
  let sync := plainWith filter syncEnabled shelf fun _ _ => return ()
  match w.kind with
  | .flagsSync => mainCompleted sync.broadcast result
  | .flagsUpdate n => sync.catchUpCompleted n result
  | _ => return ()

/-- The synchronizer on the plain host, whose workers report when they are done. -/
def plain (filter : FlagFilter) (syncEnabled : Bool) (shelf : Shelf β) : FlagSync (Plain β) :=
  plainWith filter syncEnabled shelf (settle filter syncEnabled shelf)

/-- What can happen to the flag synchronizer. -/
inductive Input (β : Type) where
  | tell (command : Command)
  /-- A worker is done: the one that fetches all flags at any time, one that catches up only while it is under way. -/
  | finish (w : Worker) (result : Outcome)
  /-- One of the jobs that wait is done. -/
  | work (place : Nat)
  /-- The store holds something else from now on. -/
  | restock (stock : β)

/-- Does one of the jobs that wait. -/
def workOn (sync : FlagSync (Plain β)) (place : Nat) : Plain β Unit := do
  let s ← get
  match s.jobs[place]? with
  | some job =>
    set { s with jobs := s.jobs.eraseIdx place }
    sync.runJob job
  | none => return ()

/-- What is done about an input. -/
def Input.program (s : Scene β) : Input β → Plain β Unit
  | .tell command => (plain s.filter s.syncEnabled s.shelf).run command
  | .finish w result =>
    if w = s.state.mainWorker || w.kind.reports && w ∈ Workshop.running s.shop.journal then
      Workshop.report bench.cell bench.sight (settle s.filter s.syncEnabled s.shelf) w result
    else return ()
  | .work place => workOn (plain s.filter s.syncEnabled s.shelf) place
  | .restock stock => modify fun s => { s with stock }

/-- The scene after an input. -/
def Scene.take (s : Scene β) (i : Input β) : Scene β := ((i.program s).run s).2

/-- The scene after some inputs, the latest first. -/
def Scene.after (s : Scene β) : List (Input β) → Scene β
  | [] => s
  | i :: past => (s.after past).take i

/-- What the flag synchronizer is put together from, and where. -/
structure Setup (β : Type) where
  filter : FlagFilter
  syncEnabled : Bool
  shelf : Shelf β
  stock : β
  /-- How a worker ends that is done as soon as it is started, by the journal. -/
  prompt : List (Workshop.Line Int) → Option Outcome

/-- Makes the workers of a new synchronizer. -/
def Setup.parts (u : Setup β) : StateM (Workshop Int) State :=
  create u.syncEnabled (Workshop.workers { get := get, set := set } (return u.shelf.changeNumber u.stock) fun _ _ => return ())

/-- A new flag synchronizer. -/
def Setup.scene (u : Setup β) : Scene β where
  filter := u.filter
  syncEnabled := u.syncEnabled
  shelf := u.shelf
  stock := u.stock
  state := (u.parts.run { prompt := u.prompt }).1
  shop := (u.parts.run { prompt := u.prompt }).2

/-- A new flag synchronizer after some inputs, the latest first. -/
def Setup.after (u : Setup β) (inputs : List (Input β)) : Scene β := u.scene.after inputs

/-! ## What a turn is made of -/

/-- What is broadcast when a worker is done. -/
def announcement : WorkerKind → Outcome → Option StatusEvent
  | .flagsSync, .ok () => some .syncExecuted
  | .flagsSync, .error .uriTooLong => some .uriTooLongOnSync
  | .flagsUpdate _, .ok () => some .syncExecuted
  | _, _ => none

namespace Scene

variable (s : Scene β)

/-- Something was written down. -/
def wrote (what : Workshop.Happening) : Scene β := bench.wrote s what

/-- A worker of a kind is done, as far as what is kept is concerned. -/
def settled (kind : WorkerKind) : State :=
  match kind with
  | .flagsUpdate n => { s.state with catalog := (s.state.catalog.remove n).2 }
  | _ => s.state

/-- The synchronizer took note that a worker is done. -/
def noted (w : Worker) (result : Outcome) : Scene β :=
  { s with state := s.settled w.kind, sent := (announcement w.kind result).toList ++ s.sent }

/-- A worker is done. -/
def finished (w : Worker) (result : Outcome) : Scene β := bench.finished (fun w result s => s.noted w result) s w result

/-- A worker was started, and may be done already. -/
def started (w : Worker) : Scene β := bench.started (fun w result s => s.noted w result) s w

/-- The worker that is made next if it is to catch up. -/
def nextWorker (n : Int) : Worker := ⟨.flagsUpdate n, s.shop.made⟩

/-- A worker that is to catch up was made and is in the catalog. -/
def entered (n : Int) : Scene β :=
  let s' := s.wrote (.made (s.nextWorker n))
  { s' with
    shop := { s'.shop with made := s.shop.made + 1 }
    state := { s.state with catalog := ⟨s.state.catalog.entries ++ [(n, s.nextWorker n)]⟩ } }

/-- A worker that is to catch up was made, put into the catalog and started. -/
def launched (n : Int) : Scene β := (s.entered n).started (s.nextWorker n)

/-- The periodic worker was told something, if there is one. -/
def periodicTold (order : WorkerOrder) : Scene β :=
  bench.toldIfAny (fun w result s => s.noted w result) s s.state.periodicWorker order

/-- Some workers were told to stop, one after the other. -/
def tolled (workers : List Worker) : Scene β := workers.foldl (fun s w => s.wrote (.told w .stop)) s

/-- The synchronizer is stopped from now on. -/
def doomed : Scene β := { s with state := { s.state with stopped := true } }

/-- The catch-ups under way were dropped. -/
def emptied : Scene β := { s with state := { s.state with catalog := {} } }

/-- Everything under way was ended. -/
def closed : Scene β :=
  let s' := ((s.doomed.wrote (.told s.state.mainWorker .stop)).periodicTold .stop).periodicTold .destroy
  s'.emptied.tolled (s'.state.catalog.entries.map (·.2))

end Scene

/-! ## What the programs leave behind -/

section Run

variable {s : Scene β} {filter : FlagFilter} {enabled : Bool} {shelf : Shelf β}

theorem run_bind {α γ : Type} (x : Plain β α) (f : α → Plain β γ) :
    (x >>= f).run s = (f (x.run s).1).run (x.run s).2 := rfl

theorem run_settle (w : Worker) (result : Outcome) (s : Scene β) :
    (settle filter enabled shelf w result).run s = ((), s.noted w result) := by
  unfold settle Scene.noted Scene.settled
  cases w.kind with
  | flagsSync =>
    cases result with
    | ok => rfl
    | error e => cases e <;> rfl
  | flagsUpdate n => cases result <;> rfl
  | _ => rfl

theorem run_start (w : Worker) : ((plain filter enabled shelf).workers.tell w .start).run s = ((), s.started w) :=
  Workshop.Place.run_start run_settle w

theorem run_tellPeriodic (order : WorkerOrder) :
    ((plain filter enabled shelf).tellPeriodic order).run s = ((), s.periodicTold order) :=
  Workshop.Place.run_tellIfAny run_settle s.state.periodicWorker order

theorem run_fetchAll :
    ((plain filter enabled shelf).fetchAll).run s = ((), if s.state.stopped then s else s.started s.state.mainWorker) := by
  show ((if (!s.state.stopped) = true then (plain filter enabled shelf).workers.tell s.state.mainWorker .start
    else pure () : Plain β Unit).run s) = _
  cases s.state.stopped with
  | true => rfl
  | false => exact run_start s.state.mainWorker

/-- A catch-up that is needed: sync is on, the change is not known yet and not under way. -/
theorem run_catchUp {n : Int} (opened : (s.state.stopped || !enabled) = false) (ahead : ¬n ≤ shelf.changeNumber s.stock)
    (fresh : s.state.catalog.contains n = false) : ((plain filter enabled shelf).catchUp n).run s = ((), s.launched n) := by
  show ((if (s.state.stopped || !enabled) = true then pure () else _ : Plain β Unit).run s) = _
  rw [opened, if_neg Bool.false_ne_true]
  show ((if n ≤ shelf.changeNumber s.stock then pure () else _ : Plain β Unit).run s) = _
  rw [if_neg ahead]
  show ((if s.state.catalog.contains n = true then pure () else _ : Plain β Unit).run s) = _
  rw [fresh, if_neg Bool.false_ne_true]
  show ((if (s.state.catalog.insertIfAbsent n (s.nextWorker n)).1 = true then
      (plain filter enabled shelf).workers.tell (s.nextWorker n) .start else pure () : Plain β Unit).run
    { s.entered n with state := { s.state with catalog := (s.state.catalog.insertIfAbsent n (s.nextWorker n)).2 } }) = _
  rw [Catalog.insertIfAbsent_of_fresh fresh]
  exact run_start (s.nextWorker n)

/-- A catch-up that is not needed. -/
theorem run_catchUp_idle {n : Int}
    (idle : s.state.stopped = true ∨ enabled = false ∨ n ≤ shelf.changeNumber s.stock ∨ s.state.catalog.contains n = true) :
    ((plain filter enabled shelf).catchUp n).run s = ((), s) := by
  show ((if (s.state.stopped || !enabled) = true then pure () else _ : Plain β Unit).run s) = _
  by_cases off : (s.state.stopped || !enabled) = true
  · rw [if_pos off]
    rfl
  · rw [if_neg off]
    show ((if n ≤ shelf.changeNumber s.stock then pure () else _ : Plain β Unit).run s) = _
    by_cases known : n ≤ shelf.changeNumber s.stock
    · rw [if_pos known]
      rfl
    · rw [if_neg known]
      have held : s.state.catalog.contains n = true := by
        rcases idle with gone | idle | known' | held
        · simp [gone] at off
        · simp [idle] at off
        · exact (known known').elim
        · exact held
      show ((if s.state.catalog.contains n = true then pure () else _ : Plain β Unit).run s) = _
      rw [if_pos held]
      rfl

theorem run_stopAll (workers : List Worker) :
    ((workers.forM fun w => (plain filter enabled shelf).workers.tell w .stop).run s) = ((), s.tolled workers) :=
  Workshop.Place.run_tellAll (by simp) workers

theorem run_shutDown : ((plain filter enabled shelf).shutDown).run s = ((), if s.state.stopped then s else s.closed) := by
  show ((if s.state.stopped = true then pure () else _ : Plain β Unit).run s) = _
  by_cases stays : s.state.stopped = true
  · rw [if_pos stays, if_pos stays]
    rfl
  · rw [if_neg stays, if_neg stays, run_bind, run_bind, run_bind, run_tellPeriodic, run_bind, run_tellPeriodic]
    exact run_stopAll _

end Run

/-! ## Programs that only operate on the store -/

/-- A scene as it was, but for the stock. -/
def Restocked (s₀ s : Scene β) : Prop := ∃ stock, s = { s₀ with stock }

section Restocked

variable {s₀ : Scene β} {filter : FlagFilter} {enabled : Bool} {shelf : Shelf β}

theorem keeps_stockStep {α : Type} (change : β → α × β) : Keeps (Restocked s₀) (stockStep change) := by
  rintro s ⟨stock, rfl⟩
  exact ⟨(change stock).2, rfl⟩

theorem keeps_andThen {first next : Plain β Outcome} (h : Keeps (Restocked s₀) first) (h' : Keeps (Restocked s₀) next) :
    Keeps (Restocked s₀) (FlagSync.andThen first next) := by
  refine h.bind fun result => ?_
  cases result with
  | ok => exact h'
  | error e => exact Keeps.pure _

theorem keeps_reconcile : Keeps (Restocked s₀) (plain filter enabled shelf).reconcile := by
  refine (Keeps.read _).bind fun query => Keeps.ite (Keeps.pure _) ?_
  refine (Keeps.read _).bind fun flags => keeps_andThen ?_ (keeps_stockStep _)
  exact Keeps.ite (Keeps.pure _) (keeps_andThen (keeps_stockStep _) (keeps_stockStep _))

theorem keeps_loadFromCache : Keeps (Restocked s₀) (plain filter enabled shelf).loadFromCache := by
  refine (keeps_stockStep _).bind fun _ => keeps_reconcile.bind fun _ => (Keeps.read _).bind fun flags => ?_
  exact Keeps.ite (Keeps.pure ()) (Keeps.pure ())

theorem keeps_kill (kill : FlagKill) : Keeps (Restocked s₀) ((plain filter enabled shelf).runJob (.kill kill)) := by
  refine (keeps_stockStep _).bind fun result => ?_
  cases result with
  | error e => exact Keeps.pure ()
  | ok applied => cases applied <;> exact Keeps.pure ()

end Restocked

/-! ## The turns there are -/

namespace Scene

variable {s : Scene β}

/-- Two scenes of one synchronizer that differ in the stock and in the jobs only. -/
structure Beside (s s' : Scene β) : Prop where
  state : s'.state = s.state
  shop : s'.shop = s.shop
  enabled : s'.syncEnabled = s.syncEnabled
  sent : s'.sent = s.sent

/-- The turns that an input can lead to. -/
inductive Turn (s : Scene β) : Input β → Scene β → Prop where
  | aside {i : Input β} {s' : Scene β} (beside : s.Beside s') : Turn s i s'
  /-- The cache was loaded, and that was announced. -/
  | announce {i : Input β} {s' : Scene β} (beside : s.Beside s') : Turn s i { s' with sent := .splitLoadedFromCache :: s'.sent }
  | periodic {i : Input β} (order : WorkerOrder) : Turn s i (s.periodicTold order)
  | fetch {i : Input β} {s' : Scene β} (beside : s.Beside s') : Turn s i (s'.started s.state.mainWorker)
  | launch {i : Input β} {n : Int} (alive : s.state.stopped = false) (enabled : s.syncEnabled = true)
      (ahead : s.shelf.changeNumber s.stock < n) (fresh : s.state.catalog.contains n = false) : Turn s i (s.launched n)
  | finish {i : Input β} {w : Worker} {result : Outcome}
      (inside : w = s.state.mainWorker ∨ w ∈ Workshop.running s.shop.journal) : Turn s i (s.finished w result)
  | close : Turn s (.tell .stop) s.closed

namespace Beside

variable {s' : Scene β}

theorem refl (s : Scene β) : s.Beside s := ⟨rfl, rfl, rfl, rfl⟩

end Beside

/-- Everything is fetched, after something that concerns no worker. -/
theorem turn_fetchAll {i : Input β} {s' : Scene β} (beside : s.Beside s') :
    s.Turn i ((((plain s.filter s.syncEnabled s.shelf).fetchAll).run s').2) := by
  rw [run_fetchAll]
  by_cases gone : s'.state.stopped = true
  · rw [if_pos gone]
    exact .aside beside
  · rw [if_neg gone, beside.state]
    exact .fetch beside

/-- A job is done in the background. -/
theorem turn_work (s : Scene β) (place : Nat) : s.Turn (.work place) (s.take (.work place)) := by
  let sync := plain s.filter s.syncEnabled s.shelf
  let s₁ : Scene β := { s with jobs := s.jobs.eraseIdx place }
  show s.Turn (.work place) ((match s.jobs[place]? with
    | some job => do
      set s₁
      sync.runJob job
    | none => pure () : Plain β Unit).run s).2
  cases s.jobs[place]? with
  | none => exact .aside (.refl s)
  | some job =>
    show s.Turn (.work place) ((sync.runJob job).run s₁).2
    cases job with
    | loadAndAnnounce =>
      obtain ⟨stock, loaded⟩ : Restocked s₁ (sync.loadFromCache.run s₁).2 := keeps_loadFromCache s₁ ⟨_, rfl⟩
      show s.Turn (.work place) { (sync.loadFromCache.run s₁).2 with
        sent := .splitLoadedFromCache :: (sync.loadFromCache.run s₁).2.sent }
      rw [loaded]
      exact .announce ⟨rfl, rfl, rfl, rfl⟩
    | loadAndFetch =>
      obtain ⟨stock, loaded⟩ : Restocked s₁ (sync.loadFromCache.run s₁).2 := keeps_loadFromCache s₁ ⟨_, rfl⟩
      show s.Turn (.work place) ((sync.fetchAll.run (sync.loadFromCache.run s₁).2).2)
      rw [loaded]
      exact turn_fetchAll ⟨rfl, rfl, rfl, rfl⟩
    | kill kill =>
      obtain ⟨stock, killed⟩ : Restocked s₁ ((sync.runJob (.kill kill)).run s₁).2 := keeps_kill kill s₁ ⟨_, rfl⟩
      rw [killed]
      exact .aside ⟨rfl, rfl, rfl, rfl⟩

/-- A notification of a change comes. -/
theorem turn_catchUp (s : Scene β) (n : Int) : s.Turn (.tell (.synchronizeTo n)) (s.take (.tell (.synchronizeTo n))) := by
  show s.Turn _ ((((plain s.filter s.syncEnabled s.shelf).catchUp n).run s).2)
  by_cases idle : s.state.stopped = true ∨ s.syncEnabled = false ∨ n ≤ s.shelf.changeNumber s.stock ∨
      s.state.catalog.contains n = true
  · rw [run_catchUp_idle idle]
    exact .aside (.refl s)
  · simp only [not_or, Bool.not_eq_true, Bool.not_eq_false, Int.not_le] at idle
    obtain ⟨alive, enabled, ahead, fresh⟩ := idle
    have opened : (s.state.stopped || !s.syncEnabled) = false := by simp [alive, enabled]
    rw [run_catchUp opened (Int.not_le.2 ahead) fresh]
    exact .launch alive enabled ahead fresh

/-- The periodic worker is told something, as long as the synchronizer is not stopped. -/
theorem turn_tellPeriodic (s : Scene β) {i : Input β} (order : WorkerOrder) :
    s.Turn i (((do if !(← stateCell.get).stopped then
      (plain s.filter s.syncEnabled s.shelf).tellPeriodic order : Plain β Unit).run s).2) := by
  show s.Turn i (((if (!s.state.stopped) = true then (plain s.filter s.syncEnabled s.shelf).tellPeriodic order
    else pure () : Plain β Unit).run s).2)
  by_cases alive : (!s.state.stopped) = true
  · rw [if_pos alive, run_tellPeriodic]
    exact .periodic order
  · rw [if_neg alive]
    exact .aside (.refl s)

theorem take_stop (s : Scene β) : s.take (.tell .stop) = if s.state.stopped then s else s.closed := congrArg Prod.snd run_shutDown

/-- Whatever happens, it is one of the turns. -/
theorem turn (s : Scene β) (i : Input β) : s.Turn i (s.take i) := by
  cases i with
  | tell command =>
    show s.Turn _ (((plain s.filter s.syncEnabled s.shelf).run command).run s).2
    cases command with
    | load => exact .aside ⟨rfl, rfl, rfl, rfl⟩
    | loadAndSynchronize => exact .aside ⟨rfl, rfl, rfl, rfl⟩
    | synchronize => exact turn_fetchAll (.refl s)
    | synchronizeTo n => exact turn_catchUp s n
    | startPeriodic => exact turn_tellPeriodic s .start
    | stopPeriodic =>
      show s.Turn _ ((((plain s.filter s.syncEnabled s.shelf).tellPeriodic .stop).run s).2)
      rw [run_tellPeriodic]
      exact .periodic .stop
    | notifyKilled kill =>
      show s.Turn _ ((if (!s.state.stopped) = true then modify fun s => { s with jobs := s.jobs ++ [.kill kill] }
        else pure () : Plain β Unit).run s).2
      by_cases alive : (!s.state.stopped) = true
      · rw [if_pos alive]
        exact .aside ⟨rfl, rfl, rfl, rfl⟩
      · rw [if_neg alive]
        exact .aside (.refl s)
    | notifyUpdated => exact .aside (.refl s)
    | pause =>
      show s.Turn _ ((((plain s.filter s.syncEnabled s.shelf).tellPeriodic .pause).run s).2)
      rw [run_tellPeriodic]
      exact .periodic .pause
    | resume => exact turn_tellPeriodic s .resume
    | stop =>
      show s.Turn _ (s.take (.tell .stop))
      rw [take_stop]
      by_cases gone : s.state.stopped = true
      · rw [if_pos gone]
        exact .aside (.refl s)
      · rw [if_neg gone]
        exact .close
  | finish w result =>
    let own : Bool := w = s.state.mainWorker || w.kind.reports && w ∈ Workshop.running s.shop.journal
    show s.Turn _ ((if own = true then
      Workshop.report bench.cell bench.sight (settle s.filter s.syncEnabled s.shelf) w result else pure () : Plain β Unit).run s).2
    by_cases inside : own = true
    · rw [if_pos inside, Workshop.Place.run_report run_settle]
      refine .finish ?_
      have known : w = s.state.mainWorker ∨ w.kind.reports = true ∧ w ∈ Workshop.running s.shop.journal := by
        simpa [own] using inside
      rcases known with main | ⟨-, underWay⟩
      · exact .inl main
      · exact .inr underWay
    · rw [if_neg inside]
      exact .aside (.refl s)
  | work place => exact turn_work s place
  | restock stock => exact .aside ⟨rfl, rfl, rfl, rfl⟩

/-! ## What a turn keeps -/

section Keeps

variable {w : Worker} {order : WorkerOrder}

/-- A started worker is under way, or done already. -/
theorem started_cases (s : Scene β) (w : Worker) :
    s.started w = s.wrote (.told w .start) ∨
      ∃ result, w.kind.reports = true ∧ s.started w = (s.wrote (.told w .start)).finished w result :=
  bench.started_cases (fun w result s => s.noted w result) s w

/-- The periodic worker is told something: it is started, or that is only written down. -/
theorem periodicTold_cases (s : Scene β) (order : WorkerOrder) :
    s.periodicTold order = s ∨ ∃ w, s.state.periodicWorker = some w ∧
      (s.periodicTold order = s.started w ∨ order ≠ .start ∧ s.periodicTold order = s.wrote (.told w order)) :=
  bench.toldIfAny_cases (fun w result s => s.noted w result) s s.state.periodicWorker order

theorem stopped_settled (kind : WorkerKind) : (s.settled kind).stopped = s.state.stopped := by cases kind <;> rfl

theorem stopped_started : (s.started w).state.stopped = s.state.stopped := by
  rcases started_cases s w with same | ⟨result, -, same⟩ <;> rw [same]
  · rfl
  · exact stopped_settled w.kind

theorem stopped_periodicTold : (s.periodicTold order).state.stopped = s.state.stopped := by
  rcases periodicTold_cases s order with same | ⟨w, -, same | ⟨-, same⟩⟩ <;> rw [same]
  · exact stopped_started
  · rfl

theorem makings_started : Workshop.makings (s.started w).shop.journal = Workshop.makings s.shop.journal := by
  rcases started_cases s w with same | ⟨result, -, same⟩ <;> rw [same] <;> rfl

theorem makings_periodicTold : Workshop.makings (s.periodicTold order).shop.journal = Workshop.makings s.shop.journal := by
  rcases periodicTold_cases s order with same | ⟨w, -, same | ⟨-, same⟩⟩ <;> rw [same]
  · exact makings_started
  · rfl

theorem state_tolled (workers : List Worker) : (s.tolled workers).state = s.state := by
  unfold tolled
  induction workers generalizing s with
  | nil => rfl
  | cons w rest ih => exact ih

theorem makings_tolled (workers : List Worker) :
    Workshop.makings (s.tolled workers).shop.journal = Workshop.makings s.shop.journal := by
  unfold tolled
  induction workers generalizing s with
  | nil => rfl
  | cons w rest ih => exact ih

/-- Ending everything makes no worker. -/
theorem makings_closed : Workshop.makings s.closed.shop.journal = Workshop.makings s.shop.journal :=
  (makings_tolled _).trans (makings_periodicTold.trans makings_periodicTold)

theorem stopped_closed : s.closed.state.stopped = true :=
  (congrArg State.stopped (state_tolled _)).trans (stopped_periodicTold.trans stopped_periodicTold)

/-- Only a call to stop stops. -/
theorem Turn.alive {i : Input β} {s' : Scene β} (turn : s.Turn i s') (spared : i ≠ .tell .stop)
    (alive : s.state.stopped = false) : s'.state.stopped = false := by
  cases turn with
  | aside beside => rw [beside.state, alive]
  | announce beside => exact (congrArg State.stopped beside.state).trans alive
  | periodic => exact stopped_periodicTold.trans alive
  | fetch beside => exact stopped_started.trans ((congrArg State.stopped beside.state).trans alive)
  | launch => exact stopped_started.trans alive
  | finish => exact (stopped_settled _).trans alive
  | close => exact (spared rfl).elim

/-- Once it is stopped, the synchronizer stays so, and no worker is made any more. -/
theorem Turn.ended {i : Input β} {s' : Scene β} (turn : s.Turn i s') (gone : s.state.stopped = true) :
    s'.state.stopped = true ∧ Workshop.makings s'.shop.journal = Workshop.makings s.shop.journal := by
  cases turn with
  | aside beside => rw [beside.state, beside.shop, gone]; simp
  | announce beside => exact ⟨(congrArg State.stopped beside.state).trans gone, by rw [beside.shop]⟩
  | periodic => exact ⟨stopped_periodicTold.trans gone, makings_periodicTold⟩
  | fetch beside =>
    refine ⟨stopped_started.trans ((congrArg State.stopped beside.state).trans gone), makings_started.trans ?_⟩
    rw [beside.shop]
  | launch alive => exact (Bool.false_ne_true (alive.symm.trans gone)).elim
  | finish => exact ⟨(stopped_settled _).trans gone, rfl⟩
  | close => exact ⟨stopped_closed, makings_closed⟩

end Keeps

end Scene

end FlagSync

end FlagKeeper
