import FlagKeeper.Proofs.Timing.TimerHistory

/-!
# Runs of a timer table

Calls come from outside or from the task of a timer that ran out; a task makes one call after the other and may go by the answers, so
it may also set and cancel timers of its own name. In a scene (`Scene`) calls from outside, calls of the running task, timers that run
out and time that goes by follow one another in any order, except that tasks run one at a time and that time goes by only once nothing is
left to do (`isSettled`). Which of several due timers runs out first is left open, and so is whether whoever runs the tasks has a longest
sleep.

`Scene.Sound` relates the table to the history: the tasks that wait in the table are the timers that wait by the history, which is
lawful. Every step keeps it, so the table does for every run what `fires_exactly_when_due` says.
-/

namespace FlagKeeper.TimerTable

/-- A call on a table. -/
inductive Request (τ : Type) where
  | add (name : TimerName) (delay : Duration) (task : τ)
  | cancel (name : TimerName)
  | cancelAll
  | isScheduled (name : TimerName)

/-- What a task has yet to do: nothing, or a call and then what follows from its answer. -/
inductive Course (τ : Type) where
  | finished
  | ask (request : Request τ) (next : Bool → Course τ)

variable {τ : Type}

/-- Whether a task is over. -/
def Course.isFinished : Course τ → Bool
  | .finished => true
  | .ask _ _ => false

/-- A table, the time, the task that runs, and what became of the timers so far, the latest first. -/
structure Scene (τ : Type) where
  table : TimerTable τ := {}
  clock : Nat := 0
  running : Course τ := .finished
  past : List (Entry τ) := []

/-- What happens in a scene. -/
inductive Step (τ : Type) where
  /-- A call from outside. -/
  | outside (request : Request τ)
  /-- The next call of the running task. -/
  | goOn
  /-- The timer of a number runs out, if it is due. -/
  | wake (id : Nat)
  /-- Time goes by. -/
  | advance (nanos : Nat)

namespace Scene

/-- The answer to a call, and the scene after it. -/
def ask (s : Scene τ) : Request τ → Bool × Scene τ
  | .add name delay task =>
    let (set, table) := s.table.add name s.clock delay task
    (set, { s with table, past := if set then .set delay (s.table.candidate name s.clock delay task) :: s.past else s.past })
  | .cancel name =>
    let (found, table) := s.table.cancel name
    (found, { s with table, past := .cancelled name :: s.past })
  | .cancelAll => (true, { s with table := s.table.cancelAll, past := .cancelledAll :: s.past })
  | .isScheduled name => (s.table.isScheduled name, s)

/-- Whether there is nothing left to do: no task runs, and no timer is due. -/
def isSettled (longest : Option Nat) (s : Scene τ) : Bool := s.running.isFinished && (s.table.due longest s.clock).isEmpty

variable (longest : Option Nat) (behaviour : τ → Course τ)

/-- The scene after a timer ran out. -/
def woken (s : Scene τ) (x : Sleeper τ) : Scene τ :=
  { s with table := (s.table.wake x.id).2, running := behaviour x.task, past := .ran x s.clock :: s.past }

/-- The scene after a step, by what the tasks do. -/
def take (s : Scene τ) : Step τ → Scene τ
  | .outside request => (s.ask request).2
  | .goOn =>
    match s.running with
    | .finished => s
    | .ask request next =>
      let (answer, s) := s.ask request
      { s with running := next answer }
  | .wake id =>
    match s.running.isFinished, (s.table.due longest s.clock).find? (·.id = id), s.table.wake id with
    | true, some x, (some task, table) => { s with table, running := behaviour task, past := .ran x s.clock :: s.past }
    | _, _, _ => s
  | .advance nanos => if s.isSettled longest then { s with clock := s.clock + nanos, past := .passed s.clock :: s.past } else s

end Scene

/-- The scene after some steps, the latest first. -/
def after (longest : Option Nat) (behaviour : τ → Course τ) : List (Step τ) → Scene τ
  | [] => {}
  | step :: earlier => (after longest behaviour earlier).take longest behaviour step

namespace Scene

/-- The table goes by the history, and the history is lawful. -/
structure Sound (longest : Option Nat) (s : Scene τ) : Prop where
  tidy : s.table.IsTidy
  lawful : Lawful longest s.clock s.past
  waiting : ∀ x, x ∈ s.table.sleepers ↔ Waiting s.past x
  numbers : ∀ x, Accepted s.past x → x.id < s.table.nextId

variable {longest : Option Nat} {s : Scene τ} {x : Sleeper τ}

theorem sound_new : Sound longest ({} : Scene τ) where
  tidy := isTidy_new
  lawful := .new
  waiting _ := ⟨List.not_mem_nil, False.elim⟩
  numbers _ accepted := accepted.elim fun _ inside => (List.not_mem_nil inside).elim

namespace Sound

/-- A name is scheduled just if a timer of the name waits. -/
theorem isScheduled_iff (h : s.Sound longest) (name : TimerName) :
    s.table.isScheduled name = true ↔ ∃ x, Waiting s.past x ∧ x.name = name := by
  rw [h.tidy.isScheduled_iff]
  exact exists_congr fun x => and_congr_left fun _ => h.waiting x

theorem mem_due_iff (h : s.Sound longest) : x ∈ s.table.due longest s.clock ↔ Waiting s.past x ∧ IsDue longest x s.clock := by
  unfold due IsDue
  rw [List.mem_filter, h.waiting, decide_eq_true_eq]

/-- Nothing that waits is due once there is nothing left to do. -/
theorem idle (h : s.Sound longest) (settled : s.isSettled longest = true) (x : Sleeper τ) (waiting : Waiting s.past x) :
    ¬IsDue longest x s.clock := by
  intro due
  have none := List.isEmpty_iff.1 (Bool.and_eq_true_iff.1 settled).2
  have inside := h.mem_due_iff.2 ⟨waiting, due⟩
  rw [none] at inside
  exact List.not_mem_nil inside

/-! ## Calls -/

theorem ask_add_of_taken {name : TimerName} (taken : s.table.isScheduled name = true) (delay : Duration) (task : τ) :
    s.ask (.add name delay task) = (false, s) := by
  simp only [ask, IsTidy.add_of_taken taken]
  rfl

theorem ask_add_fst (name : TimerName) (delay : Duration) (task : τ) :
    (s.ask (.add name delay task)).1 = !s.table.isScheduled name := IsTidy.add_fst _ _ _

theorem ask_add (h : s.Sound longest) (name : TimerName) (delay : Duration) (task : τ) :
    (s.ask (.add name delay task)).2.Sound longest := by
  cases scheduled : s.table.isScheduled name with
  | true => rwa [ask_add_of_taken scheduled]
  | false =>
    have tidy := h.tidy.add name s.clock delay task
    simp only [ask, IsTidy.add_of_free scheduled] at tidy ⊢
    have free : ∀ y, Waiting s.past y → y.name ≠ name := fun y waiting own => by
      rw [(h.isScheduled_iff name).2 ⟨y, waiting, own⟩] at scheduled
      cases scheduled
    constructor
    · exact tidy
    · exact .set delay h.lawful free (fun y accepted => Nat.ne_of_lt (h.numbers y accepted)) rfl rfl
    · intro y
      show y ∈ s.table.sleepers ++ [_] ↔ _ = y ∨ Waiting s.past y
      rw [List.mem_append, List.mem_singleton, h.waiting, or_comm, eq_comm]
    · intro y accepted
      by_cases own : s.table.candidate name s.clock delay task = y
      · exact own ▸ Nat.lt_succ_self _
      · exact Nat.lt_succ_of_lt (h.numbers y (accepted.of_cons fun _ same => own (Entry.set.inj same).2.symm))

theorem ask_cancel (h : s.Sound longest) (name : TimerName) : (s.ask (.cancel name)).2.Sound longest where
  tidy := h.tidy.cancel name
  lawful := .cancelled name h.lawful
  waiting x := by
    show x ∈ (s.table.cancel name).2.sleepers ↔ Waiting s.past x ∧ name ≠ x.name
    rw [h.tidy.sleepers_cancel, List.mem_filter, h.waiting, decide_eq_true_eq, ne_comm]
  numbers x accepted := by
    show x.id < (s.table.cancel name).2.nextId
    rw [h.tidy.nextId_cancel]
    exact h.numbers x (accepted.of_cons nofun)

theorem ask_cancelAll (h : s.Sound longest) : (s.ask .cancelAll).2.Sound longest where
  tidy := h.tidy.cancelAll
  lawful := .cancelledAll h.lawful
  waiting x := by
    show x ∈ s.table.cancelAll.sleepers ↔ False
    rw [h.tidy.sleepers_cancelAll, iff_false]
    exact List.not_mem_nil
  numbers x accepted := by
    show x.id < s.table.cancelAll.nextId
    rw [h.tidy.nextId_cancelAll]
    exact h.numbers x (accepted.of_cons nofun)

theorem ask (h : s.Sound longest) (request : Request τ) : (s.ask request).2.Sound longest := by
  cases request with
  | add name delay task => exact h.ask_add name delay task
  | cancel name => exact h.ask_cancel name
  | cancelAll => exact h.ask_cancelAll
  | isScheduled name => exact h

/-! ## Timers that run out -/

variable (behaviour : τ → Course τ)

theorem woken (h : s.Sound longest) (waiting : Waiting s.past x) (due : IsDue longest x s.clock) : (s.woken behaviour x).Sound longest where
  tidy := h.tidy.wake x.id
  lawful := .ran h.lawful waiting due
  waiting y := by
    show y ∈ (s.table.wake x.id).2.sleepers ↔ Waiting s.past y ∧ x ≠ y
    rw [h.tidy.sleepers_wake, List.mem_filter, ← h.waiting, decide_eq_true_eq]
    refine and_congr_right fun there => not_congr ⟨fun number => ?_, fun same => same ▸ rfl⟩
    exact h.tidy.eq_of_id ((h.waiting x).2 waiting) there number.symm
  numbers y accepted := by
    show y.id < (s.table.wake x.id).2.nextId
    rw [h.tidy.nextId_wake]
    exact h.numbers y (accepted.of_cons nofun)

/-- A timer that waits and is due runs out as soon as it gets its turn. -/
theorem take_wake (h : s.Sound longest) (resting : s.running.isFinished = true) (waiting : Waiting s.past x)
    (due : IsDue longest x s.clock) :
    s.take longest behaviour (.wake x.id) = s.woken behaviour x := by
  have there := (h.waiting x).2 waiting
  have found : (s.table.due longest s.clock).find? (·.id = x.id) = some x := by
    refine find?_id (h.mem_due_iff.2 ⟨waiting, due⟩) fun y inside => ?_
    exact h.tidy.eq_of_id ((h.waiting y).2 (h.mem_due_iff.1 inside).1) there
  have task := h.tidy.wake_fst there
  simp only [Scene.take, Scene.woken, resting, found]
  cases result : s.table.wake x.id with
  | mk first table =>
    rw [result] at task
    cases task
    rfl

/-- Nothing runs out but a timer that waits and is due. -/
theorem take_wake_cases (h : s.Sound longest) (id : Nat) : s.take longest behaviour (.wake id) = s ∨
    ∃ x, Waiting s.past x ∧ IsDue longest x s.clock ∧ s.take longest behaviour (.wake id) = s.woken behaviour x := by
  cases resting : s.running.isFinished with
  | false =>
    left
    simp only [Scene.take, resting]
  | true =>
    cases found : (s.table.due longest s.clock).find? (·.id = id) with
    | none =>
      left
      simp only [Scene.take, resting, found]
    | some x =>
      obtain ⟨waiting, due⟩ := h.mem_due_iff.1 (List.mem_of_find?_eq_some found)
      have own : x.id = id := by simpa using List.find?_some found
      exact .inr ⟨x, waiting, due, own ▸ h.take_wake behaviour resting waiting due⟩

/-! ## Steps and runs -/

theorem take (h : s.Sound longest) (step : Step τ) : (s.take longest behaviour step).Sound longest := by
  cases step with
  | outside request => exact h.ask request
  | goOn =>
    unfold Scene.take
    cases s.running with
    | finished => exact h
    | ask request next =>
      obtain ⟨tidy, lawful, waiting, numbers⟩ := h.ask request
      exact ⟨tidy, lawful, waiting, numbers⟩
  | wake id =>
    rcases h.take_wake_cases behaviour id with same | ⟨x, waiting, due, ran⟩
    · rwa [same]
    · rw [ran]
      exact h.woken behaviour waiting due
  | advance nanos =>
    unfold Scene.take
    cases settled : s.isSettled longest with
    | false => exact h
    | true =>
      refine ⟨h.tidy, .passed h.lawful (Nat.le_add_right _ _) (h.idle settled), h.waiting, fun x accepted => ?_⟩
      exact h.numbers x (accepted.of_cons nofun)

end Sound

theorem sound_after (longest : Option Nat) (behaviour : τ → Course τ) (steps : List (Step τ)) :
    (after longest behaviour steps).Sound longest := by
  induction steps with
  | nil => exact sound_new
  | cons step earlier ih => exact ih.take behaviour step

/-! ## A timer that ran out, and the others -/

namespace Sound

/-- The slot of a timer that ran out is free. -/
theorem slot_free (h : s.Sound longest) {time : Nat} {old : List (Entry τ)} (ran : s.past = .ran x time :: old) :
    s.table.isScheduled x.name = false := by
  rw [Bool.eq_false_iff]
  intro scheduled
  obtain ⟨y, waiting, named⟩ := (h.isScheduled_iff x.name).1 scheduled
  have lawful := h.lawful
  rw [ran] at lawful waiting
  obtain ⟨before, other⟩ := waiting
  generalize s.clock = clock at lawful
  cases lawful with
  | ran earlier now due => exact other (earlier.waiting_eq now before named.symm)

/-- Whichever timer runs out, even one that no longer waits, the others keep their slots. -/
theorem keeps_others (h : s.Sound longest) {id : Nat} (waiting : Waiting s.past x) (other : x.id ≠ id) :
    (s.table.wake id).2.isScheduled x.name = true := by
  rw [(h.tidy.wake id).isScheduled_iff, h.tidy.sleepers_wake]
  exact ⟨x, List.mem_filter.2 ⟨(h.waiting x).2 waiting, decide_eq_true other⟩, rfl⟩

end Sound

end Scene

/-- **Each name has one slot, and timers run just when they are due.** Whatever the tasks do, after any steps:

1. A timer is set just if none of its name waits; if it is turned away, nothing changes, so that its task never runs.
2. A name is scheduled just if a timer of the name waits, and no two timers of a name wait.
3. Each timer that was set has a number of its own.
4. What ran had been set and waited until then, its delay was over, and it runs once.
5. No time went by while the delay of a timer that waited was over.
6. When nothing is left to do, just those timers ran whose delay is over and that were not called off while they waited.
7. A timer that waits and whose delay is over runs out as soon as no task runs and it gets its turn.
8. When a timer runs out its slot is free, and no other timer that waits loses its slot, whatever its name.

This holds with and without a longest sleep; where there is none, only the end of the delay counts. -/
theorem fires_exactly_when_due (longest : Option Nat) (behaviour : τ → Course τ) (steps : List (Step τ)) :
    let s := after longest behaviour steps
    ((∀ name delay task, (s.ask (.add name delay task)).1 = true ↔ ∀ x, Waiting s.past x → x.name ≠ name) ∧
      ∀ name delay task, (s.ask (.add name delay task)).1 = false → (s.ask (.add name delay task)).2 = s) ∧
    ((∀ name, s.table.isScheduled name = true ↔ ∃ x, Waiting s.past x ∧ x.name = name) ∧
      ∀ x y, Waiting s.past x → Waiting s.past y → x.name = y.name → x = y) ∧
    (∀ later delay x old, s.past = later ++ .set delay x :: old → ∀ y, Accepted old y → y.id ≠ x.id) ∧
    (∀ later x time old, s.past = later ++ .ran x time :: old →
      Waiting old x ∧ (∀ delay, .set delay x ∈ old → Reached longest x.armed delay time) ∧
        ∀ again, .ran x again ∉ later ∧ .ran x again ∉ old) ∧
    (∀ later since old, s.past = later ++ .passed since :: old →
      ∀ x delay, Waiting old x → .set delay x ∈ old → ¬Reached longest x.armed delay since) ∧
    (s.isSettled longest = true → ∀ delay x, .set delay x ∈ s.past →
      (Ran s.past x ↔ Reached longest x.armed delay s.clock ∧ ¬CalledOff s.past x)) ∧
    (s.running.isFinished = true → ∀ delay x, Waiting s.past x → .set delay x ∈ s.past → Reached longest x.armed delay s.clock →
      after longest behaviour (.wake x.id :: steps) = s.woken behaviour x) ∧
    ((∀ x time old, s.past = .ran x time :: old → s.table.isScheduled x.name = false) ∧
      ∀ id x, Waiting s.past x → x.id ≠ id → (s.table.wake id).2.isScheduled x.name = true) := by
  intro s
  have h : s.Sound longest := Scene.sound_after longest behaviour steps
  refine ⟨⟨fun name delay task => ?_, fun name delay task turnedAway => ?_⟩, ⟨h.isScheduled_iff, fun x y => h.lawful.waiting_eq⟩,
    fun later delay x old past => ?_, fun later x time old past => ?_, fun later since old past x delay waiting set => ?_,
    fun settled delay x set => ?_, fun resting delay x waiting set reached => ?_,
    fun x time old => h.slot_free, fun id x => h.keeps_others⟩
  · rw [Scene.Sound.ask_add_fst, Bool.not_eq_true', Bool.eq_false_iff, Ne, h.isScheduled_iff]
    exact ⟨fun free x waiting own => free ⟨x, waiting, own⟩, fun free ⟨x, waiting, own⟩ => free x waiting own⟩
  · rw [Scene.Sound.ask_add_fst, Bool.not_eq_false'] at turnedAway
    rw [Scene.Sound.ask_add_of_taken turnedAway]
  · obtain ⟨_, _, lawful⟩ := (past ▸ h.lawful).of_append
    cases lawful with
    | set _ _ _ fresh => exact fresh
  · have lawful := h.lawful
    rw [past] at lawful
    obtain ⟨_, _, upThen⟩ := lawful.of_append
    cases upThen with
    | ran earlier waiting due =>
      exact ⟨waiting, fun delay set => (earlier.isDue_iff set time).1 due,
        fun again => ⟨lawful.ran_once again, fun before => earlier.not_waiting_of_ran ⟨again, before⟩ waiting⟩⟩
  · obtain ⟨_, _, lawful⟩ := (past ▸ h.lawful).of_append
    cases lawful with
    | passed earlier le idle => exact mt (earlier.isDue_iff set since).2 (idle x waiting)
  · rw [h.lawful.ran_iff (h.idle settled) ⟨delay, set⟩, h.lawful.isDue_iff set]
  · exact h.take_wake behaviour resting waiting ((h.lawful.isDue_iff set s.clock).2 reached)

/-- Tasks that set their timer again, as often as there are delays. -/
def renewing : List Duration → Course (List Duration)
  | [] => .finished
  | delay :: rest => .ask (.add .syncSegments delay rest) fun _ => .finished

/-- Ten seconds go by, in which a timer is due that will renew itself and another is not. -/
def tenSeconds : List (Step (List Duration)) :=
  [.advance (10 * nanosPerSec), .outside (.add .streamingReconnect (.ofSecs 20) []),
    .outside (.add .syncSegments (.ofSecs 10) [.ofSecs 5])]

/-- Thirty years go by. One timer has a delay of thirty-one years, the delay of the other is longer than the clock can tell. -/
def thirtyYears : List (Step (List Duration)) :=
  [.advance 946080000000000000, .outside (.add .streamingReconnect (.ofSecs 18446744073709551615) []),
    .outside (.add .syncSegments (.ofSecs 977616000) [])]

/-- The timer that is due runs out and leaves its slot free, the other keeps its own. Once the first has renewed itself nothing is left
to do, and a third timer of its name is turned away.

After thirty years only the timer runs out whose delay the clock cannot tell; the other waits for its thirty-first year, unless nothing
sleeps longer than thirty. -/
theorem fires_exactly_when_due_renewed :
    let first : Sleeper (List Duration) := ⟨0, .syncSegments, 0, 10000, [.ofSecs 5]⟩
    let other : Sleeper (List Duration) := ⟨1, .streamingReconnect, 0, 20000, []⟩
    let late : Sleeper (List Duration) := ⟨0, .syncSegments, 0, 977616000000, []⟩
    let endless : Sleeper (List Duration) := ⟨1, .streamingReconnect, 0, 946080000000, []⟩
    let s := after none renewing (.wake 0 :: tenSeconds)
    let settled := after none renewing (.goOn :: .wake 0 :: tenSeconds)
    let old := after none renewing (.wake 1 :: .wake 0 :: thirtyYears)
    let older := after none renewing (.advance 31536000000000000 :: .wake 1 :: .wake 0 :: thirtyYears)
    (s = (after none renewing tenSeconds).woken renewing first ∧
      s.table.isScheduled .syncSegments = false ∧
      s.table.isScheduled .streamingReconnect = true) ∧
    (settled.isSettled none = true ∧
      (Ran settled.past first ∧ ¬CalledOff settled.past first) ∧
      ¬Ran settled.past other ∧
      (settled.ask (.add .syncSegments .zero [])).2 = settled) ∧
    (old.isSettled none = true ∧ Ran old.past endless ∧ ¬Ran old.past late) ∧
    after none renewing (.wake 0 :: .advance 31536000000000000 :: .wake 1 :: .wake 0 :: thirtyYears) = older.woken renewing late ∧
    after (some 946080000000000000) renewing (.wake 0 :: thirtyYears) =
      (after (some 946080000000000000) renewing thirtyYears).woken renewing late := by
  intro first other late endless s settled old older
  refine ⟨?_, ?_, ?_, ?_, ?_⟩
  · obtain ⟨-, -, -, -, -, -, wakes, -, keeps⟩ := fires_exactly_when_due none renewing tenSeconds
    obtain ⟨-, -, -, -, -, -, -, frees, -⟩ := fires_exactly_when_due none renewing (.wake 0 :: tenSeconds)
    have first_waits : Waiting (after none renewing tenSeconds).past first := .inr (.inl rfl)
    have other_waits : Waiting (after none renewing tenSeconds).past other := .inl rfl
    have first_set : .set (.ofSecs 10) first ∈ (after none renewing tenSeconds).past := .tail _ (.tail _ (.head _))
    exact ⟨wakes rfl (.ofSecs 10) first first_waits first_set (by decide), frees first (10 * nanosPerSec) _ rfl,
      keeps 0 other other_waits (by decide)⟩
  · obtain ⟨⟨-, turnedAway⟩, -, -, -, -, fates, -⟩ := fires_exactly_when_due none renewing (.goOn :: .wake 0 :: tenSeconds)
    have idle : settled.isSettled none = true := by decide
    have first_set : .set (.ofSecs 10) first ∈ settled.past := .tail _ (.tail _ (.tail _ (.tail _ (.head _))))
    have other_set : .set (.ofSecs 20) other ∈ settled.past := .tail _ (.tail _ (.tail _ (.head _)))
    have ran : Ran settled.past first := ⟨10 * nanosPerSec, .tail _ (.head _)⟩
    refine ⟨idle, ⟨ran, ((fates idle (.ofSecs 10) first first_set).1 ran).2⟩, fun early => ?_,
      turnedAway .syncSegments .zero [] (by decide)⟩
    exact absurd ((fates idle (.ofSecs 20) other other_set).1 early).1 (by decide)
  · obtain ⟨-, -, -, -, -, fates, -⟩ := fires_exactly_when_due none renewing (.wake 1 :: .wake 0 :: thirtyYears)
    have idle : old.isSettled none = true := by decide
    have late_set : .set (.ofSecs 977616000) late ∈ old.past := .tail _ (.tail _ (.tail _ (.head _)))
    refine ⟨idle, ⟨946080000000000000, .head _⟩, fun early => ?_⟩
    exact absurd ((fates idle (.ofSecs 977616000) late late_set).1 early).1 (by decide)
  · obtain ⟨-, -, -, -, -, -, wakes, -⟩ :=
      fires_exactly_when_due none renewing (.advance 31536000000000000 :: .wake 1 :: .wake 0 :: thirtyYears)
    have distinct : endless ≠ late := fun same => Nat.one_ne_zero (congrArg Sleeper.id same)
    exact wakes rfl (.ofSecs 977616000) late ⟨.inr (.inl rfl), distinct⟩ (.tail _ (.tail _ (.tail _ (.tail _ (.head _))))) (by decide)
  · obtain ⟨-, -, -, -, -, -, wakes, -⟩ := fires_exactly_when_due (some 946080000000000000) renewing thirtyYears
    exact wakes rfl (.ofSecs 977616000) late (.inr (.inl rfl)) (.tail _ (.tail _ (.head _))) (by decide)

end FlagKeeper.TimerTable
