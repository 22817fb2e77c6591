import Mathlib.Data.Set.Card
import FlagKeeper.Proofs.Timing.Rhythms

/-!
# Runs of an interval worker

A worker is called now and then (`Turn`), and after each call and each stretch of time it makes the ticks that have come. It keeps of its
rhythms only when the next tick is due; `Follows` says that this is the next tick of the one rhythm that has not ended, and that the task
ran once for each instant at which it was to run. Every turn keeps it: a call adds no instant, and as time goes by just those are added
that come then.
-/

namespace FlagKeeper.IntervalWorker

/-- The worker after a call. -/
def perform (w : IntervalWorker) (clock : Nat) : Turn → IntervalWorker
  | .start wall => w.start clock wall
  | .stop => w.stop
  | .pause => w.pause
  | .resume => w.resume
  | .destroy => w.destroy
  | .advance _ => w

/-- The worker after some turns, the latest first. After each it makes the ticks that have come. -/
def after (w : IntervalWorker) : List Turn → IntervalWorker
  | [] => w
  | turn :: past => (((w.after past).perform (clockAt past) turn).tick (clockAt (turn :: past))).2

/-- The next tick of a loop is the first tick of a rhythm that has not come yet. -/
structure Beats (l : IntervalLoop) (r : Rhythm) (clock : Nat) : Prop where
  period : l.period = r.period
  next : ∃ k ≥ 1, l.nextTick = r.start + k * r.period ∧ ∀ i ≥ 1, Told (r.start + i * r.period) clock ↔ i < k

/-- The loop of a worker is that of the one rhythm which has not ended. -/
inductive Hears (rhythms : List Rhythm) (clock : Nat) : Option IntervalLoop → Prop where
  | silence (silent : ∀ r ∈ rhythms, r.ended ≠ none) : Hears rhythms clock none
  | beat {l : IntervalLoop} {r : Rhythm} {older : List Rhythm} (rhythms_eq : rhythms = r :: older) (alive : r.ended = none)
      (silent : ∀ r ∈ older, r.ended ≠ none) (beats : Beats l r clock) : Hears rhythms clock (some l)

/-- A worker is as the turns so far say. -/
structure Follows (settings : IntervalSettings) (past : List Turn) (w : IntervalWorker) : Prop where
  kept : w.settings = settings
  destroyed : w.destroyed = true ↔ .destroy ∈ past
  paused : ∀ x, ¬Told x (clockAt past) → (PausedWhen Told past x ↔ w.paused = true)
  loop : Hears (rhythms settings past) (clockAt past) w.loop
  runs : w.runs = {x | RunsAt Told settings past x}.ncard

/-- The instants of the ticks that a worker makes, unless it is paused. -/
def made (w : IntervalWorker) (clock : Nat) : Set Nat :=
  {x | w.paused = false ∧ ∃ l, w.loop = some l ∧ ∃ j < IntervalLoop.dueTicks l clock, l.nextTick + j * l.period = x}

variable {settings : IntervalSettings} {past : List Turn} {w : IntervalWorker} {l : IntervalLoop} {r : Rhythm} {clock : Nat}

/-! ## Loops and rhythms -/

namespace Beats

theorem period_pos (h : Beats l r clock) (positive : 0 < r.period) : 0 < l.period := h.period ▸ positive

theorem ticks_nextTick (h : Beats l r clock) : r.Ticks l.nextTick := by
  obtain ⟨k, one, next, _⟩ := h.next
  exact ⟨k, one, next⟩

/-- No tick is due that has not been made. -/
theorem dueTicks_eq_zero (h : Beats l r clock) (positive : 0 < r.period) : IntervalLoop.dueTicks l clock = 0 := by
  obtain ⟨k, one, next, told⟩ := h.next
  have late : ¬Told l.nextTick clock := by
    rw [next, told k one]
    exact Nat.lt_irrefl k
  have none := not_congr (told_iff_lt_dueTicks (h.period_pos positive) clock 0)
  rw [Nat.zero_mul, Nat.add_zero] at none
  exact Nat.eq_zero_of_not_pos (none.1 late)

/-- The ticks of the rhythm that have come since are those that are due. -/
theorem ticks_iff (h : Beats l r clock) (positive : 0 < r.period) (later x : Nat) :
    (¬Told x clock ∧ Told x later ∧ r.Ticks x) ↔ ∃ j < IntervalLoop.dueTicks l later, l.nextTick + j * l.period = x := by
  obtain ⟨k, one, next, told⟩ := h.next
  have shift (j : Nat) : l.nextTick + j * l.period = r.start + (k + j) * r.period := by
    rw [next, h.period, Nat.add_mul, Nat.add_assoc]
  constructor
  · rintro ⟨late, come, i, one', rfl⟩
    rw [told i one', Nat.not_lt] at late
    obtain ⟨j, rfl⟩ := Nat.exists_eq_add_of_le late
    rw [← shift j] at come ⊢
    exact ⟨j, (told_iff_lt_dueTicks (h.period_pos positive) later j).1 come, rfl⟩
  · rintro ⟨j, due, rfl⟩
    refine ⟨?_, (told_iff_lt_dueTicks (h.period_pos positive) later j).2 due, k + j, Nat.le_add_right_of_le one, shift j⟩
    rw [shift j, told _ (Nat.le_add_right_of_le one)]
    exact Nat.not_lt.2 (Nat.le_add_right k j)

/-- A loop that makes the ticks that are due stays in the rhythm. -/
theorem advance (h : Beats l r clock) (positive : 0 < r.period) {later : Nat} (le : clock ≤ later) :
    Beats { l with nextTick := l.nextTick + IntervalLoop.dueTicks l later * l.period } r later := by
  obtain ⟨k, one, next, told⟩ := h.next
  refine ⟨h.period, k + IntervalLoop.dueTicks l later, Nat.le_add_right_of_le one, ?_, fun i one' => ?_⟩
  · show l.nextTick + _ * l.period = _
    rw [next, h.period, Nat.add_mul, Nat.add_assoc]
  · by_cases early : i < k
    · exact iff_of_true (((told i one').2 early).mono le) (Nat.lt_add_right _ early)
    · obtain ⟨j, rfl⟩ := Nat.exists_eq_add_of_le (Nat.not_lt.1 early)
      have due := told_iff_lt_dueTicks (h.period_pos positive) later j
      rw [next, h.period, Nat.add_assoc, ← Nat.add_mul] at due
      rw [due, Nat.add_lt_add_iff_left]

end Beats

/-- A rhythm that begins is beaten by the loop of a start. -/
theorem beats_begun (positive : 0 < settings.period wall) : Beats ⟨settings.period wall, clock + settings.period wall⟩
    (begun settings clock wall) clock := by
  refine ⟨rfl, 1, Nat.le_refl 1, by rw [Nat.one_mul]; rfl, fun i one => iff_of_false (fun told => ?_) (Nat.not_lt.2 one)⟩
  have late : clock < clock + i * settings.period wall := Nat.lt_add_of_pos_right (Nat.mul_pos one positive)
  exact Nat.not_le.2 late told.le

/-- There is a loop just if a rhythm has not ended. -/
theorem Hears.isSome_iff {rhythms : List Rhythm} {loop : Option IntervalLoop} (h : Hears rhythms clock loop) :
    loop.isSome = true ↔ ∃ r ∈ rhythms, r.ended = none := by
  cases h with
  | silence silent => exact iff_of_false nofun fun ⟨r, here, alive⟩ => silent r here alive
  | beat rhythms_eq alive silent beats => exact iff_of_true rfl ⟨_, rhythms_eq ▸ List.mem_cons_self, alive⟩

/-- At most one rhythm has not ended. -/
theorem Hears.one {rhythms : List Rhythm} {loop : Option IntervalLoop} (h : Hears rhythms clock loop) :
    (rhythms.filter (·.ended = none)).length ≤ 1 := by
  cases h with
  | silence silent =>
    rw [List.filter_eq_nil_iff.2 fun r here => by simpa using silent r here]
    exact Nat.zero_le 1
  | beat rhythms_eq alive silent beats =>
    rw [rhythms_eq, List.filter_cons_of_pos (by simpa using alive), List.filter_eq_nil_iff.2 fun r here => by simpa using silent r here]
    exact Nat.le_refl 1

/-- Once all rhythms end, there is no loop. -/
theorem hears_ended (rhythms : List Rhythm) (clock : Nat) : Hears (rhythms.map (Rhythm.endAt clock)) clock none := by
  refine .silence fun r here => ?_
  obtain ⟨old, _, rfl⟩ := List.mem_map.1 here
  exact Rhythm.endAt_ended

/-! ## Turns -/

namespace Follows

/-- A new worker has had no turn. -/
theorem built (settings : IntervalSettings) : Follows settings [] { settings } where
  kept := rfl
  destroyed := iff_of_false nofun List.not_mem_nil
  paused x late := iff_of_false id nofun
  loop := .silence (List.forall_mem_nil _)
  runs := by
    have none : {x | RunsAt Told settings [] x} = ∅ := Set.eq_empty_of_forall_notMem fun x ⟨r, here, _⟩ => List.not_mem_nil here
    rw [none, Set.ncard_empty]

theorem isRunning_iff (h : Follows settings past w) : w.isRunning = true ↔ ∃ r ∈ rhythms settings past, r.ended = none :=
  h.loop.isSome_iff

section Calls

variable (h : Follows settings past w) (positive : 0 < settings.interval.toNanos)

include h positive

/-- Right after a turn there is no tick to make. -/
theorem tick_now : w.tick (clockAt past) = (0, w) := by
  obtain ⟨own, loop, paused, destroyed, runs⟩ := w
  unfold tick
  cases h.loop with
  | silence silent => rfl
  | @beat l r older rhythms_eq alive silent beats =>
    have here : r ∈ rhythms settings past := rhythms_eq ▸ List.mem_cons_self
    simp [beats.dueTicks_eq_zero (IntervalWorker.period_pos positive here)]

/-- A call adds nothing to the instants at which the task ran. -/
theorem runs_call (turn : Turn) (call : ∀ nanos, turn ≠ .advance nanos) :
    w.runs = {x | RunsAt Told settings (turn :: past) x}.ncard := by
  rw [h.runs]
  exact congrArg Set.ncard (Set.ext fun x => (runsAt_call positive call).symm)

theorem start (wall : Int) : Follows settings (.start wall :: past) (w.start (clockAt past) wall) := by
  have runs := h.runs_call positive (.start wall) nofun
  have destroyed : w.destroyed = true ↔ .destroy ∈ Turn.start wall :: past := by simp [h.destroyed]
  have busy : (w.destroyed || w.isRunning) = true ↔ .destroy ∈ past ∨ ∃ r ∈ rhythms settings past, r.ended = none := by
    rw [Bool.or_eq_true, h.destroyed, h.isRunning_iff]
  unfold IntervalWorker.start
  by_cases taken : (w.destroyed || w.isRunning) = true
  · have same : rhythms settings (.start wall :: past) = rhythms settings past := if_pos (busy.1 taken)
    rw [if_pos taken]
    exact ⟨h.kept, destroyed, h.paused, same ▸ h.loop, runs⟩
  · have more : rhythms settings (.start wall :: past) = begun settings (clockAt past) wall :: rhythms settings past :=
      if_neg (mt busy.2 taken)
    have silent : ∀ r ∈ rhythms settings past, r.ended ≠ none := fun r here alive => taken (busy.2 (.inr ⟨r, here, alive⟩))
    rw [if_neg taken]
    refine ⟨h.kept, destroyed, h.paused, ?_, runs⟩
    rw [more, h.kept]
    show Hears _ (clockAt past) (if clockAt past + settings.period wall < clockEnd then _ else none)
    by_cases reaches : clockAt past + settings.period wall < clockEnd
    · rw [if_pos reaches]
      exact .beat rfl (if_pos reaches) silent (beats_begun (Nat.lt_of_lt_of_le positive (period_bounds settings wall).1))
    · rw [if_neg reaches]
      have ended : (begun settings (clockAt past) wall).ended = some (clockAt past) := if_neg reaches
      refine .silence (List.forall_mem_cons.2 ⟨?_, silent⟩)
      rw [ended]
      exact nofun

theorem stop : Follows settings (.stop :: past) w.stop where
  kept := h.kept
  destroyed := h.destroyed.trans (by simp)
  paused := h.paused
  loop := hears_ended _ _
  runs := h.runs_call positive .stop nofun

theorem destroy : Follows settings (.destroy :: past) w.destroy where
  kept := h.kept
  destroyed := iff_of_true rfl List.mem_cons_self
  paused := h.paused
  loop := hears_ended _ _
  runs := h.runs_call positive .destroy nofun

theorem pause : Follows settings (.pause :: past) w.pause where
  kept := h.kept
  destroyed := h.destroyed.trans (by simp)
  paused _ late := iff_of_true (.inl late) rfl
  loop := h.loop
  runs := h.runs_call positive .pause nofun

theorem resume : Follows settings (.resume :: past) w.resume where
  kept := h.kept
  destroyed := h.destroyed.trans (by simp)
  paused _ late := iff_of_false (fun paused => late paused.1) nofun
  loop := h.loop
  runs := h.runs_call positive .resume nofun

/-! ## Time that goes by -/

/-- The instants that come as time goes by are those of the ticks that the worker makes. -/
theorem comes_iff (later x : Nat) :
    (¬Told x (clockAt past) ∧ Told x later ∧ ¬PausedWhen Told past x ∧ ∃ r ∈ rhythms settings past, r.ended = none ∧ r.Ticks x) ↔
      x ∈ w.made later := by
  unfold made
  rw [Set.mem_ofPred_eq]
  have hears := h.loop
  generalize w.loop = loop at hears
  cases hears with
  | silence silent =>
    exact iff_of_false (fun ⟨_, _, _, r, here, alive, _⟩ => silent r here alive) fun ⟨_, _, absent, _⟩ => nomatch absent
  | @beat l r older rhythms_eq alive silent beats =>
    have here : r ∈ rhythms settings past := rhythms_eq ▸ List.mem_cons_self
    have one : (∃ r' ∈ rhythms settings past, r'.ended = none ∧ r'.Ticks x) ↔ r.Ticks x := by
      refine ⟨fun ⟨r', there, alive', ticks⟩ => ?_, fun ticks => ⟨r, here, alive, ticks⟩⟩
      rcases List.mem_cons.1 (rhythms_eq ▸ there) with rfl | before
      · exact ticks
      · exact absurd alive' (silent r' before)
    have ticks := beats.ticks_iff (IntervalWorker.period_pos positive here) later x
    rw [one]
    constructor
    · rintro ⟨late, come, awake, tick⟩
      rw [h.paused x late, Bool.not_eq_true] at awake
      exact ⟨awake, l, rfl, ticks.1 ⟨late, come, tick⟩⟩
    · rintro ⟨awake, _, same, due⟩
      cases same
      obtain ⟨late, come, tick⟩ := ticks.2 due
      refine ⟨late, come, ?_, tick⟩
      rw [h.paused x late, awake]
      exact Bool.false_ne_true

end Calls

end Follows

/-- A worker counts the ticks that it makes and puts the next one behind them. -/
theorem tick_snd (w : IntervalWorker) (clock : Nat) : (w.tick clock).2 =
    { w with
      loop := w.loop.map fun l => { l with nextTick := l.nextTick + IntervalLoop.dueTicks l clock * l.period }
      runs := w.runs + (w.tick clock).1 } := by
  obtain ⟨own, loop, paused, destroyed, runs⟩ := w
  cases loop <;> rfl

/-- The ticks that a worker makes are of as many instants. -/
theorem ncard_made (positive : ∀ l, w.loop = some l → 0 < l.period) : (w.made clock).ncard = (w.tick clock).1 := by
  unfold made tick
  cases loop : w.loop with
  | none => simp
  | some l =>
    cases w.paused with
    | true => simp
    | false =>
      have spread : Function.Injective fun j => l.nextTick + j * l.period := fun i j same =>
        Nat.eq_of_mul_eq_mul_right (positive l loop) (Nat.add_left_cancel same)
      have listed : {x | false = false ∧
          ∃ l', some l = some l' ∧ ∃ j < IntervalLoop.dueTicks l' clock, l'.nextTick + j * l'.period = x} =
          ((Finset.range (IntervalLoop.dueTicks l clock)).image fun j => l.nextTick + j * l.period : Finset Nat) := by
        ext x
        simp
      rw [listed, Set.ncard_coe_finset, Finset.card_image_of_injective _ spread, Finset.card_range]
      rfl

theorem finite_runsAt (settings : IntervalSettings) (past : List Turn) : {x | RunsAt Told settings past x}.Finite :=
  (Set.finite_le_nat (clockAt past)).subset fun _ ⟨_, _, _, come, _⟩ => come.le

namespace Follows

section Advance

variable (h : Follows settings past w) (positive : 0 < settings.interval.toNanos)

include h positive

theorem loop_period_pos (l : IntervalLoop) (looping : w.loop = some l) : 0 < l.period := by
  have hears := h.loop
  rw [looping] at hears
  cases hears with
  | beat rhythms_eq alive silent beats =>
    exact beats.period_pos (IntervalWorker.period_pos positive (rhythms_eq ▸ List.mem_cons_self))

/-- As time goes by, the runs become more by the instants that come. -/
theorem runs_advance (nanos : Nat) :
    w.runs + (w.tick (clockAt past + nanos)).1 = {x | RunsAt Told settings (.advance nanos :: past) x}.ncard := by
  have split : {x | RunsAt Told settings (.advance nanos :: past) x} =
      {x | RunsAt Told settings past x} ∪ w.made (clockAt past + nanos) := by
    ext x
    exact (runsAt_advance nanos).trans (or_congr_right (h.comes_iff positive _ x))
  have apart : Disjoint {x | RunsAt Told settings past x} (w.made (clockAt past + nanos)) := by
    rw [Set.disjoint_left]
    intro x ⟨_, _, _, come, _⟩ new
    exact ((h.comes_iff positive _ x).2 new).1 come
  have finite := finite_runsAt settings (.advance nanos :: past)
  rw [split] at finite ⊢
  rw [Set.ncard_union_eq apart (finite.subset Set.subset_union_left) (finite.subset Set.subset_union_right), ← h.runs,
    ncard_made (h.loop_period_pos positive)]

theorem advance (nanos : Nat) : Follows settings (.advance nanos :: past) (w.tick (clockAt past + nanos)).2 := by
  rw [tick_snd]
  refine ⟨h.kept, h.destroyed.trans (by simp), fun x late => ?_, ?_, h.runs_advance positive nanos⟩
  · exact h.paused x fun told => late (told.mono (Nat.le_add_right _ _))
  · have hears := h.loop
    show Hears (rhythms settings past) (clockAt past + nanos) (w.loop.map _)
    generalize w.loop = loop at hears
    cases hears with
    | silence silent => exact .silence silent
    | beat rhythms_eq alive silent beats =>
      have pos := IntervalWorker.period_pos positive (rhythms_eq ▸ List.mem_cons_self)
      exact .beat rhythms_eq alive silent (beats.advance pos (Nat.le_add_right _ _))

/-- What a worker makes of a turn. -/
theorem turn (turn : Turn) :
    Follows settings (turn :: past) ((w.perform (clockAt past) turn).tick (clockAt (turn :: past))).2 := by
  have call {w' : IntervalWorker} {turn : Turn} (h' : Follows settings (turn :: past) w') :
      Follows settings (turn :: past) (w'.tick (clockAt (turn :: past))).2 := by
    rw [h'.tick_now positive]
    exact h'
  cases turn with
  | start wall => exact call (h.start positive wall)
  | stop => exact call (h.stop positive)
  | pause => exact call (h.pause positive)
  | resume => exact call (h.resume positive)
  | destroy => exact call (h.destroy positive)
  | advance nanos => exact h.advance positive nanos

end Advance

end Follows

theorem follows_after (positive : 0 < settings.interval.toNanos) (past : List Turn) :
    Follows settings past (({ settings } : IntervalWorker).after past) := by
  induction past with
  | nil => exact Follows.built settings
  | cons turn past ih => exact ih.turn positive turn

/-- A worker that could be built is new, and its interval is not empty. -/
theorem of_build {hasTask : Bool} (built : build hasTask settings = .ok w) : w = { settings } ∧ 0 < settings.interval.toNanos := by
  unfold build at built
  split at built
  case isTrue => cases built
  case isFalse =>
    split at built
    case isTrue => cases built
    case isFalse some =>
      refine ⟨(Except.ok.inj built).symm, Nat.pos_of_ne_zero fun none => some ?_⟩
      unfold Duration.isZero
      rw [none]
      rfl

/-- **The task runs just at the ticks that find the worker alive and awake.** For every worker that can be built, after any turns:

1. The runs are as many as the instants a whole number of periods after the start of a rhythm at which that had not ended and the worker
   was not paused. A tick comes with the clock's next millisecond; where no call falls between the two, and neither is it between them
   now, the instants may be taken as they are.
2. Each rhythm comes from a start, and its period is the interval and the jitter at that start, which stays within its limit.
3. The worker is running just if a rhythm has not ended, and at most one has not. The next tick is one of that rhythm.
4. A start while the worker is running changes nothing.
5. Pausing and resuming change nothing about the rhythm.
6. Once the worker was destroyed it is never running again, and the task never runs again. -/
theorem runs_on_live_ticks {hasTask : Bool} (built : build hasTask settings = .ok w) (past : List Turn) :
    ((w.after past).runs = {x | RunsAt Told settings past x}.ncard ∧
      (IsClear settings past → Timely settings past → (w.after past).runs = {x | RunsAt (· ≤ ·) settings past x}.ncard)) ∧
    (∀ r ∈ rhythms settings past,
      (∃ later wall old, past = later ++ .start wall :: old ∧ r.start = clockAt old ∧
        r.period = settings.interval.toNanos + settings.jitterMillis wall * 1000000) ∧
      settings.interval.toNanos ≤ r.period ∧ r.period ≤ settings.interval.toNanos + settings.jitter.toNanos) ∧
    (((w.after past).isRunning = true ↔ ∃ r ∈ rhythms settings past, r.ended = none) ∧
      ((rhythms settings past).filter (·.ended = none)).length ≤ 1 ∧
      ∀ l, (w.after past).loop = some l → ∃ r ∈ rhythms settings past, r.ended = none ∧ l.period = r.period ∧ r.Ticks l.nextTick) ∧
    (∀ wall, (w.after past).isRunning = true → w.after (.start wall :: past) = w.after past) ∧
    ((w.after (.pause :: past)).loop = (w.after past).loop ∧ (w.after (.resume :: past)).loop = (w.after past).loop) ∧
    (.destroy ∈ past → ∀ later, (w.after (later ++ past)).isRunning = false ∧ (w.after (later ++ past)).runs = (w.after past).runs) := by
  obtain ⟨rfl, positive⟩ := of_build built
  have h := follows_after positive past
  refine ⟨⟨h.runs, fun clear now => ?_⟩, fun r here => ?_, ⟨h.isRunning_iff, h.loop.one, fun l looping => ?_⟩, fun wall running => ?_,
    ⟨?_, ?_⟩, fun gone later => ?_⟩
  · rw [h.runs]
    exact congrArg Set.ncard (Set.ext fun x => clear.runsAt_iff now positive)
  · obtain ⟨later, wall, old, history, began, period⟩ := rhythm_started here
    refine ⟨⟨later, wall, old, history, began, period⟩, ?_⟩
    rw [period]
    exact period_bounds settings wall
  · have hears := h.loop
    rw [looping] at hears
    cases hears with
    | beat rhythms_eq alive silent beats => exact ⟨_, rhythms_eq ▸ List.mem_cons_self, alive, beats.period, beats.ticks_nextTick⟩
  · have same (v : IntervalWorker) (busy : v.isRunning = true) : v.start (clockAt past) wall = v := by
      unfold IntervalWorker.start
      rw [busy, Bool.or_true]
      rfl
    show ((IntervalWorker.start _ (clockAt past) wall).tick (clockAt past)).2 = _
    rw [same _ running, h.tick_now positive]
  · exact congrArg (·.2.loop) ((h.pause positive).tick_now positive)
  · exact congrArg (·.2.loop) ((h.resume positive).tick_now positive)
  · have h' := follows_after positive (later ++ past)
    constructor
    · rw [Bool.eq_false_iff, Ne, h'.isRunning_iff]
      exact fun ⟨r, here, alive⟩ => over_of_destroyed (List.mem_append_right later gone) here alive
    · rw [h'.runs, h.runs]
      exact congrArg Set.ncard (Set.ext fun x => runsAt_of_destroyed positive gone later)

/-- Runs every twenty seconds and up to ten more. -/
def brisk : IntervalSettings where
  interval := .ofSecs 20
  jitter := .ofSecs 10

/-- Ticks come at 25, 50 and 75 seconds; the second finds the worker paused, and after 80 seconds it is destroyed. A second start in
between is of no effect. -/
def pausedOnce : List Turn :=
  [.advance (50 * nanosPerSec), .destroy, .advance (20 * nanosPerSec), .resume, .advance (30 * nanosPerSec), .pause, .start 8000,
    .advance (30 * nanosPerSec), .start 5000]

theorem runs_on_live_ticks_paused :
    let w : IntervalWorker := { settings := brisk }
    build true brisk = .ok w ∧ IsClear brisk pausedOnce ∧ Timely brisk pausedOnce ∧
    (w.after pausedOnce).runs = 2 ∧ {x | RunsAt (· ≤ ·) brisk pausedOnce x}.ncard = 2 ∧
    .destroy ∈ pausedOnce ∧ (w.after (.start 5 :: pausedOnce)).isRunning = false := by
  intro w
  have some : brisk.interval.isZero = false := by decide
  have built : build true brisk = .ok w := by
    unfold build
    rw [some]
    rfl
  have whole : Timely brisk pausedOnce := timely_of_whole (by decide)
  have clear : IsClear brisk pausedOnce := by
    refine ⟨⟨⟨⟨⟨trivial, ?_⟩, ?_⟩, ?_⟩, ?_⟩, ?_⟩ <;> exact timely_of_whole (by decide)
  obtain ⟨⟨_, counted⟩, _, _, _, _, gone⟩ := runs_on_live_ticks built pausedOnce
  have two : (w.after pausedOnce).runs = 2 := by decide
  have destroyed : .destroy ∈ pausedOnce := by decide
  exact ⟨built, clear, whole, two, (counted clear whole).symm.trans two, destroyed, (gone destroyed [.start 5]).1⟩

end FlagKeeper.IntervalWorker
