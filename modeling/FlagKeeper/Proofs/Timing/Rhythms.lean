import FlagKeeper.Timing.IntervalWorker

/-!
# The rhythms of an interval worker

What a worker is called to do, and when, says which rhythms it has had (`rhythms`): when each was started, with which period, and when it
ended. It also says whether the worker was paused at some instant (`PausedWhen`), and so at which instants the task is to run (`RunsAt`):
those that lie whole periods after the start of a rhythm that had not ended by then, while the worker was not paused.

Whether an instant was before or after a call is a matter of the clock. The clock of a worker tells whole milliseconds (`Told`), so that
a tick comes at the next one. Where no call falls between the instant of a tick and the millisecond at which it comes (`IsClear`), that
makes no difference (`runsAt_told_iff`).
-/

namespace FlagKeeper.IntervalWorker

/-- A call on a worker, or time that goes by. A start is made at some time of the wall clock. -/
inductive Turn where
  | start (wall : Int)
  | stop
  | pause
  | resume
  | destroy
  | advance (nanos : Nat)
  deriving DecidableEq

/-- A rhythm: when it was started, its period, and when it ended. -/
structure Rhythm where
  start : Nat
  period : Nat
  ended : Option Nat := none
  deriving DecidableEq

/-- The ticks of a rhythm are whole periods after its start. -/
def Rhythm.Ticks (r : Rhythm) (x : Nat) : Prop := ∃ k ≥ 1, x = r.start + k * r.period

/-- A rhythm that has ended by some time. -/
def Rhythm.endAt (clock : Nat) (r : Rhythm) : Rhythm := { r with ended := r.ended.or (some clock) }

/-- The clock, which tells whole milliseconds, has come to an instant. -/
def Told (x clock : Nat) : Prop := x ≤ clock / 1000000 * 1000000

/-- The time after some turns, the latest first. -/
def clockAt : List Turn → Nat
  | [] => 0
  | .advance nanos :: past => clockAt past + nanos
  | _ :: past => clockAt past

/-- The rhythm that a start begins. One whose first tick is past what seconds of 64 bits with a sign can tell ends at once. -/
def begun (settings : IntervalSettings) (clock : Nat) (wall : Int) : Rhythm where
  start := clock
  period := settings.period wall
  ended := if clock + settings.period wall < 9223372036854775807 * 1000000000 then none else some clock

/-- The rhythms after some turns, the latest first. A start begins one unless there is one that has not ended, or the worker was
destroyed. -/
def rhythms (settings : IntervalSettings) : List Turn → List Rhythm
  | [] => []
  | .start wall :: past =>
    if .destroy ∈ past ∨ ∃ r ∈ rhythms settings past, r.ended = none then rhythms settings past
    else begun settings (clockAt past) wall :: rhythms settings past
  | .stop :: past => (rhythms settings past).map (Rhythm.endAt (clockAt past))
  | .destroy :: past => (rhythms settings past).map (Rhythm.endAt (clockAt past))
  | _ :: past => rhythms settings past

section Instants

variable (came : Nat → Nat → Prop)

/-- Whether the worker was paused at an instant: the last call about it, before the clock came to the instant, was a pause. -/
def PausedWhen : List Turn → Nat → Prop
  | [], _ => False
  | .pause :: past, x => ¬came x (clockAt past) ∨ PausedWhen past x
  | .resume :: past, x => came x (clockAt past) ∧ PausedWhen past x
  | _ :: past, x => PausedWhen past x

/-- The task ran at an instant: it has come, it is a tick of a rhythm that had not ended by then, and the worker was not paused. -/
def RunsAt (settings : IntervalSettings) (past : List Turn) (x : Nat) : Prop :=
  ∃ r ∈ rhythms settings past, r.Ticks x ∧ came x (clockAt past) ∧ (∀ ended, r.ended = some ended → came x ended) ∧
    ¬PausedWhen came past x

end Instants

variable {settings : IntervalSettings} {past : List Turn} {r : Rhythm} {x : Nat}

/-! ## The clock -/

theorem Told.le {clock : Nat} (told : Told x clock) : x ≤ clock := Nat.le_trans told (Nat.div_mul_le_self _ _)

theorem Told.mono {clock later : Nat} (told : Told x clock) (le : clock ≤ later) : Told x later :=
  Nat.le_trans told (Nat.mul_le_mul_right _ (Nat.div_le_div_right le))

/-- The ticks of a loop that have come are the first ones. -/
theorem told_iff_lt_dueTicks {l : IntervalLoop} (positive : 0 < l.period) (clock j : Nat) :
    Told (l.nextTick + j * l.period) clock ↔ j < IntervalLoop.dueTicks l clock := by
  unfold Told IntervalLoop.dueTicks nanosPerMilli
  dsimp only
  generalize clock / 1000000 * 1000000 = reached
  split
  case isTrue le =>
    rw [Nat.lt_succ_iff, Nat.le_div_iff_mul_le positive]
    omega
  case isFalse late =>
    have := Nat.zero_le (j * l.period)
    omega

/-! ## Periods -/

/-- The jitter stays within its limit. -/
theorem period_bounds (settings : IntervalSettings) (wall : Int) : settings.interval.toNanos ≤ settings.period wall ∧
    settings.period wall ≤ settings.interval.toNanos + settings.jitter.toNanos := by
  have within : settings.jitterMillis wall ≤ settings.jitter.toMillis := by
    unfold IntervalSettings.jitterMillis
    dsimp only
    split
    case isTrue => exact Nat.zero_le _
    case isFalse some => exact Nat.le_trans (Nat.le_of_lt (Nat.mod_lt _ (Nat.pos_of_ne_zero some))) (Nat.mod_le _ _)
  have millis : settings.jitter.toMillis * nanosPerMilli ≤ settings.jitter.toNanos := Nat.div_mul_le_self _ _
  have := Nat.le_trans (Nat.mul_le_mul_right nanosPerMilli within) millis
  unfold IntervalSettings.period
  omega

/-! ## The rhythms that there have been -/

theorem Rhythm.endAt_ended {clock : Nat} : (r.endAt clock).ended ≠ none := by
  unfold Rhythm.endAt
  cases r.ended <;> simp

theorem Rhythm.ended_endAt_iff {clock ended : Nat} :
    (r.endAt clock).ended = some ended ↔ r.ended = some ended ∨ r.ended = none ∧ clock = ended := by
  unfold Rhythm.endAt
  cases r.ended <;> simp

theorem clockAt_cons_ge (turn : Turn) (past : List Turn) : clockAt past ≤ clockAt (turn :: past) := by
  cases turn with
  | advance nanos => exact Nat.le_add_right _ _
  | _ => exact Nat.le_refl _

/-- A turn leaves a rhythm as it was, or begins it, or ends it. -/
theorem mem_rhythms_cons {turn : Turn} (here : r ∈ rhythms settings (turn :: past)) :
    r ∈ rhythms settings past ∨ (∃ wall, turn = .start wall ∧ r = begun settings (clockAt past) wall) ∨
      ∃ old ∈ rhythms settings past, (turn = .stop ∨ turn = .destroy) ∧ r = old.endAt (clockAt past) := by
  cases turn with
  | start wall =>
    unfold rhythms at here
    split at here
    case isTrue => exact .inl here
    case isFalse =>
      rcases List.mem_cons.1 here with rfl | before
      · exact .inr (.inl ⟨wall, rfl, rfl⟩)
      · exact .inl before
  | stop =>
    obtain ⟨old, before, rfl⟩ := List.mem_map.1 here
    exact .inr (.inr ⟨old, before, .inl rfl, rfl⟩)
  | destroy =>
    obtain ⟨old, before, rfl⟩ := List.mem_map.1 here
    exact .inr (.inr ⟨old, before, .inr rfl, rfl⟩)
  | pause => exact .inl here
  | resume => exact .inl here
  | advance nanos => exact .inl here

/-- Each rhythm comes from a start, at which its period was settled. -/
theorem rhythm_started (here : r ∈ rhythms settings past) :
    ∃ later wall old, past = later ++ .start wall :: old ∧ r.start = clockAt old ∧ r.period = settings.period wall := by
  induction past generalizing r with
  | nil => exact (List.not_mem_nil here).elim
  | cons turn past ih =>
    rcases mem_rhythms_cons here with before | ⟨wall, rfl, rfl⟩ | ⟨old, before, _, rfl⟩
    · obtain ⟨later, wall, older, rfl, same⟩ := ih before
      exact ⟨turn :: later, wall, older, rfl, same⟩
    · exact ⟨[], wall, past, rfl, rfl, rfl⟩
    · obtain ⟨later, wall, older, rfl, same⟩ := ih before
      exact ⟨turn :: later, wall, older, rfl, same⟩

theorem period_pos (positive : 0 < settings.interval.toNanos) (here : r ∈ rhythms settings past) : 0 < r.period := by
  obtain ⟨_, wall, _, _, _, period⟩ := rhythm_started here
  rw [period]
  exact Nat.lt_of_lt_of_le positive (period_bounds settings wall).1

theorem ended_le (here : r ∈ rhythms settings past) {ended : Nat} (closed : r.ended = some ended) : ended ≤ clockAt past := by
  induction past generalizing r with
  | nil => exact (List.not_mem_nil here).elim
  | cons turn past ih =>
    refine Nat.le_trans ?_ (clockAt_cons_ge turn past)
    rcases mem_rhythms_cons here with before | ⟨wall, rfl, rfl⟩ | ⟨old, before, _, rfl⟩
    · exact ih before closed
    · unfold begun at closed
      dsimp only at closed
      split at closed
      case isTrue => cases closed
      case isFalse => exact Nat.le_of_eq (Option.some.inj closed).symm
    · rcases Rhythm.ended_endAt_iff.1 closed with earlier | ⟨_, now⟩
      · exact ih before earlier
      · exact Nat.le_of_eq now.symm

/-- The ticks of a rhythm come after its start. -/
theorem Rhythm.Ticks.start_lt (ticks : r.Ticks x) (positive : 0 < r.period) : r.start < x := by
  obtain ⟨k, one, rfl⟩ := ticks
  have := Nat.mul_pos one positive
  omega

/-! ## Instants at which the task ran -/

/-- Where all rhythms end now, nothing changes about the instants that have come. -/
theorem runsAt_ended : (∃ r ∈ (rhythms settings past).map (Rhythm.endAt (clockAt past)), r.Ticks x ∧ Told x (clockAt past) ∧
    (∀ ended, r.ended = some ended → Told x ended) ∧ ¬PausedWhen Told past x) ↔ RunsAt Told settings past x := by
  constructor
  · rintro ⟨_, here, ticks, come, kept, awake⟩
    obtain ⟨r, before, rfl⟩ := List.mem_map.1 here
    exact ⟨r, before, ticks, come, fun ended closed => kept ended (Rhythm.ended_endAt_iff.2 (.inl closed)), awake⟩
  · rintro ⟨r, here, ticks, come, kept, awake⟩
    refine ⟨r.endAt (clockAt past), List.mem_map_of_mem here, ticks, come, fun ended closed => ?_, awake⟩
    rcases Rhythm.ended_endAt_iff.1 closed with earlier | ⟨_, now⟩
    · exact kept ended earlier
    · exact now ▸ come

/-- Where the rhythms stay as they are, what matters is whether the worker was paused at the instants that have come. -/
theorem runsAt_paused {turn : Turn} (rhythms_eq : rhythms settings (turn :: past) = rhythms settings past)
    (clock_eq : clockAt (turn :: past) = clockAt past)
    (paused : Told x (clockAt past) → (PausedWhen Told (turn :: past) x ↔ PausedWhen Told past x)) :
    RunsAt Told settings (turn :: past) x ↔ RunsAt Told settings past x := by
  unfold RunsAt
  rw [rhythms_eq, clock_eq]
  refine exists_congr fun r => and_congr_right fun _ => and_congr_right fun _ => and_congr_right fun come => ?_
  rw [paused come]

/-- A call changes nothing about the instants that have come. -/
theorem runsAt_call {turn : Turn} (positive : 0 < settings.interval.toNanos) (call : ∀ nanos, turn ≠ .advance nanos) :
    RunsAt Told settings (turn :: past) x ↔ RunsAt Told settings past x := by
  cases turn with
  | start wall =>
    refine ⟨fun ⟨r, here, ticks, come, kept, awake⟩ => ?_, fun ⟨r, here, rest⟩ => ⟨r, ?_, rest⟩⟩
    · rcases mem_rhythms_cons here with before | ⟨_, _, rfl⟩ | ⟨_, _, one | other, _⟩
      · exact ⟨r, before, ticks, come, kept, awake⟩
      · -- the ticks of a rhythm that begins now are all to come
        exact absurd (ticks.start_lt (period_pos positive here)) (Nat.not_lt.2 come.le)
      · cases one
      · cases other
    · unfold rhythms
      split
      case isTrue => exact here
      case isFalse => exact List.mem_cons_of_mem _ here
  | stop => exact runsAt_ended
  | destroy => exact runsAt_ended
  | pause => exact runsAt_paused rfl rfl fun come => or_iff_right (not_not_intro come)
  | resume => exact runsAt_paused rfl rfl and_iff_right
  | advance nanos => exact absurd rfl (call nanos)

/-- As time goes by, the instants at which the task runs are those that came before and the ticks of the rhythm under way that come,
unless the worker is paused. -/
theorem runsAt_advance (nanos : Nat) : RunsAt Told settings (.advance nanos :: past) x ↔
    RunsAt Told settings past x ∨ ¬Told x (clockAt past) ∧ Told x (clockAt past + nanos) ∧ ¬PausedWhen Told past x ∧
      ∃ r ∈ rhythms settings past, r.ended = none ∧ r.Ticks x := by
  constructor
  · rintro ⟨r, (here : r ∈ rhythms settings past), ticks, come, kept, awake⟩
    by_cases before : Told x (clockAt past)
    · exact .inl ⟨r, here, ticks, before, kept, awake⟩
    · refine .inr ⟨before, come, awake, r, here, ?_, ticks⟩
      cases closed : r.ended with
      | none => rfl
      | some ended => exact absurd ((kept ended closed).mono (ended_le here closed)) before
  · rintro (⟨r, here, ticks, come, rest⟩ | ⟨_, come, awake, r, here, alive, ticks⟩)
    · exact ⟨r, here, ticks, come.mono (Nat.le_add_right _ _), rest⟩
    · have kept : ∀ ended, r.ended = some ended → Told x ended := by simp [alive]
      exact ⟨r, here, ticks, come, kept, awake⟩

/-- Once the worker was destroyed, every rhythm has ended. -/
theorem over_of_destroyed (gone : .destroy ∈ past) (here : r ∈ rhythms settings past) : r.ended ≠ none := by
  induction past generalizing r with
  | nil => exact (List.not_mem_nil gone).elim
  | cons turn past ih =>
    cases turn with
    | start wall =>
      have before : .destroy ∈ past := by simpa using gone
      have same : rhythms settings (.start wall :: past) = rhythms settings past := if_pos (.inl before)
      exact ih before (same ▸ here)
    | stop | destroy =>
      obtain ⟨old, _, rfl⟩ := List.mem_map.1 here
      exact Rhythm.endAt_ended
    | pause | resume | advance => exact ih (by simpa using gone) here

/-- Once the worker was destroyed, the task runs at no further instant. -/
theorem runsAt_of_destroyed (positive : 0 < settings.interval.toNanos) (gone : .destroy ∈ past) (later : List Turn) :
    RunsAt Told settings (later ++ past) x ↔ RunsAt Told settings past x := by
  induction later with
  | nil => exact Iff.rfl
  | cons turn later ih =>
    rw [List.cons_append, ← ih]
    cases turn with
    | advance nanos =>
      rw [runsAt_advance, or_iff_left]
      rintro ⟨_, _, _, r, here, alive, _⟩
      exact over_of_destroyed (List.mem_append_right later gone) here alive
    | start | stop | pause | resume | destroy => exact runsAt_call positive nofun

/-! ## Calls that do not fall between a tick and its millisecond -/

/-- No tick of the rhythm under way is still to come though its instant is past. -/
def Timely (settings : IntervalSettings) (past : List Turn) : Prop :=
  ∀ r ∈ rhythms settings past, r.ended = none → ∀ x, r.Ticks x → x ≤ clockAt past → Told x (clockAt past)

/-- No call fell between the instant of a tick of the rhythm then under way and the millisecond at which the tick came. -/
def IsClear (settings : IntervalSettings) : List Turn → Prop
  | [] => True
  | .advance _ :: past => IsClear settings past
  | _ :: past => IsClear settings past ∧ Timely settings past

/-- At a whole millisecond every tick has come whose instant has. -/
theorem timely_of_whole (whole : 1000000 ∣ clockAt past) : Timely settings past := by
  intro r _ _ x _ le
  unfold Told
  rwa [Nat.div_mul_cancel whole]

theorem IsClear.tail {turn : Turn} (clear : IsClear settings (turn :: past)) : IsClear settings past := by
  cases turn with
  | advance nanos => exact clear
  | _ => exact clear.1

theorem IsClear.timely {turn : Turn} (clear : IsClear settings (turn :: past)) (call : ∀ nanos, turn ≠ .advance nanos) :
    Timely settings past := by
  cases turn with
  | advance nanos => exact absurd rfl (call nanos)
  | _ => exact clear.2

/-- What a rhythm that ended had of ticks had come by then. -/
theorem IsClear.told_of_le (clear : IsClear settings past) (positive : 0 < settings.interval.toNanos) (here : r ∈ rhythms settings past)
    (ticks : r.Ticks x) {ended : Nat} (closed : r.ended = some ended) (le : x ≤ ended) : Told x ended := by
  induction past generalizing r with
  | nil => exact (List.not_mem_nil here).elim
  | cons turn past ih =>
    rcases mem_rhythms_cons here with before | ⟨wall, rfl, rfl⟩ | ⟨old, before, stopped, rfl⟩
    · exact ih clear.tail before ticks closed
    · have late := ticks.start_lt (period_pos positive here)
      have now : ended ≤ clockAt past := ended_le here closed
      exact absurd (Nat.le_trans le now) (Nat.not_le.2 late)
    · rcases Rhythm.ended_endAt_iff.1 closed with earlier | ⟨alive, rfl⟩
      · exact ih clear.tail before ticks earlier
      · have call : ∀ nanos, turn ≠ .advance nanos := by rintro nanos rfl; simp at stopped
        exact clear.timely call old before alive x ticks le

/-- For a tick that a rhythm lived to see, the millisecond at which it comes is as good as its instant. -/
theorem Timely.told_iff_le (timely : Timely settings past) (here : r ∈ rhythms settings past) (ticks : r.Ticks x)
    (kept : ∀ ended, r.ended = some ended → Told x ended) : Told x (clockAt past) ↔ x ≤ clockAt past := by
  refine ⟨Told.le, fun le => ?_⟩
  cases closed : r.ended with
  | none => exact timely r here closed x ticks le
  | some ended => exact (kept ended closed).mono (ended_le here closed)

/-- Before an instant it makes no difference how fine the clock is. -/
theorem pausedWhen_of_lt (early : clockAt past < x) : PausedWhen Told past x ↔ PausedWhen (· ≤ ·) past x := by
  induction past with
  | nil => exact Iff.rfl
  | cons turn past ih =>
    have before : clockAt past < x := Nat.lt_of_le_of_lt (clockAt_cons_ge turn past) early
    cases turn with
    | pause => exact iff_of_true (.inl fun told => Nat.not_le.2 before told.le) (.inl (Nat.not_le.2 before))
    | resume => exact iff_of_false (fun paused => Nat.not_le.2 before paused.1.le) fun paused => Nat.not_le.2 before paused.1
    | _ => exact ih before

theorem IsClear.pausedWhen_iff (clear : IsClear settings past) (positive : 0 < settings.interval.toNanos)
    (here : r ∈ rhythms settings past) (ticks : r.Ticks x) (kept : ∀ ended, r.ended = some ended → Told x ended) :
    PausedWhen Told past x ↔ PausedWhen (· ≤ ·) past x := by
  induction past generalizing r with
  | nil => exact Iff.rfl
  | cons turn past ih =>
    cases turn with
    | pause =>
      have same := (clear.timely nofun).told_iff_le here ticks kept
      exact or_congr (not_congr same) (ih clear.tail here ticks kept)
    | resume =>
      have same := (clear.timely nofun).told_iff_le here ticks kept
      exact and_congr same (ih clear.tail here ticks kept)
    | _ =>
      rcases mem_rhythms_cons here with before | ⟨wall, _, rfl⟩ | ⟨old, before, _, rfl⟩
      · exact ih clear.tail before ticks kept
      · have early : clockAt past < x := ticks.start_lt (period_pos positive here)
        have same := pausedWhen_of_lt early
        exact same
      · exact ih clear.tail before ticks fun ended closed => kept ended (Rhythm.ended_endAt_iff.2 (.inl closed))

/-- Where no call fell between a tick and its millisecond, and it is not between them now, the task ran at the instants themselves. -/
theorem IsClear.runsAt_iff (clear : IsClear settings past) (now : Timely settings past) (positive : 0 < settings.interval.toNanos) :
    RunsAt Told settings past x ↔ RunsAt (· ≤ ·) settings past x := by
  refine exists_congr fun r => and_congr_right fun here => and_congr_right fun ticks => ?_
  have lived : (∀ ended, r.ended = some ended → Told x ended) ↔ ∀ ended, r.ended = some ended → x ≤ ended :=
    forall₂_congr fun ended closed => ⟨Told.le, clear.told_of_le positive here ticks closed⟩
  rw [← lived, and_left_comm, and_left_comm (a := x ≤ clockAt past)]
  refine and_congr_right fun kept => ?_
  rw [now.told_iff_le here ticks kept, clear.pausedWhen_iff positive here ticks kept]

end FlagKeeper.IntervalWorker
