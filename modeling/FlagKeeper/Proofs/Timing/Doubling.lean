import FlagKeeper.Proofs.Timing.BackoffTimer
import Mathlib.Algebra.Group.Nat.Defs

/-!
# Delays that double

A series of delays is asked for the next one, or told to start over (`Call`). Which delay it gives depends only on how many it has
given since it last started over (`given`), however far the kept count goes (`next_after`). The shortest delay is multiplied by a power
of two that stops at the largest number of 32 bits (`factor_eq_min`), and a product that no duration holds is longer than the longest
delay, so the length is that of exact arithmetic (`toNanos_delayAt`). Whether doubling reaches the longest delay before the power stops
is a matter of the two delays alone (`reaches_max_iff`).
-/

namespace FlagKeeper.Backoff

/-- What a series is told. -/
inductive Call where
  | next
  | reset

/-- The series after some calls, the latest first. -/
def after (b : Backoff) : List Call → Backoff
  | [] => b
  | .next :: past => (b.after past).next.2
  | .reset :: past => (b.after past).reset

/-- How many delays were given since the series last started over. -/
def given : List Call → Nat
  | [] => 0
  | .next :: past => given past + 1
  | .reset :: _ => 0

theorem given_replicate_append (more : Nat) (past : List Call) :
    given (List.replicate more .next ++ past) = given past + more := by
  induction more with
  | zero => rfl
  | succ more ih =>
    rw [List.replicate_succ, List.cons_append, given, ih]
    omega

/-! ## Which delay is given -/

/-- The calls leave the shortest and the longest delay alone. -/
theorem ends_after (b : Backoff) (past : List Call) : (b.after past).base = b.base ∧ (b.after past).max = b.max := by
  induction past with
  | nil => exact ⟨rfl, rfl⟩
  | cons call past ih => cases call <;> exact ih

/-- The kept count is the number of delays given, as far as it goes. -/
theorem attempt_after {b : Backoff} (fresh : b.attempt = 0) (past : List Call) :
    (b.after past).attempt = min (given past) largest32 := by
  induction past with
  | nil => simp [after, given, fresh]
  | cons call past ih =>
    cases call with
    | next => exact attempt_next ih
    | reset => simp [after, given, reset]

/-- The delay that is given next. -/
theorem next_after {b : Backoff} (fresh : b.attempt = 0) (past : List Call) : (b.after past).next.1 = b.delayAt (given past) := by
  obtain ⟨base, longest⟩ := b.ends_after past
  calc (b.after past).next.1 = (b.after past).delayAt (given past) := delay_eq_delayAt (attempt_after fresh past)
    _ = b.delayAt (given past) := delayAt_congr base longest _

/-! ## How long it is -/

theorem two_pow_le_largest32 {n : Nat} (few : n < 32) : 2 ^ n ≤ largest32 := by
  have le : 2 ^ n ≤ 2 ^ 31 := Nat.pow_le_pow_right (by omega) (by omega)
  have last : 2 ^ 31 ≤ largest32 := by decide
  omega

theorem largest32_lt_two_pow {n : Nat} (many : 32 ≤ n) : largest32 < 2 ^ n := by
  have le : 2 ^ 32 ≤ 2 ^ n := Nat.pow_le_pow_right (by omega) many
  have first : largest32 < 2 ^ 32 := by decide
  omega

/-- The factor is a power of two, but no more than the largest number of 32 bits. -/
theorem factor_eq_min (n : Nat) : factor n = min (2 ^ n) largest32 := by
  unfold factor
  split
  case isTrue few =>
    have le := two_pow_le_largest32 few
    exact (Nat.min_eq_left le).symm
  case isFalse many =>
    have lt := largest32_lt_two_pow (Nat.le_of_not_lt many)
    omega

/-- A multiple of the shortest delay that is too long for a duration is longer than the longest delay, which stands for it. -/
theorem toNanos_times (b : Backoff) (k : Nat) : (b.times k).toNanos = min (b.base.toNanos * k) b.max.toNanos := by
  unfold times Duration.mul?
  cases made : Duration.ofNanos? (b.base.toNanos * k) with
  | none =>
    have longer := Duration.toNanos_lt_of_ofNanos? made b.max
    simp only [Option.map_none, Option.getD_none]
    omega
  | some d =>
    have length := Duration.toNanos_of_ofNanos? made
    rw [Option.map_some, Option.getD_some, Duration.toNanos_min, length]

theorem toNanos_delayAt (b : Backoff) (n : Nat) :
    (b.delayAt n).toNanos = min (b.base.toNanos * min (2 ^ n) largest32) b.max.toNanos := by
  unfold delayAt
  rw [toNanos_times, factor_eq_min]

/-- Later delays are no shorter. -/
theorem toNanos_delayAt_mono (b : Backoff) {n m : Nat} (le : n ≤ m) : (b.delayAt n).toNanos ≤ (b.delayAt m).toNanos := by
  have power : 2 ^ n ≤ 2 ^ m := Nat.pow_le_pow_right (by omega) le
  have factors : min (2 ^ n) largest32 ≤ min (2 ^ m) largest32 := by omega
  have products := Nat.mul_le_mul_left b.base.toNanos factors
  rw [toNanos_delayAt, toNanos_delayAt]
  omega

theorem toNanos_delayAt_le (b : Backoff) (n : Nat) : (b.delayAt n).toNanos ≤ b.max.toNanos := by
  rw [toNanos_delayAt]
  exact Nat.min_le_right _ _

/-- From the 33rd on, all delays are the same. -/
theorem toNanos_delayAt_of_le (b : Backoff) {n : Nat} (many : 32 ≤ n) :
    (b.delayAt n).toNanos = min (b.base.toNanos * largest32) b.max.toNanos := by
  have lt := largest32_lt_two_pow many
  have stopped : min (2 ^ n) largest32 = largest32 := by omega
  rw [toNanos_delayAt, stopped]

/-- The delay is that of doubling without end as long as the power fits 32 bits; beyond, only if there is nothing to double or the
longest delay was reached. -/
theorem toNanos_delayAt_eq_iff (b : Backoff) (n : Nat) :
    (b.delayAt n).toNanos = min (b.base.toNanos * 2 ^ n) b.max.toNanos ↔
      n < 32 ∨ b.base.toNanos = 0 ∨ b.max.toNanos ≤ b.base.toNanos * largest32 := by
  by_cases few : n < 32
  · have le := two_pow_le_largest32 few
    have power : min (2 ^ n) largest32 = 2 ^ n := by omega
    rw [toNanos_delayAt, power]
    simp [few]
  · have many : 32 ≤ n := Nat.le_of_not_lt few
    have lt : largest32 + 1 ≤ 2 ^ n := largest32_lt_two_pow many
    have longer : b.base.toNanos * (largest32 + 1) ≤ b.base.toNanos * 2 ^ n := Nat.mul_le_mul_left _ lt
    rw [Nat.mul_add, Nat.mul_one] at longer
    rw [toNanos_delayAt_of_le b many]
    constructor
    · intro same
      omega
    · rintro (few' | nothing | reached)
      · exact absurd few' few
      · simp [nothing]
      · omega

/-- The longest delay is reached, from the 33rd at the latest, just if the power gets so far. -/
theorem reaches_max_iff (b : Backoff) (n : Nat) :
    (∃ more, (b.delayAt (n + more)).toNanos = b.max.toNanos) ↔ b.max.toNanos ≤ b.base.toNanos * largest32 := by
  constructor
  · rintro ⟨more, reached⟩
    have le : b.base.toNanos * min (2 ^ (n + more)) largest32 ≤ b.base.toNanos * largest32 :=
      Nat.mul_le_mul_left _ (Nat.min_le_right _ _)
    rw [toNanos_delayAt] at reached
    omega
  · intro enough
    refine ⟨32, ?_⟩
    rw [toNanos_delayAt_of_le b (by omega)]
    omega

/-- **How long the delays are.** For any shortest and longest delay, after any calls of a new series:

1. The next delay, where `n` were given since the series last started over, is the shortest one times `2 ^ n`, or times the largest
   number of 32 bits if that is less, cut at the longest one. This is what doubling without end would give just if `n` is below 32, the
   shortest delay is empty, or the largest number of 32 bits takes it to the longest one.
2. No delay is longer than the longest one. While the series does not start over, none is shorter than one before it.
3. The longest delay is reached just if the largest number of 32 bits takes the shortest one there. Then the 33rd delay and all after it
   are the longest one. -/
theorem delays_double_iff (base max : Duration) (past : List Call) :
    let delay := fun calls : List Call => (({ base, max } : Backoff).after calls).next.1.toNanos
    (delay past = min (base.toNanos * min (2 ^ given past) largest32) max.toNanos ∧
      (delay past = min (base.toNanos * 2 ^ given past) max.toNanos ↔
        given past < 32 ∨ base.toNanos = 0 ∨ max.toNanos ≤ base.toNanos * largest32)) ∧
    (delay past ≤ max.toNanos ∧ ∀ more, delay past ≤ delay (List.replicate more .next ++ past)) ∧
    ((∃ more, delay (List.replicate more .next ++ past) = max.toNanos) ↔ max.toNanos ≤ base.toNanos * largest32) ∧
    ((∀ more, delay (List.replicate (32 + more) .next ++ past) = max.toNanos) ↔ max.toNanos ≤ base.toNanos * largest32) := by
  intro delay
  let b : Backoff := { base, max }
  have length (calls : List Call) : delay calls = (b.delayAt (given calls)).toNanos :=
    congrArg Duration.toNanos (next_after rfl calls)
  have later (more : Nat) : delay (List.replicate more .next ++ past) = (b.delayAt (given past + more)).toNanos := by
    rw [length, given_replicate_append]
  refine ⟨⟨?_, ?_⟩, ⟨?_, fun more => ?_⟩, ?_, ?_⟩
  · rw [length]
    exact toNanos_delayAt b _
  · rw [length]
    exact toNanos_delayAt_eq_iff b _
  · rw [length]
    exact toNanos_delayAt_le b _
  · rw [length, later]
    exact toNanos_delayAt_mono b (Nat.le_add_right _ _)
  · simp only [later]
    exact reaches_max_iff b _
  · have stopped (more : Nat) : (b.delayAt (given past + (32 + more))).toNanos = min (base.toNanos * largest32) max.toNanos :=
      toNanos_delayAt_of_le b (by omega)
    simp only [later, stopped, forall_const]
    omega

example : (List.range 6).map (fun n => (delayAt { base := .ofSecs 1, max := .ofSecs 10 } n).secs) = [1, 2, 4, 8, 10, 10] := by decide

/-- From one second to at most ten thousand million, the 33rd delay falls short of the doubled one. -/
theorem doubling_stops_early :
    ¬∀ (base max : Duration) (past : List Call), base.toNanos ≤ max.toNanos →
      (({ base, max } : Backoff).after past).next.1.toNanos = min (base.toNanos * 2 ^ given past) max.toNanos := by
  intro doubles
  have same := doubles (.ofSecs 1) (.ofSecs 10000000000) (List.replicate 32 .next) (by decide)
  have number : given (List.replicate 32 .next) = 32 := rfl
  rw [next_after rfl, number, toNanos_delayAt] at same
  revert same
  decide

end FlagKeeper.Backoff
