import FlagKeeper.Proofs.Impressions.HourCounter

/-!
# No volume is lost

A counter is told to count, is drained and is asked for counts, in any order (`Call`). How much it was told to count for a feature in
an hour can be read off the calls (`volume`): the amounts whose time is no earlier than the start of the hour and earlier than its end.
No call changes what was handed out and what is still held together, but for the amount it counts (`tally_perform`), so at every moment
the two make up the volume. Amounts and times are integers of any size, so no sum overflows.
-/

namespace FlagKeeper.HourCounter

/-- What a counter is told or asked. -/
inductive Call where
  | increment (feature : String) (time amount : Int)
  | drain
  | countFor (feature : String) (time : Int)

/-- What it answers. -/
inductive Answer where
  | done
  | drained (counts : List FeatureCount)
  | count (amount : Int)

/-- The counts that an answer hands out. -/
def Answer.handedOut : Answer → List FeatureCount
  | .drained counts => counts
  | _ => []

/-- The answer to a call, and the counter after it. -/
def perform (c : HourCounter) : Call → Answer × HourCounter
  | .increment feature time amount => (.done, c.increment feature time amount)
  | .drain => (.drained c.drain.1, c.drain.2)
  | .countFor feature time => (.count (c.countFor feature time), c)

/-- A new counter after some calls, the latest first. -/
def after : List Call → HourCounter
  | [] => {}
  | call :: past => ((after past).perform call).2

/-- What a new counter answered to some calls, the latest first. -/
def answers : List Call → List Answer
  | [] => []
  | call :: past => ((after past).perform call).1 :: answers past

/-- How much a call counts for a feature in the hour that starts at a time. -/
def Call.amountIn (feature : String) (hour : Int) : Call → Int
  | .increment counted time amount => if counted = feature ∧ hour ≤ time ∧ time < hour + hourMillis then amount else 0
  | _ => 0

/-- How much some calls count for a feature in the hour that starts at a time. -/
def volume (feature : String) (hour : Int) : List Call → Int
  | [] => 0
  | call :: past => volume feature hour past + call.amountIn feature hour

section Hours

variable {hour time : Int}

/-- A call moves counts from the counter to its answer, or adds what it counts; nothing else changes. -/
theorem tally_perform (feature : String) (aligned : hourMillis ∣ hour) (c : HourCounter) (call : Call) :
    tally feature hour (c.perform call).1.handedOut + tally feature hour (c.perform call).2.counts =
      tally feature hour c.counts + call.amountIn feature hour := by
  cases call with
  | increment counted time amount =>
    have added := tally_addTo feature counted hour (hourStart time) amount c.counts
    simp only [hourStart_eq_iff aligned] at added
    simp only [perform, increment, Answer.handedOut, Call.amountIn, tally_nil]
    omega
  | drain => simp [perform, drain, Answer.handedOut, Call.amountIn, tally_nil]
  | countFor counted time => simp [perform, Answer.handedOut, Call.amountIn, tally_nil]

/-- What was handed out and what is held make up the volume. -/
theorem tally_after (feature : String) (aligned : hourMillis ∣ hour) (calls : List Call) :
    tally feature hour ((answers calls).flatMap Answer.handedOut) + tally feature hour (after calls).counts =
      volume feature hour calls := by
  induction calls with
  | nil => rfl
  | cons call past ih =>
    have step := tally_perform feature aligned (after past) call
    simp only [answers, after, volume, List.flatMap_cons, tally_append]
    omega

end Hours

/-- A call leaves the counts in order, and those that it hands out are in order. -/
theorem isOrderly_perform {c : HourCounter} (h : IsOrderly c.counts) (call : Call) :
    IsOrderly (c.perform call).1.handedOut ∧ IsOrderly (c.perform call).2.counts := by
  cases call with
  | increment feature time amount => exact ⟨.nil, isOrderly_increment h feature time amount⟩
  | drain => exact ⟨h, .nil⟩
  | countFor feature time => exact ⟨.nil, h⟩

theorem isOrderly_after (calls : List Call) :
    (∀ answer ∈ answers calls, IsOrderly answer.handedOut) ∧ IsOrderly (after calls).counts := by
  induction calls with
  | nil => exact ⟨List.forall_mem_nil _, .nil⟩
  | cons call past ih =>
    obtain ⟨handedOut, held⟩ := ih
    obtain ⟨now, left⟩ := isOrderly_perform held call
    exact ⟨List.forall_mem_cons.2 ⟨now, handedOut⟩, left⟩

/-- **The counter conserves the volume.** For any calls of a new counter:

1. For a feature and an hour, the counts of all lists that were handed out and what the counter says for any time of the hour are
   together the amounts that were counted for the feature at times of the hour.
2. A list that is handed out has each feature and hour once, under the start of the hour.
3. A counter that is drained is empty and says nothing for any feature and time. -/
theorem volume_conserved (calls : List Call) :
    (∀ feature hour time, hourMillis ∣ hour → hour ≤ time → time < hour + hourMillis →
      tally feature hour ((answers calls).flatMap Answer.handedOut) + (after calls).countFor feature time =
        volume feature hour calls) ∧
    (∀ counts, .drained counts ∈ answers calls →
      (counts.map fun c => (c.feature, c.timeframe)).Nodup ∧ ∀ c ∈ counts, hourMillis ∣ c.timeframe) ∧
    ((after (.drain :: calls)).isEmpty = true ∧ ∀ feature time, (after (.drain :: calls)).countFor feature time = 0) := by
  obtain ⟨handedOut, held⟩ := isOrderly_after calls
  refine ⟨fun feature hour time aligned late early => ?_, fun counts given => ?_, rfl, fun feature time => rfl⟩
  · have inside : hourStart time = hour := (hourStart_eq_iff aligned).2 ⟨late, early⟩
    rw [countFor_eq_tally held, inside]
    exact tally_after feature aligned calls
  · obtain ⟨once, aligned⟩ := handedOut _ given
    exact ⟨once, aligned⟩

/-- Counts on either side of zero, drained once and counted again. -/
def aroundZero : List Call :=
  [.increment "checkout" (-5) 4, .countFor "checkout" 0, .drain, .increment "checkout" 0 7, .increment "search" (-1) 1,
    .increment "checkout" (-3600000) 2, .increment "checkout" (-1) 3]

/-- Of the hour before zero five were handed out and four are held. -/
theorem volume_conserved_aroundZero :
    let handedOut := (answers aroundZero).flatMap Answer.handedOut
    let first : List FeatureCount := [⟨"checkout", -3600000, 5⟩, ⟨"search", -3600000, 1⟩, ⟨"checkout", 0, 7⟩]
    (hourMillis ∣ -3600000 ∧ (-3600000 : Int) ≤ -1 ∧ -1 < -3600000 + hourMillis ∧
      tally "checkout" (-3600000) handedOut = 5 ∧ (after aroundZero).countFor "checkout" (-1) = 4 ∧
      volume "checkout" (-3600000) aroundZero = 9) ∧
    .drained first ∈ answers aroundZero ∧ (first.map fun c => (c.feature, c.timeframe)).Nodup := by
  intro handedOut first
  obtain ⟨conserved, orderly, -⟩ := volume_conserved aroundZero
  have aligned : hourMillis ∣ -3600000 := by decide
  have early : -1 < -3600000 + hourMillis := by decide
  have held : (after aroundZero).countFor "checkout" (-1) = 4 := by decide
  have total : volume "checkout" (-3600000) aroundZero = 9 := by decide
  have out : tally "checkout" (-3600000) handedOut + 4 = 9 := by
    rw [← held, ← total]
    exact conserved "checkout" (-3600000) (-1) aligned (by decide) early
  have given : Answer.drained first ∈ answers aroundZero := .tail _ (.tail _ (.head _))
  exact ⟨⟨aligned, by decide, early, by omega, held, total⟩, given, (orderly first given).1⟩

end FlagKeeper.HourCounter
