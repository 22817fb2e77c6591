import FlagKeeper.Proofs.Tracking.Accounts

/-!
# Counts that are lost with a write

The counter is emptied before it is known how the write of its counts ends, and what a write that failed was to store goes back
nowhere. The main statement of this file is the account of it: what was stored, what the counter has, and what was in writes that
failed is together what was to be counted. So the counts of a feature and an hour are kept just as long as none of them was in a write
that failed, and a single such write is enough for them to be missing for good (`counts_lost_at_pause`).
-/

namespace FlagKeeper.Tracking

open Ensemble (Call Answers)
open HourCounter (tally isBucket)
open Recording (Scene Setup)

/-- The counts that some calls brought into the store of a host, the latest first. -/
def stored (a : Answers) : List Call → List FeatureCount
  | [] => []
  | c :: earlier => (if (a.outcome (c :: earlier)).isOk then countsOf c else []) ++ stored a earlier

/-- The counts that were in writes that failed, the latest first. -/
def lost (a : Answers) : List Call → List FeatureCount
  | [] => []
  | c :: earlier => (if (a.outcome (c :: earlier)).isOk then [] else countsOf c) ++ lost a earlier

section Writes

variable (a : Answers)

/-- Counts that were pushed were stored or lost. -/
theorem tally_stored_add_lost (feature : String) (hour : Int) (calls : List Call) :
    tally feature hour (stored a calls) + tally feature hour (lost a calls) = tally feature hour (pushedCounts calls) := by
  induction calls with
  | nil => rfl
  | cons c earlier ih =>
    have pushed : pushedCounts (c :: earlier) = countsOf c ++ pushedCounts earlier := List.flatMap_cons
    unfold stored lost
    rw [pushed, HourCounter.tally_append, HourCounter.tally_append, HourCounter.tally_append, ← ih]
    split
    · rw [HourCounter.tally_nil]
      omega
    · rw [HourCounter.tally_nil]
      omega

theorem mem_pushedCounts_of_lost {calls : List Call} {count : FeatureCount} (inside : count ∈ lost a calls) :
    count ∈ pushedCounts calls := by
  induction calls with
  | nil => exact inside
  | cons c earlier ih =>
    have pushed : pushedCounts (c :: earlier) = countsOf c ++ pushedCounts earlier := List.flatMap_cons
    unfold lost at inside
    rw [pushed]
    rcases List.mem_append.1 inside with new | before
    · split at new
      · cases new
      · exact List.mem_append_left _ new
    · exact List.mem_append_right _ (ih before)

end Writes

section Runs

variable (u : Setup)

/-- Every count, in the counter or pushed, counts something. -/
theorem pos_after (inputs : List Input) : (∀ c ∈ (after u inputs).tracker.counter.counts, 0 < c.count) ∧
    ∀ c ∈ pushedCounts (after u inputs).ground.calls, 0 < c.count := by
  refine run_induction (P := fun _ s => (∀ c ∈ s.tracker.counter.counts, 0 < c.count) ∧
    ∀ c ∈ pushedCounts s.ground.calls, 0 < c.count) ?_ ?_ ?_ inputs
  · rw [pushedCounts_scene]
    exact ⟨List.forall_mem_nil _, List.forall_mem_nil _⟩
  · rintro past command ⟨counter, pushed⟩
    rw [toldTracker_counter, pushedCounts_toldTracker]
    exact ⟨counter, pushed⟩
  · rintro past order rest - ⟨counter, pushed⟩
    rw [turned_counter, turned_calls, pushedCounts_append, counts_callsOf]
    split
    · exact ⟨List.forall_mem_nil _, List.forall_mem_append.2 ⟨counter, pushed⟩⟩
    · refine ⟨?_, pushed⟩
      cases order with
      | push p =>
        dsimp only
        split
        · exact HourCounter.pos_addTo counter Int.one_pos
        · exact counter
      | _ => exact counter

end Runs

/-- **What a write that fails costs.** Of any settings, over any host, however its writes end, whatever the tracker is told and whenever
its pipeline has its turn, for each feature and hour:

1. The counts that were stored, the count that the counter has, and the counts that were in writes that failed are together as many as
   the impressions of that feature and hour that were handled and are to be counted.
2. So nothing is missing from the store and the counter just as long as none of the writes that failed had a count of that feature and
   hour. -/
theorem failed_write_account (u : Setup) (inputs : List Input) (feature : String) (time : Int) :
    let s := after u inputs
    let hour := hourStart time
    let kept := tally feature hour (stored u.answers s.ground.calls) + s.tracker.counter.countFor feature time
    let handled := volume u.settings.impressionsMode feature hour (handled u inputs)
    kept + tally feature hour (lost u.answers s.ground.calls) = handled ∧
    (kept = handled ↔ ∀ c ∈ lost u.answers s.ground.calls, isBucket feature hour c = false) := by
  intro s hour kept handled
  obtain ⟨orderly, -⟩ := orderly_after u inputs
  have account : kept + tally feature hour (lost u.answers s.ground.calls) = handled :=
    calc kept + tally feature hour (lost u.answers s.ground.calls)
      _ = tally feature hour (stored u.answers s.ground.calls) + tally feature hour (lost u.answers s.ground.calls) +
            s.tracker.counter.countFor feature time := Int.add_right_comm ..
      _ = tally feature hour (pushedCounts s.ground.calls) + tally feature hour s.tracker.counter.counts := by
        rw [tally_stored_add_lost, HourCounter.countFor_eq_tally orderly]
      _ = handled := tally_after u inputs feature (HourCounter.hourMillis_dvd_hourStart time)
  have positive : ∀ c ∈ lost u.answers s.ground.calls, 0 < c.count :=
    fun c inside => (pos_after u inputs).2 c (mem_pushedCounts_of_lost u.answers inside)
  refine ⟨account, Iff.trans ?_ (HourCounter.tally_eq_zero_iff positive)⟩
  omega

/-- Parts over a host whose first write of counts fails. -/
def failsOnce : Setup where
  settings := {}
  keepsHashes := false
  answers :=
    { outcome := fun calls =>
        match calls with
        | .pushCounts _ :: earlier => if earlier.any isPushCounts then .ok () else .error (.storage "the disk is full")
        | _ => .ok () }

/-- An impression is tracked, a pause, and then a flush, which finds the counter empty. -/
def pausedAndFlushed : List Input :=
  [.step, .tell .flush, .step, .tell .pause, .step, .tell (.push { impression := .new "user" "checkout" "on" 0 })]

/-- A pause whose write fails loses the counts for good. -/
theorem counts_lost_at_pause :
    ¬∀ (u : Setup) (inputs : List Input) (feature : String) (time : Int),
      tally feature (hourStart time) (stored u.answers (after u inputs).ground.calls) +
          (after u inputs).tracker.counter.countFor feature time =
        volume u.settings.impressionsMode feature (hourStart time) (handled u inputs) := by
  intro kept
  have missing : (0 : Int) = 1 := kept failsOnce pausedAndFlushed "checkout" 0
  cases missing

end FlagKeeper.Tracking
