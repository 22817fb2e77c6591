import FlagKeeper.Proofs.Impressions.HourCounter
import FlagKeeper.Proofs.Tracking.Scene
import Mathlib.Data.List.TakeWhile

/-!
# Impressions that are sent once an hour

In optimized mode, an impression that may be delivered is queued or counts as seen before. Which of the two can be told from the
impressions that the pipeline handled before it, with no look at the cache of the observer: it is seen before if the same impression
was handled in the same hour, and fewer others were handled since than the observer has room for (`verdict`). The main statement of
this file says that a run comes to these verdicts and no others, and that they queue each impression once an hour where times do not
go back and the observer has room for all.
-/

namespace FlagKeeper.Tracking

open Ensemble (Call)
open HourCounter (isInHour isInHour_iff hourStart_eq_hourStart_iff hourStart_mono hourMillis_dvd_hourStart)
open Recording (Scene Setup)

/-! ## What is to become of an impression -/

/-- The other impressions that were handled since the same one was, the latest first. -/
def othersSince (earlier : List Impression) (i : Impression) : Finset UInt64 :=
  ((earlier.takeWhile (·.identityHash ≠ i.identityHash)).map (·.identityHash)).toFinset

/-- The same impression when it was handled last, if fewer others were handled since than there is room for. -/
def lastSame (room : Nat) (earlier : List Impression) (i : Impression) : Option Impression :=
  if (othersSince earlier i).card < room then earlier.find? (·.identityHash = i.identityHash) else none

/-- What is to become of an impression that is handled after some others, the latest first. Two times lie in one hour if as many whole
hours have gone by at both. -/
def verdict (room : Nat) (earlier : List Impression) (i : Impression) : Call :=
  match lastSame room earlier i with
  | none => .queueImpression { i with previousTime := none }
  | some j =>
    if j.time / 3600000 = i.time / 3600000 then .impressions .deduped 1
    else .queueImpression { i with previousTime := some j.time }

/-- The verdict by the starts of the hours that the times lie in. -/
theorem verdict_eq (room : Nat) (earlier : List Impression) (i : Impression) : verdict room earlier i =
    match lastSame room earlier i with
    | none => .queueImpression { i with previousTime := none }
    | some j =>
      if hourStart j.time = hourStart i.time then .impressions .deduped 1
      else .queueImpression { i with previousTime := some j.time } := by
  unfold verdict
  simp only [hourStart_eq_hourStart_iff]

/-- What is to become of each of some impressions, the latest first. -/
def verdicts (room : Nat) : List Impression → List Call
  | [] => []
  | i :: earlier => verdict room earlier i :: verdicts room earlier

/-- Whether a call says what becomes of an impression that may be delivered. -/
def isVerdict : Call → Bool
  | .queueImpression _ => true
  | .impressions .deduped _ => true
  | _ => false

/-! ## What the tracker does with it -/

section Turns

variable {s : Scene} {room : Nat} {earlier : List Impression}

/-- What a cache remembers of impressions is when the same one was handled last. -/
theorem remembered_seen (room : Nat) (earlier : List Impression) (i : Impression) :
    SeenCache.remembered room (earlier.map seen) i.identityHash = (lastSame room earlier i).map (·.time) := by
  have others : SeenCache.since i.identityHash (earlier.map seen) = othersSince earlier i := by
    unfold SeenCache.since othersSince
    rw [List.takeWhile_map, List.map_map]
    rfl
  have last : (earlier.map seen).find? (·.hash = i.identityHash) =
      (earlier.find? (·.identityHash = i.identityHash)).map seen := List.find?_map ..
  unfold SeenCache.remembered lastSame
  rw [others, last]
  split
  · rw [Option.map_map]
    rfl
  · rfl

/-- The impression as it is when the observer has seen it. -/
theorem lastSeen_eq {stored : List SeenImpression} {capacity : Nat} (none : stored = [])
    (filled : s.tracker.observer = SeenCache.ofList capacity (stored ++ (earlier.map seen).reverse)) (i : Impression) :
    s.lastSeen i = { i with previousTime := (lastSame (max capacity 1) earlier i).map (·.time) } := by
  unfold Scene.lastSeen
  rw [filled, none, List.nil_append, SeenCache.testAndSet_ofList, List.reverse_reverse, remembered_seen]

/-- In optimized mode, what shows of an impression that may be delivered is the verdict. -/
theorem filter_fateOf (optimized : s.mode = .optimized) {pushed : TrackedImpression}
    (decorated : s.lastSeen pushed.impression =
      { pushed.impression with previousTime := (lastSame room earlier pushed.impression).map (·.time) }) :
    (s.fateOf (.push pushed)).filter isVerdict =
      if isCounted .optimized pushed then [] else [verdict room earlier pushed.impression] := by
  rw [verdict_eq]
  unfold Scene.fateOf isCounted Scene.isQueued ImpressionTracker.isFirstInHour
  dsimp only
  rw [optimized, decorated]
  cases pushed.disabled with
  | true => rfl
  | false =>
    cases lastSame room earlier pushed.impression with
    | none => rfl
    | some j =>
      by_cases same : hourStart j.time = hourStart pushed.impression.time
      · simp [same, isVerdict]
      · simp [same, isVerdict]

/-- The verdicts of a run. -/
theorem filter_verdicts (u : Setup) (optimized : u.settings.impressionsMode = .optimized) (blank : u.restored = [])
    (inputs : List Input) :
    (after u inputs).ground.calls.filter isVerdict =
      verdicts (max u.settings.observerCapacity 1) (delivered .optimized (handled u inputs)) := by
  refine run_induction (P := fun orders s => s.ground.calls.filter isVerdict =
    verdicts (max u.settings.observerCapacity 1) (delivered .optimized orders)) ?_ ?_ ?_ inputs
  · exact u.filter_scene (fun _ => rfl) (fun _ => rfl) rfl
  · intro past command settled
    rw [toldTracker_filter _ _ rfl fun _ => rfl, settled]
  · intro past order rest _ settled
    have mode : (after u past).mode = .optimized := (after_mode u past).trans optimized
    rw [turned_calls, List.filter_append, Recording.filter_callsOf _ (fun _ _ => rfl) (fun _ => rfl) (fun _ => rfl) rfl, settled]
    cases order with
    | push pushed =>
      have filled := after_observer u past
      rw [optimized] at filled
      rw [filter_fateOf mode (lastSeen_eq blank filled pushed.impression)]
      cases counted : isCounted .optimized pushed with
      | true => rw [delivered_cons_counted counted]; rfl
      | false => rw [delivered_cons_delivered counted]; rfl
    | _ => rfl

end Turns

/-! ## Once an hour -/

section Hourly

variable {room : Nat} {earlier : List Impression} {i : Impression}

/-- Whether an impression is of an identity and of the hour that starts at a time. -/
def isOf (hash : UInt64) (hour : Int) (i : Impression) : Bool := i.identityHash = hash && isInHour hour i.time

/-- Whether a call queues an impression of an identity and an hour. -/
def queues (hash : UInt64) (hour : Int) : Call → Bool
  | .queueImpression i => isOf hash hour i
  | _ => false

theorem isOf_iff {hash : UInt64} {hour : Int} (aligned : hourMillis ∣ hour) (i : Impression) :
    isOf hash hour i = true ↔ i.identityHash = hash ∧ hourStart i.time = hour := by
  unfold isOf
  rw [Bool.and_eq_true, decide_eq_true_iff, isInHour_iff aligned]

/-- Where there is room for all, there is room for those that came in between. -/
theorem card_othersSince_lt (few : ((i :: earlier).map (·.identityHash)).toFinset.card ≤ room) :
    (othersSince earlier i).card < room := by
  refine lt_of_lt_of_le (Finset.card_lt_card ?_) few
  rw [Finset.ssubset_iff_of_subset]
  · refine ⟨i.identityHash, by simp, fun inside => ?_⟩
    obtain ⟨j, between, same⟩ := List.mem_map.1 (List.mem_toFinset.1 inside)
    simpa [same] using List.mem_takeWhile_imp between
  · intro hash inside
    obtain ⟨j, between, rfl⟩ := List.mem_map.1 (List.mem_toFinset.1 inside)
    rw [List.mem_toFinset]
    exact List.mem_map_of_mem (List.mem_cons_of_mem i ((List.takeWhile_sublist _).subset between))

/-- Nothing that came before the same impression in another hour is of the hour of this one, for times do not go back. -/
theorem not_isOf_of_find? {j : Impression} (sorted : (i :: earlier).Pairwise fun later earlier => earlier.time ≤ later.time)
    (last : earlier.find? (·.identityHash = i.identityHash) = some j) (other : hourStart j.time ≠ hourStart i.time) :
    earlier.any (isOf i.identityHash (hourStart i.time)) = false := by
  obtain ⟨-, between, before, rfl, apart⟩ := List.find?_eq_some_iff_append.1 last
  rw [List.pairwise_cons, List.pairwise_append, List.pairwise_cons] at sorted
  obtain ⟨notAfter, -, ⟨downwards, -⟩, -⟩ := sorted
  have below : hourStart j.time ≤ hourStart i.time := hourStart_mono (notAfter j (by simp))
  rw [List.any_eq_false]
  intro k inside same
  obtain ⟨hash, hour⟩ : k.identityHash = i.identityHash ∧ hourStart k.time = hourStart i.time :=
    (isOf_iff (hourMillis_dvd_hourStart _) k).1 same
  rcases List.mem_append.1 inside with later | notLater
  · simpa [hash] using apart k later
  · rcases List.mem_cons.1 notLater with rfl | sooner
    · exact other hour
    · have above : hourStart k.time ≤ hourStart j.time := hourStart_mono (downwards k sooner)
      omega

/-- An impression is queued for its identity and hour if it is the first of them. -/
theorem queues_verdict (sorted : (i :: earlier).Pairwise fun later earlier => earlier.time ≤ later.time)
    (few : ((i :: earlier).map (·.identityHash)).toFinset.card ≤ room) (hash : UInt64) {hour : Int} (aligned : hourMillis ∣ hour) :
    queues hash hour (verdict room earlier i) = (isOf hash hour i && !earlier.any (isOf hash hour)) := by
  rw [verdict_eq]
  unfold lastSame
  rw [if_pos (card_othersSince_lt few)]
  by_cases own : i.identityHash = hash ∧ hourStart i.time = hour
  · have mine : isOf hash hour i = true := (isOf_iff aligned i).2 own
    obtain ⟨rfl, rfl⟩ := own
    rw [mine, Bool.true_and]
    cases last : earlier.find? (·.identityHash = i.identityHash) with
    | none =>
      have none : earlier.any (isOf i.identityHash (hourStart i.time)) = false := by
        rw [List.any_eq_false]
        intro k inside same
        have apart := List.find?_eq_none.1 last k inside
        simp_all [isOf]
      rw [none]
      exact mine
    | some j =>
      by_cases same : hourStart j.time = hourStart i.time
      · have hash : j.identityHash = i.identityHash := by simpa using List.find?_some last
        have found : earlier.any (isOf i.identityHash (hourStart i.time)) = true :=
          List.any_eq_true.2 ⟨j, List.mem_of_find?_eq_some last, (isOf_iff aligned j).2 ⟨hash, same⟩⟩
        rw [found]
        simp [same, queues]
      · rw [not_isOf_of_find? sorted last same]
        simp only [same, if_false]
        exact mine
  · have other : isOf hash hour i = false := Bool.eq_false_iff.2 (mt (isOf_iff aligned i).1 own)
    rw [other, Bool.false_and]
    cases last : earlier.find? (·.identityHash = i.identityHash) with
    | none => exact other
    | some j =>
      by_cases same : hourStart j.time = hourStart i.time
      · simp [same, queues]
      · simp only [same, if_false]
        exact other

/-- Where times do not go back and there is room for all, the verdicts queue one impression for each identity and hour. -/
theorem countP_verdicts {pushed : List Impression} (sorted : pushed.Pairwise fun later earlier => earlier.time ≤ later.time)
    (few : (pushed.map (·.identityHash)).toFinset.card ≤ room) (hash : UInt64) {hour : Int} (aligned : hourMillis ∣ hour) :
    (verdicts room pushed).countP (queues hash hour) = if pushed.any (isOf hash hour) then 1 else 0 := by
  induction pushed with
  | nil => rfl
  | cons i earlier ih =>
    have fewer : (earlier.map (·.identityHash)).toFinset.card ≤ room := by
      refine le_trans (Finset.card_le_card ?_) few
      rw [List.map_cons, List.toFinset_cons]
      exact Finset.subset_insert _ _
    unfold verdicts
    rw [List.countP_cons, ih (List.pairwise_cons.1 sorted).2 fewer, queues_verdict sorted few hash aligned, List.any_cons]
    cases isOf hash hour i <;> cases earlier.any (isOf hash hour) <;> rfl

end Hourly

/-- **Impressions are sent once an hour.** For a tracker in optimized mode whose observer starts empty, whatever it is told and however
its host answers, let `pushed` be the impressions that its pipeline handled and that have not been turned off for their flag, the
latest first:

1. The calls that queue an impression or record one as seen before are the verdicts on these impressions, one for each and in order:
   the impression is queued if the same one was not handled before, or if as many others as the observer has room for were handled
   since, or if that was in another hour; else it is recorded as seen before. A queued impression carries the time of the last one, if
   the observer remembers it, and otherwise none.
2. If times do not go back, and the observer has room for all, exactly one impression is queued for each identity and hour that some of
   the impressions are of. The hours start at the multiples of 3600000 milliseconds, and a time is of the hour that starts no later and
   ends after it. -/
theorem optimized_dedup_exact (u : Setup) (optimized : u.settings.impressionsMode = .optimized) (blank : u.restored = [])
    (inputs : List Input) :
    let room := max u.settings.observerCapacity 1
    let pushed := delivered .optimized (handled u inputs)
    let calls := (after u inputs).ground.calls
    calls.filter isVerdict = verdicts room pushed ∧
    ((pushed.Pairwise fun later earlier => earlier.time ≤ later.time) →
      (pushed.map (·.identityHash)).toFinset.card ≤ room →
      ∀ hash hour, 3600000 ∣ hour → calls.countP (queues hash hour) = if pushed.any (isOf hash hour) then 1 else 0) := by
  intro room pushed calls
  have settled : calls.filter isVerdict = verdicts room pushed := filter_verdicts u optimized blank inputs
  refine ⟨settled, fun sorted few hash hour aligned => ?_⟩
  have among : (fun c => queues hash hour c && isVerdict c) = queues hash hour := by
    funext c
    cases c with
    | queueImpression i => exact Bool.and_true _
    | _ => rfl
  rw [← countP_verdicts sorted few hash aligned, ← settled, List.countP_filter, among]

/-- The same impression at any time. -/
def checkoutAt (time : Int) : Impression := .new "user" "checkout" "on" time

/-- It is tracked at the start of an hour, again after some milliseconds, and again at the start of the next hour. -/
def twice : List Input :=
  [.step, .step, .step, .tell (.push { impression := checkoutAt 3600000 }), .tell (.push { impression := checkoutAt 5 }),
    .tell (.push { impression := checkoutAt 0 })]

/-- It is queued once for each of the two hours, and recorded as seen before in between. -/
theorem optimized_dedup_exact_twice :
    let calls := (after Setup.plain twice).ground.calls
    calls.filter isVerdict =
      [.queueImpression { checkoutAt 3600000 with previousTime := some 5 }, .impressions .deduped 1, .queueImpression (checkoutAt 0)] ∧
    calls.countP (queues (checkoutAt 0).identityHash 0) = 1 ∧
    calls.countP (queues (checkoutAt 0).identityHash 3600000) = 1 := by
  obtain ⟨settled, hourly⟩ := optimized_dedup_exact Setup.plain rfl rfl twice
  have pushed : delivered .optimized (handled Setup.plain twice) = [checkoutAt 3600000, checkoutAt 5, checkoutAt 0] := by
    have waiting : (after Setup.plain (twice.drop 3)).tracker.orders.queue =
        [.push { impression := checkoutAt 0 }, .push { impression := checkoutAt 5 }, .push { impression := checkoutAt 3600000 }] := rfl
    exact congrArg (delivered .optimized) (handled_replicate (by simp) waiting)
  have alike (time : Int) : (checkoutAt time).identityHash = (checkoutAt 0).identityHash := rfl
  have timed (time : Int) : (checkoutAt time).time = time := rfl
  rw [pushed] at settled hourly
  have sorted : [checkoutAt 3600000, checkoutAt 5, checkoutAt 0].Pairwise fun later earlier => earlier.time ≤ later.time := by decide
  have few : ([checkoutAt 3600000, checkoutAt 5, checkoutAt 0].map (·.identityHash)).toFinset.card ≤
      max Setup.plain.settings.observerCapacity 1 := le_trans (List.toFinset_card_le _) (by decide)
  refine ⟨settled.trans ?_, ?_, ?_⟩
  · have room : 0 < max Setup.plain.settings.observerCapacity 1 := by decide
    simp [verdicts, verdict, lastSame, othersSince, alike, timed, room]
    rfl
  · rw [hourly sorted few _ _ (by decide)]
    simp [isOf, alike, isInHour, timed]
  · rw [hourly sorted few _ _ (by decide)]
    simp [isOf, alike, isInHour, timed]

end FlagKeeper.Tracking
