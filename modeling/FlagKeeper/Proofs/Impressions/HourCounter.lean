import FlagKeeper.Impressions.HourCounter
import Mathlib.Logic.Basic

/-!
# What counts add up to

The counts of a feature in an hour are added up by `tally`, over one list of counts or several. Counting adds to the tally of one
feature and hour and to no other (`tally_addTo`), and keeps the counts of a counter in order: one for each feature and hour, under the
start of the hour (`IsOrderly`). So what a counter says for a feature and a time is the tally of the hour that the time lies in.
-/

namespace FlagKeeper.HourCounter

section Tally

variable {feature feature' : String} {hour hour' amount : Int} {counts counts' : List FeatureCount}

/-- The counts of a feature and the start of an hour, added up. -/
def tally (feature : String) (hour : Int) : List FeatureCount → Int
  | [] => 0
  | c :: rest => (if isBucket feature hour c then c.count else 0) + tally feature hour rest

theorem tally_nil (feature : String) (hour : Int) : tally feature hour [] = 0 := rfl

theorem tally_cons (feature : String) (hour : Int) (c : FeatureCount) (counts : List FeatureCount) :
    tally feature hour (c :: counts) = (if isBucket feature hour c then c.count else 0) + tally feature hour counts := rfl

theorem tally_append (feature : String) (hour : Int) (counts counts' : List FeatureCount) :
    tally feature hour (counts ++ counts') = tally feature hour counts + tally feature hour counts' := by
  induction counts with
  | nil => exact (Int.zero_add _).symm
  | cons c rest ih => rw [List.cons_append, tally_cons, tally_cons, ih, Int.add_assoc]

/-- What is of other features and hours adds nothing. -/
theorem tally_of_forall_not (others : ∀ c ∈ counts, isBucket feature hour c = false) : tally feature hour counts = 0 := by
  induction counts with
  | nil => rfl
  | cons c rest ih =>
    obtain ⟨first, later⟩ := List.forall_mem_cons.1 others
    rw [tally_cons, first, ih later]
    rfl

theorem isBucket_iff {c : FeatureCount} : isBucket feature hour c = true ↔ c.feature = feature ∧ c.timeframe = hour := by
  unfold isBucket
  rw [Bool.and_eq_true, decide_eq_true_iff, decide_eq_true_iff]

/-- Counting for a feature and an hour adds to their tally, and to no other. -/
theorem tally_addTo (feature feature' : String) (hour hour' amount : Int) (counts : List FeatureCount) :
    tally feature hour (addTo feature' hour' amount counts) =
      tally feature hour counts + if feature' = feature ∧ hour' = hour then amount else 0 := by
  induction counts with
  | nil =>
    unfold addTo
    rw [tally_cons, tally_nil, Int.add_zero, Int.zero_add]
    exact if_congr isBucket_iff rfl rfl
  | cons c rest ih =>
    unfold addTo
    by_cases found : isBucket feature' hour' c = true
    · obtain ⟨rfl, rfl⟩ := isBucket_iff.1 found
      have same : isBucket feature hour { c with count := c.count + amount } = isBucket feature hour c := rfl
      rw [if_pos found, tally_cons, tally_cons, same]
      by_cases own : c.feature = feature ∧ c.timeframe = hour
      · rw [if_pos (isBucket_iff.2 own), if_pos (isBucket_iff.2 own), if_pos own]
        dsimp only
        omega
      · rw [if_neg (mt isBucket_iff.1 own), if_neg (mt isBucket_iff.1 own), if_neg own, Int.add_zero]
    · rw [if_neg found, tally_cons, tally_cons, ih, Int.add_assoc]

theorem tally_nonneg (counted : ∀ c ∈ counts, 0 < c.count) : 0 ≤ tally feature hour counts := by
  induction counts with
  | nil => exact Int.le_refl 0
  | cons c rest ih =>
    obtain ⟨first, others⟩ := List.forall_mem_cons.1 counted
    have later := ih others
    rw [tally_cons]
    split <;> omega

/-- Counts that all count something add up to nothing only where none is of the feature and the hour. -/
theorem tally_eq_zero_iff (counted : ∀ c ∈ counts, 0 < c.count) :
    tally feature hour counts = 0 ↔ ∀ c ∈ counts, isBucket feature hour c = false := by
  refine ⟨fun nothing => ?_, tally_of_forall_not⟩
  induction counts with
  | nil => exact List.forall_mem_nil _
  | cons c rest ih =>
    obtain ⟨first, others⟩ := List.forall_mem_cons.1 counted
    have later : 0 ≤ tally feature hour rest := tally_nonneg others
    rw [tally_cons] at nothing
    cases own : isBucket feature hour c with
    | true =>
      rw [own, if_pos rfl] at nothing
      omega
    | false =>
      rw [own, if_neg Bool.false_ne_true, Int.zero_add] at nothing
      exact List.forall_mem_cons.2 ⟨own, ih others nothing⟩

/-- Counting something keeps every count above nothing. -/
theorem pos_addTo (counted : ∀ c ∈ counts, 0 < c.count) (pos : 0 < amount) :
    ∀ c ∈ addTo feature hour amount counts, 0 < c.count := by
  induction counts with
  | nil => exact List.forall_mem_singleton.2 pos
  | cons first rest ih =>
    obtain ⟨above, others⟩ := List.forall_mem_cons.1 counted
    unfold addTo
    split
    · exact List.forall_mem_cons.2 ⟨by dsimp only; omega, others⟩
    · exact List.forall_mem_cons.2 ⟨above, ih others⟩

end Tally

/-! ## Counts in order -/

/-- There is one count for each feature and hour, under the start of the hour. -/
structure IsOrderly (counts : List FeatureCount) : Prop where
  once : (counts.map fun c => (c.feature, c.timeframe)).Nodup
  aligned : ∀ c ∈ counts, hourMillis ∣ c.timeframe

namespace IsOrderly

variable {feature : String} {hour amount : Int} {counts : List FeatureCount}

theorem nil : IsOrderly [] := ⟨List.nodup_nil, fun _ inside => by cases inside⟩

/-- Counting for a feature and an hour gives them a count, and leaves all others theirs. -/
theorem mem_addTo {c : FeatureCount} (inside : c ∈ addTo feature hour amount counts) :
    (c.feature, c.timeframe) ∈ counts.map (fun c => (c.feature, c.timeframe)) ∨ (c.feature, c.timeframe) = (feature, hour) := by
  induction counts with
  | nil =>
    rw [List.mem_singleton.1 inside]
    exact .inr rfl
  | cons first rest ih =>
    unfold addTo at inside
    split at inside
    · rcases List.mem_cons.1 inside with rfl | later
      · exact .inl List.mem_cons_self
      · exact .inl (List.mem_cons_of_mem _ (List.mem_map_of_mem later))
    · rcases List.mem_cons.1 inside with rfl | later
      · exact .inl List.mem_cons_self
      · exact (ih later).imp_left (List.mem_cons_of_mem _)

theorem addTo (h : IsOrderly counts) (feature : String) {hour : Int} (aligned : hourMillis ∣ hour) (amount : Int) :
    IsOrderly (addTo feature hour amount counts) := by
  induction counts with
  | nil =>
    refine ⟨by simp [HourCounter.addTo], fun c inside => ?_⟩
    rw [List.mem_singleton.1 inside]
    exact aligned
  | cons first rest ih =>
    obtain ⟨once, starts⟩ := h
    rw [List.map_cons, List.nodup_cons] at once
    obtain ⟨firstAligned, restAligned⟩ := List.forall_mem_cons.1 starts
    obtain ⟨once', starts'⟩ := ih ⟨once.2, restAligned⟩
    unfold HourCounter.addTo
    split
    case isTrue found =>
      refine ⟨?_, List.forall_mem_cons.2 ⟨firstAligned, restAligned⟩⟩
      rw [List.map_cons, List.nodup_cons]
      exact once
    case isFalse other =>
      refine ⟨?_, List.forall_mem_cons.2 ⟨firstAligned, starts'⟩⟩
      rw [List.map_cons, List.nodup_cons]
      refine ⟨fun again => ?_, once'⟩
      obtain ⟨c, inside, same⟩ := List.mem_map.1 again
      rcases mem_addTo inside with known | new
      · exact once.1 (same ▸ known)
      · exact other (isBucket_iff.2 (Prod.mk.inj (same.symm.trans new)))

/-- The count that is found for a feature and an hour is all there is. -/
theorem find?_eq_tally (h : IsOrderly counts) (feature : String) (hour : Int) :
    ((counts.find? (isBucket feature hour)).map (·.count)).getD 0 = tally feature hour counts := by
  induction counts with
  | nil => rfl
  | cons first rest ih =>
    obtain ⟨once, starts⟩ := h
    rw [List.map_cons, List.nodup_cons] at once
    rw [tally_cons]
    by_cases found : isBucket feature hour first = true
    · have none : tally feature hour rest = 0 := tally_of_forall_not fun c inside => by
        rw [Bool.eq_false_iff]
        intro again
        obtain ⟨rfl, rfl⟩ := isBucket_iff.1 found
        obtain ⟨sameFeature, sameHour⟩ := isBucket_iff.1 again
        exact once.1 (List.mem_map.2 ⟨c, inside, Prod.ext sameFeature sameHour⟩)
      rw [List.find?_cons_of_pos found, if_pos found, none]
      exact (Int.add_zero _).symm
    · rw [List.find?_cons_of_neg found, if_neg found, Int.zero_add]
      exact ih ⟨once.2, (List.forall_mem_cons.1 starts).2⟩

end IsOrderly

/-! ## The counter -/

section Counter

variable {c : HourCounter}

theorem hourMillis_dvd_hourStart (time : Int) : hourMillis ∣ hourStart time := Int.dvd_self_sub_emod

/-- A time lies in the hour that starts no later and ends after it, whichever side of zero it is on. -/
theorem hourStart_eq_iff {hour time : Int} (aligned : hourMillis ∣ hour) :
    hourStart time = hour ↔ hour ≤ time ∧ time < hour + hourMillis := by
  obtain ⟨k, rfl⟩ := aligned
  unfold hourStart hourMillis
  omega

/-- Whether a time lies in the hour that starts at another. -/
def isInHour (hour time : Int) : Bool := hour ≤ time && time < hour + 3600000

theorem isInHour_iff {hour time : Int} (aligned : hourMillis ∣ hour) : isInHour hour time = true ↔ hourStart time = hour := by
  rw [hourStart_eq_iff aligned]
  simp [isInHour, hourMillis]

/-- Two times lie in one hour if as many whole hours have gone by at both. -/
theorem hourStart_eq_hourStart_iff {time time' : Int} : hourStart time = hourStart time' ↔ time / 3600000 = time' / 3600000 := by
  unfold hourStart hourMillis
  omega

theorem hourStart_mono {time time' : Int} (le : time ≤ time') : hourStart time ≤ hourStart time' := by
  unfold hourStart hourMillis
  omega

theorem isOrderly_increment (h : IsOrderly c.counts) (feature : String) (time amount : Int) :
    IsOrderly (c.increment feature time amount).counts := h.addTo feature (hourMillis_dvd_hourStart time) amount

/-- What the counter says for a feature and a time is the tally of the hour. -/
theorem countFor_eq_tally (h : IsOrderly c.counts) (feature : String) (time : Int) :
    c.countFor feature time = tally feature (hourStart time) c.counts := h.find?_eq_tally feature (hourStart time)

end Counter

end FlagKeeper.HourCounter
