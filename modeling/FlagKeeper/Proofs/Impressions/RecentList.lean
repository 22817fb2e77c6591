import FlagKeeper.Proofs.Impressions.SeenCache

/-!
# The cache of seen impressions as a bounded list

A bounded list of the most recent settings (`RecentList`) has no slots, no positions and no serial numbers: setting a hash takes its
old entry out, puts the new one at the end, and drops the first entry if that is one too many. The cache answers and shows the same as
this list, however often hashes are set (`Fits.testAll`). So a cache that is filled from the snapshot of another one, in the order of
the snapshot, goes on like that one, or like what of it there is room for (`recent_ofList_snapshot`).
-/

namespace FlagKeeper

/-- The most recent settings of hashes, the one set longest ago first. -/
structure RecentList where
  capacity : Nat
  entries : List SeenImpression

namespace RecentList

/-- The entries once a hash was set: it comes last, with its new time. -/
def moved (entries : List SeenImpression) (x : SeenImpression) : List SeenImpression := entries.filter (·.hash ≠ x.hash) ++ [x]

/-- Sets a hash. The first entry goes if there is one too many. -/
def set (l : RecentList) (x : SeenImpression) : RecentList :=
  { l with entries := if l.capacity < (moved l.entries x).length then (moved l.entries x).tail else moved l.entries x }

/-- The time that a hash was set to. -/
def time? (l : RecentList) (hash : UInt64) : Option Int := (l.entries.find? (·.hash = hash)).map (·.time)

/-- Sets some hashes in order, and gives the time that each had before. -/
def testAll (l : RecentList) : List SeenImpression → List (Option Int) × RecentList
  | [] => ([], l)
  | x :: later => (l.time? x.hash :: ((l.set x).testAll later).1, ((l.set x).testAll later).2)

/-- The latest entries, as many as there is room for. -/
def latest (l : RecentList) (capacity : Nat) : RecentList where
  capacity
  entries := l.entries.drop (l.entries.length - capacity)

theorem length_latest (l : RecentList) (capacity : Nat) :
    (l.latest capacity).entries.length = min capacity l.entries.length := by
  unfold latest
  rw [List.length_drop]
  omega

/-- Nothing goes from a list that is within the room. -/
theorem latest_self {l : RecentList} (fits : l.entries.length ≤ l.capacity) : l.latest l.capacity = l := by
  unfold latest
  rw [Nat.sub_eq_zero_of_le fits, List.drop_zero]

end RecentList

namespace SeenCache

/-- The cache as the list that it shows. -/
def recent (c : SeenCache) : RecentList := ⟨c.capacity, c.snapshot⟩

/-- Sets some hashes in order, and gives the time that each had before. -/
def testAll (c : SeenCache) : List SeenImpression → List (Option Int) × SeenCache
  | [] => ([], c)
  | x :: later =>
    let (previous, next) := c.testAndSet x.hash x.time
    (previous :: (next.testAll later).1, (next.testAll later).2)

/-- A sound cache that shows no more than it has room for. -/
structure Fits (c : SeenCache) : Prop where
  sound : c.IsSound
  length : c.snapshot.length ≤ c.capacity

namespace Fits

variable {c : SeenCache}

/-- The hash that is set leaves the others in place, so there is one entry more at most. -/
theorem length_moved (h : c.Fits) (x : SeenImpression) : (RecentList.moved c.snapshot x).length ≤ c.capacity + 1 := by
  have fewer : (c.snapshot.filter (·.hash ≠ x.hash)).length ≤ c.snapshot.length := List.length_filter_le ..
  have room := h.length
  unfold RecentList.moved
  rw [List.length_append, List.length_singleton]
  omega

/-- Setting a hash in the cache sets it in the list. -/
theorem recent_testAndSet (h : c.Fits) (x : SeenImpression) : (c.testAndSet x.hash x.time).2.recent = c.recent.set x := by
  have set : (c.testAndSet x.hash x.time).2.snapshot =
      (RecentList.moved c.snapshot x).drop ((RecentList.moved c.snapshot x).length - c.capacity) :=
    h.sound.snapshot_testAndSet x.hash x.time
  have bound := h.length_moved x
  unfold recent RecentList.set
  rw [set]
  congr 1
  split
  case isTrue excess =>
    have excess : c.capacity < (RecentList.moved c.snapshot x).length := excess
    have one : (RecentList.moved c.snapshot x).length - c.capacity = 1 := by omega
    rw [one, List.drop_one]
  case isFalse within =>
    rw [Nat.sub_eq_zero_of_le (Nat.le_of_not_lt within), List.drop_zero]

theorem testAndSet (h : c.Fits) (x : SeenImpression) : (c.testAndSet x.hash x.time).2.Fits := by
  refine ⟨h.sound.testAndSet x.hash x.time, ?_⟩
  rw [h.sound.snapshot_testAndSet, List.length_drop]
  show _ ≤ c.capacity
  omega

/-- **The cache is a bounded list.** It gives the same times and comes to show the same, whatever is set. -/
theorem testAll (h : c.Fits) (sets : List SeenImpression) :
    (c.testAll sets).1 = (c.recent.testAll sets).1 ∧ (c.testAll sets).2.recent = (c.recent.testAll sets).2 := by
  induction sets generalizing c with
  | nil => exact ⟨rfl, rfl⟩
  | cons x later ih =>
    obtain ⟨answers, shown⟩ := ih (h.testAndSet x)
    have answer : (c.testAndSet x.hash x.time).1 = c.recent.time? x.hash := h.sound.testAndSet_fst x.hash x.time
    rw [h.recent_testAndSet] at answers shown
    unfold SeenCache.testAll RecentList.testAll
    exact ⟨congrArg₂ List.cons answer answers, shown⟩

end Fits

/-! ## A cache that was filled from the snapshot of another one -/

theorem fits_ofList (capacity : Nat) (hashes : List SeenImpression) : (ofList capacity hashes).Fits := by
  refine ⟨isSound_ofList capacity hashes, ?_⟩
  rw [snapshot_ofList, List.length_reverse, List.length_take, capacity_ofList]
  exact Nat.min_le_left ..

/-- No hash is shown twice. -/
theorem IsSound.hashes_nodup {c : SeenCache} (h : c.IsSound) : (c.snapshot.map (·.hash)).Nodup := h.tidy.hashes_nodup

/-- Where no hash was set twice, every setting is the last of its hash. -/
theorem latest_of_nodup {history : List SeenImpression} (once : (history.map (·.hash)).Nodup) : latest history = history := by
  induction history with
  | nil => rfl
  | cons x earlier ih =>
    rw [List.map_cons, List.nodup_cons] at once
    unfold latest
    rw [ih once.2, List.filter_eq_self.2 fun y inside => ?_]
    have other : y.hash ≠ x.hash := fun same => once.1 (same ▸ List.mem_map_of_mem inside)
    simpa using other

/-- A cache that is filled from a snapshot shows the latest entries of it, as many as it has room for, in their order. -/
theorem recent_ofList_snapshot {c : SeenCache} (sound : c.IsSound) (capacity : Nat) :
    (ofList capacity c.snapshot).recent = c.recent.latest (max capacity 1) := by
  have once : (c.snapshot.reverse.map (·.hash)).Nodup := by
    rw [List.map_reverse, List.nodup_reverse]
    exact sound.hashes_nodup
  unfold recent RecentList.latest
  rw [capacity_ofList, snapshot_ofList, latest_of_nodup once, List.reverse_take, List.reverse_reverse, List.length_reverse]

end SeenCache

end FlagKeeper
