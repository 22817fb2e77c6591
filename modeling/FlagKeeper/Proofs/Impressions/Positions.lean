import FlagKeeper.Proofs.Impressions.RecentList

/-!
# The positions in the cache of seen impressions

The cache keeps positions that are stale and clears them away only now and then. Still, there are never more than twice as many as the
cache has room for hashes: clearing leaves one for each hash that is held, and it is done as soon as there are more. The numbers of
the positions grow from the first to the last, for a new one comes last and the others only ever go (`IsNeat`).

With this, and with the bounded list that the cache shows, the main statement says all that the cache is
(`cache_refines_bounded_list`).
-/

namespace FlagKeeper.SeenCache

section Orders

variable {capacity : Nat} {slots : List (UInt64 × SeenSlot)} {order : List (UInt64 × Nat)}

/-- The slots that are left fit. -/
theorem Tidy.length_evict (h : Tidy slots order) : (SeenCache.evict capacity slots order).1.length ≤ capacity := by
  obtain ⟨kept, left⟩ := h.evict capacity
  rw [← kept.length_view, left, List.length_drop]
  omega

/-- Among the slots that fit there are no more than twice as many positions, once stale ones were cleared away where they may be too
many. -/
theorem Tidy.length_compact (h : Tidy slots order) (fits : slots.length ≤ capacity) :
    (SeenCache.compact capacity slots order).length ≤ 2 * capacity := by
  unfold SeenCache.compact
  split
  case isTrue =>
    have live := h.places.length_eq
    rw [List.length_map] at live
    omega
  case isFalse within => omega

/-- The hashes that have a slot. -/
theorem mem_hashes_iff {hash : UInt64} : hash ∈ slots.map Prod.fst ↔ (slots.lookup hash).isSome = true := by
  rw [List.lookup_isSome_iff, List.mem_map]
  constructor
  · rintro ⟨entry, inside, rfl⟩
    exact ⟨entry, inside, beq_self_eq_true _⟩
  · rintro ⟨entry, inside, same⟩
    exact ⟨entry, inside, (eq_of_beq same).symm⟩

/-- A hash that has a slot has one live position, and any other has none. -/
theorem Tidy.length_live (h : Tidy slots order) (hash : UInt64) :
    (order.filter fun position => position.1 = hash && isLive slots position).length =
      if (slots.lookup hash).isSome then 1 else 0 := by
  have keys : (slots.map place).map Prod.fst = slots.map Prod.fst := List.map_map ..
  have moved : ((order.filter (isLive slots)).map Prod.fst).count hash = (slots.map Prod.fst).count hash := by
    rw [← keys]
    exact (h.places.map Prod.fst).count_eq hash
  have counted : (order.filter (isLive slots)).countP (fun position => position.1 = hash) =
      ((order.filter (isLive slots)).map Prod.fst).count hash := by
    rw [List.count, List.countP_map]
    exact List.countP_congr fun position _ => by simp
  rw [← List.filter_filter, ← List.countP_eq_length_filter, counted, moved, h.keys.count]
  simp only [mem_hashes_iff]

end Orders

/-- A cache that fits, with no more than twice as many positions as it has room for hashes, whose numbers grow. -/
structure IsNeat (c : SeenCache) : Prop where
  fits : c.Fits
  length_order : c.order.length ≤ 2 * c.capacity
  ascending : c.order.Pairwise fun earlier later => earlier.2 < later.2

namespace IsNeat

variable {c : SeenCache}

/-- As many hashes are held as are shown. -/
theorem size_eq (h : c.IsNeat) : c.size = c.snapshot.length := h.fits.sound.tidy.length_view.symm

/-- Setting a hash leaves a cache neat. -/
theorem testAndSet (h : c.IsNeat) (x : SeenImpression) : (c.testAndSet x.hash x.time).2.IsNeat := by
  obtain ⟨tidy, -⟩ := h.fits.sound.tidy.set h.fits.sound.fresh x.hash x.time
  obtain ⟨kept, -⟩ := tidy.evict c.capacity
  refine ⟨h.fits.testAndSet x, kept.length_compact tidy.length_evict, ?_⟩
  have longer : (c.order ++ [(x.hash, c.nextSerial)]).Pairwise fun earlier later => earlier.2 < later.2 := by
    refine List.pairwise_append.2 ⟨h.ascending, List.pairwise_singleton _ _, ?_⟩
    intro position inside new last
    rw [List.mem_singleton.1 last]
    exact h.fits.sound.fresh position inside
  exact longer.sublist (compact_sublist.trans evict_suffix.sublist)

/-- However many hashes are set, the cache is neat. -/
theorem testAll (h : c.IsNeat) (sets : List SeenImpression) : (c.testAll sets).2.IsNeat := by
  induction sets generalizing c with
  | nil => exact h
  | cons x later ih => exact ih (h.testAndSet x)

end IsNeat

theorem isNeat_new (capacity : Nat) : (new capacity).IsNeat :=
  ⟨fits_ofList capacity [], Nat.zero_le _, List.Pairwise.nil⟩

theorem capacity_testAll (c : SeenCache) (sets : List SeenImpression) : (c.testAll sets).2.capacity = c.capacity := by
  induction sets generalizing c with
  | nil => rfl
  | cons x later ih => exact ih _

/-- **The cache is a bounded list.** Whatever is set in a new cache, in whichever order:

1. It gives the times that the list gives, and shows the list; it holds as many hashes as the list, which has none twice.
2. It holds no more hashes than there is room for.
3. It keeps no more than twice as many positions.
4. A hash that it holds has one live position, and a hash that it does not hold has none.
5. The numbers of the positions grow. -/
theorem cache_refines_bounded_list (capacity : Nat) (sets : List SeenImpression) :
    let cache := ((new capacity).testAll sets).2
    let list := (RecentList.mk (max capacity 1) []).testAll sets
    (((new capacity).testAll sets).1 = list.1 ∧ cache.snapshot = list.2.entries ∧ cache.size = list.2.entries.length ∧
      (list.2.entries.map (·.hash)).Nodup) ∧
    cache.size ≤ max capacity 1 ∧
    cache.order.length ≤ 2 * max capacity 1 ∧
    (∀ hash, (cache.order.filter fun position => position.1 = hash && isLive cache.slots position).length =
      if (cache.slot? hash).isSome then 1 else 0) ∧
    cache.order.Pairwise fun earlier later => earlier.2 < later.2 := by
  intro cache list
  have neat : cache.IsNeat := (isNeat_new capacity).testAll sets
  have room : cache.capacity = max capacity 1 := capacity_testAll (new capacity) sets
  obtain ⟨answers, shown⟩ := (isNeat_new capacity).fits.testAll sets
  have entries : cache.snapshot = list.2.entries := congrArg RecentList.entries shown
  refine ⟨⟨answers, entries, ?_, ?_⟩, ?_, ?_, neat.fits.sound.tidy.length_live, neat.ascending⟩
  · rw [neat.size_eq, entries]
  · rw [← entries]
    exact neat.fits.sound.hashes_nodup
  · rw [neat.size_eq, ← room]
    exact neat.fits.length
  · rw [← room]
    exact neat.length_order

end FlagKeeper.SeenCache
