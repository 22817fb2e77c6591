import FlagKeeper.Impressions.SeenCache
import Mathlib.Data.List.Dedup
import Mathlib.Data.Finset.Card

/-!
# What the cache of seen impressions remembers

Behind its slots, its order with stale positions in it, and the serial numbers that tell these apart, the cache is a plain list of
hashes with their times: its snapshot. Setting a hash takes it out of the list, puts it at the end, and drops the first if there are
more than the capacity (`IsSound.snapshot_testAndSet`). So what a cache remembers of a hash can be read off the history of what was
set: it remembers the last setting of the hash as long as fewer other hashes were set since than it has room for
(`testAndSet_ofList`).

`Tidy` is what carries this: each slot has one live position in the order.
-/

namespace FlagKeeper.SeenCache

/-! ## Slots -/

section Slots

variable {slots : List (UInt64 × SeenSlot)} {hash : UInt64}

theorem lookup_without_self (hash : UInt64) (slots : List (UInt64 × SeenSlot)) : (without hash slots).lookup hash = none := by
  rw [List.lookup_eq_none_iff]
  intro entry inside
  have other := (List.mem_filter.1 inside).2
  rw [bne_comm]
  exact other

theorem lookup_without_of_ne {other : UInt64} (ne : other ≠ hash) :
    (without hash slots).lookup other = slots.lookup other := by
  induction slots with
  | nil => rfl
  | cons entry rest ih =>
    obtain ⟨key, slot⟩ := entry
    unfold without at ih ⊢
    by_cases same : key = hash
    · have passed : (other == key) = false := beq_eq_false_iff_ne.2 (same ▸ ne)
      rw [List.filter_cons_of_neg (by simpa using same), ih, List.lookup_cons, passed]
    · rw [List.filter_cons_of_pos (by simpa using same), List.lookup_cons, List.lookup_cons, ih]

end Slots

/-! ## Positions and what they show -/

section Positions

variable {slots slots' : List (UInt64 × SeenSlot)} {order : List (UInt64 × Nat)} {position : UInt64 × Nat}

/-- The position that a slot has in the order. -/
def place (entry : UInt64 × SeenSlot) : UInt64 × Nat := (entry.1, entry.2.serial)

/-- What a position shows: its hash and the time, if it is live. -/
def seen? (slots : List (UInt64 × SeenSlot)) (position : UInt64 × Nat) : Option SeenImpression :=
  if isLive slots position then (slots.lookup position.1).map fun slot => ⟨position.1, slot.time⟩ else none

/-- What an order shows, position by position: of a cache, this is the snapshot. -/
def view (slots : List (UInt64 × SeenSlot)) (order : List (UInt64 × Nat)) : List SeenImpression := order.filterMap (seen? slots)

theorem isLive_iff : isLive slots position = true ↔ ∃ slot, slots.lookup position.1 = some slot ∧ slot.serial = position.2 := by
  unfold isLive
  rw [beq_iff_eq, Option.map_eq_some_iff]

theorem isLive_of_lookup (same : slots'.lookup position.1 = slots.lookup position.1) :
    isLive slots' position = isLive slots position := by
  unfold isLive
  rw [same]

theorem seen?_of_lookup (same : slots'.lookup position.1 = slots.lookup position.1) :
    seen? slots' position = seen? slots position := by
  unfold seen?
  rw [isLive_of_lookup same, same]

theorem seen?_eq_none_iff : seen? slots position = none ↔ isLive slots position = false := by
  unfold seen?
  cases live : isLive slots position with
  | false => simp
  | true =>
    obtain ⟨slot, found, -⟩ := isLive_iff.1 live
    simp [found]

theorem seen?_eq_some_iff {x : SeenImpression} :
    seen? slots position = some x ↔ position.1 = x.hash ∧ slots.lookup x.hash = some ⟨x.time, position.2⟩ := by
  obtain ⟨hash, serial⟩ := position
  obtain ⟨xhash, time⟩ := x
  unfold seen? isLive
  cases found : slots.lookup hash with
  | none =>
    constructor
    · intro impossible
      simp at impossible
    · rintro ⟨rfl, other⟩
      rw [found] at other
      cases other
  | some slot =>
    obtain ⟨t, n⟩ := slot
    constructor
    · intro shown
      obtain ⟨rfl, rfl, rfl⟩ : n = serial ∧ hash = xhash ∧ t = time := by simpa using shown
      exact ⟨rfl, found⟩
    · rintro ⟨rfl, other⟩
      rw [found] at other
      cases other
      simp

/-- The view shows the hashes of the live positions. -/
theorem map_hash_view (slots : List (UInt64 × SeenSlot)) (order : List (UInt64 × Nat)) :
    (view slots order).map (·.hash) = (order.filter (isLive slots)).map Prod.fst := by
  unfold view
  induction order with
  | nil => rfl
  | cons position rest ih =>
    cases shown : seen? slots position with
    | none =>
      have stale : isLive slots position = false := seen?_eq_none_iff.1 shown
      rw [List.filterMap_cons_none shown, List.filter_cons_of_neg (by simp [stale]), ih]
    | some x =>
      have live : isLive slots position = true := by
        by_contra stale
        rw [seen?_eq_none_iff.2 (Bool.eq_false_iff.2 stale)] at shown
        cases shown
      rw [List.filterMap_cons_some shown, List.filter_cons_of_pos live, List.map_cons, List.map_cons, ih,
        (seen?_eq_some_iff.1 shown).1]

/-- Stale positions show nothing. -/
theorem view_filter_isLive (slots : List (UInt64 × SeenSlot)) (order : List (UInt64 × Nat)) :
    view slots (order.filter (isLive slots)) = view slots order := by
  unfold view
  rw [List.filterMap_filter]
  refine List.filterMap_congr fun position _ => ?_
  cases live : isLive slots position with
  | false => exact (seen?_eq_none_iff.2 live).symm
  | true => rfl

/-! A hash that no longer has a live position is gone from the view, and all else is as it was. -/

variable {hash : UInt64}

theorem filter_isLive_of_gone (apart : ∀ other, other ≠ hash → slots'.lookup other = slots.lookup other)
    (gone : ∀ p ∈ order, p.1 = hash → isLive slots' p = false) :
    order.filter (isLive slots') = (order.filter (isLive slots)).filter (·.1 ≠ hash) := by
  rw [List.filter_filter]
  refine List.filter_congr fun p inside => ?_
  by_cases same : p.1 = hash
  · simp [gone p inside same, same]
  · simp [isLive_of_lookup (apart p.1 same), same]

theorem view_of_gone (apart : ∀ other, other ≠ hash → slots'.lookup other = slots.lookup other)
    (gone : ∀ p ∈ order, p.1 = hash → isLive slots' p = false) :
    view slots' order = (view slots order).filter (·.hash ≠ hash) := by
  unfold view
  rw [List.filter_filterMap]
  refine List.filterMap_congr fun p inside => ?_
  by_cases same : p.1 = hash
  · rw [seen?_eq_none_iff.2 (gone p inside same)]
    cases shown : seen? slots p with
    | none => rfl
    | some x => rw [Option.filter_some, if_neg (by simp [← (seen?_eq_some_iff.1 shown).1, same])]
  · rw [seen?_of_lookup (apart p.1 same)]
    cases shown : seen? slots p with
    | none => rfl
    | some x => rw [Option.filter_some, if_pos (by simp [← (seen?_eq_some_iff.1 shown).1, same])]

end Positions

/-! ## Slots and positions that fit each other -/

/-- No hash has two slots, and each slot has exactly one live position in the order. -/
structure Tidy (slots : List (UInt64 × SeenSlot)) (order : List (UInt64 × Nat)) : Prop where
  keys : (slots.map Prod.fst).Nodup
  places : (order.filter (isLive slots)).Perm (slots.map place)

namespace Tidy

variable {slots : List (UInt64 × SeenSlot)} {order : List (UInt64 × Nat)}

theorem hashes_perm (h : Tidy slots order) : ((view slots order).map (·.hash)).Perm (slots.map Prod.fst) := by
  have hashes := h.places.map Prod.fst
  rw [List.map_map] at hashes
  rw [map_hash_view]
  exact hashes

/-- No hash is shown twice. -/
theorem hashes_nodup (h : Tidy slots order) : ((view slots order).map (·.hash)).Nodup := h.hashes_perm.nodup_iff.2 h.keys

theorem length_view (h : Tidy slots order) : (view slots order).length = slots.length := by
  simpa using h.hashes_perm.length_eq

/-- What the cache holds for a hash is what the view shows of it. -/
theorem lookup_eq_find? (h : Tidy slots order) (hash : UInt64) :
    (slots.lookup hash).map (·.time) = ((view slots order).find? (·.hash = hash)).map (·.time) := by
  cases shown : (view slots order).find? (·.hash = hash) with
  | none =>
    rw [List.find?_eq_none] at shown
    rw [Option.map_none, Option.map_eq_none_iff, List.lookup_eq_none_iff]
    intro entry inside
    have placed : entry.1 ∈ (view slots order).map (·.hash) := h.hashes_perm.mem_iff.2 (List.mem_map_of_mem inside)
    obtain ⟨x, among, same⟩ := List.mem_map.1 placed
    rw [bne_iff_ne, ← same]
    simpa [eq_comm] using shown x among
  | some x =>
    have same : x.hash = hash := by simpa using List.find?_some shown
    obtain ⟨p, -, live⟩ := List.mem_filterMap.1 (List.mem_of_find?_eq_some shown)
    rw [← same, (seen?_eq_some_iff.1 live).2]
    rfl

/-- The slots of the other hashes have the other live positions. -/
theorem places_without (h : Tidy slots order) (hash : UInt64) :
    ((order.filter (isLive slots)).filter (·.1 ≠ hash)).Perm ((without hash slots).map place) := by
  have filtered := h.places.filter (·.1 ≠ hash)
  rw [List.filter_map] at filtered
  have same : without hash slots = slots.filter ((fun p : UInt64 × Nat => decide (p.1 ≠ hash)) ∘ place) :=
    List.filter_congr fun entry _ => by by_cases other : entry.1 = hash <;> simp [place, other]
  rw [same]
  exact filtered

theorem compact (h : Tidy slots order) (capacity : Nat) : Tidy slots (compact capacity slots order) := by
  unfold SeenCache.compact
  split
  · refine ⟨h.keys, ?_⟩
    rw [List.filter_filter]
    simpa using h.places
  · exact h

/-- A hash is set under a number that is new to the order. -/
theorem set (h : Tidy slots order) {serial : Nat} (fresh : ∀ p ∈ order, p.2 < serial) (hash : UInt64) (time : Int) :
    Tidy ((hash, ⟨time, serial⟩) :: without hash slots) (order ++ [(hash, serial)]) ∧
    view ((hash, ⟨time, serial⟩) :: without hash slots) (order ++ [(hash, serial)]) =
      (view slots order).filter (·.hash ≠ hash) ++ [⟨hash, time⟩] := by
  let slots' := (hash, (⟨time, serial⟩ : SeenSlot)) :: without hash slots
  have found : slots'.lookup hash = some ⟨time, serial⟩ := List.lookup_cons_self
  have apart : ∀ other, other ≠ hash → slots'.lookup other = slots.lookup other := by
    intro other ne
    rw [List.lookup_cons, beq_eq_false_iff_ne.2 ne]
    exact lookup_without_of_ne ne
  have gone : ∀ p ∈ order, p.1 = hash → isLive slots' p = false := by
    intro p inside same
    rw [Bool.eq_false_iff, Ne, isLive_iff, same, found]
    rintro ⟨slot, given, stale⟩
    cases given
    exact absurd stale.symm (Nat.ne_of_lt (fresh p inside))
  have live : isLive slots' (hash, serial) = true := isLive_iff.2 ⟨_, found, rfl⟩
  have shown : seen? slots' (hash, serial) = some ⟨hash, time⟩ := seen?_eq_some_iff.2 ⟨rfl, found⟩
  refine ⟨⟨?_, ?_⟩, ?_⟩
  · rw [List.map_cons, List.nodup_cons]
    refine ⟨?_, h.keys.sublist (List.filter_sublist.map _)⟩
    simp [without]
  · rw [List.filter_append, filter_isLive_of_gone apart gone, List.filter_cons_of_pos live]
    exact (List.perm_append_singleton _ _).trans ((h.places_without hash).cons _)
  · show view slots' (order ++ [(hash, serial)]) = _
    unfold view
    rw [List.filterMap_append, List.filterMap_cons_some shown]
    exact congrArg (· ++ [_]) (view_of_gone apart gone)

/-- Positions are taken off the front until the slots fit: the first entries leave the view. -/
theorem evict {slots : List (UInt64 × SeenSlot)} {order : List (UInt64 × Nat)} (h : Tidy slots order) (capacity : Nat) :
    Tidy (evict capacity slots order).1 (evict capacity slots order).2 ∧
    view (SeenCache.evict capacity slots order).1 (SeenCache.evict capacity slots order).2 =
      (view slots order).drop ((view slots order).length - capacity) := by
  induction order generalizing slots with
  | nil => exact ⟨h, by simp [SeenCache.evict, view]⟩
  | cons position rest ih =>
    unfold SeenCache.evict
    rw [h.length_view]
    by_cases fits : slots.length ≤ capacity
    · rw [if_pos fits, Nat.sub_eq_zero_of_le fits]
      exact ⟨h, rfl⟩
    rw [if_neg fits]
    cases live : isLive slots position with
    | false =>
      have tidy : Tidy slots rest := ⟨h.keys, by simpa [live] using h.places⟩
      have same : view slots (position :: rest) = view slots rest := List.filterMap_cons_none (seen?_eq_none_iff.2 live)
      obtain ⟨kept, shown⟩ := ih tidy
      rw [tidy.length_view] at shown
      exact ⟨kept, same ▸ shown⟩
    | true =>
      have apart : ∀ other, other ≠ position.1 → (without position.1 slots).lookup other = slots.lookup other :=
        fun _ ne => lookup_without_of_ne ne
      have gone : ∀ p ∈ rest, p.1 = position.1 → isLive (without position.1 slots) p = false := by
        intro p _ same
        rw [Bool.eq_false_iff, Ne, isLive_iff, same, lookup_without_self]
        simp
      obtain ⟨x, shown⟩ : ∃ x, seen? slots position = some x := by
        rw [← Option.ne_none_iff_exists', Ne, seen?_eq_none_iff, live]
        simp
      -- The view begins with the hash that goes, and does not show it again.
      have first : view slots (position :: rest) = x :: view slots rest := List.filterMap_cons_some shown
      have once := h.hashes_nodup
      rw [first, List.map_cons, List.nodup_cons, ← (seen?_eq_some_iff.1 shown).1] at once
      have tail : view (without position.1 slots) rest = view slots rest := by
        rw [view_of_gone apart gone, List.filter_eq_self]
        intro y inside
        have other : y.hash ≠ position.1 := fun same => once.1 (same ▸ List.mem_map_of_mem inside)
        simpa using other
      have tidy : Tidy (without position.1 slots) rest := by
        refine ⟨h.keys.sublist (List.filter_sublist.map _), ?_⟩
        have others := h.places_without position.1
        rw [List.filter_cons_of_pos live, List.filter_cons_of_neg (by simp)] at others
        rw [filter_isLive_of_gone apart gone]
        exact others
      obtain ⟨kept, left⟩ := ih tidy
      have length : (view slots rest).length + 1 = slots.length := by
        rw [← h.length_view, first, List.length_cons]
      refine ⟨kept, ?_⟩
      show view (SeenCache.evict capacity (without position.1 slots) rest).1 _ = _
      rw [if_pos rfl, left, tail, first, ← length, Nat.sub_add_comm (by omega), List.drop_succ_cons]

end Tidy

/-! ## The cache as a list -/

/-- A cache that is tidy, and whose next serial number is above all in its order. -/
structure IsSound (c : SeenCache) : Prop where
  tidy : Tidy c.slots c.order
  fresh : ∀ position ∈ c.order, position.2 < c.nextSerial

theorem isSound_new (capacity : Nat) : IsSound (new capacity) :=
  ⟨⟨List.nodup_nil, List.Perm.nil⟩, List.forall_mem_nil _⟩

/-- Positions are taken off at the front. -/
theorem evict_suffix {capacity : Nat} {slots : List (UInt64 × SeenSlot)} {order : List (UInt64 × Nat)} :
    (evict capacity slots order).2 <:+ order := by
  induction order generalizing slots with
  | nil => exact List.suffix_refl _
  | cons position rest ih =>
    unfold evict
    split
    · exact List.suffix_refl _
    · exact ih.trans (List.suffix_cons position rest)

theorem compact_sublist {capacity : Nat} {slots : List (UInt64 × SeenSlot)} {order : List (UInt64 × Nat)} :
    (compact capacity slots order).Sublist order := by
  unfold compact
  split
  · exact List.filter_sublist
  · exact List.Sublist.refl _

theorem view_compact (capacity : Nat) (slots : List (UInt64 × SeenSlot)) (order : List (UInt64 × Nat)) :
    view slots (compact capacity slots order) = view slots order := by
  unfold compact
  split
  · exact view_filter_isLive slots order
  · rfl

namespace IsSound

variable {c : SeenCache}

theorem testAndSet (h : c.IsSound) (hash : UInt64) (time : Int) : (c.testAndSet hash time).2.IsSound := by
  obtain ⟨set, -⟩ := h.tidy.set h.fresh hash time
  constructor
  · exact (set.evict c.capacity).1.compact c.capacity
  · intro position inside
    rcases List.mem_append.1 (evict_suffix.subset (compact_sublist.subset inside)) with earlier | new
    · exact Nat.lt_succ_of_lt (h.fresh position earlier)
    · rw [List.mem_singleton.1 new]
      exact Nat.lt_succ_self _

/-- The hash that is set moves to the end of the snapshot, the first of which goes if there are too many. -/
theorem snapshot_testAndSet (h : c.IsSound) (hash : UInt64) (time : Int) :
    let next := c.snapshot.filter (·.hash ≠ hash) ++ [⟨hash, time⟩]
    (c.testAndSet hash time).2.snapshot = next.drop (next.length - c.capacity) := by
  obtain ⟨tidy, set⟩ := h.tidy.set h.fresh hash time
  obtain ⟨-, left⟩ := tidy.evict c.capacity
  rw [set] at left
  exact (view_compact _ _ _).trans left

/-- The time that is given for a hash is that of the snapshot. -/
theorem testAndSet_fst (h : c.IsSound) (hash : UInt64) (time : Int) :
    (c.testAndSet hash time).1 = (c.snapshot.find? (·.hash = hash)).map (·.time) := h.tidy.lookup_eq_find? hash

end IsSound

/-! ## What was set, and how long ago -/

section History

variable {capacity : Nat} {hash : UInt64}

/-- Of what was set, the latest first, the last setting of each hash. -/
def latest : List SeenImpression → List SeenImpression
  | [] => []
  | x :: earlier => x :: (latest earlier).filter (·.hash ≠ x.hash)

/-- The other hashes that were set since a hash was. -/
def since (hash : UInt64) (history : List SeenImpression) : Finset UInt64 :=
  ((history.takeWhile (·.hash ≠ hash)).map (·.hash)).toFinset

/-- When a hash was set last, if that is among what a cache of some capacity has room for. -/
def remembered (capacity : Nat) (history : List SeenImpression) (hash : UInt64) : Option Int :=
  if (since hash history).card < capacity then (history.find? (·.hash = hash)).map (·.time) else none

theorem hashes_latest_nodup (history : List SeenImpression) : ((latest history).map (·.hash)).Nodup := by
  induction history with
  | nil => exact List.nodup_nil
  | cons x earlier ih =>
    unfold latest
    rw [List.map_cons, List.nodup_cons]
    refine ⟨?_, ih.sublist (List.filter_sublist.map _)⟩
    simp

theorem hash_mem_latest (history : List SeenImpression) :
    hash ∈ (latest history).map (·.hash) ↔ hash ∈ history.map (·.hash) := by
  induction history with
  | nil => exact Iff.rfl
  | cons x earlier ih =>
    unfold latest
    rw [List.map_cons, List.map_cons, List.mem_cons, List.mem_cons]
    by_cases same : hash = x.hash
    · simp [same]
    · have apart : hash ∈ ((latest earlier).filter (·.hash ≠ x.hash)).map (·.hash) ↔
          hash ∈ (latest earlier).map (·.hash) := by
        simp only [List.mem_map, List.mem_filter, decide_eq_true_eq]
        constructor
        · rintro ⟨y, ⟨inside, -⟩, rfl⟩
          exact ⟨y, inside, rfl⟩
        · rintro ⟨y, inside, rfl⟩
          exact ⟨y, ⟨inside, same⟩, rfl⟩
      rw [apart, ih]

/-- There is one last setting for each hash. -/
theorem length_latest (history : List SeenImpression) : (latest history).length = (history.map (·.hash)).toFinset.card := by
  rw [← List.length_map (·.hash), ← List.toFinset_card_of_nodup (hashes_latest_nodup history)]
  congr 1
  ext hash
  rw [List.mem_toFinset, List.mem_toFinset, hash_mem_latest]

theorem find?_latest (hash : UInt64) (history : List SeenImpression) :
    (latest history).find? (·.hash = hash) = history.find? (·.hash = hash) := by
  induction history with
  | nil => rfl
  | cons x earlier ih =>
    unfold latest
    by_cases same : x.hash = hash
    · rw [List.find?_cons_of_pos (by simpa using same), List.find?_cons_of_pos (by simpa using same)]
    · rw [List.find?_cons_of_neg (by simpa using same), List.find?_cons_of_neg (by simpa using same), ← ih, List.find?_filter]
      congr 1
      funext y
      by_cases found : y.hash = hash
      · simp [found, Ne.symm same]
      · simp [found]

theorem takeWhile_latest (hash : UInt64) (history : List SeenImpression) :
    (latest history).takeWhile (·.hash ≠ hash) = latest (history.takeWhile (·.hash ≠ hash)) := by
  induction history with
  | nil => rfl
  | cons x earlier ih =>
    by_cases same : x.hash = hash
    · rw [List.takeWhile_cons_of_neg (by simpa using same)]
      unfold latest
      rw [List.takeWhile_cons_of_neg (by simpa using same)]
    · rw [List.takeWhile_cons_of_pos (by simpa using same)]
      unfold latest
      rw [List.takeWhile_cons_of_pos (by simpa using same), List.takeWhile_filter, ← ih]
      congr 3
      funext y
      by_cases found : y.hash = hash
      · simp [found, Ne.symm same]
      · simp [found]

/-- A hash is found among the first entries if fewer entries come before it. -/
theorem find?_take {α : Type} (p : α → Bool) (n : Nat) (l : List α) :
    (l.take n).find? p = if (l.takeWhile (!p ·)).length < n then l.find? p else none := by
  induction l generalizing n with
  | nil => rw [List.take_nil, List.find?_nil, ite_self]
  | cons x rest ih =>
    cases n with
    | zero => simp
    | succ n =>
      rw [List.take_succ_cons]
      cases found : p x with
      | true =>
        rw [List.find?_cons_of_pos found, List.find?_cons_of_pos found, List.takeWhile_cons_of_neg (by simp [found]),
          List.length_nil, if_pos n.succ_pos]
      | false =>
        rw [List.find?_cons_of_neg (by simp [found]), List.find?_cons_of_neg (by simp [found]),
          List.takeWhile_cons_of_pos (by simp [found]), List.length_cons, ih]
        simp only [Nat.add_lt_add_iff_right]

/-- Where no hash occurs twice, it is found from either end. -/
theorem find?_reverse {l : List SeenImpression} (once : (l.map (·.hash)).Nodup) :
    l.reverse.find? (·.hash = hash) = l.find? (·.hash = hash) := by
  cases found : l.reverse.find? (·.hash = hash) with
  | none =>
    rw [List.find?_eq_none] at found
    exact (List.find?_eq_none.2 fun y inside => found y (List.mem_reverse.2 inside)).symm
  | some x =>
    have inside : x ∈ l := List.mem_reverse.1 (List.mem_of_find?_eq_some found)
    have same : x.hash = hash := by simpa using List.find?_some found
    cases first : l.find? (·.hash = hash) with
    | none => exact absurd (decide_eq_true same) (List.find?_eq_none.1 first x inside)
    | some y =>
      have same' : y.hash = hash := by simpa using List.find?_some first
      rw [List.inj_on_of_nodup_map once inside (List.mem_of_find?_eq_some first) (same.trans same'.symm)]

/-- When one entry at most is left out, it is all the same whether the last is dropped before or after. -/
theorem take_filter_take {n : Nat} {l : List SeenImpression} (once : (l.map (·.hash)).Nodup) :
    ((l.take (n + 1)).filter (·.hash ≠ hash)).take n = (l.filter (·.hash ≠ hash)).take n := by
  induction l generalizing n with
  | nil => rfl
  | cons x rest ih =>
    rw [List.map_cons, List.nodup_cons] at once
    rw [List.take_succ_cons]
    by_cases same : x.hash = hash
    · have others : ∀ y ∈ rest, y.hash ≠ hash := fun y inside found => once.1 (same ▸ found ▸ List.mem_map_of_mem inside)
      have kept : rest.filter (·.hash ≠ hash) = rest := List.filter_eq_self.2 fun y inside => by simpa using others y inside
      have taken : (rest.take n).filter (·.hash ≠ hash) = rest.take n :=
        List.filter_eq_self.2 fun y inside => by simpa using others y (List.mem_of_mem_take inside)
      rw [List.filter_cons_of_neg (by simpa using same), List.filter_cons_of_neg (by simpa using same), kept, taken,
        List.take_take, Nat.min_self]
    · rw [List.filter_cons_of_pos (by simpa using same), List.filter_cons_of_pos (by simpa using same)]
      cases n with
      | zero => rfl
      | succ n => rw [List.take_succ_cons, List.take_succ_cons, ih once.2]

end History

/-! ## A cache that was filled from a list -/

section OfList

variable (capacity : Nat)

theorem ofList_append_singleton (hashes : List SeenImpression) (x : SeenImpression) :
    ofList capacity (hashes ++ [x]) = ((ofList capacity hashes).testAndSet x.hash x.time).2 := List.foldl_concat ..

theorem isSound_ofList (hashes : List SeenImpression) : (ofList capacity hashes).IsSound := by
  induction hashes using List.reverseRecOn with
  | nil => exact isSound_new capacity
  | append_singleton earlier x ih =>
    rw [ofList_append_singleton]
    exact ih.testAndSet x.hash x.time

theorem capacity_ofList (hashes : List SeenImpression) : (ofList capacity hashes).capacity = max capacity 1 := by
  induction hashes using List.reverseRecOn with
  | nil => rfl
  | append_singleton earlier x ih =>
    rw [ofList_append_singleton]
    exact ih

/-- The cache shows the last settings, as many as it has room for. -/
theorem snapshot_ofList (hashes : List SeenImpression) :
    (ofList capacity hashes).snapshot = ((latest hashes.reverse).take (max capacity 1)).reverse := by
  induction hashes using List.reverseRecOn with
  | nil => simp [ofList, new, snapshot, latest]
  | append_singleton earlier x ih =>
    obtain ⟨n, room⟩ : ∃ n, max capacity 1 = n + 1 := Nat.exists_eq_add_one.2 (by omega)
    rw [ofList_append_singleton, (isSound_ofList capacity earlier).snapshot_testAndSet, capacity_ofList, ← List.reverse_inj,
      ← List.take_reverse, List.reverse_reverse, List.reverse_append, List.reverse_append, ← List.filter_reverse, ih,
      List.reverse_reverse, room]
    show (x :: _).take (n + 1) = (x :: (latest earlier.reverse).filter (·.hash ≠ x.hash)).take (n + 1)
    rw [List.take_succ_cons, List.take_succ_cons]
    exact congrArg (x :: ·) (take_filter_take (hashes_latest_nodup earlier.reverse))

/-- **What a cache remembers.** It gives the time of the last setting of a hash, as long as fewer other hashes were set since than it
has room for. -/
theorem testAndSet_ofList (hashes : List SeenImpression) (hash : UInt64) (time : Int) :
    ((ofList capacity hashes).testAndSet hash time).1 = remembered (max capacity 1) hashes.reverse hash := by
  have once : (((latest hashes.reverse).take (max capacity 1)).map (·.hash)).Nodup :=
    (hashes_latest_nodup hashes.reverse).sublist ((List.take_sublist ..).map _)
  have passed : ((latest hashes.reverse).takeWhile fun x => !decide (x.hash = hash)).length = (since hash hashes.reverse).card := by
    simpa [since, length_latest] using congrArg List.length (takeWhile_latest hash hashes.reverse)
  rw [(isSound_ofList capacity hashes).testAndSet_fst, snapshot_ofList, find?_reverse once, find?_take, passed, find?_latest]
  exact apply_ite ..

end OfList

end FlagKeeper.SeenCache
