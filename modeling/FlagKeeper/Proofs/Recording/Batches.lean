import Mathlib.Algebra.BigOperators.Group.List.Basic
import Mathlib.Algebra.GroupWithZero.Nat
import Mathlib.Algebra.Order.Floor.Div
import FlagKeeper.Proofs.Ensemble.Ground

/-!
# Queues that are sent in batches

Items go into a queue one by one, and the queue is sent as a whole. Both show in the calls: `Batching` says how, and with it what is
pending in the queue after some calls can be counted, and whether the last item filled it. A gauge of the queue that is reset when
the queue is sent, and to which each item that goes in is added, says the same (`gauge_cons_sends`, `gauge_cons_entered`).

Where all items have one size, a number of them fills the queue (`fillingCount`), and the queue is always short of that number
(`IsKept`).
-/

namespace FlagKeeper.Recording

open Ensemble (Call)

/-- How a queue shows in the calls, and what it is filled by. -/
structure Batching where
  /-- The size of the item that the latest of some calls put into the queue, if it put one. -/
  entered : List Call → Option Nat
  /-- Whether a call has the queue sent. -/
  sends : Call → Bool
  maxCount : Nat
  maxBytes : Nat

namespace Batching

variable (b : Batching)

/-- The sizes of the items that went into the queue since it was last sent, the latest first. -/
def pending : List Call → List Nat
  | [] => []
  | c :: past => if b.sends c then [] else (b.entered (c :: past)).toList ++ pending past

/-- The latest call put an item into the queue, and with it the items in the queue are as many, or have as many bytes, as fill it. -/
def Fills (calls : List Call) : Prop :=
  (b.entered calls).isSome ∧ (b.maxCount ≤ (b.pending calls).length ∨ b.maxBytes ≤ (b.pending calls).sum)

/-- The gauge of the queue after some calls. -/
def gauge (calls : List Call) : FlushGauge where
  maxCount := b.maxCount
  maxBytes := b.maxBytes
  count := (b.pending calls).length
  bytes := (b.pending calls).sum

section Calls

variable {b} {c : Call} {past : List Call} {size : Nat}

theorem gauge_cons_sends (sent : b.sends c = true) : b.gauge (c :: past) = (b.gauge past).reset := by
  simp [gauge, pending, sent, FlushGauge.reset, FlushGauge.update]

theorem gauge_cons_entered (goes_on : b.sends c = false) (entered : b.entered (c :: past) = some size) :
    b.gauge (c :: past) = (b.gauge past).add size := by
  simp [gauge, pending, goes_on, entered, FlushGauge.add, Nat.add_comm]

/-- Other calls are all the same to the gauge. -/
theorem gauge_cons_other (goes_on : b.sends c = false) (none : b.entered (c :: past) = none) :
    b.gauge (c :: past) = b.gauge past := by
  simp [gauge, pending, goes_on, none]

/-- The queue is full when the gauge says so. -/
theorem fills_iff_isDue {calls : List Call} (entered : b.entered calls = some size) :
    b.Fills calls ↔ (b.gauge calls).isDue = true := by
  unfold Fills FlushGauge.isDue
  rw [entered, Bool.or_eq_true, decide_eq_true_iff, decide_eq_true_iff]
  exact and_iff_right rfl

end Calls

/-! ## Items of one size -/

/-- How many items of one size fill the queue: as many as the settings say, or as have as many bytes, but at least one. -/
def fillingCount (size : Nat) : Nat := max 1 (min b.maxCount (b.maxBytes ⌈/⌉ size))

/-- A call that neither puts an item into the queue nor has it sent. -/
structure IsAside (c : Call) : Prop where
  goes_on : b.sends c = false
  none : ∀ past, b.entered (c :: past) = none

/-- A gauge is that of the queue, whose items have one size, and the queue is not full. -/
structure IsKept (size : Nat) (calls : List Call) (g : FlushGauge) : Prop where
  gauge : g = b.gauge calls
  even : g.bytes = g.count * size
  short : g.count < b.fillingCount size

section Even

variable {b} {c : Call} {calls more : List Call} {g : FlushGauge} {size : Nat}

theorem fillingCount_pos (b : Batching) (size : Nat) : 0 < b.fillingCount size := by
  unfold fillingCount
  omega

/-- One more item makes a gauge due exactly if it is the item that fills the queue. -/
theorem isDue_add_iff (pos : 0 < size) (counts : g.maxCount = b.maxCount) (bytes : g.maxBytes = b.maxBytes)
    (even : g.bytes = g.count * size) : (g.add size).isDue = true ↔ b.fillingCount size ≤ g.count + 1 := by
  have enough : b.maxBytes ⌈/⌉ size ≤ g.count + 1 ↔ b.maxBytes ≤ g.bytes + size := by
    rw [ceilDiv_le_iff_le_mul pos, even, Nat.mul_comm, Nat.succ_mul]
  unfold FlushGauge.isDue FlushGauge.add fillingCount
  rw [max_le_iff, min_le_iff, enough, counts, bytes]
  simp

namespace IsKept

/-- A queue that nothing went into yet. -/
theorem empty (aside : ∀ c ∈ calls, b.IsAside c) : b.IsKept size calls { maxCount := b.maxCount, maxBytes := b.maxBytes } := by
  have nothing : b.pending calls = [] := by
    induction calls with
    | nil => rfl
    | cons c past ih =>
      obtain ⟨⟨goes_on, none⟩, rest⟩ := List.forall_mem_cons.1 aside
      rw [pending, goes_on, none past, ih rest]
      rfl
  refine ⟨?_, (Nat.zero_mul size).symm, b.fillingCount_pos size⟩
  simp [Batching.gauge, nothing]

/-- A call that puts nothing into the queue, and does not have it sent, leaves it as it is. -/
theorem cons (h : b.IsKept size calls g) (goes_on : b.sends c = false) (none : b.entered (c :: calls) = none) :
    b.IsKept size (c :: calls) g := by
  obtain ⟨gauge, even, short⟩ := h
  exact ⟨gauge.trans (gauge_cons_other goes_on none).symm, even, short⟩

theorem append (h : b.IsKept size calls g) (aside : ∀ c ∈ more, b.IsAside c) : b.IsKept size (more ++ calls) g := by
  induction more with
  | nil => exact h
  | cons c more ih =>
    obtain ⟨⟨goes_on, none⟩, rest⟩ := List.forall_mem_cons.1 aside
    exact (ih rest).cons goes_on (none _)

/-- The queue is sent. -/
theorem sent (h : b.IsKept size calls g) (sends : b.sends c = true) : b.IsKept size (c :: calls) g.reset := by
  refine ⟨?_, (Nat.zero_mul size).symm, b.fillingCount_pos size⟩
  rw [gauge_cons_sends sends, h.gauge]

/-- An item goes into the queue: it fills the queue exactly if it makes the gauge due. -/
theorem isDue_iff (h : b.IsKept size calls g) (pos : 0 < size) :
    (g.add size).isDue = true ↔ (b.pending calls).length + 1 = b.fillingCount size := by
  have counted : g.count = (b.pending calls).length := by rw [h.gauge]; rfl
  have short := h.short
  rw [isDue_add_iff pos (by rw [h.gauge]; rfl) (by rw [h.gauge]; rfl) h.even]
  omega

/-- An item goes into the queue and does not fill it. -/
theorem entered (h : b.IsKept size calls g) (pos : 0 < size) (goes_on : b.sends c = false)
    (entered : b.entered (c :: calls) = some size) (room : (g.add size).isDue = false) :
    b.IsKept size (c :: calls) (g.add size) := by
  have counts : g.maxCount = b.maxCount := by rw [h.gauge]; rfl
  have bytes : g.maxBytes = b.maxBytes := by rw [h.gauge]; rfl
  refine ⟨?_, ?_, ?_⟩
  · rw [gauge_cons_entered goes_on entered, ← h.gauge]
  · show g.bytes + size = (g.count + 1) * size
    rw [h.even, Nat.succ_mul]
  · have unfilled := mt (isDue_add_iff pos counts bytes h.even).2 (by simp [room])
    show g.count + 1 < _
    omega

/-- An item goes into the queue, and the queue is sent, other calls between the two. -/
theorem filled (h : b.IsKept size calls g) {sender : Call} (sends : b.sends sender = true) (aside : ∀ c ∈ more, b.IsAside c)
    (goes_on : b.sends c = false) (entered : b.entered (c :: calls) = some size) :
    b.IsKept size (sender :: (more ++ c :: calls)) (g.add size).reset := by
  have gauge : b.gauge (more ++ c :: calls) = g.add size := by
    induction more with
    | nil => rw [List.nil_append, gauge_cons_entered goes_on entered, ← h.gauge]
    | cons c' more ih =>
      obtain ⟨⟨goes_on, none⟩, rest⟩ := List.forall_mem_cons.1 aside
      rw [List.cons_append, gauge_cons_other goes_on (none _), ih rest]
  refine ⟨?_, (Nat.zero_mul size).symm, b.fillingCount_pos size⟩
  rw [gauge_cons_sends sends, gauge]

end IsKept

end Even

end Batching

end FlagKeeper.Recording
