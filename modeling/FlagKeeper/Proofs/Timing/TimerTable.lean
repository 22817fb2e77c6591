import FlagKeeper.Timing.TimerTable

/-!
# A timer table of one name

A part that sets timers of one name only has at most one that is pending, and it is filed under the name. `IsSlot` says so; setting
a timer and a timer that runs out keep it, and cancelling all timers leaves nothing that waits.
-/

namespace FlagKeeper.TimerTable

variable {τ : Type} {t : TimerTable τ} {name : TimerName}

/-- A table is a slot for one name: nothing waits, or one task that is filed under the name. -/
inductive IsSlot (name : TimerName) (t : TimerTable τ) : Prop where
  | free (slots : t.slots = []) (sleepers : t.sleepers = [])
  | taken (s : Sleeper τ) (slots : t.slots = [(name, s.id)]) (sleepers : t.sleepers = [s]) (named : s.name = name)

/-- A new table is a slot. -/
theorem isSlot_new : IsSlot name ({} : TimerTable τ) := .free rfl rfl

/-- Setting a timer of the name keeps a slot. -/
theorem IsSlot.add (h : t.IsSlot name) (now : Nat) (delay : Duration) (task : τ) :
    (t.add name now delay task).2.IsSlot name := by
  unfold TimerTable.add
  cases h with
  | free slots sleepers =>
    have unset : t.isScheduled name = false := by
      unfold isScheduled
      rw [slots]
      rfl
    rw [unset]
    refine .taken ⟨t.nextId, name, now, deadline now delay, task⟩ ?_ ?_ rfl
    · simp [slots]
    · simp [sleepers]
  | taken s slots sleepers named =>
    have set : t.isScheduled name = true := by
      unfold isScheduled
      rw [slots]
      simp
    rw [set]
    exact .taken s slots sleepers named

/-- Once a timer of the name was to be set, one is pending. -/
theorem IsSlot.isScheduled_add (h : t.IsSlot name) (now : Nat) (delay : Duration) (task : τ) :
    (t.add name now delay task).2.isScheduled name = true := by
  unfold TimerTable.add
  cases set : t.isScheduled name with
  | true => exact set
  | false =>
    cases h with
    | free slots sleepers => simp [isScheduled, slots]
    | taken s slots sleepers named => simp [isScheduled, slots] at set

/-- While a timer is pending, it is the one that runs out. -/
theorem IsSlot.wakes_one (h : t.IsSlot name) (pending : t.isScheduled name = true) :
    ∃ id, ∀ id', (t.wake id').1.isSome = true ↔ id' = id := by
  cases h with
  | free slots sleepers => simp [isScheduled, slots] at pending
  | taken s slots sleepers named =>
    refine ⟨s.id, fun id' => ?_⟩
    unfold TimerTable.wake
    rw [sleepers]
    by_cases own : s.id = id'
    · simp [own]
    · simp [own, Ne.symm own]

/-- A timer that is pending runs out. -/
theorem IsSlot.wakes (h : t.IsSlot name) (pending : t.isScheduled name = true) : ∃ id, (t.wake id).1.isSome = true := by
  obtain ⟨id, one⟩ := h.wakes_one pending
  exact ⟨id, (one id).2 rfl⟩

/-- A timer that runs out keeps a slot. -/
theorem IsSlot.wake (h : t.IsSlot name) (id : Nat) : (t.wake id).2.IsSlot name := by
  unfold TimerTable.wake
  cases h with
  | free slots sleepers =>
    rw [sleepers]
    exact .free slots sleepers
  | taken s slots sleepers named =>
    rw [sleepers]
    by_cases woken : s.id = id
    · simp only [List.find?_cons, woken, decide_true]
      refine .free ?_ ?_
      · simp [slots, named, woken]
      · simp [woken]
    · simp only [List.find?_cons, woken, decide_false, List.find?_nil]
      exact .taken s slots sleepers named

/-- Once all timers of a slot are cancelled, nothing waits. -/
theorem IsSlot.cancelAll (h : t.IsSlot name) : t.cancelAll.slots = [] ∧ t.cancelAll.sleepers = [] := by
  unfold TimerTable.cancelAll
  cases h with
  | free slots sleepers =>
    rw [slots]
    exact ⟨slots, sleepers⟩
  | taken s slots sleepers named =>
    simp [slots, TimerTable.cancel, sleepers]

/-- Where nothing waits, no timer that runs out was pending. -/
theorem wake_of_sleepers_nil (sleepers : t.sleepers = []) (id : Nat) : t.wake id = (none, t) := by
  unfold TimerTable.wake
  rw [sleepers]
  rfl

/-- Where nothing waits, cancelling changes nothing about that. -/
theorem sleepers_cancel (sleepers : t.sleepers = []) (name : TimerName) : (t.cancel name).2.sleepers = [] := by
  unfold TimerTable.cancel
  cases t.slots.lookup name with
  | none => exact sleepers
  | some id =>
    show t.sleepers.filter _ = []
    rw [sleepers]
    rfl

/-- Where nothing waits, cancelling everything changes nothing about that. -/
theorem sleepers_cancelAll (sleepers : t.sleepers = []) : t.cancelAll.sleepers = [] := by
  unfold TimerTable.cancelAll
  generalize t.slots = slots
  induction slots generalizing t with
  | nil => exact sleepers
  | cons slot rest ih => exact ih (sleepers_cancel sleepers slot.1)

end FlagKeeper.TimerTable
