import FlagKeeper.Timing.TimerTable
import Mathlib.Data.List.Nodup
import Mathlib.Order.MinMax

/-!
# The slots of a timer table and the tasks that wait

A tidy table (`IsTidy`) files each task that waits under its name and its number, and no two of them under one name or one number. Such
a table can be read off its tasks alone. Setting a timer puts a task behind the others, cancelling takes out the one of a name, and a
timer that runs out takes out the one of its number; each of the three leaves a tidy table.
-/

namespace FlagKeeper.TimerTable

variable {τ : Type} {t : TimerTable τ} {name : TimerName} {x y : Sleeper τ}

/-- The slot that a task is filed under. -/
def slotOf (x : Sleeper τ) : TimerName × Nat := (x.name, x.id)

/-- The task that would wait if a timer were set now. -/
def candidate (t : TimerTable τ) (name : TimerName) (now : Nat) (delay : Duration) (task : τ) : Sleeper τ :=
  ⟨t.nextId, name, now, deadline now delay, task⟩

/-- The slots are those of the tasks that wait, and all these have names and numbers of their own. -/
structure IsTidy (t : TimerTable τ) : Prop where
  slots : t.slots = t.sleepers.map slotOf
  names : (t.sleepers.map (·.name)).Nodup
  ids : (t.sleepers.map (·.id)).Nodup
  old : ∀ x ∈ t.sleepers, x.id < t.nextId

theorem isTidy_new : IsTidy ({} : TimerTable τ) := ⟨rfl, List.nodup_nil, List.nodup_nil, List.forall_mem_nil _⟩

/-- A task is found by its number if no other one has that. -/
theorem find?_id {sleepers : List (Sleeper τ)} (inside : x ∈ sleepers) (alone : ∀ y ∈ sleepers, y.id = x.id → y = x) :
    sleepers.find? (·.id = x.id) = some x := by
  cases first : sleepers.find? (·.id = x.id) with
  | none => simpa using List.find?_eq_none.1 first x inside
  | some y =>
    have same : y.id = x.id := by simpa using List.find?_some first
    rw [alone y (List.mem_of_find?_eq_some first) same]

theorem lookup_slots (sleepers : List (Sleeper τ)) (name : TimerName) :
    (sleepers.map slotOf).lookup name = (sleepers.find? (·.name = name)).map (·.id) := by
  induction sleepers with
  | nil => rfl
  | cons x rest ih =>
    rw [List.map_cons]
    by_cases own : x.name = name
    · rw [List.find?_cons_of_pos (by simpa using own), ← own]
      exact List.lookup_cons_self
    · have other : (name == x.name) = false := beq_eq_false_iff_ne.2 (Ne.symm own)
      rw [List.find?_cons_of_neg (by simpa using own), ← ih]
      show ((x.name, x.id) :: _).lookup name = _
      rw [List.lookup_cons, other]

namespace IsTidy

/-- A name is scheduled just if a task of the name waits. -/
theorem isScheduled_iff (h : t.IsTidy) : t.isScheduled name = true ↔ ∃ x ∈ t.sleepers, x.name = name := by
  unfold isScheduled
  rw [h.slots, lookup_slots, Option.isSome_map, List.find?_isSome]
  simp

theorem eq_of_name (h : t.IsTidy) (here : x ∈ t.sleepers) (there : y ∈ t.sleepers) (same : x.name = y.name) : x = y :=
  List.inj_on_of_nodup_map h.names here there same

theorem eq_of_id (h : t.IsTidy) (here : x ∈ t.sleepers) (there : y ∈ t.sleepers) (same : x.id = y.id) : x = y :=
  List.inj_on_of_nodup_map h.ids here there same

/-- A table of which some tasks were taken out with their slots. -/
theorem filter (h : t.IsTidy) (keep : Sleeper τ → Bool) {slots : List (TimerName × Nat)}
    (filed : slots = (t.sleepers.filter keep).map slotOf) : IsTidy { t with slots, sleepers := t.sleepers.filter keep } where
  slots := filed
  names := h.names.sublist (List.filter_sublist.map _)
  ids := h.ids.sublist (List.filter_sublist.map _)
  old x inside := h.old x (List.mem_of_mem_filter inside)

/-! ## Setting -/

theorem add_of_free (free : t.isScheduled name = false) (now : Nat) (delay : Duration) (task : τ) :
    t.add name now delay task = (true,
      { slots := t.slots ++ [(name, t.nextId)]
        sleepers := t.sleepers ++ [t.candidate name now delay task]
        nextId := t.nextId + 1 }) := by
  unfold TimerTable.add
  rw [free]
  rfl

theorem add_of_taken (taken : t.isScheduled name = true) (now : Nat) (delay : Duration) (task : τ) :
    t.add name now delay task = (false, t) := by
  unfold TimerTable.add
  rw [taken]
  rfl

/-- A timer is set just if its name is free. -/
theorem add_fst (now : Nat) (delay : Duration) (task : τ) : (t.add name now delay task).1 = !t.isScheduled name := by
  cases scheduled : t.isScheduled name with
  | true => rw [add_of_taken scheduled]; rfl
  | false => rw [add_of_free scheduled]; rfl

theorem add (h : t.IsTidy) (name : TimerName) (now : Nat) (delay : Duration) (task : τ) : (t.add name now delay task).2.IsTidy := by
  cases scheduled : t.isScheduled name with
  | true => rwa [add_of_taken scheduled]
  | false =>
    rw [add_of_free scheduled]
    have free : ∀ x ∈ t.sleepers, x.name ≠ name := fun x inside own => by
      rw [h.isScheduled_iff.2 ⟨x, inside, own⟩] at scheduled
      cases scheduled
    constructor
    · show t.slots ++ [_] = (t.sleepers ++ [_]).map slotOf
      rw [List.map_append, h.slots]
      rfl
    · show ((t.sleepers ++ [_]).map _).Nodup
      rw [List.map_append, List.map_singleton, List.nodup_append_comm, List.singleton_append, List.nodup_cons]
      refine ⟨fun inside => ?_, h.names⟩
      obtain ⟨x, there, own⟩ := List.mem_map.1 inside
      exact free x there own
    · show ((t.sleepers ++ [_]).map _).Nodup
      rw [List.map_append, List.map_singleton, List.nodup_append_comm, List.singleton_append, List.nodup_cons]
      refine ⟨fun inside => ?_, h.ids⟩
      obtain ⟨x, there, own⟩ := List.mem_map.1 inside
      exact absurd own (Nat.ne_of_lt (h.old x there))
    · intro x inside
      rcases List.mem_append.1 inside with earlier | new
      · exact Nat.lt_succ_of_lt (h.old x earlier)
      · rw [List.mem_singleton.1 new]
        exact Nat.lt_succ_self _

/-! ## Cancelling -/

/-- Cancelling a name takes out its task and its slot. -/
theorem cancel_snd (h : t.IsTidy) (name : TimerName) : (t.cancel name).2 =
    { t with slots := t.slots.filter (·.1 ≠ name), sleepers := t.sleepers.filter (·.name ≠ name) } := by
  unfold TimerTable.cancel
  rw [h.slots, lookup_slots]
  cases found : t.sleepers.find? (·.name = name) with
  | none =>
    have others : ∀ x ∈ t.sleepers, x.name ≠ name := by simpa using List.find?_eq_none.1 found
    have kept : t.sleepers.filter (·.name ≠ name) = t.sleepers := List.filter_eq_self.2 fun x inside => by simpa using others x inside
    have filed : (t.sleepers.map slotOf).filter (·.1 ≠ name) = t.sleepers.map slotOf := by
      rw [List.filter_map]
      exact congrArg (List.map slotOf) kept
    rw [kept, filed, ← h.slots]
    rfl
  | some x =>
    have inside := List.mem_of_find?_eq_some found
    have own : x.name = name := by simpa using List.find?_some found
    have same : t.sleepers.filter (·.id ≠ x.id) = t.sleepers.filter (·.name ≠ name) := by
      refine List.filter_congr fun y there => ?_
      have alike : y.id = x.id ↔ y.name = name := by
        constructor
        · exact fun number => h.eq_of_id there inside number ▸ own
        · exact fun named => congrArg (·.id) (h.eq_of_name there inside (named.trans own.symm))
      simp [alike]
    show ({ t with slots := _, sleepers := t.sleepers.filter (·.id ≠ x.id) } : TimerTable τ) = _
    rw [same]

theorem cancel (h : t.IsTidy) (name : TimerName) : (t.cancel name).2.IsTidy := by
  rw [h.cancel_snd]
  refine h.filter _ ?_
  rw [h.slots, List.filter_map]
  rfl

theorem sleepers_cancel (h : t.IsTidy) (name : TimerName) : (t.cancel name).2.sleepers = t.sleepers.filter (·.name ≠ name) := by
  rw [h.cancel_snd]

theorem nextId_cancel (h : t.IsTidy) (name : TimerName) : (t.cancel name).2.nextId = t.nextId := by
  rw [h.cancel_snd]

/-- Cancelling the names of some slots one after the other. -/
theorem cancel_foldl (h : t.IsTidy) (slots : List (TimerName × Nat)) :
    let t' := slots.foldl (fun t slot => (t.cancel slot.1).2) t
    t'.IsTidy ∧ t'.nextId = t.nextId ∧ t'.sleepers = t.sleepers.filter fun x => !(slots.map Prod.fst).contains x.name := by
  induction slots generalizing t with
  | nil => exact ⟨h, rfl, by simp⟩
  | cons slot rest ih =>
    obtain ⟨tidy, next, left⟩ := ih (h.cancel slot.1)
    refine ⟨tidy, next.trans (h.nextId_cancel slot.1), left.trans ?_⟩
    rw [h.sleepers_cancel, List.filter_filter]
    refine List.filter_congr fun x _ => ?_
    by_cases own : x.name = slot.1 <;> simp [own]

/-- Once all timers are cancelled, nothing waits. -/
theorem sleepers_cancelAll (h : t.IsTidy) : t.cancelAll.sleepers = [] := by
  unfold TimerTable.cancelAll
  rw [(h.cancel_foldl t.slots).2.2, List.filter_eq_nil_iff]
  intro x inside
  have filed : x.name ∈ t.slots.map Prod.fst := by
    rw [h.slots, List.map_map]
    exact List.mem_map_of_mem inside
  simpa using filed

theorem cancelAll (h : t.IsTidy) : t.cancelAll.IsTidy := (h.cancel_foldl t.slots).1

theorem nextId_cancelAll (h : t.IsTidy) : t.cancelAll.nextId = t.nextId := (h.cancel_foldl t.slots).2.1

/-! ## Running out -/

/-- A timer that runs out takes out the task of its number and its slot, whatever else waits. -/
theorem wake_snd (h : t.IsTidy) (id : Nat) : (t.wake id).2 =
    { t with slots := (t.sleepers.filter (·.id ≠ id)).map slotOf, sleepers := t.sleepers.filter (·.id ≠ id) } := by
  unfold TimerTable.wake
  cases found : t.sleepers.find? (·.id = id) with
  | none =>
    have others : ∀ x ∈ t.sleepers, x.id ≠ id := by simpa using List.find?_eq_none.1 found
    have kept : t.sleepers.filter (·.id ≠ id) = t.sleepers := List.filter_eq_self.2 fun x inside => by simpa using others x inside
    rw [kept, ← h.slots]
  | some x =>
    have inside := List.mem_of_find?_eq_some found
    have own : x.id = id := by simpa using List.find?_some found
    have filed : t.slots.filter (· ≠ (x.name, id)) = (t.sleepers.filter (·.id ≠ id)).map slotOf := by
      rw [h.slots, List.filter_map]
      refine congrArg (List.map slotOf) (List.filter_congr fun y there => ?_)
      have alike : slotOf y = (x.name, id) ↔ y.id = id := by
        constructor
        · exact congrArg Prod.snd
        · rintro number
          rw [h.eq_of_id there inside (number.trans own.symm), ← own]
          rfl
      simp [alike]
    show ({ t with slots := t.slots.filter (· ≠ (x.name, id)), sleepers := _ } : TimerTable τ) = _
    rw [filed]

theorem wake (h : t.IsTidy) (id : Nat) : (t.wake id).2.IsTidy := by
  rw [h.wake_snd]
  exact h.filter _ rfl

theorem sleepers_wake (h : t.IsTidy) (id : Nat) : (t.wake id).2.sleepers = t.sleepers.filter (·.id ≠ id) := by
  rw [h.wake_snd]

theorem nextId_wake (h : t.IsTidy) (id : Nat) : (t.wake id).2.nextId = t.nextId := by
  rw [h.wake_snd]

/-- A task that waits is the one that its number wakes. -/
theorem wake_fst (h : t.IsTidy) (inside : x ∈ t.sleepers) : (t.wake x.id).1 = some x.task := by
  unfold TimerTable.wake
  rw [find?_id inside fun y there => h.eq_of_id there inside]

end IsTidy

/-! ## Deadlines -/

/-- The clock, which tells whole milliseconds, has come to the end of a delay that began at some time. If the end is past what seconds of
64 bits with a sign can tell, it is thirty years of 365 days away. Where there is a longest sleep, its end will do as well. -/
def Reached (longest : Option Nat) (armed : Nat) (delay : Duration) (clock : Nat) : Prop :=
  let delayed := armed + (delay.secs * 1000000000 + delay.nanos)
  let expiry := if delayed < 9223372036854775807 * 1000000000 then delayed else armed + 30 * 365 * 86400 * 1000000000
  expiry ≤ clock / 1000000 * 1000000 ∨ ∃ nanos ∈ longest, armed + nanos ≤ clock / 1000000 * 1000000

instance (longest : Option Nat) (armed : Nat) (delay : Duration) (clock : Nat) : Decidable (Reached longest armed delay clock) :=
  inferInstanceAs (Decidable (_ ∨ _))

theorem ceilMillis_le_iff {nanos clock : Nat} :
    ceilMillis nanos ≤ clock / nanosPerMilli ↔ nanos ≤ clock / 1000000 * 1000000 := by
  unfold ceilMillis nanosPerMilli
  omega

theorem deadline_eq_ceilMillis (armed : Nat) (delay : Duration) : deadline armed delay = ceilMillis
    (if armed + (delay.secs * 1000000000 + delay.nanos) < 9223372036854775807 * 1000000000
      then armed + (delay.secs * 1000000000 + delay.nanos) else armed + 30 * 365 * 86400 * 1000000000) := rfl

/-- A task goes on once its delay is over, or its sleep has been as long as can be. -/
theorem wakeTime_le_iff {longest : Option Nat} {clock : Nat} {delay : Duration} (timed : x.deadline = deadline x.armed delay) :
    wakeTime longest x ≤ clock / nanosPerMilli ↔ Reached longest x.armed delay clock := by
  cases longest with
  | none => simp [wakeTime, timed, deadline_eq_ceilMillis, ceilMillis_le_iff, Reached]
  | some nanos => simp [wakeTime, timed, deadline_eq_ceilMillis, ceilMillis_le_iff, Reached]

end FlagKeeper.TimerTable
