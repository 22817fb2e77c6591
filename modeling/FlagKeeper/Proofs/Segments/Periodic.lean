import FlagKeeper.Proofs.Segments.SingleFlight

/-!
# What the periodic worker of an identity is told

A segment synchronizer passes four of the things it is told on to its periodic worker, one order for each. Nothing else that
happens reaches that worker, until the synchronizer is destroyed: so the orders that the journal shows are those that the
synchronizer was told, one for one.

`Scene.Beside` is what all other turns keep.
-/

namespace FlagKeeper

/-- The order that a worker got, if there is such a worker and it got one. -/
def Workshop.Happening.orderTo (there : Option Worker) : Workshop.Happening → Option WorkerOrder
  | .told w order => if some w = there then some order else none
  | _ => none

namespace SegmentSync

/-- The order that a command gives the periodic worker. -/
def Command.order? : Command → Option WorkerOrder
  | .startPeriodic => some .start
  | .stopPeriodic => some .stop
  | .pause => some .pause
  | .resume => some .resume
  | _ => none

namespace Scene

/-- The orders that the periodic worker got, the latest first. -/
def orders (s : Scene) : List WorkerOrder := s.shop.journal.filterMap fun line => line.what.orderTo s.state.periodicWorker

/-- Of two scenes the periodic worker cannot tell which it is in. -/
structure Beside (s s' : Scene) : Prop where
  periodicWorker : s'.state.periodicWorker = s.state.periodicWorker
  destroyed : s'.state.destroyed = s.state.destroyed
  orders : s'.orders = s.orders

variable {s s' s'' : Scene}

theorem Beside.refl (s : Scene) : s.Beside s := ⟨rfl, rfl, rfl⟩

theorem Beside.trans (a : s.Beside s') (b : s'.Beside s'') : s.Beside s'' :=
  ⟨b.periodicWorker.trans a.periodicWorker, b.destroyed.trans a.destroyed, b.orders.trans a.orders⟩

/-- Neither what the synchronizer keeps nor the journal has changed. -/
theorem beside_of_same (state : s'.state = s.state) (shop : s'.shop = s.shop) : s.Beside s' := by
  refine ⟨by rw [state], by rw [state], ?_⟩
  unfold orders
  rw [state, shop]

/-- The synchronizer keeps other things, but the same worker. -/
theorem beside_state {st : State} (same : st.periodicWorker = s.state.periodicWorker) (alike : st.destroyed = s.state.destroyed) :
    s.Beside { s with state := st } := by
  refine ⟨same, alike, ?_⟩
  unfold orders
  rw [same]

/-- A line is written that is no order to the periodic worker. -/
theorem beside_wrote {what : Workshop.Happening} (other : what.orderTo s.state.periodicWorker = none) :
    s.Beside (s.wrote what) := by
  refine ⟨rfl, rfl, ?_⟩
  show List.filterMap _ (⟨what, s.state.target⟩ :: s.shop.journal) = _
  rw [List.filterMap_cons_none]
  · rfl
  · exact other

theorem beside_finished (w : Worker) (result : Outcome) : s.Beside (s.finished w result) := by
  have settled : (s.settled w.kind).periodicWorker = s.state.periodicWorker ∧
      (s.settled w.kind).destroyed = s.state.destroyed := by
    unfold Scene.settled
    cases w.kind <;> exact ⟨rfl, rfl⟩
  rw [finished_eq]
  exact (beside_wrote rfl).trans (beside_state settled.1 settled.2)

/-- Another worker is started. -/
theorem beside_started {w : Worker} (other : some w ≠ s.state.periodicWorker) : s.Beside (s.started w) := by
  have told : s.Beside (s.wrote (.told w .start)) := beside_wrote (if_neg other)
  rcases s.started_cases w with same | ⟨result, -, same⟩
  · rw [same]
    exact told
  · rw [same]
    exact told.trans (beside_finished w result)

namespace Sound

variable (h : s.Sound)
include h

/-- A worker that reports to be done is not the periodic worker. -/
theorem ne_periodic {w : Worker} (reports : w.kind.reports = true) : some w ≠ s.state.periodicWorker := by
  intro same
  rw [h.periodic w same.symm] at reports
  cases reports

theorem main_reports : s.state.mainWorker.kind.reports = true := by
  have full := h.main.1
  cases kind : s.state.mainWorker.kind <;> rw [kind] at full <;> first | rfl | cases full

theorem beside_refreshed : s.Beside s.refreshed := by
  have marked : s.Beside s.marked := beside_state rfl rfl
  exact marked.trans (beside_started (h.ne_periodic h.main_reports))

theorem beside_reached (target : ChangeNumbers) : s.Beside (s.reached target) := by
  unfold Scene.reached
  split
  · exact .refl s
  · have entered : s.Beside (s.entered target) := by
      have made : s.Beside (s.wrote (.made (s.nextWorker target))) := beside_wrote rfl
      exact ⟨made.periodicWorker, made.destroyed, made.orders⟩
    have other : some (s.nextWorker target) ≠ (s.entered target).state.periodicWorker := h.ne_periodic rfl
    exact entered.trans (beside_started other)

/-- What the periodic worker is told is written down, and that is all. -/
theorem periodicTold_eq (order : WorkerOrder) :
    s.periodicTold order = s.state.periodicWorker.elim s fun w => s.wrote (.told w order) := by
  unfold Scene.periodicTold
  cases there : s.state.periodicWorker with
  | none => rfl
  | some w =>
    by_cases start : order = .start
    · subst start
      show bench.started _ s w = _
      unfold Workshop.Place.started
      rw [h.periodic w there]
      rfl
    · exact if_neg start

theorem state_periodicTold (order : WorkerOrder) : (s.periodicTold order).state = s.state := by
  rw [h.periodicTold_eq]
  cases s.state.periodicWorker <;> rfl

/-- What the periodic worker is told, it is told once. -/
theorem orders_periodicTold (order : WorkerOrder) :
    (s.periodicTold order).orders = (if s.state.periodicWorker.isSome then [order] else []) ++ s.orders := by
  rw [h.periodicTold_eq]
  cases there : s.state.periodicWorker with
  | none => rfl
  | some w =>
    show List.filterMap _ (⟨.told w order, s.state.target⟩ :: s.shop.journal) = _
    rw [List.filterMap_cons_some]
    · rfl
    · exact if_pos there.symm

end Sound

/-- An order for the periodic worker is passed on. -/
theorem take_order {command : Command} {order : WorkerOrder} (passes : command.order? = some order)
    (alive : s.state.destroyed = false) : s.take (.tell command) = s.periodicTold order := by
  cases command <;> cases passes
  · rw [take_startPeriodic, alive]
    rfl
  · exact take_stopPeriodic
  · exact take_pause
  · rw [take_resume, alive]
    rfl

/-- What gives no order to the periodic worker, and is not the end, leaves it alone. -/
theorem Sound.beside_tell (h : s.Sound) {command : Command} (silent : command.order? = none) (goes : command ≠ .destroy) :
    s.Beside (s.take (.tell command)) := by
  cases command with
  | loadFromCache =>
    rw [take_loadFromCache]
    exact .refl s
  | synchronize =>
    rw [take_synchronize]
    split
    · exact .refl s
    · exact h.beside_refreshed
  | force target delay =>
    by_cases taken : s.state.destroyed = false ∧ s.syncEnabled = true ∧ target.isNewerThan s.stored = true
    · obtain ⟨alive, enabled, newer⟩ := taken
      have raised : s.Beside (s.raised target) := beside_state rfl rfl
      rw [take_force alive enabled newer]
      split
      · exact raised
      · split
        · exact raised.trans ((h.raised target).beside_reached _)
        · exact raised.trans (beside_state rfl rfl)
    · have ignored : s.state.destroyed = true ∨ s.syncEnabled = false ∨ target.isNewerThan s.stored = false := by
        simpa only [not_and_or, Bool.not_eq_false, Bool.not_eq_true] using taken
      rw [take_force_ignored ignored]
      exact .refl s
  | notifyUpdated =>
    rw [take_notifyUpdated]
    exact .refl s
  | notifyLargeUpdated =>
    rw [take_notifyLargeUpdated]
    exact .refl s
  | destroy => exact absurd rfl goes
  | _ => cases silent

/-- What happens to a synchronizer but for what it is told leaves the periodic worker alone. -/
theorem Sound.beside_take (h : s.Sound) {i : Input} (untold : ∀ command, i ≠ .tell command) : s.Beside (s.take i) := by
  cases i with
  | tell command => exact absurd rfl (untold command)
  | timer id =>
    rw [take_timer]
    have rung : s.Beside (s.rung id) := beside_state rfl rfl
    split
    · exact rung.trans ((h.rung id).beside_reached _)
    · exact rung
  | finish w result =>
    rw [take_finish]
    split
    · exact beside_finished w result
    · exact .refl s
  | store numbers =>
    rw [take_store]
    exact beside_of_same rfl rfl
  | load =>
    rw [take_load]
    exact .refl s
  | advance d =>
    rw [take_advance]
    exact beside_of_same rfl rfl

end Scene

/-- A new synchronizer has a periodic worker if it is to keep up with changes, and that worker got no orders yet. -/
theorem Setup.orders_scene (u : Setup) : u.scene.state.periodicWorker.isSome = u.syncEnabled ∧ u.scene.orders = [] := by
  obtain ⟨key, enabled, stored, loading, steady, prompt⟩ := u
  cases enabled <;> exact ⟨rfl, rfl⟩

end SegmentSync

end FlagKeeper
