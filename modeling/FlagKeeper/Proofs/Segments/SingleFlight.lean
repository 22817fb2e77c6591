import FlagKeeper.Proofs.Segments.Scene

/-!
# No segments are fetched twice at a time

A segment synchronizer starts the full refresh only when none is under way, and a worker for a target only when none is under way
for that target. The invariant `Scene.Sound` says that what the synchronizer keeps (whether a refresh is under way, and for which
targets) is what the journal says. Each of the things that a turn is made of keeps it, whether a started worker is done at once,
later, or after the synchronizer was destroyed.
-/

namespace FlagKeeper.SegmentSync

open Workshop (Tracks)

namespace Scene

/-- What a synchronizer keeps agrees with the journal. -/
structure Sound (s : Scene) : Prop where
  main : s.state.mainWorker.kind.fullRefresh? = some () ∧ s.state.mainWorker.kind.segmentTarget? = none
  /-- The worker that fetches again and again neither has a target nor is it ever done. -/
  periodic : ∀ w, s.state.periodicWorker = some w → w.kind.reports = false
  slot : s.state.timers.IsSlot .syncSegments
  refresh : Tracks WorkerKind.fullRefresh? (if s.state.refreshing then [()] else []) s.shop.journal
  /-- After the end of the synchronizer, targets may be under way that it does not keep any more. -/
  reach : ∃ held, Tracks WorkerKind.segmentTarget? held s.shop.journal ∧ s.state.catalog.targets ⊆ held ∧
    (s.state.destroyed = false → s.state.catalog.targets = held)

namespace Sound

variable {s : Scene}

/-- A worker that never reports to be done has no part in the refreshes and targets under way. -/
theorem aimless {kind : WorkerKind} (silent : kind.reports = false) : kind.fullRefresh? = none ∧ kind.segmentTarget? = none := by
  cases kind <;> first | exact ⟨rfl, rfl⟩ | cases silent

/-- A worker is told something that changes nothing about what is under way. -/
theorem told (h : s.Sound) {w : Worker} {order : WorkerOrder}
    (aside : order = .start → w.kind.fullRefresh? = none ∧ w.kind.segmentTarget? = none) : (s.wrote (.told w order)).Sound := by
  obtain ⟨held, tracked, within, listed⟩ := h.reach
  have refresh := h.refresh.told (v := s.state.target) fun start => (aside start).1
  have reach := tracked.told (v := s.state.target) fun start => (aside start).2
  exact { h with refresh, reach := ⟨held, reach, within, listed⟩ }

/-- A worker that was under way is done. -/
theorem finished (h : s.Sound) {w : Worker} (inside : w ∈ Workshop.running s.shop.journal) (result : Outcome) :
    (s.finished w result).Sound := by
  obtain ⟨held, tracked, within, listed⟩ := h.reach
  cases kind : w.kind with
  | segmentsSync key =>
    have shape : s.finished w result = { s.wrote (.done w result) with state := { s.state with refreshing := false } } := by
      rw [finished_eq, kind]
      rfl
    have ended := h.refresh.done (v := s.state.target) result (by rw [kind]; rfl) inside
    have none_left : (if s.state.refreshing then [()] else []).filter (· ≠ ()) = [] := by cases s.state.refreshing <;> rfl
    rw [none_left] at ended
    have others := tracked.doneAside (v := s.state.target) (w := w) result (by rw [kind]; rfl)
    rw [shape]
    exact { h with refresh := ended, reach := ⟨held, others, within, listed⟩ }
  | segmentsUpdate key target =>
    have shape : s.finished w result =
        { s.wrote (.done w result) with state := { s.state with catalog := (s.state.catalog.remove target).2 } } := by
      rw [finished_eq, kind]
      rfl
    have others := h.refresh.doneAside (v := s.state.target) (w := w) result (by rw [kind]; rfl)
    have ended := tracked.done (v := s.state.target) result (by rw [kind]; rfl) inside
    have within' : (s.state.catalog.remove target).2.targets ⊆ held.filter (· ≠ target) := by
      rw [Catalog.targets_remove]
      exact List.filter_subset _ within
    have listed' : s.state.destroyed = false → (s.state.catalog.remove target).2.targets = held.filter (· ≠ target) := by
      intro alive
      rw [Catalog.targets_remove, listed alive]
    rw [shape]
    exact { h with refresh := others, reach := ⟨_, ended, within', listed'⟩ }
  | _ =>
    have shape : s.finished w result = s.wrote (.done w result) := by
      rw [finished_eq, kind]
      rfl
    have refreshes := h.refresh.doneAside (v := s.state.target) (w := w) result (by rw [kind]; rfl)
    have targets := tracked.doneAside (v := s.state.target) (w := w) result (by rw [kind]; rfl)
    rw [shape]
    exact { h with refresh := refreshes, reach := ⟨held, targets, within, listed⟩ }

/-- A worker that was told to start may be done at once. -/
theorem started {w : Worker} (h : (s.wrote (.told w .start)).Sound) : (s.started w).Sound := by
  rcases started_cases s w with same | ⟨result, -, same⟩
  · rw [same]
    exact h
  · rw [same]
    exact h.finished List.mem_cons_self result

/-- The worker that fetches again and again is told something. -/
theorem periodicTold (h : s.Sound) (order : WorkerOrder) : (s.periodicTold order).Sound := by
  rcases s.periodicTold_cases order with same | ⟨w, there, same | ⟨other, same⟩⟩ <;> rw [same]
  · exact h
  · exact (h.told fun _ => aimless (h.periodic w there)).started
  · exact h.told fun start => (other start).elim

/-- The full refresh is started when none is under way. -/
theorem refreshed (h : s.Sound) (free : s.state.refreshing = false) : s.refreshed.Sound := by
  obtain ⟨held, tracked, within, listed⟩ := h.reach
  have idle : Tracks WorkerKind.fullRefresh? [] s.shop.journal := by simpa [free] using h.refresh
  have begun : (s.marked.wrote (.told s.state.mainWorker .start)).Sound :=
    { main := h.main
      periodic := h.periodic
      slot := h.slot
      refresh := idle.start h.main.1 List.not_mem_nil
      reach := ⟨held, tracked.told fun _ => h.main.2, within, listed⟩ }
  exact begun.started

/-- A worker is launched for a target that none is under way for. -/
theorem launched (h : s.Sound) (alive : s.state.destroyed = false) {target : ChangeNumbers}
    (fresh : s.state.catalog.contains target = false) : (s.launched target).Sound := by
  obtain ⟨held, tracked, within, listed⟩ := h.reach
  have new : target ∉ held := by
    rw [← listed alive, ← Catalog.contains_iff, fresh]
    exact Bool.false_ne_true
  have appended : (s.entered target).state.catalog.targets = held ++ [target] := by
    rw [← listed alive]
    exact List.map_append
  have begun : ((s.entered target).wrote (.told (s.nextWorker target) .start)).Sound :=
    { main := h.main
      periodic := h.periodic
      slot := h.slot
      refresh := h.refresh.made.told fun _ => rfl
      reach := by
        have made : Tracks WorkerKind.segmentTarget? held (s.entered target).shop.journal := tracked.made
        have begun := made.start (w := s.nextWorker target) (v := s.state.target) rfl new
        have same := List.perm_append_singleton target held
        exact ⟨held ++ [target], begun.of_perm same, appended ▸ List.Subset.refl _, fun _ => appended⟩ }
  exact begun.started

/-- A target is reached. -/
theorem reached (h : s.Sound) (target : ChangeNumbers) : (s.reached target).Sound := by
  unfold Scene.reached
  by_cases stays : (s.state.destroyed || s.state.catalog.contains target) = true
  · rw [if_pos stays]
    exact h
  · rw [if_neg stays]
    obtain ⟨alive, fresh⟩ : s.state.destroyed = false ∧ s.state.catalog.contains target = false := by simpa using stays
    exact h.launched alive fresh

theorem raised (h : s.Sound) (target : ChangeNumbers) : (s.raised target).Sound := { h with }

theorem armed (h : s.Sound) (delay : Duration) : (s.armed delay).Sound := { h with slot := h.slot.add _ _ _ }

theorem rung (h : s.Sound) (id : Nat) : (s.rung id).Sound := { h with slot := h.slot.wake id }

/-- Some workers are told to stop. -/
theorem stopped (h : s.Sound) (workers : List Worker) : (s.stopped workers).Sound := by
  unfold Scene.stopped
  induction workers generalizing s with
  | nil => exact h
  | cons w rest ih => exact ih (h.told fun start => by cases start)

/-- Once the synchronizer is destroyed, it need not keep what is under way. -/
theorem doomed (h : s.Sound) : s.doomed.Sound := by
  obtain ⟨held, tracked, within, -⟩ := h.reach
  exact { h with reach := ⟨held, tracked, within, fun alive => by cases alive⟩ }

theorem emptied (h : s.Sound) (dead : s.state.destroyed = true) : s.emptied.Sound := by
  obtain ⟨held, tracked, -, -⟩ := h.reach
  obtain ⟨slots, sleepers⟩ := h.slot.cancelAll
  have never {p : Prop} (alive : s.emptied.state.destroyed = false) : p := (Bool.false_ne_true (alive.symm.trans dead)).elim
  exact { h with slot := .free slots sleepers, reach := ⟨held, tracked, List.nil_subset _, never⟩ }

/-- Everything is ended. What is under way goes on until it is done, but nothing is kept of it any more. -/
theorem closed (h : s.Sound) : s.closed.Sound := by
  have told : (s.doomed.wrote (.told s.state.mainWorker .stop)).Sound := h.doomed.told fun start => by cases start
  exact ((told.periodicTold .destroy).emptied destroyed_periodicTold).stopped _

/-- Every turn keeps it. -/
theorem turn (h : s.Sound) {i : Input} {s' : Scene} (turn : s.Turn i s') : s'.Sound := by
  cases turn with
  | aside state shop =>
    obtain ⟨main, periodic, slot, refresh, reach⟩ := h
    rw [← state] at main periodic slot refresh reach
    rw [← shop] at refresh reach
    exact ⟨main, periodic, slot, refresh, reach⟩
  | periodic order => exact h.periodicTold order
  | refresh _ free => exact h.refreshed free
  | merge => exact h.raised _
  | now => exact (h.raised _).reached _
  | later => exact (h.raised _).armed _
  | ring => exact (h.rung _).reached _
  | finish inside => exact h.finished inside _
  | close => exact h.closed

end Sound

end Scene

section Runs

variable (u : Setup)

/-- A new synchronizer is sound. -/
theorem Setup.sound_scene : u.scene.Sound := by
  obtain ⟨key, enabled, stored, loading, steady, prompt⟩ := u
  cases enabled with
  | false =>
    exact
      { main := ⟨rfl, rfl⟩
        periodic := fun w there => by cases there
        slot := TimerTable.isSlot_new
        refresh := Tracks.nil.made
        reach := ⟨[], Tracks.nil.made, List.Subset.refl _, fun _ => rfl⟩ }
  | true =>
    exact
      { main := ⟨rfl, rfl⟩
        periodic := fun w there => by cases there; rfl
        slot := TimerTable.isSlot_new
        refresh := Tracks.nil.made.made
        reach := ⟨[], Tracks.nil.made.made, List.Subset.refl _, fun _ => rfl⟩ }

/-- Whatever happens to a synchronizer, it is sound. -/
theorem Setup.sound (inputs : List Input) : (u.after inputs).Sound := by
  induction inputs with
  | nil => exact u.sound_scene
  | cons i past ih => exact ih.turn ((u.after past).turn i)

/-- A synchronizer that was not told to destroy is not destroyed. -/
theorem Setup.alive {inputs : List Input} (spared : .tell .destroy ∉ inputs) : (u.after inputs).state.destroyed = false := by
  induction inputs with
  | nil => exact u.alive_scene
  | cons i past ih =>
    rw [List.mem_cons, not_or] at spared
    exact ((u.after past).turn i).alive (Ne.symm spared.1) (ih spared.2)

/-- A synchronizer that is not destroyed was not told to. -/
theorem Setup.spared {inputs : List Input} (alive : (u.after inputs).state.destroyed = false) : .tell .destroy ∉ inputs := by
  induction inputs with
  | nil => exact List.not_mem_nil
  | cons i past ih =>
    have before : (u.after past).state.destroyed = false := by
      rw [← Bool.not_eq_true]
      intro gone
      have still : (u.after (i :: past)).state.destroyed = true := ((u.after past).turn i).gone gone
      exact Bool.false_ne_true (alive.symm.trans still)
    rintro (_ | ⟨_, inside⟩)
    · have closed : u.after (.tell .destroy :: past) = (u.after past).closed := by
        show (u.after past).take (.tell .destroy) = _
        rw [Scene.take_destroy, before, if_neg Bool.false_ne_true]
      rw [closed, Scene.destroyed_closed] at alive
      cases alive
    · exact ih before inside

/-- As long as nobody asks for a refresh, none is under way if none was. -/
theorem Scene.free_after {s : Scene} (free : s.state.refreshing = false) {later : List Input}
    (unasked : .tell .synchronize ∉ later) : (s.after later).state.refreshing = false := by
  induction later with
  | nil => exact free
  | cons i past ih =>
    rw [List.mem_cons, not_or] at unasked
    exact ((s.after past).turn i).free (Ne.symm unasked.1) (ih unasked.2)

theorem Scene.after_append {s : Scene} (later past : List Input) : s.after (later ++ past) = (s.after past).after later := by
  induction later with
  | nil => rfl
  | cons i later ih => exact congrArg (Scene.take · i) ih

/-- When a refresh is done, none is under way. -/
theorem Scene.Sound.free {s : Scene} (h : s.Sound) {w : Worker} {result : Outcome} {v : ChangeNumbers}
    {past : List (Workshop.Line ChangeNumbers)} (last : s.shop.journal = ⟨.done w result, v⟩ :: past)
    (full : w.kind.fullRefresh? = some ()) : s.state.refreshing = false := by
  have ended := h.refresh.ended last full
  cases refreshing : s.state.refreshing with
  | false => rfl
  | true =>
    rw [← h.refresh.mem_iff, refreshing] at ended
    exact (ended List.mem_cons_self).elim

/-- The journal goes on from the order to start a worker. -/
theorem Scene.journal_started (s : Scene) (w : Worker) :
    ⟨.told w .start, s.state.target⟩ :: s.shop.journal <:+ (s.started w).shop.journal := by
  rcases s.started_cases w with same | ⟨result, -, same⟩
  · rw [same]
    exact List.suffix_refl _
  · rw [same]
    exact List.suffix_cons _ _

/-- **Single flight.** Whatever happens to a segment synchronizer, in whichever order, and whenever its workers are done:

1. When the full refresh is started, none is under way.
2. At no moment are two workers under way for one target.
3. Until the synchronizer is destroyed, the number of targets that it counts as under way is the number of workers under way.
4. When the worker of a target is done, well or not, the synchronizer does not keep the target any more.
5. After a full refresh is done, well or not, the next call to refresh starts it again, unless the synchronizer is destroyed. -/
theorem segment_sync_single_flight (inputs : List Input) :
    (∀ w v past, ⟨.told w .start, v⟩ :: past <:+ (u.after inputs).shop.journal → w.kind.fullRefresh? = some () →
      Workshop.targets WorkerKind.fullRefresh? past = []) ∧
    (∀ moment, moment <:+ (u.after inputs).shop.journal → (Workshop.targets WorkerKind.segmentTarget? moment).Nodup) ∧
    (.tell .destroy ∉ inputs →
      ((plain u.key u.syncEnabled).inFlight.run (u.after inputs)).1 =
        (Workshop.targets WorkerKind.segmentTarget? (u.after inputs).shop.journal).length) ∧
    (∀ w result v past target, (u.after inputs).shop.journal = ⟨.done w result, v⟩ :: past → w.kind.segmentTarget? = some target →
      (u.after inputs).state.catalog.contains target = false) ∧
    (∀ later past w result v before, inputs = .tell .synchronize :: (later ++ past) →
      (u.after past).shop.journal = ⟨.done w result, v⟩ :: before → w.kind.fullRefresh? = some () →
      .tell .synchronize ∉ later → .tell .destroy ∉ inputs →
      ∃ w' v', w'.kind.fullRefresh? = some () ∧
        ⟨.told w' .start, v'⟩ :: (u.after (later ++ past)).shop.journal <:+ (u.after inputs).shop.journal) := by
  have sound := u.sound inputs
  refine ⟨?_, ?_, ?_, ?_, ?_⟩
  · intro w v past before full
    have fresh := sound.refresh.fresh before full
    exact List.eq_nil_iff_forall_not_mem.2 fun _ => fresh
  · obtain ⟨held, tracked, -, -⟩ := sound.reach
    exact tracked.single
  · intro spared
    obtain ⟨held, tracked, -, listed⟩ := sound.reach
    have size : (u.after inputs).state.catalog.size = held.length := by
      rw [Catalog.size_eq_length_targets, listed (u.alive spared)]
    exact size.trans tracked.perm.length_eq
  · intro w result v past target last aimed
    obtain ⟨held, tracked, within, -⟩ := sound.reach
    have ended := tracked.ended last aimed
    rw [← Bool.not_eq_true, Catalog.contains_iff]
    exact fun kept => ended (tracked.mem_iff.1 (within kept))
  · rintro later past w result v before rfl last full unasked spared
    have spared' : .tell .destroy ∉ later ++ past := fun inside => spared (List.mem_cons_of_mem _ inside)
    have alive := u.alive spared'
    have free : (u.after (later ++ past)).state.refreshing = false := by
      show (u.scene.after (later ++ past)).state.refreshing = false
      rw [Scene.after_append]
      exact Scene.free_after ((u.sound past).free last full) unasked
    have refreshed : u.after (.tell .synchronize :: (later ++ past)) = (u.after (later ++ past)).refreshed := by
      show (u.after (later ++ past)).take (.tell .synchronize) = _
      rw [Scene.take_synchronize, alive, free]
      rfl
    refine ⟨(u.after (later ++ past)).state.mainWorker, (u.after (later ++ past)).state.target, (u.sound _).main.1, ?_⟩
    rw [refreshed]
    exact Scene.journal_started (u.after (later ++ past)).marked _

end Runs

/-- A refresh that failed is followed by another one, while the worker of a notification is under way. -/
theorem segment_sync_single_flight_after_failure :
    ((plain Setup.standard.key true).inFlight.run
      (Setup.standard.after [.tell (.force ⟨7, 0⟩ .zero), .tell (.force ⟨7, -1⟩ .zero)])).1 = 2 ∧
    ∃ w v, w.kind.fullRefresh? = some () ∧
      ⟨.told w .start, v⟩ ::
          (Setup.standard.after [.finish ⟨.segmentsSync ⟨"key", none⟩, 0⟩ (.error .uriTooLong), .tell .synchronize]).shop.journal <:+
        (Setup.standard.after [.tell .synchronize, .finish ⟨.segmentsSync ⟨"key", none⟩, 0⟩ (.error .uriTooLong),
          .tell .synchronize]).shop.journal := by
  constructor
  · exact (segment_sync_single_flight Setup.standard
      [.tell (.force ⟨7, 0⟩ .zero), .tell (.force ⟨7, -1⟩ .zero)]).2.2.1 (by simp)
  · exact (segment_sync_single_flight Setup.standard
      [.tell .synchronize, .finish ⟨.segmentsSync ⟨"key", none⟩, 0⟩ (.error .uriTooLong), .tell .synchronize]).2.2.2.2
      [] [.finish ⟨.segmentsSync ⟨"key", none⟩, 0⟩ (.error .uriTooLong), .tell .synchronize] ⟨.segmentsSync ⟨"key", none⟩, 0⟩
      (.error .uriTooLong) .unknown _ rfl rfl rfl (by simp) (by simp)

end FlagKeeper.SegmentSync
