import FlagKeeper.Proofs.Segments.SingleFlight

/-!
# No notification about segments is lost

A notification that brings something new raises the target. It may then be left to a timer that is pending, or to a worker that is
under way, and the timer reads the target only when it runs out. So that nothing is lost hangs on three things together: the target
is the maximum of all that was asked for (`Scene.Follows`), a worker is made for what the target is at that moment, and the target
is always provided for: by the timer, by a worker that is under way, or by one that is done (`Scene.Covered`).
-/

namespace FlagKeeper

/-- No number of `a` is beyond that of `b`. -/
def ChangeNumbers.AtMost (a b : ChangeNumbers) : Prop := a.segments ≤ b.segments ∧ a.largeSegments ≤ b.largeSegments

namespace ChangeNumbers

variable {a b c : ChangeNumbers}

theorem AtMost.refl (a : ChangeNumbers) : a.AtMost a := ⟨Int.le_refl _, Int.le_refl _⟩

theorem AtMost.trans (h : a.AtMost b) (h' : b.AtMost c) : a.AtMost c := ⟨Int.le_trans h.1 h'.1, Int.le_trans h.2 h'.2⟩

theorem atMost_merge : a.AtMost (a.merge b) := ⟨Int.le_max_left _ _, Int.le_max_left _ _⟩

end ChangeNumbers

namespace SegmentSync

open Workshop (targets)

namespace Scene

/-- A synchronizer that refreshes has heard of some change numbers: the target is their maximum, each worker was made for the target
of its time, and no older worker is for more than a newer one. -/
structure Follows (asked : List ChangeNumbers) (s : Scene) : Prop where
  enabled : s.syncEnabled = true
  target : s.state.target = ⟨(asked.map (·.segments)).foldr max (-1), (asked.map (·.largeSegments)).foldr max (-1)⟩
  exact : ∀ l ∈ s.shop.journal, ∀ w t, l.what = .made w → w.kind.segmentTarget? = some t → l.seen = t
  chain : (s.state.target :: targets WorkerKind.segmentTarget? s.shop.journal).Pairwise fun later earlier => earlier.AtMost later

/-- The target is provided for. -/
def Covered (s : Scene) : Prop :=
  s.state.timers.isScheduled .syncSegments = true ∨
    s.state.target ∈ targets WorkerKind.segmentTarget? s.shop.journal ∨
    ∃ w result v, ⟨.done w result, v⟩ ∈ s.shop.journal ∧ w.kind.segmentTarget? = some s.state.target

/-- Telling a worker that was made for a target to start brings that target under way. -/
theorem targets_launching (s : Scene) (target : ChangeNumbers) :
    targets WorkerKind.segmentTarget? ((s.entered target).wrote (.told (s.nextWorker target) .start)).shop.journal =
      target :: targets WorkerKind.segmentTarget? s.shop.journal := Workshop.targets_start rfl

section Follows

variable {s : Scene} {asked : List ChangeNumbers}

namespace Follows

/-- Something is written down. -/
theorem wrote (h : s.Follows asked) {what : Workshop.Happening}
    (exact : ∀ w t, what = .made w → w.kind.segmentTarget? = some t → s.state.target = t)
    (chain : (s.state.target :: targets WorkerKind.segmentTarget? (s.wrote what).shop.journal).Pairwise
      fun later earlier => earlier.AtMost later) : (s.wrote what).Follows asked := by
  refine ⟨h.enabled, h.target, ?_, chain⟩
  intro l inside w t made aimed
  rcases List.mem_cons.1 inside with rfl | earlier
  · exact exact w t made aimed
  · exact h.exact l earlier w t made aimed

/-- A worker is told something that changes nothing about the targets under way. -/
theorem told (h : s.Follows asked) {w : Worker} {order : WorkerOrder} (aside : order = .start → w.kind.segmentTarget? = none) :
    (s.wrote (.told w order)).Follows asked := by
  refine h.wrote (by simp) ?_
  have same : targets WorkerKind.segmentTarget? (s.wrote (.told w order)).shop.journal =
      targets WorkerKind.segmentTarget? s.shop.journal := Workshop.targets_told aside
  rw [same]
  exact h.chain

/-- A worker is done. -/
theorem finished (h : s.Follows asked) (w : Worker) (result : Outcome) : (s.finished w result).Follows asked := by
  have fewer : (targets WorkerKind.segmentTarget? (s.wrote (.done w result)).shop.journal).Sublist
      (targets WorkerKind.segmentTarget? s.shop.journal) := Workshop.targets_done_sublist result
  have noted : (s.wrote (.done w result)).Follows asked := h.wrote (by simp) (h.chain.sublist (fewer.cons_cons _))
  refine ⟨h.enabled, target_settled.trans h.target, noted.exact, ?_⟩
  show ((s.settled w.kind).target :: _).Pairwise _
  rw [target_settled]
  exact noted.chain

/-- A worker that was told to start may be done at once. -/
theorem started {w : Worker} (h : (s.wrote (.told w .start)).Follows asked) : (s.started w).Follows asked := by
  rcases started_cases s w with same | ⟨result, -, same⟩ <;> rw [same]
  · exact h
  · exact h.finished w result

/-- A worker is launched for what the target is. -/
theorem launched (h : s.Follows asked) : (s.launched s.state.target).Follows asked := by
  have made : (s.entered s.state.target).Follows asked := by
    have noted : (s.wrote (.made (s.nextWorker s.state.target))).Follows asked := by
      refine h.wrote ?_ h.chain
      rintro w t ⟨⟩ ⟨⟩
      rfl
    exact ⟨h.enabled, h.target, noted.exact, noted.chain⟩
  refine (made.wrote (by simp) ?_).started
  rw [targets_launching]
  refine List.pairwise_cons.2 ⟨?_, made.chain⟩
  intro t inside
  rcases List.mem_cons.1 inside with rfl | earlier
  · exact ChangeNumbers.AtMost.refl _
  · exact (List.pairwise_cons.1 made.chain).1 t earlier

/-- The target is reached. -/
theorem reached (h : s.Follows asked) : (s.reached s.state.target).Follows asked := by
  unfold Scene.reached
  by_cases stays : (s.state.destroyed || s.state.catalog.contains s.state.target) = true
  · rw [if_pos stays]
    exact h
  · rw [if_neg stays]
    exact h.launched

/-- A notification raises the target. -/
theorem raised (h : s.Follows asked) (target : ChangeNumbers) : (s.raised target).Follows (target :: asked) := by
  obtain ⟨below, chain⟩ := List.pairwise_cons.1 h.chain
  refine ⟨h.enabled, ?_, h.exact, List.pairwise_cons.2 ⟨?_, chain⟩⟩
  · show s.state.target.merge target = _
    rw [h.target]
    simp [ChangeNumbers.merge, Int.max_comm]
  · intro t inside
    exact (below t inside).trans ChangeNumbers.atMost_merge

end Follows

/-- Every turn keeps to what was asked for, and to what is asked for now. -/
theorem Turn.follows {i : Input} {s' : Scene} (turn : s.Turn i s') (sound : s.Sound) (alive : s.state.destroyed = false)
    (spared : i ≠ .tell .destroy) (h : s.Follows asked) : s'.Follows ((s.heard i).toList ++ asked) := by
  cases turn with
  | aside state shop enabled unheard =>
    rw [unheard alive h.enabled]
    obtain ⟨on, target, exact, chain⟩ := h
    rw [← state] at target chain
    rw [← shop] at exact chain
    exact ⟨enabled.trans on, target, exact, chain⟩
  | periodic order unheard =>
    rw [unheard]
    rcases s.periodicTold_cases order with same | ⟨w, there, same | ⟨other, same⟩⟩ <;> rw [same]
    · exact h
    · exact (h.told fun _ => (Sound.aimless (sound.periodic w there)).2).started
    · exact h.told fun start => (other start).elim
  | refresh =>
    have marked : s.marked.Follows asked := ⟨h.enabled, h.target, h.exact, h.chain⟩
    exact (marked.told fun _ => sound.main.2).started
  | merge _ heard =>
    rw [heard]
    exact h.raised _
  | now _ heard =>
    rw [heard]
    exact (h.raised _).reached
  | later _ heard =>
    rw [heard]
    obtain ⟨enabled, target, exact, chain⟩ := h.raised _
    exact ⟨enabled, target, exact, chain⟩
  | @ring id _ =>
    have rung : (s.rung id).Follows asked := ⟨h.enabled, h.target, h.exact, h.chain⟩
    exact rung.reached
  | finish => exact h.finished _ _
  | close => exact (spared rfl).elim

end Follows

section Covered

variable {s : Scene}

namespace Covered

/-- A worker without a target is told something. -/
theorem told (h : s.Covered) {w : Worker} {order : WorkerOrder} (aside : order = .start → w.kind.segmentTarget? = none) :
    (s.wrote (.told w order)).Covered := by
  rcases h with pending | underWay | ⟨w', result, v, inside, aimed⟩
  · exact .inl pending
  · refine .inr (.inl ?_)
    have same : targets WorkerKind.segmentTarget? (s.wrote (.told w order)).shop.journal =
        targets WorkerKind.segmentTarget? s.shop.journal := Workshop.targets_told aside
    rw [same]
    exact underWay
  · exact .inr (.inr ⟨w', result, v, List.mem_cons_of_mem _ inside, aimed⟩)

/-- A worker is done, be it the one for the target or another one. -/
theorem finished (h : s.Covered) (w : Worker) (result : Outcome) : (s.finished w result).Covered := by
  have timers : (s.finished w result).state.timers = s.state.timers := timers_settled
  have target : (s.finished w result).state.target = s.state.target := target_settled
  unfold Covered
  rw [timers, target]
  rcases h with pending | underWay | ⟨w', result', v, inside, aimed⟩
  · exact .inl pending
  · by_cases own : w.kind.segmentTarget? = some s.state.target
    · exact .inr (.inr ⟨w, result, s.state.target, List.mem_cons_self, own⟩)
    · exact .inr (.inl (Workshop.mem_targets_done result underWay own))
  · exact .inr (.inr ⟨w', result', v, List.mem_cons_of_mem _ inside, aimed⟩)

theorem started {w : Worker} (h : (s.wrote (.told w .start)).Covered) : (s.started w).Covered := by
  rcases started_cases s w with same | ⟨result, -, same⟩ <;> rw [same]
  · exact h
  · exact h.finished w result

end Covered

/-- A target that the synchronizer keeps is under way. -/
theorem Sound.underWay (h : s.Sound) {target : ChangeNumbers} (kept : s.state.catalog.contains target = true) :
    target ∈ targets WorkerKind.segmentTarget? s.shop.journal := by
  obtain ⟨held, tracked, within, -⟩ := h.reach
  exact tracked.mem_iff.1 (within (Catalog.contains_iff.1 kept))

/-- Once the target is reached, it is provided for. -/
theorem covered_reached (h : s.Sound) (alive : s.state.destroyed = false) : (s.reached s.state.target).Covered := by
  unfold Scene.reached
  by_cases kept : s.state.catalog.contains s.state.target = true
  · rw [if_pos (by simp [kept])]
    exact .inr (.inl (h.underWay kept))
  · rw [if_neg (by simp [kept, alive])]
    refine Covered.started (.inr (.inl ?_))
    rw [targets_launching]
    exact List.mem_cons_self

/-- Every turn leaves the target provided for, if it was, or if the turn is about a notification that brings something new. -/
theorem Turn.covered {i : Input} {s' : Scene} (turn : s.Turn i s') (sound : s.Sound) (enabled : s.syncEnabled = true)
    (alive : s.state.destroyed = false) (spared : i ≠ .tell .destroy) (h : (s.heard i).isSome = true ∨ s.Covered) :
    s'.Covered := by
  cases turn with
  | aside state shop _ unheard =>
    have before : s.Covered := by simpa [unheard alive enabled] using h
    unfold Covered
    rw [state, shop]
    exact before
  | periodic order unheard =>
    have before : s.Covered := by simpa [unheard] using h
    rcases s.periodicTold_cases order with same | ⟨w, there, same | ⟨other, same⟩⟩ <;> rw [same]
    · exact before
    · exact (before.told fun _ => (Sound.aimless (sound.periodic w there)).2).started
    · exact before.told fun start => (other start).elim
  | refresh =>
    have before : s.Covered := by simpa [heard] using h
    have marked : s.marked.Covered := before
    exact (marked.told fun _ => sound.main.2).started
  | merge _ _ held =>
    rcases held with pending | kept
    · exact .inl pending
    · exact .inr (.inl (sound.underWay kept))
  | now => exact covered_reached (sound.raised _) alive
  | later => exact .inl (sound.slot.isScheduled_add _ _ _)
  | ring => exact covered_reached (sound.rung _) alive
  | finish =>
    have before : s.Covered := by simpa [heard] using h
    exact before.finished _ _
  | close => exact (spared rfl).elim

end Covered

end Scene

section Runs

/-- The change numbers that a synchronizer was asked to reach, the latest first, but for those that brought nothing new when they
came. -/
def Setup.accepted (u : Setup) : List Input → List ChangeNumbers
  | [] => []
  | i :: past => ((u.after past).heard i).toList ++ u.accepted past

variable {u : Setup} {inputs : List Input}

theorem Setup.follows (enabled : u.syncEnabled = true) (spared : .tell .destroy ∉ inputs) :
    (u.after inputs).Follows (u.accepted inputs) := by
  induction inputs with
  | nil =>
    obtain ⟨key, on, stored, loading, steady, prompt⟩ := u
    cases enabled
    refine ⟨rfl, rfl, ?_, List.pairwise_singleton _ _⟩
    intro l inside w t made aimed
    have named : w.kind = .segmentsSync key ∨ w.kind = .periodicSegments key := by
      rcases List.mem_cons.1 inside with rfl | first
      · cases made
        exact .inr rfl
      · cases List.mem_singleton.1 first
        cases made
        exact .inl rfl
    rcases named with main | periodic
    · rw [main] at aimed
      cases aimed
    · rw [periodic] at aimed
      cases aimed
  | cons i past ih =>
    rw [List.mem_cons, not_or] at spared
    exact ((u.after past).turn i).follows (u.sound past) (u.alive spared.2) (Ne.symm spared.1) (ih spared.2)

/-- Once anything was asked for, the target is provided for. -/
theorem Setup.covered (enabled : u.syncEnabled = true) (spared : .tell .destroy ∉ inputs) (asked : u.accepted inputs ≠ []) :
    (u.after inputs).Covered := by
  induction inputs with
  | nil => exact (asked rfl).elim
  | cons i past ih =>
    rw [List.mem_cons, not_or] at spared
    have refreshes : (u.after past).syncEnabled = true := (u.follows enabled spared.2).enabled
    refine ((u.after past).turn i).covered (u.sound past) refreshes (u.alive spared.2) (Ne.symm spared.1) ?_
    cases heard : (u.after past).heard i with
    | some target => exact .inl rfl
    | none =>
      right
      refine ih spared.2 ?_
      simpa [Setup.accepted, heard] using asked

/-- **No notification is lost.** Whatever happens to a segment synchronizer that refreshes and was not destroyed:

1. The target is, for each kind of segments, the maximum of -1 and of all that was asked for.
2. Every worker was made for what the target was at that moment.
3. Of the workers under way, an older one is never for more than a newer one.
4. If anything was ever asked for, the timer is pending, or a worker for just the target is under way, or one is done. -/
theorem no_notification_lost (u : Setup) (inputs : List Input) (enabled : u.syncEnabled = true)
    (spared : .tell .destroy ∉ inputs) :
    (u.after inputs).state.target =
      ⟨((u.accepted inputs).map (·.segments)).foldr max (-1), ((u.accepted inputs).map (·.largeSegments)).foldr max (-1)⟩ ∧
    (∀ l ∈ (u.after inputs).shop.journal, ∀ w t, l.what = .made w → w.kind.segmentTarget? = some t → l.seen = t) ∧
    (targets WorkerKind.segmentTarget? (u.after inputs).shop.journal).Pairwise (fun later earlier => earlier.AtMost later) ∧
    (u.accepted inputs ≠ [] →
      ((u.after inputs).state.timers.isScheduled .syncSegments = true ∧
        ∃ id, ((u.after inputs).state.timers.wake id).1.isSome = true) ∨
      (u.after inputs).state.target ∈ targets WorkerKind.segmentTarget? (u.after inputs).shop.journal ∨
      ∃ w result v, ⟨.done w result, v⟩ ∈ (u.after inputs).shop.journal ∧
        w.kind.segmentTarget? = some (u.after inputs).state.target) := by
  have follows := u.follows enabled spared
  refine ⟨follows.target, follows.exact, (List.pairwise_cons.1 follows.chain).2, fun asked => ?_⟩
  rcases u.covered enabled spared asked with pending | underWay | ended
  · exact .inl ⟨pending, (u.sound inputs).slot.wakes pending⟩
  · exact .inr (.inl underWay)
  · exact .inr (.inr ended)

/-- Two notifications, the second of which waits for a timer: the target is their maximum, and the timer is pending, or a worker for
just that target is under way or done. -/
theorem no_notification_lost_merged :
    let s := Setup.standard.after [.tell (.force ⟨5, 9⟩ (.ofSecs 1)), .tell (.force ⟨7, 2⟩ .zero)]
    s.state.target = ⟨7, 9⟩ ∧
      ((s.state.timers.isScheduled .syncSegments = true ∧ ∃ id, (s.state.timers.wake id).1.isSome = true) ∨
        s.state.target ∈ targets WorkerKind.segmentTarget? s.shop.journal ∨
        ∃ w result v, ⟨.done w result, v⟩ ∈ s.shop.journal ∧ w.kind.segmentTarget? = some s.state.target) := by
  have kept := no_notification_lost Setup.standard
    [.tell (.force ⟨5, 9⟩ (.ofSecs 1)), .tell (.force ⟨7, 2⟩ .zero)] rfl (by simp)
  have heard : Setup.standard.accepted [.tell (.force ⟨5, 9⟩ (.ofSecs 1)), .tell (.force ⟨7, 2⟩ .zero)] = [⟨5, 9⟩, ⟨7, 2⟩] := by
    decide +kernel
  rw [heard] at kept
  exact ⟨kept.1, kept.2.2.2 (by simp)⟩

end Runs

end SegmentSync

end FlagKeeper
