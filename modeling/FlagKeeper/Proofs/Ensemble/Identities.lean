import FlagKeeper.Proofs.Ensemble.Managed

/-!
# Identities that come and go

An identity that comes brings a desk that is open, and one that goes has its desk closed. In between there is one desk that may be
open without belonging to an identity that is registered. The end of the synchronizer lets every identity go: then all desks are
closed and everything rests, and no worker for a target was told to stop twice.
-/

namespace FlagKeeper.Ensemble

variable {l : Ledger} {s e : Ensemble} {bundle : BundleId}

/-! ## Who is registered -/

section Covered

namespace Ledger

/-- Taking a key out of the registry uncovers the desk of its identity, if it has one. -/
theorem IsCovered.remove (h : l.IsCovered none) (key : Key) :
    Ledger.IsCovered (l.bundles.lookup key) { l with bundles := l.bundles.filter fun entry => entry.1 ≠ key } := by
  refine ⟨h.keys.sublist (List.Sublist.map _ (List.filter_sublist ..)), fun b opened => ?_⟩
  obtain ⟨key', inside⟩ | none := h.registered b opened
  · by_cases same : key' = key
    · subst same
      exact .inr (Registry.lookup_of_mem h.keys inside)
    · refine .inl ⟨key', List.mem_filter.2 ⟨inside, ?_⟩⟩
      simpa using same
  · cases none

/-- Putting a bundle under a key keeps every other key, and gives what was there. -/
theorem mem_put {bundles : List (Key × BundleId)} (once : (bundles.map Prod.fst).Nodup) (key : Key) {key' : Key} {b : BundleId}
    (inside : (key', b) ∈ bundles) :
    (key', b) ∈ (Registry.put key bundle bundles).2 ∨ (Registry.put key bundle bundles).1 = some b := by
  have found := Registry.lookup_of_mem once inside
  by_cases same : key' = key
  · subst same
    exact .inr (Registry.put_fst.trans found)
  · exact .inl (Registry.mem_of_lookup ((Registry.lookup_put_of_ne same).trans found))

/-- Registering the identity that has come covers its desk, and uncovers that of the one whose place it takes. -/
theorem IsCovered.put (h : l.IsCovered (some bundle)) (key : Key) :
    Ledger.IsCovered (Registry.put key bundle l.bundles).1 { l with bundles := (Registry.put key bundle l.bundles).2 } := by
  refine ⟨Registry.nodup_put h.keys key, fun b opened => ?_⟩
  rcases h.registered b opened with ⟨key', inside⟩ | new
  · exact (mem_put h.keys key inside).imp_left fun kept => ⟨key', kept⟩
  · cases new
    exact .inl ⟨key, Registry.mem_of_lookup Registry.lookup_put_self⟩

/-- Once the desk of the identity that goes is closed, all open desks are covered. -/
theorem IsCovered.gone (h : l.IsCovered (some bundle)) (closed : (l.desk (bundle + 1)).closed = true) : l.IsCovered none := by
  refine ⟨h.keys, fun b opened => .inl ?_⟩
  rcases h.registered b opened with registered | same
  · exact registered
  · cases same
    exact (Bool.false_ne_true (opened.symm.trans closed)).elim

end Ledger

end Covered

/-! ## Coming and going -/

section Passing

/-- An identity leaves the registry, or comes into it: its desk is not covered for a while. -/
theorem Ledger.IsSound.passing {going going' : Option BundleId} (h : l.IsSound going) {bundles : List (Key × BundleId)}
    (covered : Ledger.IsCovered going' { l with bundles }) : Ledger.IsSound going' { l with bundles } :=
  ⟨h.orderly.elsewhere _ _ _, covered, h.rests, h.timer, h.stopped⟩

/-- Ends an identity, if there is one. -/
def tearDownAny (e : Ensemble) (key : Key) : Option BundleId → Playing Unit
  | some bundle => e.identityRegistry.tearDown key bundle
  | none => return ()

/-- The end of an identity, if there is one, only closes things. -/
theorem keeps_tearDownAny {p : Ledger.Pace} (key : Key) (going : Option BundleId) :
    Keeps (Since p l) (e.tearDownAny key going) := by
  cases going with
  | none => exact Keeps.pure _
  | some bundle => exact keeps_tearDown key

/-- The end of the identity that goes, if there is one, covers all desks. -/
theorem covered_tearDownAny {going : Option BundleId} (h : s.ledger.IsCovered going) (key : Key) :
    ((e.tearDownAny key going).run s).2.ledger.IsCovered none := by
  cases going with
  | none => exact h
  | some bundle =>
    have steps : Since .closing s.ledger ((e.identityRegistry.tearDown key bundle).run s).2 := keeps_tearDown key s .refl
    exact (steps.carry (fun _ _ step => step.covered) h).gone (closed_tearDown key)

/-- The end of the identity that goes leaves the books sound. -/
theorem sound_tearDownAny {going : Option BundleId} (h : s.ledger.IsSound going) (key : Key) :
    Sound ((e.tearDownAny key going).run s).2 := by
  have steps : Since .closing s.ledger ((e.tearDownAny key going).run s).2 := keeps_tearDownAny key going s .refl
  have after := steps.sound h nofun
  exact ⟨after.orderly, covered_tearDownAny h.covered key, after.rests, after.timer, after.stopped⟩

/-- An ensemble after a key was taken out of its registry. -/
def without (s : Ensemble) (key : Key) : Ensemble :=
  { s with registry := { s.registry with bundles := s.registry.bundles.filter fun entry => entry.1 ≠ key } }

/-- An ensemble after an identity was put into its registry. -/
def having (s : Ensemble) (key : Key) (bundle : BundleId) : Ensemble :=
  { s with registry := { s.registry with bundles := (Registry.put key bundle s.registry.bundles).2 } }

/-- A key is taken out of the registry, and its identity ends. -/
theorem run_unregister (key : Key) : ((do let _ ← e.identityRegistry.unregister key : Playing Unit).run s).2 =
    ((e.tearDownAny key (s.registry.bundles.lookup key)).run (s.without key)).2 := by
  have removed : (e.identityRegistry.remove key).run s = (s.registry.bundles.lookup key, s.without key) := rfl
  show ((e.identityRegistry.unregister key).run s).2 = _
  unfold Registry.unregister
  rw [run_bind, removed]
  cases s.registry.bundles.lookup key <;> rfl

/-- An identity is put into the registry, and the one whose place it takes ends. -/
theorem run_register (key : Key) : (e.identityRegistry.register key bundle).run s =
    (e.tearDownAny key (Registry.put key bundle s.registry.bundles).1).run (s.having key bundle) := rfl

/-- An identity goes. -/
theorem sound_unregister (key : Key) : Keeps Sound (do let _ ← e.identityRegistry.unregister key) := by
  intro s h
  have removed : (s.without key).ledger.IsSound (s.registry.bundles.lookup key) := h.passing (h.covered.remove key)
  rw [run_unregister]
  exact sound_tearDownAny removed key

/-- An identity that has come is registered. -/
theorem sound_register (h : s.ledger.IsSound (some bundle)) (key : Key) :
    Sound ((e.identityRegistry.register key bundle).run s).2 := by
  have put : (s.having key bundle).ledger.IsSound (Registry.put key bundle s.registry.bundles).1 := h.passing (h.covered.put key)
  rw [run_register]
  exact sound_tearDownAny put key

/-- A desk at which nothing has happened joins the others. -/
def Ledger.join (l : Ledger) (made : Nat) (standing : List Worker) : Ledger :=
  { l with made, desks := l.desks ++ [{ standing, underWay := [], timers := {}, closed := false }] }

/-- After a desk has joined, any desk is the new one or as it was. -/
theorem Ledger.desk_join (l : Ledger) (made : Nat) (standing : List Worker) (d : Nat) :
    (l.join made standing).desk d = l.desk d ∨
      d = l.desks.length ∧ (l.join made standing).desk d = { standing, underWay := [], timers := {}, closed := false } := by
  unfold Ledger.desk Ledger.join
  rcases Nat.lt_trichotomy d l.desks.length with before | rfl | beyond
  · left
    rw [List.getElem?_append_left before]
  · right
    simp
  · left
    rw [List.getElem?_eq_none (by simp; omega), List.getElem?_eq_none (Nat.le_of_lt beyond)]

/-- The books stay sound when the desk of an identity that comes joins them. -/
theorem Ledger.IsSound.join (h : l.IsSound none) {made : Nat} (more : l.made ≤ made) {standing : List Worker}
    (untargeted : ∀ w ∈ standing, w.isTargeted = false) (last : l.desks.length = bundle + 1) :
    (l.join made standing).IsSound (some bundle) := by
  have every {P : Desk → Prop} (old : ∀ d, P (l.desk d))
      (new : P { standing, underWay := [], timers := {}, closed := false }) (d : Nat) : P ((l.join made standing).desk d) := by
    rcases l.desk_join made standing d with kept | ⟨-, joined⟩
    · rw [kept]
      exact old d
    · rw [joined]
      exact new
  refine ⟨⟨h.orderly.pipelines, every h.orderly.desks ⟨untargeted, nofun, TimerTable.isSlot_new, nofun⟩, ?_⟩,
    ⟨h.covered.keys, fun b opened => ?_⟩, fun ended => every (h.rests ended) ⟨rfl, rfl⟩, h.timer, h.stopped⟩
  · intro w targeted
    have same : (l.join made standing).charge w = l.charge w := by
      simp [Ledger.charge, Ledger.inFlight, Ledger.join]
    rw [same]
    refine Nat.le_trans (h.orderly.booked w targeted) ?_
    show (if w.serial < l.made then 1 else 0) ≤ if w.serial < made then 1 else 0
    split <;> split <;> omega
  · rcases l.desk_join made standing (b + 1) with kept | ⟨here, -⟩
    · rw [kept] at opened
      rcases h.covered.registered b opened with registered | none
      · exact .inl registered
      · cases none
    · rw [last, Nat.add_right_cancel_iff] at here
      exact .inr (congrArg some here.symm)

/-- The workers of a segment synchronizer that is made stand by. -/
theorem run_create_segments (key : Key) (syncEnabled : Bool) : ∃ (st : SegmentSync.State) (more : Nat) (calls : List Call),
    (SegmentSync.create key syncEnabled makers).run s =
        (st, { s with ground := { s.ground with made := s.ground.made + more, calls := calls ++ s.ground.calls } }) ∧
      stops calls = [] ∧ (∀ w ∈ (segmentsDesk st).standing, w.isTargeted = false) ∧
      segmentsDesk st = { standing := (segmentsDesk st).standing, underWay := [], timers := {}, closed := false } := by
  cases syncEnabled with
  | true =>
    refine ⟨{ mainWorker := ⟨.segmentsSync key, s.ground.made⟩, periodicWorker := some ⟨.periodicSegments key, s.ground.made + 1⟩ },
      2, [_, _], rfl, rfl, ?_, rfl⟩
    simp [segmentsDesk, Worker.isTargeted]
  | false =>
    refine ⟨{ mainWorker := ⟨.segmentsSync key, s.ground.made⟩, periodicWorker := none }, 1, [_], rfl, rfl, ?_, rfl⟩
    simp [segmentsDesk, Worker.isTargeted]

/-- An identity comes. -/
theorem sound_enroll (h : Sound s) (key : Key) : Sound ((s.enroll key).run s).2 := by
  obtain ⟨st, more, calls, run, stopless, untargeted, desk⟩ := run_create_segments (s := s) key s.settings.syncEnabled
  let s' : Ensemble :=
    { s with
      ground := { s.ground with made := s.ground.made + more, calls := calls ++ s.ground.calls }
      identities := s.identities ++ [⟨key, st⟩] }
  have joined : s'.ledger = s.ledger.join (s.ground.made + more) (segmentsDesk st).standing := by
    unfold ledger Ledger.join
    rw [stops_append, stopless, List.map_append, List.map_singleton, desk]
    rfl
  have last : s.ledger.desks.length = s.identities.length + 1 := by simp [ledger]
  have sound : s'.ledger.IsSound (some s.identities.length) := by
    rw [joined]
    exact Ledger.IsSound.join h (Nat.le_add_right _ _) untargeted last
  have enrolled : (s.enroll key).run s = (s'.identityRegistry.register key s.identities.length).run s' := by
    unfold enroll
    rw [run_bind, run]
    rfl
  rw [enrolled]
  exact sound_register sound key

end Passing

/-! ## The end of the synchronizer -/

section Winding

/-- While the synchronizer ends: the books are in order, every worker for a target is charged as it was, and the desk of the flags
is closed. -/
structure Winding (l : Ledger) (going : Option BundleId) (s : Ensemble) : Prop where
  orderly : s.ledger.IsOrderly
  covered : s.ledger.IsCovered going
  charge : ∀ w, w.isTargeted = true → s.ledger.charge w = l.charge w
  ended : s.ledger.ended = true
  above : s.ledger.above = l.above
  flags : (s.ledger.desk 0).closed = true

/-- Steps that only close things keep the books in order, and every worker for a target charged as it was. -/
theorem Since.charged (steps : Since .closing l s) (orderly : l.IsOrderly) :
    s.ledger.IsOrderly ∧ ∀ w, w.isTargeted = true → s.ledger.charge w = l.charge w := by
  refine steps.carry (Q := fun l' => l'.IsOrderly ∧ ∀ w, w.isTargeted = true → l'.charge w = l.charge w) ?_
    ⟨orderly, fun _ _ => rfl⟩
  rintro before after step ⟨orderly, charge⟩
  exact ⟨step.keeps orderly, fun w targeted => (step.charge_closing orderly targeted).trans (charge w targeted)⟩

/-- Steps that only close things go on with the end. -/
theorem Winding.since {going : Option BundleId} {s' : Ensemble} (h : Winding l going s) (steps : Since .closing s.ledger s') :
    Winding l going s' := by
  obtain ⟨ended, -, above⟩ := steps.fixed
  obtain ⟨orderly, charge⟩ := steps.charged h.orderly
  refine ⟨orderly, steps.carry (fun _ _ step => step.covered) h.covered,
    fun w targeted => (charge w targeted).trans (h.charge w targeted), ended.trans h.ended, above.trans h.above, ?_⟩
  refine steps.carry (Q := fun l' => (l'.desk 0).closed = true) (fun before after step closed => ?_) h.flags
  cases opened : (after.desk 0).closed with
  | true => rfl
  | false => exact ((step.closed 0 opened).symm.trans closed)

/-- Once nobody is registered any more, all desks are closed and everything rests. -/
theorem Winding.rests (h : Winding l none s) (nobody : s.ledger.bundles = []) : s.ledger.IsAtRest := by
  intro d
  refine (h.orderly.desks d).closed ?_
  cases d with
  | zero => exact h.flags
  | succ b =>
    cases opened : (s.ledger.desk (b + 1)).closed with
    | true => rfl
    | false =>
      rcases h.covered.registered b opened with ⟨key, inside⟩ | none
      · rw [nobody] at inside
        cases inside
      · cases none

/-- What the registry does for a key at its end. -/
def letGo (e : Ensemble) (key : Key) : Playing Unit := do
  match ← e.identityRegistry.remove key with
  | some bundle => e.identityRegistry.tearDown key bundle
  | none => return ()

/-- A key is taken out of the registry, and its identity ends, if there is one. -/
theorem run_letGo (key : Key) :
    (e.letGo key).run s = (e.tearDownAny key (s.registry.bundles.lookup key)).run (s.without key) := rfl

/-- The registry lets one key go. -/
theorem winding_letGo (h : Winding l none s) (key : Key) :
    Winding l none ((e.letGo key).run s).2 ∧
      ((e.letGo key).run s).2.ledger.bundles = s.ledger.bundles.filter fun entry => entry.1 ≠ key := by
  have removed : Winding l (s.registry.bundles.lookup key) (s.without key) :=
    ⟨h.orderly.elsewhere _ _ _, h.covered.remove key, h.charge, h.ended, h.above, h.flags⟩
  have steps : Since .closing (s.without key).ledger
      ((e.tearDownAny key (s.registry.bundles.lookup key)).run (s.without key)).2 := keeps_tearDownAny key _ _ .refl
  rw [run_letGo]
  exact ⟨{ removed.since steps with covered := covered_tearDownAny removed.covered key }, steps.fixed.2.1⟩

/-- The registry lets all its keys go. -/
theorem winding_letGoAll (h : Winding l none s) (keys : List Key) :
    Winding l none ((keys.forM e.letGo).run s).2 ∧
      ∀ entry ∈ ((keys.forM e.letGo).run s).2.ledger.bundles, entry ∈ s.ledger.bundles ∧ entry.1 ∉ keys := by
  induction keys generalizing s with
  | nil => exact ⟨h, fun entry inside => ⟨inside, List.not_mem_nil⟩⟩
  | cons key rest ih =>
    obtain ⟨first, left⟩ := winding_letGo (e := e) h key
    obtain ⟨after, remaining⟩ := ih first
    refine ⟨after, fun entry inside => ?_⟩
    obtain ⟨before, notRest⟩ := remaining entry inside
    rw [left, List.mem_filter] at before
    refine ⟨before.1, fun among => ?_⟩
    rcases List.mem_cons.1 among with same | inRest
    · simp [same] at before
    · exact notRest inRest

/-- What the end of the synchronizer leaves behind: everything rests, and every worker for a target is charged as it was. -/
structure Ended (l : Ledger) (s : Ensemble) : Prop where
  orderly : s.ledger.IsOrderly
  covered : s.ledger.IsCovered none
  charge : ∀ w, w.isTargeted = true → s.ledger.charge w = l.charge w
  ended : s.ledger.ended = true
  above : s.ledger.above = l.above
  rests : s.ledger.IsAtRest

/-- The end of the synchronizer. -/
theorem ended_shutDown (orderly : s.ledger.IsOrderly) (covered : s.ledger.IsCovered none)
    (rests : s.ledger.ended = true → s.ledger.IsAtRest) : Ended s.ledger ((e.fullSynchronizer.run .destroy).run s).2 := by
  cases destroyed : s.synchronizer.destroyed with
  | true =>
    have same : (e.fullSynchronizer.run .destroy).run s = ((), s) := run_ifAlive_destroyed destroyed
    rw [same]
    exact ⟨orderly, covered, fun _ _ => rfl, destroyed, rfl, rests destroyed⟩
  | false =>
    let s₁ : Ensemble := { s with synchronizer := { s.synchronizer with destroyed := true } }
    let s₂ := (e.flagSync.shutDown.run s₁).2
    let s₃ := ((s₂.registry.bundles.map Prod.fst).forM e.letGo |>.run s₂).2
    let s₄ := ((e.impressionTracker.run .destroy).run s₃).2
    have run : ((e.fullSynchronizer.run .destroy).run s).2 = ((eventRecorder.run .destroy).run s₄).2 := by
      show ((if (!s.synchronizer.destroyed) = true then do
        synchronizerCell.modify fun st => { st with destroyed := true }
        e.flagSync.shutDown
        e.identityRegistry.stop
        e.impressionTracker.run .destroy
        eventRecorder.run .destroy else pure () : Playing Unit).run s).2 = _
      rw [destroyed]
      rfl
    -- the desk of the flags closes first, and then that of each identity as its key is let go
    have flags : Since .closing s₁.ledger s₂ := keeps_flags_shutDown s₁ .refl
    obtain ⟨orderly₂, charge₂⟩ := flags.charged (orderly.elsewhere _ _ _)
    have covered₂ := flags.carry (fun _ _ step => step.covered) (covered.elsewhere true s.manager)
    have winding₂ : Winding s.ledger none s₂ :=
      ⟨orderly₂, covered₂, charge₂, flags.fixed.1, flags.fixed.2.2, closed_flags_shutDown⟩
    obtain ⟨winding₃, remaining⟩ := winding_letGoAll (e := e) winding₂ (s₂.registry.bundles.map Prod.fst)
    have nobody₃ : s₃.ledger.bundles = [] := by
      refine List.eq_nil_iff_forall_not_mem.2 fun entry inside => ?_
      obtain ⟨before, gone⟩ := remaining entry inside
      exact gone (List.mem_map.2 ⟨entry, before, rfl⟩)
    have pipelines : Since .closing s₃.ledger ((eventRecorder.run .destroy).run s₄).2 :=
      keeps_recorder_run _ _ (keeps_tracker_run _ _ .refl)
    have winding := winding₃.since pipelines
    rw [run]
    exact ⟨winding.orderly, winding.covered, winding.charge, winding.ended, winding.above,
      winding.rests (pipelines.fixed.2.1.trans nobody₃)⟩

end Winding

end FlagKeeper.Ensemble
