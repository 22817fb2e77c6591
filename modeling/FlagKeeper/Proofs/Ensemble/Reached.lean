import FlagKeeper.Proofs.Ensemble.Identities
import FlagKeeper.Proofs.Manager.History

/-!
# The books of every client

`Setup.sound`: the books of a client are sound whatever has happened to it. A new client has sound books, and every input keeps
them.
-/

namespace FlagKeeper.Ensemble

variable {s e : Ensemble}

/-- After the manager was destroyed it is stopped, and every worker for a target is charged as it was. -/
theorem sound_destroy (h : Sound s) :
    Sound (e.syncManager.destroy.run s).2 ∧ (e.syncManager.destroy.run s).2.manager.stopped = true ∧
      ∀ w, w.isTargeted = true → (e.syncManager.destroy.run s).2.ledger.charge w = s.ledger.charge w := by
  cases stopped : s.manager.stopped with
  | true =>
    have same : e.syncManager.destroy.run s = ((), s) := by
      show (if (!s.manager.stopped) = true then _ else pure () : Playing Unit).run s = _
      rw [stopped]
      rfl
    rw [same]
    exact ⟨h, stopped, fun _ _ => rfl⟩
  | false =>
    let s₁ : Ensemble := { s with manager := { s.manager with stopped := true, reconnect := s.manager.reconnect.cancel } }
    let s₂ := ((e.syncManager.tellPush .stop).run s₁).2
    let s₃ := ((e.fullSynchronizer.run .destroy).run s₂).2
    let st : Manager.State := { s₃.manager with health := s₃.manager.health.setReady false, shutdownSent := true }
    have run : (e.syncManager.destroy.run s).2 = Ensemble.note { s₃ with manager := st } (.log .stopped) := by
      show ((if (!s.manager.stopped) = true then _ else pure () : Playing Unit).run s).2 = _
      rw [stopped]
      rfl
    -- a stopped manager over a synchronizer that is not destroyed is not sound, so the books are followed part by part
    have push : Since .closing s₁.ledger s₂ := keeps_tellPush .stop s₁ .refl
    obtain ⟨orderly, charge⟩ := push.charged (h.orderly.elsewhere _ _ _)
    have covered := push.carry (fun _ _ step => step.covered) (h.covered.elsewhere s.synchronizer.destroyed s₁.manager)
    have rests : s₂.ledger.ended = true → s₂.ledger.IsAtRest := by
      intro ended
      rw [push.fixed.1] at ended
      exact push.carry (fun _ _ step => step.rests nofun) (h.rests ended)
    have after := ended_shutDown (e := e) orderly covered rests
    have manager : s₃.manager = s₁.manager := after.above.trans push.fixed.2.2
    obtain ⟨pending, holds⟩ := h.timer
    have emptied : st.reconnect.Holds none := by
      show s₃.manager.reconnect.Holds none
      rw [manager]
      exact holds.cancel
    rw [run]
    refine ⟨⟨after.orderly.elsewhere _ _ _, after.covered.elsewhere _ _, fun _ => after.rests, ⟨none, emptied⟩,
      fun _ => ⟨emptied, rfl, after.ended⟩⟩, ?_, fun w targeted => (after.charge w targeted).trans (charge w targeted)⟩
    show s₃.manager.stopped = true
    rw [manager]

/-- A piece of background work takes on no work. -/
theorem keeps_runJob {p : Ledger.Pace} {l : Ledger} (calm : p ≠ .closing) (job : Job) : Keeps (Since p l) (e.runJob job) := by
  cases job with
  | flags job => exact keeps_flags_runJob calm job
  | loadSegments bundle => exact keeps_loadCaches
  | registry job => exact keeps_registry_runJob job

/-- The background does what came first. -/
theorem run_nextJob : e.nextJob.run s = (match s.jobs with
    | [] => pure ()
    | job :: rest => do
      modify fun s => { s with jobs := rest }
      e.runJob job : Playing Unit).run s := rfl

/-- The background takes on no work. -/
theorem sound_nextJob : Keeps Sound e.nextJob := by
  intro s h
  rw [run_nextJob]
  cases s.jobs with
  | nil => exact h
  | cons job rest =>
    exact Keeps.sound (fun _ => keeps_runJob (by simp) job) { s with jobs := rest } h

/-- A timer of an identity that runs out takes on no work once everything rests, for none waits then. -/
theorem sound_segmentsTimer (bundle : BundleId) (id : Nat) : Keeps Sound (e.segmentsTimerOver bundle id) := by
  intro s h
  let st := (s.identity bundle).segments
  let s' := s.setSegments bundle { st with timers := (st.timers.wake id).2 }
  have desk : s.ledger.desk (bundle + 1) = segmentsDesk st := desk_segments s bundle
  have rung : Since .settling s.ledger s' := by
    have step := Ledger.Step.ring (p := .settling) (l := s.ledger) (by simp) (bundle + 1) id
    rw [desk] at step
    exact since_setSegments .refl rfl step
  have sound : Sound s' := rung.sound h nofun
  show Sound ((if (st.timers.wake id).1.isSome then (e.segmentSync bundle).delayOver else pure () : Playing Unit).run s').2
  cases destroyed : s.synchronizer.destroyed with
  | true =>
    have rests := (h.rests destroyed (bundle + 1)).2
    rw [desk] at rests
    have idle : st.timers.wake id = (none, st.timers) := TimerTable.wake_of_sleepers_nil rests id
    rw [idle]
    exact sound
  | false =>
    have steps : Since .working s'.ledger ((e.segmentSync bundle).delayOver.run s').2 := keeps_delayOver s' .refl
    by_cases due : (st.timers.wake id).1.isSome = true
    · rw [if_pos due]
      exact steps.sound sound fun _ => destroyed
    · rw [if_neg due]
      exact sound

/-- The end of the synchronizer leaves the books sound. -/
theorem sound_shutDown : Keeps Sound (e.fullSynchronizer.run .destroy) := by
  intro s h
  have after := ended_shutDown (e := e) h.orderly h.covered h.rests
  have above : ((e.fullSynchronizer.run .destroy).run s).2.ledger.above = s.ledger.above := after.above
  refine ⟨after.orderly, after.covered, fun _ => after.rests, ?_, ?_⟩
  · rw [above]
    exact h.timer
  · rw [above]
    exact fun stopped => ⟨(h.stopped stopped).1, (h.stopped stopped).2.1, after.ended⟩

/-- What the clocks show does not matter. -/
theorem Sound.clocks (h : Sound s) (steady : Nat) (wall : Int) : Sound { s with steady, wall } := h

/-- Every input keeps the books sound. -/
theorem Sound.take (h : Sound s) (i : Input) : Sound (s.take i) := by
  cases i with
  | start => exact sound_start s h
  | pause => exact sound_pause s h
  | resume => exact sound_resume s h
  | destroy => exact (sound_destroy h).1
  | setConsent consent => exact sound_setConsent consent s h
  | tell command =>
    by_cases last : command = .destroy
    · subst last
      exact sound_shutDown s h
    · exact (sound_synchronizer_run h last).1
  | register key => exact sound_enroll h key
  | unregister key => exact sound_unregister key s h
  | broadcast event => exact h
  | loop => exact Keeps.bind sound_serveNext (fun _ => Keeps.pure _) s h
  | finish owner w result => exact Keeps.sound (fun _ => keeps_finish (by simp) owner w result) s h
  | reconnectTimer id =>
    refine Keeps.bind (sound_timerOver id) (fun due => ?_) s h
    exact Keeps.ite (Keeps.sound fun _ => keeps_reconnectDue) (Keeps.pure _)
  | segmentsTimer bundle id => exact sound_segmentsTimer bundle id s h
  | impressionsStep => exact Keeps.sound (fun _ => Keeps.bind keeps_tracker_handleNext fun _ => Keeps.pure _) s h
  | eventsStep => exact Keeps.sound (fun _ => Keeps.bind keeps_recorder_handleNext fun _ => Keeps.pure _) s h
  | jobStep => exact sound_nextJob s h
  | advance d => exact h.clocks _ _
  | setClock wall => exact h
  | answer answers => exact h

/-! ## A new client -/

section Made

/-- A program that makes a part: it tells nobody to stop, and its result is as it should be. -/
def Makes {α : Type} (Q : α → Prop) (x : StateM Ground α) : Prop :=
  ∀ g, Q (x.run g).1 ∧ stops (x.run g).2.calls = stops g.calls

theorem Makes.bind {α β : Type} {Q : α → Prop} {R : β → Prop} {x : StateM Ground α} {f : α → StateM Ground β} (first : Makes Q x)
    (next : ∀ a, Q a → Makes R (f a)) : Makes R (x >>= f) := by
  intro g
  obtain ⟨made, quiet⟩ := first g
  obtain ⟨result, quiet'⟩ := next _ made (x.run g).2
  exact ⟨result, quiet'.trans quiet⟩

/-- The workers of a new flag synchronizer stand by, and nothing is under way. -/
theorem makes_flags (syncEnabled : Bool) :
    Makes (fun st => (∀ w ∈ (flagsDesk st).standing, w.isTargeted = false) ∧ (flagsDesk st).underWay = [] ∧
        (flagsDesk st).closed = false)
      (FlagSync.create syncEnabled Setup.makersAlone) := by
  intro g
  cases syncEnabled with
  | true =>
    refine ⟨⟨fun w inside => ?_, rfl, rfl⟩, rfl⟩
    rcases List.mem_cons.1 inside with rfl | periodic
    · rfl
    · rw [List.mem_singleton.1 periodic]
      rfl
  | false =>
    refine ⟨⟨fun w inside => ?_, rfl, rfl⟩, rfl⟩
    rw [List.mem_singleton.1 inside]
    rfl

/-- The periodic workers of a new tracker stand by. -/
theorem makes_tracker (settings : Settings) (keepsHashes : Bool) :
    Makes (fun st : ImpressionTracker.State => ∀ w ∈ st.crew.periodic, w.isTargeted = false)
      (ImpressionTracker.create settings (Ground.impressionQueue Setup.hostAlone)
        (if keepsHashes then some (Ground.hashStore Setup.hostAlone) else none) Setup.makersAlone) := by
  have restored : Makes (fun _ => True) (SeenCache.restore settings.observerCapacity
      (if keepsHashes then some (Ground.hashStore Setup.hostAlone) else none)) := by
    cases keepsHashes with
    | true =>
      refine Makes.bind (Q := fun _ => True) (fun g => ⟨trivial, rfl⟩) fun result _ => ?_
      cases result with
      | ok seen => exact fun g => ⟨trivial, rfl⟩
      | error _ => exact fun g => ⟨trivial, rfl⟩
    | false => exact fun g => ⟨trivial, rfl⟩
  have crewed : Makes (fun crew : ImpressionTracker.Crew => ∀ w ∈ crew.periodic, w.isTargeted = false)
      (ImpressionTracker.createCrew Setup.makersAlone) := by
    intro g
    refine ⟨fun w inside => ?_, rfl⟩
    change w ∈ [_, _, _] at inside
    rw [List.mem_cons, List.mem_cons, List.mem_singleton] at inside
    rcases inside with rfl | rfl | rfl <;> rfl
  refine restored.bind fun observer _ => crewed.bind fun crew untargeted => ?_
  exact fun g => ⟨untargeted, rfl⟩

/-- The periodic worker of a new event recorder stands by. -/
theorem makes_recorder (settings : Settings) :
    Makes (fun st => st.periodic.isTargeted = false) (EventRecorder.create settings Setup.makersAlone) :=
  fun _ => ⟨rfl, rfl⟩

/-- The parts of a new client have their workers stand by, and nothing is under way. -/
theorem Setup.makes_parts (u : Setup) :
    Makes (fun made => ((∀ w ∈ (flagsDesk made.1).standing, w.isTargeted = false) ∧ (flagsDesk made.1).underWay = [] ∧
        (flagsDesk made.1).closed = false) ∧
      (∀ w ∈ made.2.1.crew.periodic, w.isTargeted = false) ∧ made.2.2.periodic.isTargeted = false) u.parts := by
  refine (makes_flags u.settings.syncEnabled).bind fun flags hflags => ?_
  refine (makes_tracker u.settings u.keepsHashes).bind fun tracker htracker => ?_
  exact (makes_recorder u.settings).bind fun events hevents => fun g => ⟨⟨hflags, htracker, hevents⟩, rfl⟩

/-- The books of a new client are sound. -/
theorem Setup.sound_scene (u : Setup) : Sound u.scene := by
  obtain ⟨⟨⟨standing, empty, opened⟩, tracker, events⟩, stopless⟩ := u.makes_parts { answers := u.answers }
  obtain ⟨base, max, guardian, health, manager⟩ := Manager.State.eq_of_build u.built
  have nothing : (flagsDesk u.scene.flags).underWay = [] := empty
  have flags : Desk.IsOrderly (flagsDesk u.scene.flags) := by
    refine ⟨standing, ?_, TimerTable.isSlot_new, fun closed => (Bool.false_ne_true (opened.symm.trans closed)).elim⟩
    rw [nothing]
    exact List.forall_mem_nil _
  have other : Desk.IsOrderly (segmentsDesk nobody.segments) :=
    ⟨List.forall_mem_singleton.2 rfl, List.forall_mem_nil _, TimerTable.isSlot_new, fun _ => ⟨rfl, rfl⟩⟩
  have desks (d : Nat) : (u.scene.ledger.desk d).IsOrderly := by
    cases d with
    | zero => exact flags
    | succ b => exact other
  have uncharged (w : Worker) : u.scene.ledger.charge w = 0 := by
    show (stops (u.parts.run { answers := u.answers }).2.calls).count w +
      ((flagsDesk u.scene.flags).underWay ++ []).count w = 0
    rw [stopless, nothing]
    rfl
  have free : u.scene.manager.reconnect.Holds none := by
    show u.manager.reconnect.Holds none
    rw [manager]
    exact BackoffTimer.holds_new _
  have going : u.scene.manager.stopped = false := by
    show u.manager.stopped = false
    rw [manager]
  refine ⟨⟨List.forall_mem_cons.2 ⟨events, tracker⟩, desks, fun w _ => ?_⟩, ⟨List.nodup_nil, nofun⟩, nofun, ⟨none, free⟩, ?_⟩
  · rw [uncharged]
    exact Nat.zero_le _
  · exact fun stopped => (Bool.false_ne_true (going.symm.trans stopped)).elim

end Made

/-- The books of a client are sound whatever has happened to it. -/
theorem Setup.sound (u : Setup) (inputs : List Input) : Sound (u.after inputs) := by
  induction inputs with
  | nil => exact u.sound_scene
  | cons i past ih => exact Sound.take ih i

end FlagKeeper.Ensemble
