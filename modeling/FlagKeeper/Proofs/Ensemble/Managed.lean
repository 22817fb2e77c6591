import FlagKeeper.Proofs.Ensemble.Whole
import FlagKeeper.Proofs.Timing.BackoffTimer

/-!
# The manager keeps the books

What always holds of a client is `Ledger.IsSound`: the books are in order, everything rests once the synchronizer is destroyed, the
reconnection timer is a slot, and a manager that is stopped has nothing set, is not ready, and has destroyed the synchronizer. The
programs of the manager keep it. While they run the manager is not stopped (`Live`), so that they may set the timer and declare the
client ready.
-/

namespace FlagKeeper.Ensemble

open Ledger (Pace)

/-- What always holds of the books, the manager and its timer included. While an identity comes or goes, its desk may be open
without its being registered. -/
structure Ledger.IsSound (going : Option BundleId) (l : Ledger) : Prop where
  orderly : l.IsOrderly
  covered : l.IsCovered going
  rests : l.ended = true → l.IsAtRest
  timer : ∃ pending, l.above.reconnect.Holds pending
  stopped : l.above.stopped = true → l.above.reconnect.Holds none ∧ l.above.health.ready = false ∧ l.ended = true

/-- The books of an ensemble are sound. -/
def Sound (s : Ensemble) : Prop := s.ledger.IsSound none

/-- The books of an ensemble are sound, and its manager is not stopped. -/
def Live (s : Ensemble) : Prop := Sound s ∧ s.manager.stopped = false

variable {p : Pace} {l : Ledger} {s e : Ensemble}

section Steps

/-- Steps end nothing, register nobody, and leave the manager alone. -/
theorem Since.fixed (h : Since p l s) : s.ledger.ended = l.ended ∧ s.ledger.bundles = l.bundles ∧ s.ledger.above = l.above := by
  unfold Since at h
  generalize s.ledger = l' at h
  induction h with
  | refl => exact ⟨rfl, rfl, rfl⟩
  | tail _ step ih =>
    obtain ⟨ended, bundles, above⟩ := step.fixed
    exact ⟨ended.trans ih.1, bundles.trans ih.2.1, above.trans ih.2.2⟩

/-- What a step keeps is kept by steps. -/
theorem Since.carry {Q : Ledger → Prop} (h : Since p l s) (kept : ∀ l l', Ledger.Step p l l' → Q l → Q l') (held : Q l) :
    Q s.ledger := by
  unfold Since at h
  generalize s.ledger = l' at h
  induction h with
  | refl => exact held
  | tail _ step ih => exact kept _ _ step ih

/-- Steps keep the books sound; work is taken on only before the end. -/
theorem Since.sound {going : Option BundleId} (h : Since p l s) (held : l.IsSound going)
    (alive : p = .working → l.ended = false) : s.ledger.IsSound going := by
  obtain ⟨ended, -, above⟩ := h.fixed
  refine ⟨h.carry (fun _ _ step => step.keeps) held.orderly, h.carry (fun _ _ step => step.covered) held.covered, ?_, ?_, ?_⟩
  · intro finished
    rw [ended] at finished
    refine h.carry (fun _ _ step => step.rests ?_) (held.rests finished)
    intro working
    exact Bool.false_ne_true ((alive working).symm.trans finished)
  · rw [above]
    exact held.timer
  · rw [above, ended]
    exact held.stopped

/-- A program that takes on no work keeps the books sound. -/
theorem Keeps.sound {α : Type} {x : Playing α} (kept : ∀ l, Keeps (Since .settling l) x) : Keeps Sound x :=
  fun s held => (kept s.ledger s .refl).sound held nofun

/-- A program that takes on no work leaves a manager going. -/
theorem Keeps.live {α : Type} {x : Playing α} (kept : ∀ l, Keeps (Since .settling l) x) : Keeps Live x := by
  intro s held
  have after := kept s.ledger s .refl
  have above : (x.run s).2.manager = s.manager := after.fixed.2.2
  refine ⟨after.sound held.1 nofun, ?_⟩
  rw [above]
  exact held.2

/-- Whatever the synchronizer is told but to end keeps the books sound, and leaves the manager as it is. -/
theorem sound_synchronizer_run (held : Sound s) {command : Synchronizer.Command} (other : command ≠ .destroy) :
    Sound ((e.fullSynchronizer.run command).run s).2 ∧ ((e.fullSynchronizer.run command).run s).2.manager = s.manager := by
  cases destroyed : s.synchronizer.destroyed with
  | true =>
    have after : Since .closing s.ledger ((e.fullSynchronizer.run command).run s).2 :=
      since_synchronizer_destroyed destroyed .refl command
    exact ⟨after.sound held nofun, after.fixed.2.2⟩
  | false =>
    have after : Since .working s.ledger ((e.fullSynchronizer.run command).run s).2 :=
      keeps_synchronizer_run other s .refl
    exact ⟨after.sound held fun _ => destroyed, after.fixed.2.2⟩

/-- The manager tells the synchronizer something. -/
theorem live_synchronizer {command : Synchronizer.Command} (other : command ≠ .destroy) :
    Keeps Live (e.syncManager.synchronizer command) := by
  intro s held
  obtain ⟨sound, same⟩ := sound_synchronizer_run (e := e) held.1 other
  refine ⟨sound, ?_⟩
  show ((e.fullSynchronizer.run command).run s).2.manager.stopped = false
  rw [same]
  exact held.2

end Steps

/-! ## What the manager keeps -/

section State

/-- A manager that is not stopped may change as long as its timer stays a slot. -/
theorem Live.changed (h : Live s) {st : Manager.State} (timer : ∃ pending, st.reconnect.Holds pending)
    (going : st.stopped = false) : Live { s with manager := st } := by
  refine ⟨⟨h.1.orderly.elsewhere _ _ _, h.1.covered.elsewhere _ _, h.1.rests, timer, fun stopped => ?_⟩, going⟩
  exact (Bool.false_ne_true (going.symm.trans stopped)).elim

/-- A change that concerns neither the timer nor the end. -/
theorem live_modify {f : Manager.State → Manager.State}
    (aside : ∀ st, (f st).reconnect = st.reconnect ∧ (f st).stopped = st.stopped) : Keeps Live (managerCell.modify f) := by
  intro s h
  refine h.changed ?_ ((aside s.manager).2.trans h.2)
  rw [(aside s.manager).1]
  exact h.1.timer

theorem live_noteHealth (change : Health → Int → Health) : Keeps Live (e.syncManager.noteHealth change) :=
  Keeps.bind (fun _ h => h) fun _ => live_modify fun _ => ⟨rfl, rfl⟩

theorem live_noteReady (ready : Bool) : Keeps Live (e.syncManager.noteReady ready) := live_modify fun _ => ⟨rfl, rfl⟩

/-- Cancelling the reconnection empties the slot. -/
theorem live_cancelReconnection : Keeps Live e.syncManager.cancelReconnection := by
  intro s h
  obtain ⟨pending, holds⟩ := h.1.timer
  exact h.changed ⟨none, holds.cancel⟩ h.2

/-- Telling the streaming connection does not concern the books. -/
theorem keeps_tellPush (order : PushOrder) : Keeps (Since p l) (e.syncManager.tellPush order) := by
  unfold Manager.tellPush syncManager
  cases e.hasPush with
  | true => exact Keeps.serve_aside rfl
  | false => exact Keeps.pure _

theorem live_tellPush (order : PushOrder) : Keeps Live (e.syncManager.tellPush order) := Keeps.live fun _ => keeps_tellPush order

theorem live_tellLivePush (order : PushOrder) : Keeps Live (e.syncManager.tellLivePush order) :=
  Keeps.check fun _ => live_tellPush order

/-- What is only written down. -/
theorem live_serve {c : Call} (aside : c.stop? = none) : Keeps Live (Ground.serve hostCell c) :=
  Keeps.live fun _ => Keeps.serve_aside aside

theorem live_reportMode (mode : SyncMode) (reason : String) : Keeps Live (e.syncManager.reportMode mode reason) :=
  Keeps.bind (live_serve rfl) fun _ => live_serve rfl

/-- Turning to polling. -/
theorem live_enablePolling (reason : String) : Keeps Live (e.syncManager.enablePolling reason) := by
  refine Keeps.check fun _ => ?_
  refine Keeps.bind (live_modify fun _ => ⟨rfl, rfl⟩) fun _ => Keeps.bind (live_synchronizer (by simp)) fun _ => ?_
  exact Keeps.bind (live_noteHealth _) fun _ => live_reportMode _ _

theorem live_stopStreaming (reason : String) : Keeps Live (e.syncManager.stopStreaming reason) := by
  refine Keeps.bind live_cancelReconnection fun _ => Keeps.bind (live_modify fun _ => ⟨rfl, rfl⟩) fun _ => ?_
  exact Keeps.bind (live_enablePolling reason) fun _ => Keeps.bind (live_tellPush _) fun _ => live_noteHealth _

theorem live_stopTransports : Keeps Live e.syncManager.stopTransports := by
  refine Keeps.bind live_cancelReconnection fun _ => Keeps.bind (live_tellPush _) fun _ => ?_
  refine Keeps.bind (live_synchronizer (by simp)) fun _ => Keeps.bind (live_modify fun _ => ⟨rfl, rfl⟩) fun _ => ?_
  refine Keeps.bind (live_noteHealth _) fun _ => Keeps.bind (live_noteHealth _) fun _ => ?_
  exact Keeps.bind (live_noteHealth _) fun _ => live_serve rfl

/-- Setting the timer fills the slot, or leaves it filled. -/
theorem live_scheduleReconnection : Keeps Live e.syncManager.scheduleReconnection := by
  unfold Manager.scheduleReconnection
  refine Keeps.ite (Keeps.bind (fun _ h => h) fun now => Keeps.bind ?_ fun delay => ?_) (Keeps.pure _)
  · intro s h
    refine h.changed ?_ h.2
    obtain ⟨pending, holds⟩ := h.1.timer
    cases pending with
    | none => exact ⟨_, (holds.schedule_none now ()).2.2⟩
    | some sleeper =>
      refine ⟨some sleeper, ?_⟩
      show (s.manager.reconnect.schedule now ()).2.Holds (some sleeper)
      have kept : s.manager.reconnect.schedule now () = (none, s.manager.reconnect) := holds.schedule_some now ()
      rw [kept]
      exact holds
  · cases delay with
    | none => exact Keeps.pure _
    | some d => exact live_serve rfl

theorem live_chooseTransport : Keeps Live e.syncManager.chooseTransport := by
  refine Keeps.bind (Keeps.get _ _) fun st => Keeps.ite ?_ (Keeps.ite (live_tellPush _) ?_)
  · exact Keeps.bind (live_noteHealth _) fun _ => live_noteHealth _
  · exact Keeps.bind (live_modify fun _ => ⟨rfl, rfl⟩) fun _ => live_enablePolling _

/-- The first fetch. -/
theorem live_startRemote : Keeps Live e.syncManager.startRemote := by
  refine Keeps.check fun _ => ?_
  refine Keeps.bind (live_modify fun _ => ⟨rfl, rfl⟩) fun _ => Keeps.bind (live_noteReady _) fun _ => ?_
  refine Keeps.bind (live_synchronizer (by simp)) fun _ => Keeps.bind live_chooseTransport fun _ => ?_
  refine Keeps.bind (Keeps.bind (Keeps.get _ _) fun _ => Keeps.pure _) fun consent => ?_
  exact Keeps.ite (live_synchronizer (by simp)) (live_noteHealth _)

/-- Whatever status event a manager acts on, it goes on. -/
theorem live_act (event : StatusEvent) : Keeps Live (e.syncManager.act event) := by
  cases event with
  | pushSubsystemUp =>
    refine Keeps.bind live_cancelReconnection fun _ => Keeps.bind (live_synchronizer (by simp)) fun _ => ?_
    refine Keeps.bind (live_synchronizer (by simp)) fun _ => Keeps.bind (live_modify fun _ => ⟨rfl, rfl⟩) fun _ => ?_
    exact Keeps.bind (live_noteHealth _) fun _ => Keeps.bind (live_noteHealth _) fun _ => live_reportMode _ _
  | pushSubsystemDown =>
    refine Keeps.bind live_cancelReconnection fun _ => Keeps.bind (live_modify fun _ => ⟨rfl, rfl⟩) fun _ => ?_
    exact Keeps.bind (live_noteHealth _) fun _ => live_enablePolling _
  | pushSubsystemDisabled => exact live_stopStreaming _
  | pushRetryableError =>
    refine Keeps.bind (live_modify fun _ => ⟨rfl, rfl⟩) fun _ => Keeps.bind (live_noteHealth _) fun _ => ?_
    exact Keeps.bind (live_enablePolling _) fun _ => live_scheduleReconnection
  | pushNonRetryableError => exact live_stopStreaming _
  | pushReset =>
    refine Keeps.bind (live_tellPush _) fun _ => Keeps.bind (live_modify fun _ => ⟨rfl, rfl⟩) fun _ => ?_
    exact live_scheduleReconnection
  | pushDelayReceived seconds => exact live_modify fun _ => ⟨rfl, rfl⟩
  | syncExecuted => exact Keeps.bind (fun _ h => h) fun _ => live_modify fun _ => ⟨rfl, rfl⟩
  | uriTooLongOnSync => exact live_stopTransports
  | splitLoadedFromCache => exact live_startRemote

end State

/-! ## The calls to the manager -/

section Calls

/-- What keeps a manager going keeps the books sound while it does. -/
theorem sound_of_live {x : Playing Unit} (kept : Keeps Live x) (h : Sound s) (going : s.manager.stopped = false) :
    Sound (x.run s).2 := (kept s ⟨h, going⟩).1

/-- A change of the manager that concerns neither the timer, nor the end, nor whether it is ready. -/
theorem sound_modify {f : Manager.State → Manager.State}
    (aside : ∀ st, (f st).reconnect = st.reconnect ∧ (f st).stopped = st.stopped ∧ (f st).health = st.health) :
    Keeps Sound (managerCell.modify f) := by
  intro s h
  obtain ⟨reconnect, stopped, health⟩ := aside s.manager
  refine ⟨h.orderly.elsewhere _ _ _, h.covered.elsewhere _ _, h.rests, ?_, ?_⟩
  · show ∃ pending, (f s.manager).reconnect.Holds pending
    rw [reconnect]
    exact h.timer
  · show (f s.manager).stopped = true → (f s.manager).reconnect.Holds none ∧ (f s.manager).health.ready = false ∧ _
    rw [reconnect, stopped, health]
    exact h.stopped

theorem sound_endLoop : Keeps Sound e.syncManager.endLoop :=
  Keeps.bind (sound_modify fun _ => ⟨rfl, rfl, rfl⟩) fun _ _ h => h

/-- Handling a status event. -/
theorem sound_handleEvent (event : StatusEvent) : Keeps Sound (e.syncManager.handleEvent event) := by
  refine Keeps.bind (Keeps.sound fun _ => Keeps.serve_aside rfl) fun _ s h => ?_
  refine after_guard (c := fun st : Manager.State => st.stopped = true) rfl h fun going => ?_
  by_cases paused : s.manager.paused = true
  · rw [if_pos paused]
    by_cases recorded : event.isBookkeeping = true
    · rw [if_pos recorded]
      refine sound_modify (fun _ => ?_) s h
      exact ⟨rfl, rfl, rfl⟩
    · rw [if_neg recorded]
      exact h
  · rw [if_neg paused]
    exact sound_of_live (live_act event) h (Bool.not_eq_true _ ▸ going)

/-- A round of the loop. -/
theorem sound_serveNext : Keeps Sound e.syncManager.serveNext := by
  refine Keeps.bind (Keeps.get _ _) fun st => Keeps.ite (Keeps.pure _) (Keeps.ite ?_ ?_)
  · exact Keeps.bind sound_endLoop fun _ => Keeps.pure _
  · refine Keeps.bind (fun _ h => h) fun next => ?_
    cases next with
    | none => exact Keeps.pure _
    | some event => exact Keeps.bind (sound_handleEvent event) fun _ => Keeps.pure _

/-- The start of the manager. -/
theorem sound_start : Keeps Sound e.syncManager.start := by
  intro s h
  refine after_check (c := fun st : Manager.State => st.loop = .waiting) rfl h fun _ => ?_
  by_cases stopped : s.manager.stopped = true
  · rw [if_pos stopped]
    exact sound_endLoop s h
  · rw [if_neg stopped]
    refine sound_of_live ?_ h (Bool.not_eq_true _ ▸ stopped)
    refine Keeps.bind (live_serve rfl) fun _ => Keeps.bind (live_modify fun _ => ⟨rfl, rfl⟩) fun _ => ?_
    refine Keeps.bind (live_synchronizer (by simp)) fun _ => Keeps.bind (live_synchronizer (by simp)) fun _ => ?_
    exact live_synchronizer (by simp)

/-- A pause empties the slot of the timer. -/
theorem sound_pause : Keeps Sound e.syncManager.pause := by
  intro s h
  refine after_guard (c := fun st : Manager.State => (st.stopped || st.paused) = true) rfl h fun going => ?_
  rw [Bool.or_eq_true, not_or, Bool.not_eq_true] at going
  refine sound_of_live ?_ h going.1
  refine Keeps.bind (fun s h => ?_) fun _ => Keeps.bind (live_tellLivePush _) fun _ => ?_
  · obtain ⟨pending, holds⟩ := h.1.timer
    exact h.changed ⟨none, holds.suspend_snd⟩ h.2
  · exact Keeps.bind (live_synchronizer (by simp)) fun _ => live_serve rfl

theorem live_takeUpReconnection : Keeps Live e.syncManager.takeUpReconnection := by
  refine Keeps.bind (fun s h => h.changed h.1.timer h.2) fun deferred => ?_
  exact Keeps.ite live_scheduleReconnection (Keeps.pure _)

theorem live_catchUp : Keeps Live e.syncManager.catchUp := by
  refine Keeps.bind (Keeps.get _ _) fun st => Keeps.bind (fun _ h => h) fun now => ?_
  exact Keeps.ite (Keeps.bind (live_synchronizer (by simp)) fun _ => Keeps.pure _) (Keeps.pure _)

/-- The end of a pause. -/
theorem sound_resume : Keeps Sound e.syncManager.resume := by
  intro s h
  refine after_guard (c := fun st : Manager.State => (st.stopped || !st.paused) = true) rfl h fun going => ?_
  rw [Bool.or_eq_true, not_or, Bool.not_eq_true] at going
  refine sound_of_live ?_ h going.1
  refine Keeps.bind (live_modify fun _ => ⟨rfl, rfl⟩) fun _ => Keeps.bind (live_synchronizer (by simp)) fun _ => ?_
  refine Keeps.bind (live_tellLivePush _) fun _ => Keeps.bind live_takeUpReconnection fun _ => ?_
  exact Keeps.bind live_catchUp fun forced => live_serve rfl

/-- The user's answer. -/
theorem sound_setConsent (consent : Consent) : Keeps Sound (e.syncManager.setConsent consent) := by
  intro s h
  refine after_check (c := fun st : Manager.State => (!st.stopped) = true) rfl h fun going => ?_
  refine sound_of_live ?_ h (Bool.not_eq_true' _ ▸ going)
  exact Keeps.bind (live_synchronizer (by simp)) fun _ => Keeps.ite (live_noteHealth _) (live_noteHealth _)

/-- A timer of the manager that runs out. -/
theorem sound_timerOver (id : Nat) : Keeps Sound (e.syncManager.timerOver id) := by
  refine Keeps.bind (fun s h => ?_) fun task => Keeps.pure _
  refine ⟨h.orderly.elsewhere _ _ _, h.covered.elsewhere _ _, h.rests, ?_, fun stopped => ?_⟩
  · obtain ⟨pending, holds⟩ := h.timer
    rcases holds.wake id with kept | emptied
    · exact ⟨pending, kept⟩
    · exact ⟨none, emptied⟩
  · obtain ⟨holds, rest⟩ := h.stopped stopped
    exact ⟨or_self_iff.1 (holds.wake id), rest⟩

theorem keeps_reconnectDue : Keeps (Since p l) e.syncManager.reconnectDue :=
  Keeps.check fun _ => keeps_tellPush _

end Calls

end FlagKeeper.Ensemble
