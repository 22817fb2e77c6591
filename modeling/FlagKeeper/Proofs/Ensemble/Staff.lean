import FlagKeeper.Proofs.Ensemble.Reached

/-!
# Who stands by

`Setup.staffed`: whatever has happened to a client, the workers that stand by are those that were made for their desks. The desk of
the flags has one that fetches all flags, that of a registered identity one that fetches the segments of its key, and the pipelines
have one each that sends again and again what they hold.

The parts below the manager never exchange a worker that stands by, as the books show. Of the manager it matters only that it reaches
a desk through the synchronizer: `Steady` lists what a property has to bear for all programs of a manager to keep it.
-/

namespace FlagKeeper.Ensemble

open Ledger (Pace)

variable {P : Ensemble → Prop} {p : Pace} {l l' : Ledger} {s e : Ensemble} {bundle : BundleId}

/-! ## The staff in the books -/

/-- The workers that stand by at a desk: the main one, and at most such that do the same again and again. -/
def Desk.IsStaffed (k : Desk) (main periodic : WorkerKind) : Prop :=
  ∃ w rest, k.standing = w :: rest ∧ w.kind = main ∧ ∀ other ∈ rest, other.kind = periodic

/-- The workers that stand by are those that were made for their desks. -/
structure Ledger.IsStaffed (l : Ledger) : Prop where
  flags : (l.desk 0).IsStaffed .flagsSync .periodicFlags
  registered : ∀ key b, (key, b) ∈ l.bundles →
    b + 1 < l.desks.length ∧ (l.desk (b + 1)).IsStaffed (.segmentsSync key) (.periodicSegments key)
  pipelines : l.pipelines.map Worker.kind = [.periodicEvents, .periodicImpressions, .periodicCounts, .periodicUniqueKeys]

/-- The books of an ensemble show the staff that was made. -/
def Staffed (s : Ensemble) : Prop := s.ledger.IsStaffed

namespace Ledger

/-- Putting a desk at which the same workers stand by changes nothing about that at any desk. -/
theorem standing_put {d : Nat} {k : Desk} (same : k.standing = (l.desk d).standing) (d' : Nat) :
    ((l.put d k).desk d').standing = (l.desk d').standing := by
  rcases l.desk_put d k d' with ⟨rfl, put⟩ | kept
  · rw [put, same]
  · rw [kept]

/-- A step exchanges nobody who stands by. -/
theorem Step.standing (step : Step p l l') (d : Nat) : (l'.desk d).standing = (l.desk d).standing := by
  cases step with
  | standDown w stands => rfl
  | close d' opened =>
    exact standing_put (k := { l.desk d' with underWay := [], timers := (l.desk d').timers.cancelAll, closed := true }) rfl d
  | letGo calm d' rest fewer => exact standing_put (k := { l.desk d' with underWay := rest }) rfl d
  | ring calm d' id => exact standing_put (k := { l.desk d' with timers := ((l.desk d').timers.wake id).2 }) rfl d
  | take busy d' opened w targeted fresh =>
    exact standing_put (k := { l.desk d' with underWay := (l.desk d').underWay ++ [w] }) rfl d
  | arm busy d' opened now delay =>
    exact standing_put (k := { l.desk d' with timers := ((l.desk d').timers.add .syncSegments now delay ()).2 }) rfl d

/-- A step brings no desk and takes none away, and leaves the pipelines their workers. -/
theorem Step.places (step : Step p l l') : l'.desks.length = l.desks.length ∧ l'.pipelines = l.pipelines := by
  cases step <;> exact ⟨by simp [put], rfl⟩

/-- Every step leaves the staff as it is. -/
theorem Step.staffed (step : Step p l l') (h : l.IsStaffed) : l'.IsStaffed := by
  obtain ⟨places, pipelines⟩ := step.places
  have desk {d : Nat} {main periodic : WorkerKind} (old : (l.desk d).IsStaffed main periodic) :
      (l'.desk d).IsStaffed main periodic := by
    unfold Desk.IsStaffed
    rw [step.standing d]
    exact old
  refine ⟨desk h.flags, fun key b inside => ?_, ?_⟩
  · rw [step.fixed.2.1] at inside
    obtain ⟨there, staffed⟩ := h.registered key b inside
    exact ⟨places ▸ there, desk staffed⟩
  · rw [pipelines]
    exact h.pipelines

/-- The staff has nothing to do with who was told to stop, with the end, or with the manager. -/
theorem IsStaffed.elsewhere (h : l.IsStaffed) (stops : List Worker) (ended : Bool) (above : Manager.State) :
    Ledger.IsStaffed { l with stops, ended, above } := ⟨h.flags, h.registered, h.pipelines⟩

/-- The staff is one for whoever else is registered whose desk is staffed. -/
theorem IsStaffed.passing (h : l.IsStaffed) {bundles : List (Key × BundleId)}
    (registered : ∀ key b, (key, b) ∈ bundles →
      (key, b) ∈ l.bundles ∨ b + 1 < l.desks.length ∧ (l.desk (b + 1)).IsStaffed (.segmentsSync key) (.periodicSegments key)) :
    Ledger.IsStaffed { l with bundles } :=
  ⟨h.flags, fun key b inside => (registered key b inside).elim (h.registered key b) id, h.pipelines⟩

/-- Who is registered after a bundle was put was so before, or is the one that was put. -/
theorem of_mem_put {key key' : Key} {b : BundleId} {bundles : List (Key × BundleId)}
    (inside : (key', b) ∈ (Registry.put key bundle bundles).2) : (key', b) ∈ bundles ∨ key' = key ∧ b = bundle := by
  induction bundles with
  | nil =>
    cases List.mem_singleton.1 inside
    exact .inr ⟨rfl, rfl⟩
  | cons entry rest ih =>
    obtain ⟨k, held⟩ := entry
    unfold Registry.put at inside
    by_cases here : k = key
    · rw [if_pos here] at inside
      rcases List.mem_cons.1 inside with new | later
      · cases new
        exact .inr ⟨here, rfl⟩
      · exact .inl (List.mem_cons_of_mem _ later)
    · rw [if_neg here] at inside
      rcases List.mem_cons.1 inside with first | later
      · exact .inl (first ▸ List.mem_cons_self)
      · exact (ih later).imp_left (List.mem_cons_of_mem _)

end Ledger

/-! ## What all programs of a manager keep -/

/-- A property that all programs of a manager keep: it has nothing to do with the manager, with the events that wait, or with a call
that tells no worker to stop, and whatever the synchronizer is told keeps it. -/
structure Steady (P : Ensemble → Prop) : Prop where
  manager : ∀ s st, P s → P { s with manager := st }
  inbox : ∀ s inbox, P s → P { s with inbox }
  note : ∀ s c, c.stop? = none → P s → P (s.note c)
  synchronizer : ∀ (e : Ensemble) command, Keeps P (e.fullSynchronizer.run command)

namespace Steady

variable (hP : Steady P)

include hP

theorem modify (f : Manager.State → Manager.State) : Keeps P (managerCell.modify f) := fun s h => hP.manager s _ h

theorem step {α : Type} (f : Manager.State → α × Manager.State) : Keeps P (managerCell.step f) := fun s h => hP.manager s _ h

theorem serve {c : Call} (aside : c.stop? = none) : Keeps P (Ground.serve hostCell c) := fun s h => hP.note s c aside h

theorem noteHealth (change : Health → Int → Health) : Keeps P (e.syncManager.noteHealth change) :=
  Keeps.bind (fun _ h => h) fun _ => hP.modify _

theorem tellPush (order : PushOrder) : Keeps P (e.syncManager.tellPush order) := by
  unfold Manager.tellPush syncManager
  cases e.hasPush with
  | true => exact hP.serve rfl
  | false => exact Keeps.pure _

theorem tellLivePush (order : PushOrder) : Keeps P (e.syncManager.tellLivePush order) :=
  Keeps.check fun _ => hP.tellPush order

theorem enablePolling (reason : String) : Keeps P (e.syncManager.enablePolling reason) := by
  refine Keeps.check fun _ => Keeps.bind (hP.modify _) fun _ => Keeps.bind (hP.synchronizer e _) fun _ => ?_
  exact Keeps.bind (hP.noteHealth _) fun _ => Keeps.bind (hP.serve rfl) fun _ => hP.serve rfl

theorem stopStreaming (reason : String) : Keeps P (e.syncManager.stopStreaming reason) := by
  refine Keeps.bind (hP.modify _) fun _ => Keeps.bind (hP.modify _) fun _ => ?_
  exact Keeps.bind (hP.enablePolling reason) fun _ => Keeps.bind (hP.tellPush _) fun _ => hP.noteHealth _

theorem stopTransports : Keeps P e.syncManager.stopTransports := by
  refine Keeps.bind (hP.modify _) fun _ => Keeps.bind (hP.tellPush _) fun _ => Keeps.bind (hP.synchronizer e _) fun _ => ?_
  refine Keeps.bind (hP.modify _) fun _ => Keeps.bind (hP.noteHealth _) fun _ => Keeps.bind (hP.noteHealth _) fun _ => ?_
  exact Keeps.bind (hP.noteHealth _) fun _ => hP.serve rfl

theorem scheduleReconnection : Keeps P e.syncManager.scheduleReconnection := by
  refine Keeps.ite (Keeps.bind (fun _ h => h) fun _ => Keeps.bind (hP.step _) fun delay => ?_) (Keeps.pure _)
  cases delay with
  | none => exact Keeps.pure _
  | some _ => exact hP.serve rfl

theorem chooseTransport : Keeps P e.syncManager.chooseTransport := by
  refine Keeps.bind (Keeps.get _ _) fun _ => Keeps.ite ?_ (Keeps.ite (hP.tellPush _) ?_)
  · exact Keeps.bind (hP.noteHealth _) fun _ => hP.noteHealth _
  · exact Keeps.bind (hP.modify _) fun _ => hP.enablePolling _

theorem startRemote : Keeps P e.syncManager.startRemote := by
  refine Keeps.check fun _ => Keeps.bind (hP.modify _) fun _ => Keeps.bind (hP.modify _) fun _ => ?_
  refine Keeps.bind (hP.synchronizer e _) fun _ => Keeps.bind hP.chooseTransport fun _ => ?_
  exact Keeps.bind (Keeps.bind (Keeps.get _ _) fun _ => Keeps.pure _) fun _ => Keeps.ite (hP.synchronizer e _) (hP.noteHealth _)

/-- Whatever status event a manager acts on. -/
theorem act (event : StatusEvent) : Keeps P (e.syncManager.act event) := by
  cases event with
  | pushSubsystemUp =>
    refine Keeps.bind (hP.modify _) fun _ => Keeps.bind (hP.synchronizer e _) fun _ => Keeps.bind (hP.synchronizer e _) fun _ => ?_
    refine Keeps.bind (hP.modify _) fun _ => Keeps.bind (hP.noteHealth _) fun _ => Keeps.bind (hP.noteHealth _) fun _ => ?_
    exact Keeps.bind (hP.serve rfl) fun _ => hP.serve rfl
  | pushSubsystemDown =>
    refine Keeps.bind (hP.modify _) fun _ => Keeps.bind (hP.modify _) fun _ => Keeps.bind (hP.noteHealth _) fun _ => ?_
    exact hP.enablePolling _
  | pushSubsystemDisabled => exact hP.stopStreaming _
  | pushRetryableError =>
    refine Keeps.bind (hP.modify _) fun _ => Keeps.bind (hP.noteHealth _) fun _ => ?_
    exact Keeps.bind (hP.enablePolling _) fun _ => hP.scheduleReconnection
  | pushNonRetryableError => exact hP.stopStreaming _
  | pushReset => exact Keeps.bind (hP.tellPush _) fun _ => Keeps.bind (hP.modify _) fun _ => hP.scheduleReconnection
  | pushDelayReceived seconds => exact hP.modify _
  | syncExecuted => exact Keeps.bind (fun _ h => h) fun _ => hP.modify _
  | uriTooLongOnSync => exact hP.stopTransports
  | splitLoadedFromCache => exact hP.startRemote

theorem endLoop : Keeps P e.syncManager.endLoop := Keeps.bind (hP.modify _) fun _ s h => hP.inbox s _ h

theorem handleEvent (event : StatusEvent) : Keeps P (e.syncManager.handleEvent event) := by
  refine Keeps.bind (hP.serve rfl) fun _ => Keeps.bind (Keeps.get _ _) fun _ => Keeps.ite (Keeps.pure _) ?_
  exact Keeps.ite (Keeps.ite (hP.modify _) (Keeps.pure _)) (hP.act event)

/-- A round of the loop. -/
theorem serveNext : Keeps P e.syncManager.serveNext := by
  refine Keeps.bind (Keeps.get _ _) fun _ => Keeps.ite (Keeps.pure _) (Keeps.ite ?_ ?_)
  · exact Keeps.bind hP.endLoop fun _ => Keeps.pure _
  · refine Keeps.bind (fun s h => hP.inbox s _ h) fun next => ?_
    cases next with
    | none => exact Keeps.pure _
    | some event => exact Keeps.bind (hP.handleEvent event) fun _ => Keeps.pure _

theorem start : Keeps P e.syncManager.start := by
  refine Keeps.check fun _ => Keeps.ite hP.endLoop ?_
  refine Keeps.bind (hP.serve rfl) fun _ => Keeps.bind (hP.modify _) fun _ => Keeps.bind (hP.synchronizer e _) fun _ => ?_
  exact Keeps.bind (hP.synchronizer e _) fun _ => hP.synchronizer e _

theorem pause : Keeps P e.syncManager.pause := by
  refine Keeps.bind (Keeps.get _ _) fun _ => Keeps.ite (Keeps.pure _) (Keeps.bind (hP.modify _) fun _ => ?_)
  exact Keeps.bind (hP.tellLivePush _) fun _ => Keeps.bind (hP.synchronizer e _) fun _ => hP.serve rfl

theorem catchUp : Keeps P e.syncManager.catchUp := by
  refine Keeps.bind (Keeps.get _ _) fun _ => Keeps.bind (fun _ h => h) fun _ => ?_
  exact Keeps.ite (Keeps.bind (hP.synchronizer e _) fun _ => Keeps.pure _) (Keeps.pure _)

theorem resume : Keeps P e.syncManager.resume := by
  refine Keeps.bind (Keeps.get _ _) fun _ => Keeps.ite (Keeps.pure _) (Keeps.bind (hP.modify _) fun _ => ?_)
  refine Keeps.bind (hP.synchronizer e _) fun _ => Keeps.bind (hP.tellLivePush _) fun _ => ?_
  refine Keeps.bind (Keeps.bind (hP.step _) fun _ => Keeps.ite hP.scheduleReconnection (Keeps.pure _)) fun _ => ?_
  exact Keeps.bind hP.catchUp fun _ => hP.serve rfl

theorem destroy : Keeps P e.syncManager.destroy := by
  refine Keeps.check fun _ => Keeps.bind (hP.modify _) fun _ => Keeps.bind (hP.modify _) fun _ => ?_
  refine Keeps.bind (hP.tellPush _) fun _ => Keeps.bind (hP.synchronizer e _) fun _ => Keeps.bind (hP.modify _) fun _ => ?_
  exact Keeps.bind (hP.modify _) fun _ => hP.serve rfl

theorem setConsent (consent : Consent) : Keeps P (e.syncManager.setConsent consent) := by
  refine Keeps.check fun _ => Keeps.bind (hP.synchronizer e _) fun _ => ?_
  exact Keeps.ite (hP.noteHealth _) (hP.noteHealth _)

/-- A timer of the manager that runs out. -/
theorem reconnectTimer (id : Nat) : Keeps P (do if ← e.syncManager.timerOver id then e.syncManager.reconnectDue) := by
  refine Keeps.bind (Keeps.bind (hP.step _) fun _ => Keeps.pure _) fun _ => Keeps.ite ?_ (Keeps.pure _)
  exact Keeps.check fun _ => hP.tellPush _

end Steady

/-! ## The staff of every client -/

section Staffed

/-- What brings the books on by steps leaves the staff as it is. -/
theorem Keeps.staffed {α : Type} {x : Playing α} (kept : ∀ l, Keeps (Since p l) x) : Keeps Staffed x :=
  fun s h => (kept s.ledger s .refl).carry (fun _ _ step => step.staffed) h

/-- An identity that goes leaves the others their staff. -/
theorem Staffed.without (h : Staffed s) (key : Key) : Staffed (s.without key) :=
  Ledger.IsStaffed.passing h fun _ _ inside => .inl (List.mem_filter.1 inside).1

theorem staffed_tearDownAny (key : Key) (going : Option BundleId) : Keeps Staffed (e.tearDownAny key going) :=
  Keeps.staffed (p := .closing) fun _ => keeps_tearDownAny key going

theorem staffed_letGo (key : Key) : Keeps Staffed (e.letGo key) := by
  intro s h
  rw [run_letGo]
  exact staffed_tearDownAny key _ _ (h.without key)

/-- The end of the synchronizer leaves the staff as it is. -/
theorem staffed_shutDown : Keeps Staffed (e.fullSynchronizer.run .destroy) := by
  refine keeps_ifAlive (Keeps.bind (fun s h => h.elsewhere _ _ _) fun _ => ?_)
  refine Keeps.bind (Keeps.staffed (p := .closing) fun _ => keeps_flags_shutDown) fun _ => ?_
  refine Keeps.bind (Keeps.bind (Keeps.get _ _) fun _ => Keeps.forM _ fun key _ => staffed_letGo key) fun _ => ?_
  refine Keeps.bind (Keeps.staffed (p := .closing) fun _ => keeps_tracker_run _) fun _ => ?_
  exact Keeps.staffed (p := .closing) fun _ => keeps_recorder_run _

/-- All programs of a manager leave the staff as it is. -/
theorem steady_staffed : Steady Staffed where
  manager _ st h := h.elsewhere _ _ st
  inbox _ _ h := h
  note s c aside h := by
    unfold Staffed
    rw [ledger_note aside]
    exact h
  synchronizer e command := by
    by_cases last : command = .destroy
    · subst last
      exact staffed_shutDown
    · exact Keeps.staffed (p := .working) fun _ => keeps_synchronizer_run last

/-- The workers of a segment synchronizer that is made are those of its key. -/
theorem create_segments_standing (key : Key) (syncEnabled : Bool) :
    (segmentsDesk ((SegmentSync.create key syncEnabled makers).run s).1).IsStaffed (.segmentsSync key) (.periodicSegments key) := by
  cases syncEnabled with
  | true => exact ⟨_, _, rfl, rfl, List.forall_mem_singleton.2 rfl⟩
  | false => exact ⟨_, _, rfl, rfl, List.forall_mem_nil _⟩

/-- A desk that joins the others changes none of them. -/
theorem Ledger.IsStaffed.join (h : l.IsStaffed) (made : Nat) (standing : List Worker) : (l.join made standing).IsStaffed := by
  have kept {d : Nat} (there : d < l.desks.length) : (l.join made standing).desk d = l.desk d := by
    rcases l.desk_join made standing d with kept | ⟨last, -⟩
    · exact kept
    · omega
  have flags : 0 < l.desks.length := by
    obtain ⟨w, rest, standing, main, -⟩ := h.flags
    refine Nat.pos_of_ne_zero fun none => ?_
    -- nobody has a worker for the flags
    rw [Ledger.desk, List.getElem?_eq_none (Nat.le_of_eq none)] at standing
    cases standing
    cases main
  refine ⟨?_, fun key b inside => ?_, h.pipelines⟩
  · rw [kept flags]
    exact h.flags
  · obtain ⟨there, staffed⟩ := h.registered key b inside
    rw [kept there]
    refine ⟨?_, staffed⟩
    show b + 1 < (l.desks ++ [_]).length
    rw [List.length_append]
    exact Nat.lt_add_right _ there

/-- An identity comes with its staff. -/
theorem staffed_enroll (h : Staffed s) (key : Key) : Staffed ((s.enroll key).run s).2 := by
  obtain ⟨st, more, calls, run, stopless, -, desk⟩ := run_create_segments (s := s) key s.settings.syncEnabled
  have staff : (segmentsDesk st).IsStaffed (.segmentsSync key) (.periodicSegments key) := by
    have made := create_segments_standing (s := s) key s.settings.syncEnabled
    rw [run] at made
    exact made
  let s' : Ensemble :=
    { s with
      ground := { s.ground with made := s.ground.made + more, calls := calls ++ s.ground.calls }
      identities := s.identities ++ [⟨key, st⟩] }
  have joined : s'.ledger = s.ledger.join (s.ground.made + more) (segmentsDesk st).standing := by
    unfold ledger Ledger.join
    rw [stops_append, stopless, List.map_append, List.map_singleton, desk]
    rfl
  have staffed : Staffed s' := by
    unfold Staffed
    rw [joined]
    exact Ledger.IsStaffed.join h _ _
  have last : s'.ledger.desk (s.identities.length + 1) = segmentsDesk st := by
    rw [desk_segments]
    simp [identity, s']
  have enrolled : (s.enroll key).run s = (s'.identityRegistry.register key s.identities.length).run s' := by
    unfold enroll
    rw [run_bind, run]
    rfl
  rw [enrolled, run_register]
  refine staffed_tearDownAny key _ _ (Ledger.IsStaffed.passing staffed fun key' b inside => ?_)
  rcases Ledger.of_mem_put inside with before | ⟨rfl, rfl⟩
  · exact .inl before
  · refine .inr ⟨?_, last ▸ staff⟩
    show s.identities.length + 1 < s'.ledger.desks.length
    simp [ledger, s']

/-- A timer of an identity that runs out. -/
theorem staffed_segmentsTimer (bundle : BundleId) (id : Nat) : Keeps Staffed (e.segmentsTimerOver bundle id) := by
  refine Keeps.bind (fun s h => ?_) fun due => Keeps.ite ?_ (Keeps.pure _)
  · have step := Ledger.Step.ring (p := .settling) (l := s.ledger) (by simp) (bundle + 1) id
    rw [desk_segments] at step
    exact (since_setSegments .refl rfl step).carry (fun _ _ step => step.staffed) h
  · exact Keeps.staffed (p := .working) fun _ => keeps_delayOver

/-- The background leaves the staff as it is. -/
theorem staffed_nextJob : Keeps Staffed e.nextJob := by
  intro s h
  rw [run_nextJob]
  cases s.jobs with
  | nil => exact h
  | cons job rest => exact Keeps.staffed (p := .settling) (fun _ => keeps_runJob (by simp) job) { s with jobs := rest } h

/-- What the clocks show does not matter. -/
theorem Staffed.clocks (h : Staffed s) (steady : Nat) (wall : Int) : Staffed { s with steady, wall } := h

/-- Every input leaves the staff as it is. -/
theorem Staffed.take (h : Staffed s) (i : Input) : Staffed (s.take i) := by
  cases i with
  | start => exact steady_staffed.start s h
  | pause => exact steady_staffed.pause s h
  | resume => exact steady_staffed.resume s h
  | destroy => exact steady_staffed.destroy s h
  | setConsent consent => exact steady_staffed.setConsent consent s h
  | tell command => exact steady_staffed.synchronizer s command s h
  | register key => exact staffed_enroll h key
  | unregister key =>
    show Staffed ((do let _ ← s.identityRegistry.unregister key : Playing Unit).run s).2
    rw [run_unregister]
    exact staffed_tearDownAny key _ _ (h.without key)
  | broadcast event => exact h
  | loop => exact Keeps.bind steady_staffed.serveNext (fun _ => Keeps.pure _) s h
  | finish owner w result => exact Keeps.staffed (p := .settling) (fun _ => keeps_finish (by simp) owner w result) s h
  | reconnectTimer id => exact steady_staffed.reconnectTimer id s h
  | segmentsTimer bundle id => exact staffed_segmentsTimer bundle id s h
  | impressionsStep =>
    exact Keeps.staffed (p := .settling) (fun _ => Keeps.bind keeps_tracker_handleNext fun _ => Keeps.pure _) s h
  | eventsStep =>
    exact Keeps.staffed (p := .settling) (fun _ => Keeps.bind keeps_recorder_handleNext fun _ => Keeps.pure _) s h
  | jobStep => exact staffed_nextJob s h
  | advance d => exact h.clocks _ _
  | setClock wall => exact h.clocks _ _
  | answer answers => exact h

/-- The workers of a flag synchronizer that is made are those for the flags. -/
theorem create_flags_standing (syncEnabled : Bool) (g : Ground) :
    (flagsDesk ((FlagSync.create syncEnabled Setup.makersAlone).run g).1).IsStaffed .flagsSync .periodicFlags := by
  cases syncEnabled with
  | true => exact ⟨_, _, rfl, rfl, List.forall_mem_singleton.2 rfl⟩
  | false => exact ⟨_, _, rfl, rfl, List.forall_mem_nil _⟩

/-- A new client has its staff. -/
theorem Setup.staffed_scene (u : Setup) : Staffed u.scene where
  flags := create_flags_standing u.settings.syncEnabled { answers := u.answers }
  registered _ _ inside := (List.not_mem_nil inside).elim
  pipelines := rfl

/-- Whatever has happened to a client, the workers that stand by are those that were made for their desks. -/
theorem Setup.staffed (u : Setup) (inputs : List Input) : Staffed (u.after inputs) := by
  induction inputs with
  | nil => exact u.staffed_scene
  | cons i past ih => exact ih.take i

end Staffed

end FlagKeeper.Ensemble
