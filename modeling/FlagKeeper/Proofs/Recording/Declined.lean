import FlagKeeper.Proofs.Recording.Steps

/-!
# What is pushed against the user's will

Impressions and events that are pushed while the user's answer is no leave no trace: the run without them (`Setup.spared`) makes the
same calls and ends with everything in the same state. All that shows is one record for each impression that was dropped.

The argument compares each scene with the one in which no drop was recorded (`Scene.withoutDrops`). A step that records no drop itself
does the same in both (`Echoes`), for the programs never look at the calls, and a host answers without a look at what was dropped
(`Heedless`). That only pushes against the user's will are dropped is due to the tracker and the synchronizer agreeing on what the
user allows (`Scene.Harmony`).
-/

namespace FlagKeeper.Recording

open Ensemble (Ground Call Answers)

/-- Calls none of which records that an impression was dropped. -/
def Quiet (calls : List Call) : Prop := ∀ c ∈ calls, isDrop c = false

/-- A host that answers a call to a store without a look at what telemetry was told of dropped impressions. -/
def Heedless (a : Answers) : Prop := ∀ calls, a.outcome (calls.filter (!isDrop ·)) = a.outcome calls

namespace Scene

variable (s : Scene)

/-- The same scene, had no dropped impression been recorded. -/
def withoutDrops : Scene := { s with ground := { s.ground with calls := s.ground.calls.filter (!isDrop ·) } }

/-- Whether an input pushes something while the user's answer is no. -/
def declines : Input → Bool
  | .tell (.pushImpression _) => s.synchronizer.consent = .declined
  | .tell (.pushEvent _) => s.synchronizer.consent = .declined
  | _ => false

/-- Whether an input pushes an impression, before the end, while the user's answer is no. -/
def refuses : Input → Bool
  | .tell (.pushImpression _) => s.synchronizer.consent = .declined && !s.synchronizer.destroyed
  | _ => false

/-- The tracker and the synchronizer agree on whether it is the end, and on what the user allows. -/
structure Harmony (s : Scene) : Prop where
  ends : s.tracker.destroyed = s.synchronizer.destroyed
  tracks : s.tracker.tracking = s.synchronizer.consent.allowsTracking

/-- All that the agreement is about. -/
def gates : Synchronizer.State × Bool × Bool := (s.synchronizer, s.tracker.tracking, s.tracker.destroyed)

end Scene

/-! ## Steps that do the same without the records -/

/-- A step does the same in a scene without the records of dropped impressions, adds none, and leaves the host as it is. -/
structure Echoes (step : Scene → Scene) (s : Scene) : Prop where
  same : step s.withoutDrops = (step s).withoutDrops
  drops : (step s).drops = s.drops
  host : (step s).ground.answers = s.ground.answers

section Echoes

variable {s : Scene} {f g : Scene → Scene}

theorem Echoes.id (s : Scene) : Echoes (fun s => s) s := ⟨rfl, rfl, rfl⟩

theorem Echoes.comp (first : Echoes f s) (second : Echoes g (f s)) : Echoes (fun s => g (f s)) s := by
  refine ⟨?_, second.drops.trans first.drops, second.host.trans first.host⟩
  show g (f s.withoutDrops) = _
  rw [first.same, second.same]

theorem Echoes.ite {c : Scene → Prop} [DecidablePred c] (same : c s.withoutDrops ↔ c s) (yes : c s → Echoes f s)
    (no : ¬c s → Echoes g s) : Echoes (fun s => if c s then f s else g s) s := by
  by_cases holds : c s
  · obtain ⟨echo, drops, host⟩ := yes holds
    constructor
    · rw [if_pos holds, if_pos (same.2 holds)]
      exact echo
    · rw [if_pos holds]
      exact drops
    · rw [if_pos holds]
      exact host
  · obtain ⟨echo, drops, host⟩ := no holds
    constructor
    · rw [if_neg holds, if_neg fun held => holds (same.1 held)]
      exact echo
    · rw [if_neg holds]
      exact drops
    · rw [if_neg holds]
      exact host

/-- Calls are written down none of which records a drop. -/
theorem echoes_wrote {calls : List Call} (quiet : Quiet calls) (s : Scene) :
    Echoes (fun s => s.wrote calls) s := by
  have kept : calls.filter (!isDrop ·) = calls := List.filter_eq_self.2 fun c inside => by simp [quiet c inside]
  have none : calls.filter isDrop = [] := List.filter_eq_nil_iff.2 fun c inside => by simp [quiet c inside]
  constructor
  · unfold Scene.wrote Scene.withoutDrops
    rw [List.filter_append, kept]
  · unfold Scene.wrote Scene.drops
    rw [List.filter_append, none, List.nil_append]
  · rfl

/-- One call is written down that records no drop. -/
theorem echoes_noted {c : Call} (quiet : isDrop c = false) (s : Scene) : Echoes (fun s => s.noted c) s :=
  have alone : Quiet [c] := by simpa [Quiet] using quiet
  ⟨(echoes_wrote alone s).same, (echoes_wrote alone s).drops, rfl⟩

theorem echoes_sent (order : ImpressionTracker.Order) (s : Scene) : Echoes (fun s => s.sent order) s := ⟨rfl, rfl, rfl⟩

theorem echoes_sentIfAlive (order : ImpressionTracker.Order) (s : Scene) : Echoes (fun s => s.sentIfAlive order) s :=
  Echoes.ite Iff.rfl (fun _ => Echoes.id s) fun _ => echoes_sent order s

/-- The tracker is told anything but to take an impression that it drops. -/
theorem echoes_toldTracker (command : ImpressionTracker.Command)
    (taken : ∀ pushed, command = .push pushed → s.tracker.destroyed = false → s.tracker.tracking = true) :
    Echoes (fun s => s.toldTracker command) s := by
  cases command with
  | push pushed =>
    refine Echoes.ite Iff.rfl (fun _ => Echoes.id s) fun alive => ?_
    refine Echoes.ite Iff.rfl (fun _ => echoes_sent _ s) fun off => ?_
    exact absurd (taken pushed rfl (Bool.eq_false_iff.2 alive)) off
  | stop => exact echoes_sent .stop s
  | destroy => exact Echoes.ite Iff.rfl (fun _ => Echoes.id s) fun _ => ⟨rfl, rfl, rfl⟩
  | enableTracking enable => exact ⟨rfl, rfl, rfl⟩
  | enablePersistence enable =>
    let f (s : Scene) : Scene := s.tracked { s.tracker with persistence := enable }
    exact Echoes.comp (f := f) ⟨rfl, rfl, rfl⟩ (echoes_noted rfl (f s))
  | _ => exact echoes_sentIfAlive _ s

theorem echoes_eventsTold (order : WorkerOrder) (s : Scene) : Echoes (fun s => s.eventsTold order) s := by
  obtain ⟨same, drops, host⟩ := echoes_noted (c := .tell s.events.periodic order) rfl s
  exact ⟨same, drops, host⟩

theorem echoes_toldRecorder (command : EventRecorder.Command) (s : Scene) : Echoes (fun s => s.toldRecorder command) s := by
  cases command with
  | start => exact Echoes.ite Iff.rfl (fun _ => Echoes.id s) fun _ => echoes_eventsTold .start s
  | push event => exact Echoes.ite Iff.rfl (fun _ => echoes_noted rfl s) fun _ => ⟨rfl, rfl, rfl⟩
  | flush => exact Echoes.ite Iff.rfl (fun _ => Echoes.id s) fun _ => ⟨rfl, rfl, rfl⟩
  | destroy =>
    let f (s : Scene) : Scene := s.recorded { s.events with destroyed := true }
    refine Echoes.ite Iff.rfl (fun _ => Echoes.id s) fun _ => ?_
    exact Echoes.comp (f := f) (g := fun s => s.eventsTold .destroy) ⟨rfl, rfl, rfl⟩ (echoes_eventsTold .destroy (f s))
  | _ => exact echoes_eventsTold _ s

theorem echoes_ifThere (echo : Echoes f s) : Echoes (fun s => s.ifThere (f s)) s :=
  Echoes.ite Iff.rfl (fun _ => Echoes.id s) fun _ => echo

/-- The tracker is told something that is no push, and then the recorder. -/
theorem echoes_both (command : ImpressionTracker.Command) (command' : EventRecorder.Command)
    (other : ∀ pushed, command ≠ .push pushed) (s : Scene) :
    Echoes (fun s => (s.toldTracker command).toldRecorder command') s :=
  (echoes_toldTracker command fun pushed same => absurd same (other pushed)).comp (echoes_toldRecorder command' _)

theorem echoes_consented (consent : Consent) (s : Scene) : Echoes (fun s => s.consented consent) s := by
  let f (s : Scene) : Scene := s.synchronized { s.synchronizer with consent }
  let g (s : Scene) : Scene := if consent = .granted then s.started else s.stopped
  have tracking : Echoes (fun s => (f s).toldTracker (.enableTracking consent.allowsTracking)) s :=
    Echoes.comp (f := f) ⟨rfl, rfl, rfl⟩ (echoes_toldTracker _ (by simp))
  have permitted : Echoes (fun s => (f s).permitted consent) s := tracking.comp (echoes_toldTracker _ (by simp))
  refine Echoes.comp (g := g) permitted (Echoes.ite Iff.rfl (fun _ => ?_) fun _ => ?_)
  · exact echoes_ifThere (echoes_both .start .start (by simp) _)
  · exact echoes_both .stop .stop (by simp) _

/-- The synchronizer is told anything but to take an impression that is dropped. -/
theorem echoes_toldSynchronizer (command : Synchronizer.Command)
    (taken : ∀ pushed, command = .pushImpression pushed → s.tracker.destroyed = false → s.tracker.tracking = true) :
    Echoes (fun s => s.toldSynchronizer command) s := by
  cases command with
  | startRecording => exact echoes_ifThere (echoes_both .start .start (by simp) s)
  | stopRecording => exact echoes_both .stop .stop (by simp) s
  | setConsent consent => exact echoes_ifThere (echoes_consented consent s)
  | pushImpression pushed => exact echoes_ifThere (echoes_toldTracker (.push pushed) fun _ _ => taken pushed rfl)
  | pushEvent event =>
    refine echoes_ifThere (Echoes.ite Iff.rfl (fun _ => ?_) fun _ => Echoes.id s)
    exact echoes_toldRecorder (.push event) s
  | pause => exact echoes_ifThere (echoes_both .pause .pause (by simp) s)
  | resume => exact echoes_ifThere (echoes_both .resume .resume (by simp) s)
  | flush => exact echoes_ifThere (echoes_both .flush .flush (by simp) s)
  | destroy =>
    let f (s : Scene) : Scene := s.synchronized { s.synchronizer with destroyed := true }
    let g (s : Scene) : Scene := (s.toldTracker .destroy).toldRecorder .destroy
    exact echoes_ifThere (Echoes.comp (f := f) (g := g) ⟨rfl, rfl, rfl⟩ (echoes_both .destroy .destroy (by simp) (f s)))
  | _ => exact Echoes.id s

end Echoes

/-! ## The pipelines -/

section Pipelines

variable {s : Scene}

theorem accepts_withoutDrops (heedless : Heedless s.ground.answers) {c : Call} (quiet : isDrop c = false) :
    s.withoutDrops.accepts c = s.accepts c := by
  have kept : (c :: s.ground.calls).filter (!isDrop ·) = c :: s.ground.calls.filter (!isDrop ·) :=
    List.filter_cons_of_pos (by simp [quiet])
  have same := heedless (c :: s.ground.calls)
  rw [kept] at same
  unfold Scene.accepts Scene.withoutDrops
  dsimp only
  rw [same]

/-- Handling an order of the impressions leads to no record of a drop. -/
theorem quiet_callsOf (s : Scene) (order : ImpressionTracker.Order) : Quiet (s.callsOf order) :=
  fun c inside => Bool.eq_false_iff.2 (List.filter_eq_nil_iff.1 (drops_callsOf s order) c inside)

/-- Handling an order of the events leads to no record of a drop. -/
theorem quiet_callsOfEvent (s : Scene) (order : EventRecorder.Order) : Quiet (s.callsOfEvent order) := by
  cases order with
  | push event =>
    unfold Scene.callsOfEvent Quiet
    dsimp only
    split <;> simp [isDrop]
  | flush => simp [Quiet, Scene.callsOfEvent, isDrop]

/-- What an impression that may be delivered comes to does not hang on what was dropped. -/
theorem delivery_withoutDrops (heedless : Heedless s.ground.answers) (i : Impression) :
    s.withoutDrops.callsOfDelivery i = s.callsOfDelivery i ∧ s.withoutDrops.stateAfterDelivery i = s.stateAfterDelivery i := by
  have accepts : s.withoutDrops.accepts (.queueImpression i) = s.accepts (.queueImpression i) := accepts_withoutDrops heedless rfl
  unfold Scene.callsOfDelivery Scene.stateAfterDelivery Scene.fillsQueue
  rw [accepts]
  exact ⟨rfl, rfl⟩

/-- Nor does what an order of the impressions comes to. -/
theorem handled_withoutDrops (heedless : Heedless s.ground.answers) (order : ImpressionTracker.Order) :
    s.withoutDrops.callsOf order = s.callsOf order ∧ s.withoutDrops.stateAfter order = s.stateAfter order := by
  cases order with
  | push pushed =>
    let i := pushed.impression
    have observed : s.withoutDrops.observed s.mode i = (s.observed s.mode i).withoutDrops := by
      unfold Scene.observed
      cases s.mode <;> rfl
    have host : (s.observed s.mode i).ground = s.ground := by
      unfold Scene.observed
      cases s.mode <;> rfl
    have state := (delivery_withoutDrops (s := s.observed s.mode i) (by rwa [host]) (s.lastSeen i)).2
    rw [← observed] at state
    constructor
    · show (if (pushed.disabled || s.mode = .none) = true then s.callsOfCounted i
        else s.withoutDrops.callsOfDelivery (s.lastSeen i)) = _
      rw [(delivery_withoutDrops heedless _).1]
      rfl
    · show (if (pushed.disabled || s.mode = .none) = true then s.stateAfterCounted i
        else (s.withoutDrops.observed s.mode i).stateAfterDelivery (s.lastSeen i)) = _
      rw [state]
      rfl
  | _ => exact ⟨rfl, rfl⟩

/-- Nor does what an order of the events comes to. -/
theorem handledEvent_withoutDrops (heedless : Heedless s.ground.answers) (order : EventRecorder.Order) :
    s.withoutDrops.callsOfEvent order = s.callsOfEvent order ∧ s.withoutDrops.eventsAfter order = s.eventsAfter order := by
  cases order with
  | push event =>
    have accepts : s.withoutDrops.accepts (.queueEvent event) = s.accepts (.queueEvent event) := accepts_withoutDrops heedless rfl
    unfold Scene.callsOfEvent Scene.eventsAfter
    dsimp only
    rw [accepts]
    exact ⟨rfl, rfl⟩
  | flush => exact ⟨rfl, rfl⟩

theorem echoes_handled (heedless : Heedless s.ground.answers) (order : ImpressionTracker.Order) :
    Echoes (fun s => s.handled order) s := by
  obtain ⟨calls, state⟩ := handled_withoutDrops heedless order
  obtain ⟨same, drops, host⟩ := echoes_wrote (quiet_callsOf s order) (s.tracked (s.stateAfter order))
  refine ⟨?_, drops, host⟩
  show s.withoutDrops.became (s.withoutDrops.stateAfter order) (s.withoutDrops.callsOf order) = _
  rw [calls, state]
  exact same

theorem echoes_handledEvent (heedless : Heedless s.ground.answers) (order : EventRecorder.Order) :
    Echoes (fun s => s.handledEvent order) s := by
  obtain ⟨calls, state⟩ := handledEvent_withoutDrops heedless order
  obtain ⟨same, drops, host⟩ := echoes_wrote (quiet_callsOfEvent s order) (s.recorded (s.eventsAfter order))
  refine ⟨?_, drops, host⟩
  show (s.withoutDrops.recorded (s.withoutDrops.eventsAfter order)).wrote (s.withoutDrops.callsOfEvent order) = _
  rw [calls, state]
  exact same

/-- The pipeline of the impressions has its turn. -/
theorem echoes_impressionsStepped (heedless : Heedless s.ground.answers) : Echoes Scene.impressionsStepped s := by
  have still : s.withoutDrops.tracker = s.tracker := rfl
  cases waiting : s.tracker.orders.queue with
  | nil =>
    constructor
    · rw [Scene.impressionsStepped_nil waiting]
      exact Scene.impressionsStepped_nil (still ▸ waiting)
    · rw [Scene.impressionsStepped_nil waiting]
    · rw [Scene.impressionsStepped_nil waiting]
  | cons order rest =>
    obtain ⟨same, drops, host⟩ :=
      echoes_handled (s := s.tracked { s.tracker with orders := { s.tracker.orders with queue := rest } }) heedless order
    constructor
    · rw [Scene.impressionsStepped_cons waiting]
      exact (Scene.impressionsStepped_cons (still ▸ waiting)).trans same
    · rw [Scene.impressionsStepped_cons waiting]
      exact drops
    · rw [Scene.impressionsStepped_cons waiting]
      exact host

/-- The pipeline of the events has its turn. -/
theorem echoes_eventsStepped (heedless : Heedless s.ground.answers) : Echoes Scene.eventsStepped s := by
  have still : s.withoutDrops.events = s.events := rfl
  cases waiting : s.events.orders.queue with
  | nil =>
    constructor
    · rw [Scene.eventsStepped_nil waiting]
      exact Scene.eventsStepped_nil (still ▸ waiting)
    · rw [Scene.eventsStepped_nil waiting]
    · rw [Scene.eventsStepped_nil waiting]
  | cons order rest =>
    obtain ⟨same, drops, host⟩ :=
      echoes_handledEvent (s := s.recorded { s.events with orders := { s.events.orders with queue := rest } }) heedless order
    constructor
    · rw [Scene.eventsStepped_cons waiting]
      exact (Scene.eventsStepped_cons (still ▸ waiting)).trans same
    · rw [Scene.eventsStepped_cons waiting]
      exact drops
    · rw [Scene.eventsStepped_cons waiting]
      exact host

end Pipelines

/-! ## What the tracker and the synchronizer agree on -/

section Harmony

variable {s : Scene}

theorem Scene.Harmony.of_gates {s' : Scene} (h : s.Harmony) (same : s'.gates = s.gates) : s'.Harmony := by
  unfold gates at same
  rw [Prod.mk.injEq, Prod.mk.injEq] at same
  obtain ⟨synchronizer, tracking, destroyed⟩ := same
  constructor
  · rw [destroyed, synchronizer, h.ends]
  · rw [tracking, synchronizer, h.tracks]

theorem gates_sentIfAlive (order : ImpressionTracker.Order) : (s.sentIfAlive order).gates = s.gates := by
  unfold Scene.sentIfAlive
  split <;> rfl

/-- Most of what the tracker is told has nothing to do with it. -/
theorem gates_toldTracker {command : ImpressionTracker.Command} (lasting : command ≠ .destroy)
    (other : ∀ enable, command ≠ .enableTracking enable) : (s.toldTracker command).gates = s.gates := by
  cases command with
  | push pushed =>
    unfold Scene.toldTracker
    dsimp only
    split
    · rfl
    · split <;> rfl
  | stop => rfl
  | destroy => exact absurd rfl lasting
  | enableTracking enable => exact absurd rfl (other enable)
  | enablePersistence enable => rfl
  | _ => exact gates_sentIfAlive _

theorem gates_toldRecorder (command : EventRecorder.Command) : (s.toldRecorder command).gates = s.gates := by
  cases command with
  | start => exact (apply_ite Scene.gates _ _ _).trans (ite_self _)
  | push event => exact (apply_ite Scene.gates _ _ _).trans (ite_self _)
  | flush => exact (apply_ite Scene.gates _ _ _).trans (ite_self _)
  | destroy => exact (apply_ite Scene.gates _ _ _).trans (ite_self _)
  | _ => rfl

theorem gates_handled (order : ImpressionTracker.Order) : (s.handled order).gates = s.gates := by
  cases order with
  | push pushed =>
    unfold Scene.handled Scene.stateAfter Scene.observed
    dsimp only
    split
    · rfl
    · cases s.mode <;> rfl
  | _ => rfl

theorem gates_impressionsStepped : s.impressionsStepped.gates = s.gates := by
  cases waiting : s.tracker.orders.queue with
  | nil => rw [Scene.impressionsStepped_nil waiting]
  | cons order rest =>
    rw [Scene.impressionsStepped_cons waiting]
    exact gates_handled order

theorem gates_eventsStepped : s.eventsStepped.gates = s.gates := by
  cases waiting : s.events.orders.queue with
  | nil => rw [Scene.eventsStepped_nil waiting]
  | cons order rest =>
    rw [Scene.eventsStepped_cons waiting]
    rfl

/-- The tracker and the recorder are told something that has nothing to do with it. -/
theorem gates_both {command : ImpressionTracker.Command} (lasting : command ≠ .destroy)
    (other : ∀ enable, command ≠ .enableTracking enable) (command' : EventRecorder.Command) :
    ((s.toldTracker command).toldRecorder command').gates = s.gates :=
  (gates_toldRecorder command').trans (gates_toldTracker lasting other)

theorem harmony_ifThere {s' : Scene} (h : s.Harmony) (there : s.synchronizer.destroyed = false → s'.Harmony) :
    (s.ifThere s').Harmony := by
  unfold Scene.ifThere
  split
  case isTrue => exact h
  case isFalse alive => exact there (Bool.eq_false_iff.2 alive)

theorem harmony_started (h : s.Harmony) : s.started.Harmony :=
  harmony_ifThere h fun _ => h.of_gates (gates_both (by simp) (by simp) _)

theorem harmony_stopped (h : s.Harmony) : s.stopped.Harmony := h.of_gates (gates_both (by simp) (by simp) _)

/-- The user's answer goes to both. -/
theorem harmony_consented (h : s.Harmony) (consent : Consent) : (s.consented consent).Harmony := by
  let s' := (s.synchronized { s.synchronizer with consent }).permitted consent
  have agreed : s'.Harmony := ⟨h.ends, rfl⟩
  show (if consent = .granted then s'.started else s'.stopped).Harmony
  split
  · exact harmony_started agreed
  · exact harmony_stopped agreed

theorem harmony_toldSynchronizer (h : s.Harmony) (command : Synchronizer.Command) : (s.toldSynchronizer command).Harmony := by
  cases command with
  | startRecording => exact harmony_started h
  | stopRecording => exact harmony_stopped h
  | setConsent consent => exact harmony_ifThere h fun _ => harmony_consented h consent
  | pushImpression pushed => exact harmony_ifThere h fun _ => h.of_gates (gates_toldTracker (by simp) (by simp))
  | pushEvent event =>
    refine harmony_ifThere h fun _ => h.of_gates ?_
    split
    · exact gates_toldRecorder _
    · rfl
  | pause => exact harmony_ifThere h fun _ => h.of_gates (gates_both (by simp) (by simp) _)
  | resume => exact harmony_ifThere h fun _ => h.of_gates (gates_both (by simp) (by simp) _)
  | flush => exact harmony_ifThere h fun _ => h.of_gates (gates_both (by simp) (by simp) _)
  | destroy =>
    refine harmony_ifThere h fun there => ?_
    have alive : s.tracker.destroyed = false := h.ends.trans there
    let s' := s.synchronized { s.synchronizer with destroyed := true }
    have ended : (s'.toldTracker .destroy).Harmony := by
      show (if s.tracker.destroyed = true then s' else _).Harmony
      rw [alive]
      exact ⟨rfl, h.tracks⟩
    exact ended.of_gates (gates_toldRecorder .destroy)
  | _ => exact h

/-- Whatever happens, the tracker and the synchronizer go on to agree. -/
theorem Scene.Harmony.take (h : s.Harmony) (i : Input) : (s.take i).Harmony := by
  cases i with
  | tell command =>
    rw [s.take_tell]
    exact harmony_toldSynchronizer h command
  | impressionsStep =>
    rw [s.take_impressionsStep]
    exact h.of_gates gates_impressionsStepped
  | eventsStep =>
    rw [s.take_eventsStep]
    exact h.of_gates gates_eventsStepped
  | answer answers => exact ⟨h.ends, h.tracks⟩

end Harmony

/-! ## A run with and without what is pushed against the user's will -/

section Turns

variable {s : Scene}

theorem allowsTracking_iff (c : Consent) : c.allowsTracking = true ↔ c ≠ .declined := decide_eq_true_iff

/-- The parts are told something that is no push against the user's will, or a pipeline has its turn. -/
theorem echoes_take (h : s.Harmony) (heedless : Heedless s.ground.answers) {i : Input} (willing : s.declines i = false)
    (other : ∀ answers, i ≠ .answer answers) : Echoes (fun s => s.take i) s := by
  cases i with
  | tell command =>
    rw [show (fun s : Scene => s.take (.tell command)) = fun s => s.toldSynchronizer command from funext fun s => s.take_tell command]
    refine echoes_toldSynchronizer command ?_
    rintro pushed rfl -
    rw [h.tracks, allowsTracking_iff]
    exact of_decide_eq_false willing
  | impressionsStep =>
    rw [show (fun s : Scene => s.take .impressionsStep) = Scene.impressionsStepped from funext Scene.take_impressionsStep]
    exact echoes_impressionsStepped heedless
  | eventsStep =>
    rw [show (fun s : Scene => s.take .eventsStep) = Scene.eventsStepped from funext Scene.take_eventsStep]
    exact echoes_eventsStepped heedless
  | answer answers => exact absurd rfl (other answers)

/-- A push against the user's will comes to nothing but the record of an impression that is dropped. -/
theorem take_of_declines (h : s.Harmony) {i : Input} (against : s.declines i = true) :
    s.take i = if s.refuses i then s.noted (.impressions .dropped 1) else s := by
  cases i with
  | tell command =>
    rw [s.take_tell]
    cases command with
    | pushImpression pushed =>
      have declined : s.synchronizer.consent = .declined := of_decide_eq_true against
      have off : s.tracker.tracking = false := by rw [h.tracks, declined]; rfl
      unfold Scene.toldSynchronizer Scene.toldTracker Scene.ifThere Scene.refuses
      dsimp only
      rw [declined, h.ends, off]
      cases s.synchronizer.destroyed <;> rfl
    | pushEvent event =>
      have declined : s.synchronizer.consent = .declined := of_decide_eq_true against
      unfold Scene.toldSynchronizer Scene.ifThere Scene.refuses
      dsimp only
      rw [declined]
      cases s.synchronizer.destroyed <;> rfl
    | _ => cases against
  | _ => cases against

theorem declines_of_refuses {i : Input} (refused : s.refuses i = true) : s.declines i = true := by
  unfold Scene.refuses at refused
  split at refused
  · exact (Bool.and_eq_true_iff.1 refused).1
  · cases refused

/-- What one turn leaves in the scene without the records of drops, and what it adds to these. -/
theorem turn_withoutDrops (h : s.Harmony) (heedless : Heedless s.ground.answers) (i : Input) :
    (s.take i).withoutDrops = (if s.declines i then s.withoutDrops else s.withoutDrops.take i) ∧
    (s.take i).drops = (if s.refuses i then .impressions .dropped 1 :: s.drops else s.drops) := by
  by_cases against : s.declines i = true
  · rw [take_of_declines h against, if_pos against]
    split
    · constructor
      · have left : (Call.impressions .dropped 1 :: s.ground.calls).filter (!isDrop ·) = s.ground.calls.filter (!isDrop ·) := rfl
        exact congrArg (fun calls => { s with ground := { s.ground with calls } }) left
      · exact List.filter_cons_of_pos rfl
    · exact ⟨rfl, rfl⟩
  · have willing : s.refuses i = false := Bool.eq_false_iff.2 (mt declines_of_refuses against)
    rw [if_neg against, willing]
    cases i with
    | answer answers => exact ⟨rfl, rfl⟩
    | _ =>
      obtain ⟨same, drops, -⟩ := echoes_take h heedless (Bool.eq_false_iff.2 against) (by simp)
      exact ⟨same.symm, drops⟩

end Turns

/-- A run without what is pushed against the user's will, the latest input first. -/
def Setup.spared (u : Setup) : List Input → List Input
  | [] => []
  | i :: past => if (u.after past).declines i then u.spared past else i :: u.spared past

/-- How many impressions are pushed in a run, before the end, against the user's will. -/
def Setup.refusals (u : Setup) : List Input → Nat
  | [] => 0
  | i :: past => if (u.after past).refuses i then u.refusals past + 1 else u.refusals past

/-- Without records of drops there is nothing to leave out. -/
theorem withoutDrops_of_drops {s : Scene} (none : s.drops = []) : s.withoutDrops = s := by
  have kept : s.ground.calls.filter (!isDrop ·) = s.ground.calls := by
    rw [List.filter_eq_self]
    intro c inside
    simpa using List.filter_eq_nil_iff.1 none c inside
  unfold Scene.withoutDrops
  rw [kept]

/-- At any time of a run, the tracker and the synchronizer agree, and the host does not look at what was dropped. -/
theorem Setup.harmony (u : Setup) {inputs : List Input} (heedless : ∀ a, a = u.answers ∨ .answer a ∈ inputs → Heedless a) :
    (u.after inputs).Harmony ∧ Heedless (u.after inputs).ground.answers := by
  induction inputs with
  | nil =>
    refine ⟨⟨rfl, rfl⟩, ?_⟩
    show Heedless u.scene.ground.answers
    rw [u.answers_scene]
    exact heedless u.answers (.inl rfl)
  | cons i past ih =>
    obtain ⟨harmony, host⟩ := ih fun a known => heedless a (known.imp id fun inside => List.mem_cons_of_mem i inside)
    refine ⟨harmony.take i, ?_⟩
    show Heedless ((u.after past).take i).ground.answers
    by_cases answering : ∃ answers, i = .answer answers
    · obtain ⟨answers, rfl⟩ := answering
      exact heedless answers (.inr List.mem_cons_self)
    · have other : ∀ answers, i ≠ .answer answers := fun answers same => answering ⟨answers, same⟩
      by_cases against : (u.after past).declines i = true
      · rw [take_of_declines harmony against]
        split <;> exact host
      · rw [(echoes_take harmony host (Bool.eq_false_iff.2 against) other).host]
        exact host

/-- **What is pushed against the user's will leaves no trace.** Of any settings, over any host whose stores do not look at what
telemetry is told, and for any run:

1. The run without the impressions and events that are pushed while the user's answer is no ends in the same scene as the whole run:
   the same calls to stores, workers and telemetry, and the same observer, counter and gauges, all but the records of drops.
2. The whole run has one such record for each impression that is pushed, before the end, while the user's answer is no. -/
theorem declined_pushes_leave_no_trace (u : Setup) (inputs : List Input)
    (heedless : ∀ a, a = u.answers ∨ .answer a ∈ inputs → Heedless a) :
    u.after (u.spared inputs) = (u.after inputs).withoutDrops ∧
    (u.after inputs).drops = List.replicate (u.refusals inputs) (.impressions .dropped 1) := by
  induction inputs with
  | nil => exact ⟨(withoutDrops_of_drops u.drops_scene).symm, u.drops_scene⟩
  | cons i past ih =>
    have before : ∀ a, a = u.answers ∨ .answer a ∈ past → Heedless a :=
      fun a known => heedless a (known.imp id fun inside => List.mem_cons_of_mem i inside)
    obtain ⟨same, drops⟩ := ih before
    obtain ⟨harmony, host⟩ := u.harmony before
    obtain ⟨left, dropped⟩ := turn_withoutDrops harmony host i
    unfold Setup.spared Setup.refusals
    constructor
    · show _ = ((u.after past).take i).withoutDrops
      rw [left, ← same]
      exact apply_ite u.after _ _ _
    · show ((u.after past).take i).drops = _
      rw [dropped, drops]
      split
      · exact List.replicate_succ.symm
      · rfl

/-- A run in which the user says no, after which an impression and an event are pushed, and everything is flushed. -/
def withdrawal : List Input :=
  [.impressionsStep, .eventsStep, .tell .flush, .tell (.pushEvent (.new "user" "customer" "purchase" 0)),
    .tell (.pushImpression { impression := ⟨"user", none, "checkout", "on", none, 0, none, none, none⟩ }),
    .tell (.setConsent .declined), .tell (.startRecording)]

/-- The impression and the event are spared, and of the impression a record remains. -/
theorem declined_pushes_leave_no_trace_withdrawal :
    Setup.plain.spared withdrawal =
      [.impressionsStep, .eventsStep, .tell .flush, .tell (.setConsent .declined), .tell (.startRecording)] ∧
    Setup.plain.after (Setup.plain.spared withdrawal) = (Setup.plain.after withdrawal).withoutDrops ∧
    (Setup.plain.after withdrawal).drops = [.impressions .dropped 1] := by
  refine ⟨rfl, declined_pushes_leave_no_trace Setup.plain withdrawal ?_⟩
  rintro a (rfl | inside)
  · exact fun calls => rfl
  · simp [withdrawal] at inside

end FlagKeeper.Recording
