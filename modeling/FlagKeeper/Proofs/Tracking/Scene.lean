import FlagKeeper.Proofs.Impressions.SeenCache
import FlagKeeper.Proofs.Recording.Steps

/-!
# A tracker by itself

The impression tracker, the program that it is, on the plain host, told whatever its callers like: to track and to persist or not, as
often as they please. The scene is that of the recording, of which the recorder and the synchronizer have no part here. What can happen
is an `Input`: the tracker is told something, or its pipeline has its turn. The host may refuse any call that it is free to refuse, for
its answers are any function of the calls so far.

A run is read off the orders that its pipeline handled (`handled`). What the tracker is told changes neither the observer nor the
counter; `run_induction` leaves a statement about these and the calls to the orders, one by one.
-/

namespace FlagKeeper.Tracking

open Ensemble (Call)
open ImpressionTracker (Order Command)
open Recording (Scene Setup Plain tracker)

/-- What can happen to a tracker. -/
inductive Input where
  | tell (command : Command)
  /-- The pipeline has its turn. -/
  | step

/-- What is done about an input. -/
def Input.program (s : Scene) : Input → Plain Unit
  | .tell command => (tracker s.mode s.keepsHashes).run command
  | .step => do let _ ← (tracker s.mode s.keepsHashes).handleNext

/-- The scene after an input. -/
def take (s : Scene) (i : Input) : Scene := ((i.program s).run s).2

/-- A new tracker after some inputs, the latest first. -/
def after (u : Setup) : List Input → Scene
  | [] => u.scene
  | i :: past => take (after u past) i

/-- The orders that were handled, the latest first. -/
def handled (u : Setup) : List Input → List Order
  | [] => []
  | .tell _ :: past => handled u past
  | .step :: past => (after u past).tracker.orders.queue.head?.toList ++ handled u past

/-! ## Turns -/

section Turns

variable {s : Scene}

theorem take_tell (s : Scene) (command : Command) : take s (.tell command) = s.toldTracker command :=
  congrArg Prod.snd (Recording.run_tracker_run command)

theorem take_step (s : Scene) : take s .step = s.impressionsStepped := congrArg Prod.snd Recording.run_handleNext

/-- An order left the queue of the pipeline and was handled. -/
def turned (s : Scene) (order : Order) (rest : List Order) : Scene :=
  (s.tracked { s.tracker with orders := { s.tracker.orders with queue := rest } }).handled order

theorem take_step_nil (waiting : s.tracker.orders.queue = []) : take s .step = s :=
  (take_step s).trans (Scene.impressionsStepped_nil waiting)

theorem take_step_cons {order : Order} {rest : List Order} (waiting : s.tracker.orders.queue = order :: rest) :
    take s .step = turned s order rest :=
  (take_step s).trans (Scene.impressionsStepped_cons waiting)

theorem handled_step_nil {u : Setup} {past : List Input} (waiting : (after u past).tracker.orders.queue = []) :
    handled u (.step :: past) = handled u past := by
  conv_lhs => unfold handled
  rw [waiting]
  rfl

theorem handled_step_cons {u : Setup} {past : List Input} {order : Order} {rest : List Order}
    (waiting : (after u past).tracker.orders.queue = order :: rest) :
    handled u (.step :: past) = order :: handled u past := by
  conv_lhs => unfold handled
  rw [waiting]
  rfl

end Turns

/-- What goes for a new tracker, whatever a tracker is told, and whatever order its pipeline handles, goes for each run. -/
theorem run_induction {u : Setup} {P : List Order → Scene → Prop} (start : P [] u.scene)
    (told : ∀ past command, P (handled u past) (after u past) → P (handled u past) ((after u past).toldTracker command))
    (turn : ∀ past order rest, (after u past).tracker.orders.queue = order :: rest → P (handled u past) (after u past) →
      P (order :: handled u past) (turned (after u past) order rest)) (inputs : List Input) :
    P (handled u inputs) (after u inputs) := by
  induction inputs with
  | nil => exact start
  | cons i past ih =>
    cases i with
    | tell command =>
      show P (handled u past) (take (after u past) (.tell command))
      rw [take_tell]
      exact told past command ih
    | step =>
      show P (handled u (.step :: past)) (take (after u past) .step)
      cases waiting : (after u past).tracker.orders.queue with
      | nil =>
        rw [handled_step_nil waiting, take_step_nil waiting]
        exact ih
      | cons order rest =>
        rw [handled_step_cons waiting, take_step_cons waiting]
        exact turn past order rest waiting ih

/-! ## What the tracker is told -/

/-- The calls that something the tracker is told leads to at once: the record of an impression that is dropped, and the leave of the
queue to persist. -/
def callsOfTold (s : Scene) : Command → List Call
  | .push _ => if !s.tracker.destroyed && !s.tracker.tracking then [.impressions .dropped 1] else []
  | .enablePersistence enable => [.persistImpressions enable]
  | _ => []

section Told

variable (s : Scene) (command : Command)

/-- Telling the tracker something changes nothing that only the pipeline changes. -/
theorem toldTracker_eq : s.toldTracker command = s.became (s.toldTracker command).tracker (callsOfTold s command) ∧
    (s.toldTracker command).tracker.observer = s.tracker.observer ∧
    (s.toldTracker command).tracker.counter = s.tracker.counter := by
  have sent (order : Order) : s.sentIfAlive order = s.became (s.sentIfAlive order).tracker [] ∧
      (s.sentIfAlive order).tracker.observer = s.tracker.observer ∧
      (s.sentIfAlive order).tracker.counter = s.tracker.counter := by
    unfold Scene.sentIfAlive
    cases s.tracker.destroyed <;> exact ⟨rfl, rfl, rfl⟩
  cases command with
  | push pushed =>
    unfold Scene.toldTracker callsOfTold
    cases s.tracker.destroyed <;> cases s.tracker.tracking <;> exact ⟨rfl, rfl, rfl⟩
  | destroy =>
    unfold Scene.toldTracker
    cases s.tracker.destroyed <;> exact ⟨rfl, rfl, rfl⟩
  | stop => exact ⟨rfl, rfl, rfl⟩
  | enableTracking enable => exact ⟨rfl, rfl, rfl⟩
  | enablePersistence enable => exact ⟨rfl, rfl, rfl⟩
  | _ => exact sent _

theorem toldTracker_calls : (s.toldTracker command).ground.calls = callsOfTold s command ++ s.ground.calls := by
  rw [(toldTracker_eq s command).1]
  rfl

theorem toldTracker_mode : (s.toldTracker command).mode = s.mode := by
  rw [(toldTracker_eq s command).1]
  rfl

theorem toldTracker_observer : (s.toldTracker command).tracker.observer = s.tracker.observer := (toldTracker_eq s command).2.1

theorem toldTracker_counter : (s.toldTracker command).tracker.counter = s.tracker.counter := (toldTracker_eq s command).2.2

theorem mem_callsOfTold {s : Scene} {command : Command} {c : Call} (inside : c ∈ callsOfTold s command) :
    c = .impressions .dropped 1 ∨ ∃ enable, c = .persistImpressions enable := by
  cases command with
  | push pushed =>
    unfold callsOfTold at inside
    dsimp only at inside
    split at inside
    · exact .inl (List.mem_singleton.1 inside)
    · cases inside
  | enablePersistence enable => exact .inr ⟨enable, List.mem_singleton.1 inside⟩
  | _ => cases inside

/-- Calls of other kinds come from the pipeline alone. -/
theorem toldTracker_filter {p : Call → Bool} (drops : p (.impressions .dropped 1) = false)
    (persists : ∀ enable, p (.persistImpressions enable) = false) :
    (s.toldTracker command).ground.calls.filter p = s.ground.calls.filter p := by
  have none : (callsOfTold s command).filter p = [] := by
    rw [List.filter_eq_nil_iff]
    intro c inside
    rcases mem_callsOfTold inside with rfl | ⟨enable, rfl⟩
    · simp [drops]
    · simp [persists]
  rw [toldTracker_calls, List.filter_append, none, List.nil_append]

end Told

/-! ## What the pipeline handles -/

/-- The impression that an order brings, if it brings one. -/
def pushed? : Order → Option TrackedImpression
  | .push pushed => some pushed
  | _ => none

/-- The impressions that some orders brought. -/
def pushes (orders : List Order) : List TrackedImpression := orders.filterMap pushed?

theorem pushes_cons (order : Order) (orders : List Order) : pushes (order :: orders) = (pushed? order).toList ++ pushes orders := by
  unfold pushes
  rw [List.filterMap_cons]
  cases pushed? order <;> rfl

/-- Whether an impression is only counted. -/
def isCounted (mode : ImpressionsMode) (pushed : TrackedImpression) : Bool := pushed.disabled || mode = .none

/-- Whether an impression is counted for its feature and hour when it is handled. -/
def isTallied (mode : ImpressionsMode) (pushed : TrackedImpression) : Bool := isCounted mode pushed || mode = .optimized

/-- The impressions that some orders brought to be delivered, unless they were seen before. -/
def delivered (mode : ImpressionsMode) (orders : List Order) : List Impression :=
  ((pushes orders).filter (!isCounted mode ·)).map (·.impression)

/-- What the observer keeps of an impression. -/
def seen (i : Impression) : SeenImpression := ⟨i.identityHash, i.time⟩

section Handled

variable {s : Scene} {mode : ImpressionsMode} {orders : List Order} {order : Order} {rest : List Order} {pushed : TrackedImpression}

theorem delivered_cons_counted (counted : isCounted mode pushed = true) :
    delivered mode (.push pushed :: orders) = delivered mode orders := by
  have left : ((pushes (.push pushed :: orders)).filter (!isCounted mode ·)) = (pushes orders).filter (!isCounted mode ·) :=
    List.filter_cons_of_neg (by simp [counted])
  unfold delivered
  rw [left]

theorem delivered_cons_delivered (delivers : isCounted mode pushed = false) :
    delivered mode (.push pushed :: orders) = pushed.impression :: delivered mode orders := by
  have kept : ((pushes (.push pushed :: orders)).filter (!isCounted mode ·)) = pushed :: (pushes orders).filter (!isCounted mode ·) :=
    List.filter_cons_of_pos (by simp [delivers])
  unfold delivered
  rw [kept, List.map_cons]

/-- That the order has left the queue is all the same to the calls that it leads to. -/
theorem turned_calls (s : Scene) (order : Order) (rest : List Order) :
    (turned s order rest).ground.calls = s.callsOf order ++ s.ground.calls := by
  cases order <;> rfl

/-- What the tracker keeps once an impression was handled: the observer saw it if it may be delivered, and it was counted if it is to
be. -/
theorem stateAfter_push (s : Scene) (pushed : TrackedImpression) : ∃ queueGauge uniqueGauge,
    s.stateAfter (.push pushed) =
      { s.tracker with
        observer :=
          if isCounted s.mode pushed then s.tracker.observer
          else (s.tracker.observer.testAndSet pushed.impression.identityHash pushed.impression.time).2
        counter :=
          if isTallied s.mode pushed then s.tracker.counter.increment pushed.impression.featureName pushed.impression.time 1
          else s.tracker.counter
        queueGauge, uniqueGauge } := by
  have handled : s.stateAfter (.push pushed) =
      if isCounted s.mode pushed then s.stateAfterCounted pushed.impression
      else (s.observed s.mode pushed.impression).stateAfterDelivery (s.lastSeen pushed.impression) := rfl
  rw [handled]
  unfold isTallied Scene.observed
  cases isCounted s.mode pushed with
  | true => exact ⟨_, _, rfl⟩
  | false =>
    rw [if_neg Bool.false_ne_true]
    by_cases optimized : s.mode = .optimized
    · rw [if_pos optimized, decide_eq_true optimized]
      exact ⟨_, _, rfl⟩
    · rw [if_neg optimized, decide_eq_false optimized]
      exact ⟨_, _, rfl⟩

/-- The pipeline goes on unless it is the end. -/
theorem turned_orders (lasting : order ≠ .destroy) :
    (turned s order rest).tracker.orders = { s.tracker.orders with queue := rest } ∧
    (turned s order rest).tracker.destroyed = s.tracker.destroyed := by
  cases order with
  | push pushed =>
    obtain ⟨_, _, after⟩ :=
      stateAfter_push (s.tracked { s.tracker with orders := { s.tracker.orders with queue := rest } }) pushed
    show (Scene.stateAfter _ (.push pushed)).orders = _ ∧ (Scene.stateAfter _ (.push pushed)).destroyed = _
    rw [after]
    exact ⟨rfl, rfl⟩
  | destroy => exact absurd rfl lasting
  | _ => exact ⟨rfl, rfl⟩

/-- As many turns as there are orders handle them all, one after the other, unless one is the end. -/
theorem handled_replicate {u : Setup} {past : List Input} {orders : List Order} (lasting : .destroy ∉ orders)
    (waiting : (after u past).tracker.orders.queue = orders) :
    handled u (List.replicate orders.length .step ++ past) = orders.reverse ++ handled u past := by
  induction orders generalizing past with
  | nil => rfl
  | cons order rest ih =>
    obtain ⟨first, later⟩ := List.forall_mem_cons.1 (List.forall_mem_ne.2 lasting)
    have left : (after u (.step :: past)).tracker.orders.queue = rest := by
      show (take (after u past) .step).tracker.orders.queue = rest
      rw [take_step_cons waiting, (turned_orders (Ne.symm first)).1]
    have turns : List.replicate (order :: rest).length Input.step ++ past = List.replicate rest.length .step ++ .step :: past := by
      rw [List.length_cons, List.replicate_succ', List.append_assoc, List.singleton_append]
    rw [turns, ih (List.forall_mem_ne.1 later) left, handled_step_cons waiting, List.reverse_cons, List.append_assoc,
      List.singleton_append]

/-- The observer sees the impressions that may be delivered, and nothing else. -/
theorem turned_observer (s : Scene) (order : Order) (rest : List Order) :
    (turned s order rest).tracker.observer =
      match order with
      | .push pushed =>
        if isCounted s.mode pushed then s.tracker.observer
        else (s.tracker.observer.testAndSet pushed.impression.identityHash pushed.impression.time).2
      | _ => s.tracker.observer := by
  cases order with
  | push pushed =>
    obtain ⟨_, _, after⟩ :=
      stateAfter_push (s.tracked { s.tracker with orders := { s.tracker.orders with queue := rest } }) pushed
    exact congrArg ImpressionTracker.State.observer after
  | _ => rfl

/-- Whether the counts are saved when an order is handled. -/
def isSaving : Order → Bool
  | .flush => true
  | .pause => true
  | .destroy => true
  | _ => false

/-- The counter is emptied when the counts are saved, if they may be, and counts the impressions that are to be counted. -/
theorem turned_counter (s : Scene) (order : Order) (rest : List Order) :
    (turned s order rest).tracker.counter =
      if isSaving order && s.tracker.persistence then {}
      else match order with
        | .push pushed =>
          if isTallied s.mode pushed then s.tracker.counter.increment pushed.impression.featureName pushed.impression.time 1
          else s.tracker.counter
        | _ => s.tracker.counter := by
  cases order with
  | push pushed =>
    obtain ⟨_, _, after⟩ :=
      stateAfter_push (s.tracked { s.tracker with orders := { s.tracker.orders with queue := rest } }) pushed
    exact congrArg ImpressionTracker.State.counter after
  | _ => rfl

end Handled

section Runs

variable (u : Setup)

/-- The mode is that of the settings at any time. -/
theorem after_mode (inputs : List Input) : (after u inputs).mode = u.settings.impressionsMode :=
  run_induction (P := fun _ s => s.mode = u.settings.impressionsMode) rfl
    (fun _ command same => (toldTracker_mode _ command).trans same) (fun _ _ _ _ same => same) inputs

/-- The observer is filled from the stored hashes and from the impressions that were handled. -/
theorem after_observer (inputs : List Input) : (after u inputs).tracker.observer =
    SeenCache.ofList u.settings.observerCapacity
      (u.restored ++ ((delivered u.settings.impressionsMode (handled u inputs)).map seen).reverse) := by
  refine run_induction (P := fun orders s => s.tracker.observer = SeenCache.ofList u.settings.observerCapacity
    (u.restored ++ ((delivered u.settings.impressionsMode orders).map seen).reverse)) ?_ ?_ ?_ inputs
  · exact u.observer_scene.trans (by simp [delivered, pushes])
  · intro past command filled
    exact (toldTracker_observer _ command).trans filled
  · intro past order rest _ filled
    rw [turned_observer]
    cases order with
    | push pushed =>
      dsimp only
      rw [after_mode]
      cases counted : isCounted u.settings.impressionsMode pushed with
      | true => rw [if_pos rfl, delivered_cons_counted counted, filled]
      | false =>
        rw [if_neg Bool.false_ne_true, delivered_cons_delivered counted, List.map_cons, List.reverse_cons, ← List.append_assoc,
          SeenCache.ofList_append_singleton, filled]
        rfl
    | _ => exact filled

end Runs

end FlagKeeper.Tracking
