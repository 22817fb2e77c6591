import FlagKeeper.Proofs.Recording.Batches
import FlagKeeper.Proofs.Reporting.Scene

/-!
# When the queued events are sent

The queue of the events is sent when the recorder is told to flush, and when an event fills it. Only what the host takes goes into the
queue, and each time the queue is sent the count starts anew, whatever it was sent for. The statement of this file
(`flushed_when_filled`) reads this off the calls alone, for a pipeline that has caught up: what it was told before the end shows there
in order, each once, and right after an event there is a flush exactly if the event filled the queue.

The orders show in the calls (`shown`) as they were handled. What waits and what shows are together what the recorder was told
(`Sound.orders`), and the gauge of the recorder is that of the queue (`Log.gauge`).
-/

namespace FlagKeeper.Reporting

open Ensemble (Call)
open EventRecorder (Order Command)
open Recording (Scene Setup Batching)

/-- The worker that sends the queued events. -/
def sender (u : Setup) : Worker := u.scene.events.recorder

/-- The size of an event that went into the queue with the latest call. -/
def entered (u : Setup) : List Call → Option Nat
  | .queueEvent event :: past =>
    match u.answers.outcome (.queueEvent event :: past) with
    | .ok () => some event.byteSize
    | .error _ => none
  | _ => none

/-- Whether a call has the queued events sent. -/
def sends (u : Setup) : Call → Bool
  | .tell w .flush => w = sender u
  | _ => false

/-- The queue of the events. -/
def batching (u : Setup) : Batching where
  entered := entered u
  sends := sends u
  maxCount := u.settings.eventsQueueSize
  maxBytes := u.settings.eventsQueueBytes

/-- The event that a call offers to the host, if it offers one. -/
def offered? : Call → Option TrackedEvent
  | .queueEvent event => some event
  | _ => none

/-- Whether the latest call offers an event. -/
def isOffering (calls : List Call) : Bool := (calls.head?.bind offered?).isSome

/-- The order that shows in a call, after some calls: an event that is offered, or a flush that does not come right after one. -/
def order? (u : Setup) (past : List Call) (c : Call) : Option Order :=
  match offered? c with
  | some event => some (.push event)
  | none => if sends u c && !isOffering past then some .flush else none

/-- The orders that show in some calls, the latest first. -/
def shown (u : Setup) : List Call → List Order
  | [] => []
  | c :: past => (order? u past c).toList ++ shown u past

/-- How many events a call records with a fate. -/
def amount (fate : EventFate) : Call → Nat
  | .events f n => if f = fate then n else 0
  | _ => 0

/-- How many events are recorded with a fate. -/
def recorded (fate : EventFate) (calls : List Call) : Nat := (calls.map (amount fate)).sum

/-- Right after an event there is a flush exactly if the event filled the queue. -/
def FlushesWhenFilled (u : Setup) (calls : List Call) : Prop :=
  ∀ event past, .queueEvent event :: past <:+ calls →
    (.tell (sender u) .flush :: .queueEvent event :: past <:+ calls ↔ (batching u).Fills (.queueEvent event :: past))

/-! ## What the calls say -/

/-- A call that has nothing to do with the queue. -/
structure Quiet (u : Setup) (c : Call) : Prop where
  offers : offered? c = none
  sends : sends u c = false
  records : amount .queued c = 0

/-- What the calls say of the queue: what is pending in it is what the gauge says, it is flushed when it is filled, and each event that
was offered is recorded as queued. The latest call offers no event, for the pipeline is done with each at once. -/
structure Log (u : Setup) (calls : List Call) (gauge : FlushGauge) : Prop where
  gauge : gauge = (batching u).gauge calls
  apart : isOffering calls = false
  flushes : FlushesWhenFilled u calls
  records : recorded .queued calls = (calls.filterMap offered?).length

section Calls

variable {u : Setup} {c : Call} {calls more : List Call} {event : TrackedEvent} {gauge : FlushGauge}

theorem entered_of_not_offered (other : offered? c = none) : entered u (c :: calls) = none := by
  cases c with
  | queueEvent event => cases other
  | _ => rfl

theorem recorded_cons (fate : EventFate) : recorded fate (c :: calls) = amount fate c + recorded fate calls := List.sum_cons

theorem Quiet.shown (quiet : Quiet u c) : shown u (c :: calls) = shown u calls := by
  rw [Reporting.shown, order?, quiet.offers, quiet.sends]
  rfl

/-- A call after one that offers no event makes no difference to the flushes before. -/
theorem FlushesWhenFilled.cons (h : FlushesWhenFilled u calls) (other : offered? c = none) (apart : isOffering calls = false) :
    FlushesWhenFilled u (c :: calls) := by
  intro event past before
  rcases List.suffix_cons_iff.1 before with same | before
  · cases same
    cases other
  · rw [← h event past before, List.suffix_cons_iff, or_iff_right]
    intro same
    cases same
    cases apart

/-- An event is offered, and then there is the flush that it calls for, or another call. -/
theorem FlushesWhenFilled.offer (h : FlushesWhenFilled u calls) (other : offered? c = none)
    (called : c = .tell (sender u) .flush ↔ (batching u).Fills (.queueEvent event :: calls)) :
    FlushesWhenFilled u (c :: .queueEvent event :: calls) := by
  intro event' past before
  rcases List.suffix_cons_iff.1 before with same | inside
  · cases same
    cases other
  · rcases List.suffix_cons_iff.1 inside with same | older
    · cases same
      have longer : ¬(.tell (sender u) .flush :: .queueEvent event :: calls <:+ .queueEvent event :: calls) := fun within =>
        absurd within.length_le (by simp)
      rw [← called, List.suffix_cons_iff, or_iff_left longer, List.cons.injEq, and_iff_left rfl, eq_comm]
    · have elsewhere : .tell (sender u) .flush :: .queueEvent event' :: past ≠ c :: .queueEvent event :: calls := by
        intro same
        cases same
        exact absurd older.length_le (by simp)
      rw [← h event' past older, List.suffix_cons_iff, List.suffix_cons_iff, or_iff_right elsewhere, or_iff_right (by simp)]

/-- Calls that have nothing to do with the queue do not show. -/
theorem shown_append (quiet : ∀ c ∈ more, Quiet u c) : shown u (more ++ calls) = shown u calls := by
  induction more with
  | nil => rfl
  | cons c more ih =>
    obtain ⟨first, rest⟩ := List.forall_mem_cons.1 quiet
    exact first.shown.trans (ih rest)

namespace Log

theorem nil (u : Setup) : Log u [] ((batching u).gauge []) where
  gauge := rfl
  apart := rfl
  flushes := fun _ _ before => by cases List.suffix_nil.1 before
  records := rfl

theorem quiet (h : Log u calls gauge) (quiet : Quiet u c) : Log u (c :: calls) gauge where
  gauge := by
    rw [Batching.gauge_cons_other quiet.sends (entered_of_not_offered quiet.offers)]
    exact h.gauge
  apart := by
    show (offered? c).isSome = false
    rw [quiet.offers]
    rfl
  flushes := h.flushes.cons quiet.offers h.apart
  records := by
    rw [recorded_cons, quiet.records, Nat.zero_add, List.filterMap_cons_none quiet.offers]
    exact h.records

theorem append (h : Log u calls gauge) (quiet : ∀ c ∈ more, Quiet u c) : Log u (more ++ calls) gauge := by
  induction more with
  | nil => exact h
  | cons c more ih =>
    obtain ⟨first, rest⟩ := List.forall_mem_cons.1 quiet
    exact (ih rest).quiet first

/-- The queue is sent. -/
theorem sent (h : Log u calls gauge) : Log u (.tell (sender u) .flush :: calls) gauge.reset where
  gauge := by
    have sends : (batching u).sends (.tell (sender u) .flush) = true := decide_eq_true rfl
    rw [Batching.gauge_cons_sends sends, h.gauge]
  apart := rfl
  flushes := h.flushes.cons rfl h.apart
  records := by
    rw [recorded_cons, List.filterMap_cons_none rfl]
    exact (Nat.zero_add _).trans h.records

/-- An event was offered, the queue was sent if it was due, and the event was recorded as queued. -/
theorem pushed (h : Log u calls gauge) {due : Bool}
    (filled : due = true ↔ (batching u).Fills (.queueEvent event :: calls)) :
    Log u (.events .queued 1 :: ((if due then [.tell (sender u) .flush] else []) ++ [.queueEvent event]) ++ calls)
      (if due then ((batching u).gauge (.queueEvent event :: calls)).reset
        else (batching u).gauge (.queueEvent event :: calls)) := by
  have offered {c : Call} (other : offered? c = none) (called : c = .tell (sender u) .flush ↔ due = true) :
      FlushesWhenFilled u (c :: .queueEvent event :: calls) := h.flushes.offer other (called.trans filled)
  have records : recorded .queued (.queueEvent event :: calls) + 1 = ((.queueEvent event :: calls).filterMap offered?).length := by
    rw [recorded_cons, h.records]
    exact congrArg (· + 1) (Nat.zero_add _)
  cases due with
  | true =>
    refine ⟨?_, rfl, (offered rfl (by simp)).cons rfl rfl, ?_⟩
    · exact (Batching.gauge_cons_sends (decide_eq_true rfl)).symm.trans (Batching.gauge_cons_other rfl rfl).symm
    · refine Eq.trans ?_ records
      show recorded .queued (.events .queued 1 :: .tell (sender u) .flush :: .queueEvent event :: calls) = _
      rw [recorded_cons, recorded_cons]
      simp [amount, Nat.add_comm]
  | false =>
    refine ⟨?_, rfl, offered rfl (by simp), ?_⟩
    · exact (Batching.gauge_cons_other rfl rfl).symm
    · refine Eq.trans ?_ records
      show recorded .queued (.events .queued 1 :: .queueEvent event :: calls) = _
      rw [recorded_cons]
      simp [amount, Nat.add_comm]

end Log

/-- An event that is offered shows, and the flush that it may call for does not. -/
theorem shown_pushed (due : Bool) :
    shown u (.events .queued 1 :: ((if due then [.tell (sender u) .flush] else []) ++ [.queueEvent event]) ++ calls) =
      .push event :: shown u calls := by
  cases due with
  | true => simp [shown, order?, offered?, isOffering, sends]
  | false => rfl

end Calls

/-! ## Turns of the pipeline -/

/-- What is so after some inputs: the calls go with the gauge, and what waits in the queue of the pipeline, or shows in the calls, is
what the recorder was told before its end. -/
structure Sound (u : Setup) (inputs : List Input) (s : Scene) : Prop where
  answers : s.ground.answers = u.answers
  sender : s.events.recorder = sender u
  opened : s.events.orders.isOpen = true
  destroyed : s.events.destroyed = inputs.any Input.isDestroy
  log : Log u s.ground.calls s.events.gauge
  orders : s.events.orders.queue.reverse ++ shown u s.ground.calls = orders inputs
  dropped : recorded .dropped s.ground.calls = (lateEvents inputs).length

section Turns

variable {u : Setup} {inputs : List Input} {s : Scene} {order : Order} {rest : List Order} {event : TrackedEvent} {c : Call}

/-- What the host answers to an event. -/
theorem entered_queueEvent (answers : s.ground.answers = u.answers) (event : TrackedEvent) :
    entered u (.queueEvent event :: s.ground.calls) = if s.accepts (.queueEvent event) then some event.byteSize else none := by
  show (match u.answers.outcome (.queueEvent event :: s.ground.calls) with
    | .ok () => some event.byteSize
    | .error _ => none) = _
  unfold Scene.accepts
  rw [answers]
  cases u.answers.outcome (.queueEvent event :: s.ground.calls) <;> rfl

/-- An event that waited was handled. -/
theorem log_push (answers : s.ground.answers = u.answers) (sent : s.events.recorder = sender u)
    (h : Log u s.ground.calls s.events.gauge) (event : TrackedEvent) :
    Log u (s.callsOfEvent (.push event) ++ s.ground.calls) (s.eventsAfter (.push event)).gauge := by
  have entered : (batching u).entered (.queueEvent event :: s.ground.calls) =
      if s.accepts (.queueEvent event) then some event.byteSize else none := entered_queueEvent answers event
  unfold Scene.callsOfEvent Scene.eventsAfter Scene.gaugeAfter
  dsimp only
  rw [sent]
  cases accepted : s.accepts (.queueEvent event) with
  | true =>
    rw [accepted, if_pos rfl] at entered
    have gauge : (batching u).gauge (.queueEvent event :: s.ground.calls) = s.events.gauge.add event.byteSize := by
      rw [h.gauge]
      exact Batching.gauge_cons_entered rfl entered
    have filled := Batching.fills_iff_isDue entered
    rw [gauge] at filled
    have log := h.pushed filled.symm
    rw [gauge] at log
    exact log
  | false =>
    rw [accepted, if_neg Bool.false_ne_true] at entered
    have gauge : (batching u).gauge (.queueEvent event :: s.ground.calls) = s.events.gauge := by
      rw [h.gauge]
      exact Batching.gauge_cons_other rfl entered
    have unfilled : ¬(batching u).Fills (.queueEvent event :: s.ground.calls) := by
      rintro ⟨isIn, -⟩
      rw [entered] at isIn
      cases isIn
    have never : false = true ↔ (batching u).Fills (.queueEvent event :: s.ground.calls) := iff_of_false Bool.false_ne_true unfilled
    have log := h.pushed never
    rw [gauge] at log
    exact log

/-- The order that is handled shows in the calls that it leads to. -/
theorem shown_callsOfEvent (sent : s.events.recorder = sender u) (apart : isOffering s.ground.calls = false) (order : Order) :
    shown u (s.callsOfEvent order ++ s.ground.calls) = order :: shown u s.ground.calls := by
  cases order with
  | push event =>
    unfold Scene.callsOfEvent
    rw [sent]
    exact shown_pushed _
  | flush => simp [Scene.callsOfEvent, shown, order?, offered?, sends, sent, apart]

/-- The pipeline drops no event. -/
theorem dropped_callsOfEvent (s : Scene) (order : Order) :
    recorded .dropped (s.callsOfEvent order ++ s.ground.calls) = recorded .dropped s.ground.calls := by
  unfold Scene.callsOfEvent
  cases order with
  | push event =>
    dsimp only
    split <;> simp [recorded, amount]
  | flush => simp [recorded, amount]

/-- That the order has left the queue is all the same to the calls that it leads to. -/
theorem turned_calls (s : Scene) (order : Order) (rest : List Order) :
    (turned s order rest).ground.calls = s.callsOfEvent order ++ s.ground.calls := by
  cases order <;> rfl

theorem turned_gauge (s : Scene) (order : Order) (rest : List Order) :
    (turned s order rest).events.gauge = (s.eventsAfter order).gauge := by
  cases order <;> rfl

/-- What the recorder is told has nothing to do with the queue yet. -/
theorem quiet_callsOfTold (s : Scene) (command : Command) : ∀ c ∈ callsOfTold s command, Quiet u c := by
  have periodic {order : WorkerOrder} (other : order ≠ .flush) : Quiet u (.tell s.events.periodic order) := by
    refine ⟨rfl, ?_, rfl⟩
    cases order with
    | flush => exact absurd rfl other
    | _ => rfl
  have late : Quiet u (.events .dropped 1) := ⟨rfl, rfl, rfl⟩
  unfold callsOfTold
  cases s.events.destroyed <;> cases command <;> simp [periodic, late]

/-- The recorder drops an event that it is given after its end. -/
theorem dropped_callsOfTold (s : Scene) (command : Command) :
    recorded .dropped (callsOfTold s command ++ s.ground.calls) =
      (if s.events.destroyed then (Input.tell command).event? else none).toList.length + recorded .dropped s.ground.calls := by
  unfold callsOfTold
  cases s.events.destroyed <;> cases command <;> simp [recorded, amount, Input.event?]

namespace Sound

/-- That the pipeline has its turn tells the recorder nothing. -/
theorem step (h : Sound u inputs s) : Sound u (.step :: inputs) s where
  answers := h.answers
  sender := h.sender
  opened := h.opened
  destroyed := h.destroyed
  log := h.log
  orders := by
    rw [orders_cons, h.orders]
    cases inputs.any Input.isDestroy <;> rfl
  dropped := by
    rw [lateEvents_cons, h.dropped]
    cases inputs.any Input.isDestroy <;> rfl

/-- The pipeline handles an order. -/
theorem turned (h : Sound u inputs s) (waiting : s.events.orders.queue = order :: rest) :
    Sound u (.step :: inputs) (turned s order rest) := by
  obtain ⟨answers, sender, opened, destroyed, log, orders, dropped⟩ := h.step
  refine ⟨?_, ?_, ?_, ?_, ?_, ?_, ?_⟩
  · cases order <;> exact answers
  · cases order <;> exact sender
  · rw [turned_orders]
    exact opened
  · cases order <;> exact destroyed
  · rw [turned_calls, turned_gauge]
    cases order with
    | push event => exact log_push answers sender log event
    | flush =>
      show Log u (.tell s.events.recorder .flush :: s.ground.calls) _
      rw [sender]
      exact log.sent
  · rw [turned_orders, turned_calls, shown_callsOfEvent sender log.apart, ← orders, waiting, List.reverse_cons,
      List.append_assoc]
    rfl
  · rw [turned_calls, dropped_callsOfEvent, dropped]

/-- The recorder is told something. -/
theorem told (h : Sound u inputs s) (command : Command) : Sound u (.tell command :: inputs) (s.toldRecorder command) := by
  have send (order : Order) :
      s.events.orders.send order = { queue := s.events.orders.queue ++ [order], isOpen := true } := by
    unfold Channel.send
    rw [if_pos h.opened, h.opened]
  rw [toldRecorder_eq]
  refine ⟨h.answers, h.sender, ?_, ?_, h.log.append (quiet_callsOfTold s command), ?_, ?_⟩
  · show (stateTold s command).orders.isOpen = true
    unfold stateTold
    dsimp only
    split
    · rw [send]
    · exact h.opened
  · show ((Input.tell command).isDestroy || s.events.destroyed) = _
    rw [h.destroyed, List.any_cons]
  · show (stateTold s command).orders.queue.reverse ++ shown u (callsOfTold s command ++ s.ground.calls) = _
    rw [shown_append (quiet_callsOfTold s command), orders_cons, ← h.orders, ← h.destroyed]
    unfold stateTold
    dsimp only
    split
    · next order sent =>
      rw [send, sent, List.reverse_append]
      rfl
    · next silent =>
      rw [silent]
      rfl
  · show recorded .dropped (callsOfTold s command ++ s.ground.calls) = _
    rw [dropped_callsOfTold, lateEvents_cons, List.length_append, h.dropped, h.destroyed]

end Sound

theorem sound_scene (u : Setup) : Sound u [] u.scene := by
  have each : ∀ c ∈ u.scene.ground.calls, Quiet u c ∧ amount .dropped c = 0 := by
    intro c inside
    have kind := List.all_eq_true.1 u.opening_scene c inside
    cases c with
    | create w => exact ⟨⟨rfl, rfl, rfl⟩, rfl⟩
    | persistImpressions enable => exact ⟨⟨rfl, rfl, rfl⟩, rfl⟩
    | readHashes => exact ⟨⟨rfl, rfl, rfl⟩, rfl⟩
    | _ => cases kind
  have quiet : ∀ c ∈ u.scene.ground.calls, Quiet u c := fun c inside => (each c inside).1
  have log := (Log.nil u).append quiet
  have silent : shown u (u.scene.ground.calls ++ []) = shown u [] := shown_append quiet
  rw [List.append_nil] at log silent
  refine ⟨u.answers_scene, rfl, rfl, rfl, log, silent, List.sum_eq_zero fun n inside => ?_⟩
  obtain ⟨c, there, rfl⟩ := List.mem_map.1 inside
  exact (each c there).2

theorem sound_after (u : Setup) (inputs : List Input) : Sound u inputs (after u inputs) := by
  induction inputs with
  | nil => exact sound_scene u
  | cons i past ih =>
    cases i with
    | tell command =>
      rw [after, take_tell]
      exact ih.told command
    | step =>
      rw [after]
      cases waiting : (after u past).events.orders.queue with
      | nil =>
        rw [take_step_nil waiting]
        exact ih.step
      | cons order rest =>
        rw [take_step_cons waiting]
        exact ih.turned waiting

end Turns

/-! ## What the recorder was told shows -/

/-- The event that an order brings, if it brings one. -/
def pushed? : Order → Option TrackedEvent
  | .push event => some event
  | .flush => none

/-- The events that show are those that were offered. -/
theorem pushed_shown (u : Setup) (calls : List Call) : (shown u calls).filterMap pushed? = calls.filterMap offered? := by
  induction calls with
  | nil => rfl
  | cons c past ih =>
    rw [shown, List.filterMap_append, ih, order?]
    cases offering : offered? c with
    | some event => exact (List.filterMap_cons_some offering).symm
    | none =>
      rw [List.filterMap_cons_none offering]
      cases sends u c && !isOffering past <;> rfl

theorem pushed_orders (inputs : List Input) : (orders inputs).filterMap pushed? = events inputs := by
  rw [orders, events, List.filterMap_filterMap]
  refine congrArg (List.filterMap · (early inputs)) (funext fun i => ?_)
  cases i with
  | step => rfl
  | tell command => cases command <;> rfl

/-- Each event that the recorder is given comes before its end or too late. -/
theorem length_events_add (inputs : List Input) :
    (events inputs).length + (lateEvents inputs).length = (inputs.filterMap Input.event?).length := by
  rw [Nat.add_comm, events, lateEvents, ← List.length_append, ← List.filterMap_append, late_append_early]

/-- Whatever a recorder is told, and whatever the host refuses, the pipeline catches up after as many turns as orders wait. And once no
order waits:

1. the events that were offered to the host are those that the recorder was given before its end, each once, in order;
2. these events and the flushes that come right after none of them are together what the recorder was told before its end, to flush
   included, in order;
3. right after an event there is a flush exactly if the event filled the queue: the host took it, and with it the events that it took
   since the last flush of either kind are as many, or have as many bytes, as the settings say;
4. as many events are recorded as queued or as dropped as the recorder was given, those as dropped that it was given after its end. -/
theorem flushed_when_filled (u : Setup) (inputs : List Input) :
    (after u (List.replicate (after u inputs).events.orders.queue.length .step ++ inputs)).events.orders.queue = [] ∧
    ((after u inputs).events.orders.queue = [] →
      (after u inputs).ground.calls.filterMap offered? = events inputs ∧
      shown u (after u inputs).ground.calls = orders inputs ∧
      FlushesWhenFilled u (after u inputs).ground.calls ∧
      recorded .queued (after u inputs).ground.calls + recorded .dropped (after u inputs).ground.calls =
        (inputs.filterMap Input.event?).length ∧
      recorded .dropped (after u inputs).ground.calls = (lateEvents inputs).length) := by
  obtain ⟨-, -, -, -, log, told, dropped⟩ := sound_after u inputs
  refine ⟨by rw [queue_caughtUp, List.drop_length], fun caughtUp => ?_⟩
  rw [caughtUp, List.reverse_nil, List.nil_append] at told
  have offered : (after u inputs).ground.calls.filterMap offered? = events inputs := by
    rw [← pushed_shown u, told, pushed_orders]
  refine ⟨offered, told, log.flushes, ?_, dropped⟩
  rw [log.records, offered, dropped, length_events_add]

/-- An event that is reported, of 78 bytes. -/
def visit : TrackedEvent := .new "user" "visitor" "visit" 0

/-- A recorder whose queue is filled by one event. -/
def narrow : Setup where
  settings := { eventsQueueSize := 1 }
  keepsHashes := false
  answers := {}

/-- A recorder whose queue is filled by the bytes of two. -/
def light : Setup where
  settings := { eventsQueueBytes := 156 }
  keepsHashes := false
  answers := {}

/-- An event fills a narrow queue, which is flushed right after it. A light one is flushed after the second event, and not after the
first. -/
theorem flushed_when_filled_narrow :
    let visited := .queueEvent visit :: light.scene.ground.calls
    let calls := (after light [.step, .step, .tell (.push visit), .tell (.push visit)]).ground.calls
    ((after narrow [.step, .tell (.push visit)]).events.orders.queue = [] ∧
      .tell (sender narrow) .flush :: .queueEvent visit :: narrow.scene.ground.calls <:+
        (after narrow [.step, .tell (.push visit)]).ground.calls) ∧
    ((after light [.step, .step, .tell (.push visit), .tell (.push visit)]).events.orders.queue = [] ∧
      ¬.tell (sender light) .flush :: visited <:+ calls ∧
      .tell (sender light) .flush :: .queueEvent visit :: .events .queued 1 :: visited <:+ calls) := by
  intro visited calls
  obtain ⟨-, caughtUp⟩ := flushed_when_filled narrow [.step, .tell (.push visit)]
  obtain ⟨-, -, flushes, -, -⟩ := caughtUp rfl
  obtain ⟨-, caughtUp'⟩ := flushed_when_filled light [.step, .step, .tell (.push visit), .tell (.push visit)]
  obtain ⟨-, -, flushes', -, -⟩ := caughtUp' rfl
  refine ⟨⟨rfl, (flushes visit _ ⟨[.events .queued 1, .tell (sender narrow) .flush], rfl⟩).2 ⟨rfl, .inl ?_⟩⟩, rfl, ?_, ?_⟩
  · exact Nat.le_refl 1
  · intro early
    have before : visited <:+ calls :=
      ⟨[.events .queued 1, .tell (sender light) .flush, .queueEvent visit, .events .queued 1], rfl⟩
    exact absurd ((flushes' visit _ before).1 early).2 (by decide)
  · exact (flushes' visit _ ⟨[.events .queued 1, .tell (sender light) .flush], rfl⟩).2 ⟨rfl, .inr (by decide)⟩

end FlagKeeper.Reporting
