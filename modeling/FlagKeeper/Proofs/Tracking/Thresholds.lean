import FlagKeeper.Proofs.Recording.Batches
import FlagKeeper.Proofs.Tracking.Scene

/-!
# When impressions and unique keys are sent

The tracker has two queues to send: the impressions that the host took, and the unique keys. Each is sent on a flush, and when it is
filled, by an impression that the host takes or by one that is only counted. How many it takes to fill a queue follows from the limits
and from the size that one item is taken to have (`Batching.fillingCount`). The main statement of this file reads every turn of the
pipeline off the calls that were made before it: with the number of items that came since the queue was last sent, the calls of the
turn are known, and so is what becomes of the two gauges.
-/

namespace FlagKeeper.Tracking

open Ensemble (Call)
open ImpressionTracker (Order Command impressionBytes uniqueKeyBytes)
open Recording (Scene Setup Batching)

/-- Whether a call has a worker of a kind send what is queued. -/
def isFlushOf (kind : WorkerKind) : Call → Bool
  | .tell w .flush => w.kind = kind
  | _ => false

/-- Whether a call has any worker send what is queued. -/
def isFlush : Call → Bool
  | .tell _ .flush => true
  | _ => false

/-- The impressions that the host took, with the worker that sends them. -/
def impressionsQueue (u : Setup) : Batching where
  entered
    | .queueImpression i :: past =>
      if (u.answers.outcome (.queueImpression i :: past)).isOk then some impressionBytes else none
    | _ => none
  sends := isFlushOf .impressionsRecorder
  maxCount := u.settings.impressionsQueueSize
  maxBytes := u.settings.impressionsQueueBytes

/-- The keys of the impressions that are only counted, with the worker that sends them. -/
def keysQueue (u : Setup) : Batching where
  entered
    | .trackUnique _ _ :: _ => some uniqueKeyBytes
    | _ => none
  sends := isFlushOf .uniqueKeysRecorder
  maxCount := u.settings.impressionsQueueSize
  maxBytes := u.settings.impressionsQueueBytes

/-! ## Calls that concern neither queue -/

section Aside

variable {u : Setup} {s : Scene} {c : Call}

/-- A call that neither puts something into a queue nor has one sent. -/
def isAside : Call → Bool
  | .queueImpression _ => false
  | .trackUnique _ _ => false
  | .tell _ .flush => false
  | _ => true

theorem isAside_queue (aside : isAside c = true) : (impressionsQueue u).IsAside c := by
  cases c with
  | queueImpression i => cases aside
  | tell w order =>
    cases order with
    | flush => cases aside
    | _ => exact ⟨rfl, fun _ => rfl⟩
  | _ => exact ⟨rfl, fun _ => rfl⟩

theorem isAside_keys (aside : isAside c = true) : (keysQueue u).IsAside c := by
  cases c with
  | trackUnique key feature => cases aside
  | tell w order =>
    cases order with
    | flush => cases aside
    | _ => exact ⟨rfl, fun _ => rfl⟩
  | _ => exact ⟨rfl, fun _ => rfl⟩

theorem isAside_queue_trackUnique (key feature : String) : (impressionsQueue u).IsAside (.trackUnique key feature) :=
  ⟨rfl, fun _ => rfl⟩

theorem isAside_keys_queueImpression (i : Impression) : (keysQueue u).IsAside (.queueImpression i) := ⟨rfl, fun _ => rfl⟩

/-- The workers of the unique keys and of the counts send no impressions. -/
theorem isAside_queue_sent (u : Setup) : (impressionsQueue u).IsAside (.tell u.scene.tracker.crew.uniqueKeys .flush) ∧
    (impressionsQueue u).IsAside (.tell u.scene.tracker.crew.counts .flush) := ⟨⟨rfl, fun _ => rfl⟩, ⟨rfl, fun _ => rfl⟩⟩

/-- The workers of the impressions and of the counts send no unique keys. -/
theorem isAside_keys_sent (u : Setup) : (keysQueue u).IsAside (.tell u.scene.tracker.crew.impressions .flush) ∧
    (keysQueue u).IsAside (.tell u.scene.tracker.crew.counts .flush) := ⟨⟨rfl, fun _ => rfl⟩, ⟨rfl, fun _ => rfl⟩⟩

theorem isAside_savesUnique (s : Scene) : ∀ c ∈ s.savesUnique, isAside c = true := by
  unfold Scene.savesUnique
  split <;> simp [isAside]

theorem isAside_savesCounts (s : Scene) : ∀ c ∈ s.savesCounts, isAside c = true := by
  unfold Scene.savesCounts
  split <;> simp [isAside]

theorem isAside_savesHashes (s : Scene) : ∀ c ∈ s.savesHashes, isAside c = true := by
  unfold Scene.savesHashes
  split <;> simp [isAside]

theorem isAside_tellsPeriodic (s : Scene) {order : WorkerOrder} (other : order ≠ .flush) :
    ∀ c ∈ s.tellsPeriodic order, isAside c = true := by
  cases order with
  | flush => exact absurd rfl other
  | _ => simp [Scene.tellsPeriodic, isAside]

/-- Orders that are neither a flush nor an impression concern neither queue. -/
theorem isAside_callsOf {order : Order} (plain : pushed? order = none) (other : order ≠ .flush) :
    ∀ c ∈ s.callsOf order, isAside c = true := by
  have saves : ∀ c ∈ s.savesHashes ++ (s.savesUnique ++ s.savesCounts), isAside c = true := by
    simp only [List.forall_mem_append]
    exact ⟨isAside_savesHashes s, isAside_savesUnique s, isAside_savesCounts s⟩
  cases order with
  | push pushed => cases plain
  | flush => exact absurd rfl other
  | pause => exact List.forall_mem_append.2 ⟨isAside_tellsPeriodic s (by simp), saves⟩
  | destroy =>
    simp only [Scene.callsOf, List.forall_mem_append] at saves ⊢
    exact ⟨saves.1, saves.2.1, saves.2.2, isAside_tellsPeriodic s (by simp)⟩
  | _ => exact isAside_tellsPeriodic s (by simp)

theorem isAside_callsOfTold (s : Scene) (command : Command) : ∀ c ∈ callsOfTold s command, isAside c = true := by
  intro c inside
  obtain rfl | ⟨enable, rfl⟩ := mem_callsOfTold inside <;> rfl

theorem filter_isFlush {calls : List Call} (aside : ∀ c ∈ calls, isAside c = true) : calls.filter isFlush = [] := by
  rw [List.filter_eq_nil_iff]
  intro c inside flush
  have other := aside c inside
  cases c with
  | tell w order =>
    cases order with
    | flush => cases other
    | _ => cases flush
  | _ => cases flush

/-- On a flush each of the three workers is told to send. -/
theorem filter_isFlush_callsOf (s : Scene) : (s.callsOf .flush).filter isFlush =
    [.tell s.tracker.crew.uniqueKeys .flush, .tell s.tracker.crew.counts .flush, .tell s.tracker.crew.impressions .flush] := by
  have unique := filter_isFlush (isAside_savesUnique s)
  have counts := filter_isFlush (isAside_savesCounts s)
  simp [Scene.callsOf, List.filter_cons, isFlush, unique, counts]

end Aside

/-! ## The two gauges -/

section Gauges

variable (s : Scene) (rest : List Order)

theorem callsOf_push (pushed : TrackedImpression) : s.callsOf (.push pushed) =
    if isCounted s.mode pushed then s.callsOfCounted pushed.impression
    else s.callsOfDelivery (s.lastSeen pushed.impression) := rfl

/-- What an order does to the gauge of the impressions. -/
theorem turned_queueGauge (order : Order) : (turned s order rest).tracker.queueGauge =
    match order with
    | .push pushed =>
      if isCounted s.mode pushed then s.tracker.queueGauge
      else if s.isQueued (s.lastSeen pushed.impression) && s.accepts (.queueImpression (s.lastSeen pushed.impression))
      then Scene.gaugeAfter s.tracker.queueGauge impressionBytes else s.tracker.queueGauge
    | .flush => s.tracker.queueGauge.reset
    | _ => s.tracker.queueGauge := by
  cases order with
  | push pushed =>
    let s' := s.tracked { s.tracker with orders := { s.tracker.orders with queue := rest } }
    show (if isCounted s.mode pushed then s'.stateAfterCounted pushed.impression
      else (s'.observed s.mode pushed.impression).stateAfterDelivery (s'.lastSeen pushed.impression)).queueGauge = _
    dsimp only
    split
    · rfl
    · unfold Scene.observed
      split <;> rfl
  | _ => rfl

/-- What an order does to the gauge of the unique keys. -/
theorem turned_uniqueGauge (order : Order) : (turned s order rest).tracker.uniqueGauge =
    match order with
    | .push pushed =>
      if isCounted s.mode pushed then Scene.gaugeAfter s.tracker.uniqueGauge uniqueKeyBytes else s.tracker.uniqueGauge
    | .flush => s.tracker.uniqueGauge.reset
    | _ => s.tracker.uniqueGauge := by
  cases order with
  | push pushed =>
    let s' := s.tracked { s.tracker with orders := { s.tracker.orders with queue := rest } }
    show (if isCounted s.mode pushed then s'.stateAfterCounted pushed.impression
      else (s'.observed s.mode pushed.impression).stateAfterDelivery (s'.lastSeen pushed.impression)).uniqueGauge = _
    dsimp only
    split
    · rfl
    · unfold Scene.observed
      split <;> rfl
  | _ => rfl

theorem turned_crew (order : Order) : (turned s order rest).tracker.crew = s.tracker.crew := by
  cases order with
  | push pushed =>
    obtain ⟨_, _, after⟩ :=
      stateAfter_push (s.tracked { s.tracker with orders := { s.tracker.orders with queue := rest } }) pushed
    show (Scene.stateAfter _ (.push pushed)).crew = _
    rw [after]
    rfl
  | _ => rfl

/-- What a tracker is told is all the same to its crew and to both gauges. -/
theorem toldTracker_gauges (command : Command) : (s.toldTracker command).tracker.crew = s.tracker.crew ∧
    (s.toldTracker command).tracker.queueGauge = s.tracker.queueGauge ∧
    (s.toldTracker command).tracker.uniqueGauge = s.tracker.uniqueGauge := by
  unfold Scene.toldTracker Scene.sentIfAlive
  cases s.tracker.destroyed <;> cases s.tracker.tracking <;> cases command <;> exact ⟨rfl, rfl, rfl⟩

end Gauges

theorem count_gaugeAfter (g : FlushGauge) (size : Nat) :
    (Scene.gaugeAfter g size).count = if (g.add size).isDue then 0 else g.count + 1 := by
  unfold Scene.gaugeAfter
  split <;> rfl

/-! ## Turns -/

/-- The gauges of a tracker are those of its two queues. -/
structure IsPaced (u : Setup) (s : Scene) : Prop where
  answers : s.ground.answers = u.answers
  crew : s.tracker.crew = u.scene.tracker.crew
  queue : (impressionsQueue u).IsKept impressionBytes s.ground.calls s.tracker.queueGauge
  keys : (keysQueue u).IsKept uniqueKeyBytes s.ground.calls s.tracker.uniqueGauge

section Turns

variable {u : Setup} {s : Scene}

theorem accepts_eq_isOk (answers : s.ground.answers = u.answers) (c : Call) :
    s.accepts c = (u.answers.outcome (c :: s.ground.calls)).isOk := by
  unfold Scene.accepts
  rw [answers]
  cases u.answers.outcome (c :: s.ground.calls) <;> rfl

namespace IsPaced

/-- An impression that is only counted is all the same to the queue of the impressions. -/
theorem counted_queue (h : IsPaced u s) (i : Impression) :
    (impressionsQueue u).IsKept impressionBytes (s.callsOfCounted i ++ s.ground.calls) s.tracker.queueGauge := by
  refine h.queue.append fun c inside => ?_
  unfold Scene.callsOfCounted at inside
  rcases List.mem_append.1 inside with sent | tracked
  · split at sent
    · rcases List.mem_cons.1 sent with rfl | saved
      · rw [h.crew]
        exact (isAside_queue_sent u).1
      · exact isAside_queue (isAside_savesUnique s c saved)
    · cases sent
  · rw [List.mem_singleton.1 tracked]
    exact isAside_queue_trackUnique _ _

/-- An impression that is only counted goes to the unique keys, and these are sent if they are due then. -/
theorem counted_keys (h : IsPaced u s) (i : Impression) :
    (keysQueue u).IsKept uniqueKeyBytes (s.callsOfCounted i ++ s.ground.calls)
      (Scene.gaugeAfter s.tracker.uniqueGauge uniqueKeyBytes) := by
  unfold Scene.callsOfCounted Scene.gaugeAfter
  cases due : (s.tracker.uniqueGauge.add uniqueKeyBytes).isDue with
  | true =>
    rw [if_pos rfl, if_pos rfl, List.append_assoc, h.crew]
    exact h.keys.filled rfl (fun c inside => isAside_keys (isAside_savesUnique s c inside)) rfl rfl
  | false =>
    rw [if_neg Bool.false_ne_true, if_neg Bool.false_ne_true]
    exact h.keys.entered (by decide) rfl rfl due

/-- An impression that may be delivered is all the same to the unique keys. -/
theorem delivered_keys (h : IsPaced u s) (i : Impression) :
    (keysQueue u).IsKept uniqueKeyBytes (s.callsOfDelivery i ++ s.ground.calls) s.tracker.uniqueGauge := by
  refine h.keys.append fun c inside => ?_
  unfold Scene.callsOfDelivery at inside
  split at inside
  · rcases List.mem_cons.1 inside with rfl | inside
    · exact isAside_keys rfl
    · rcases List.mem_append.1 inside with sent | offered
      · split at sent
        · rw [List.mem_singleton.1 sent, h.crew]
          exact (isAside_keys_sent u).1
        · cases sent
      · rw [List.mem_singleton.1 offered]
        exact isAside_keys_queueImpression _
  · rw [List.mem_singleton.1 inside]
    exact isAside_keys rfl

/-- An impression goes into its queue if the host takes it, and the queue is sent if it is due then. -/
theorem delivered_queue (h : IsPaced u s) (i : Impression) :
    (impressionsQueue u).IsKept impressionBytes (s.callsOfDelivery i ++ s.ground.calls)
      (if s.isQueued i && s.accepts (.queueImpression i) then Scene.gaugeAfter s.tracker.queueGauge impressionBytes
        else s.tracker.queueGauge) := by
  have entered : (impressionsQueue u).entered (.queueImpression i :: s.ground.calls) =
      if s.accepts (.queueImpression i) then some impressionBytes else none := by
    rw [accepts_eq_isOk h.answers]
    rfl
  unfold Scene.callsOfDelivery Scene.fillsQueue
  cases s.isQueued i with
  | false => exact h.queue.cons rfl rfl
  | true =>
    rw [if_pos rfl, Bool.true_and]
    refine Batching.IsKept.cons ?_ rfl rfl
    cases accepted : s.accepts (.queueImpression i) with
    | false =>
      rw [accepted, if_neg Bool.false_ne_true] at entered
      exact h.queue.cons rfl entered
    | true =>
      rw [accepted, if_pos rfl] at entered
      rw [if_pos rfl, Bool.true_and]
      unfold Scene.gaugeAfter
      cases due : (s.tracker.queueGauge.add impressionBytes).isDue with
      | true =>
        rw [if_pos rfl, if_pos rfl, h.crew]
        exact h.queue.filled rfl (List.forall_mem_nil _) rfl entered
      | false =>
        rw [if_neg Bool.false_ne_true, if_neg Bool.false_ne_true]
        exact h.queue.entered (by decide) rfl entered due

/-- On a flush, both queues are sent. -/
theorem flushed (h : IsPaced u s) :
    (impressionsQueue u).IsKept impressionBytes (s.callsOf .flush ++ s.ground.calls) s.tracker.queueGauge.reset ∧
    (keysQueue u).IsKept uniqueKeyBytes (s.callsOf .flush ++ s.ground.calls) s.tracker.uniqueGauge.reset := by
  obtain ⟨keysAside, countsAside⟩ := isAside_queue_sent u
  obtain ⟨impressionsAside, countsAside'⟩ := isAside_keys_sent u
  unfold Scene.callsOf
  rw [h.crew, List.cons_append, List.append_assoc]
  constructor
  · have sent : (impressionsQueue u).IsKept impressionBytes
        (.tell u.scene.tracker.crew.impressions .flush :: (s.savesCounts ++ s.ground.calls)) s.tracker.queueGauge.reset :=
      (h.queue.append fun c inside => isAside_queue (isAside_savesCounts s c inside)).sent rfl
    have saved := (sent.cons countsAside.goes_on (countsAside.none _)).append fun c inside =>
      isAside_queue (isAside_savesUnique s c inside)
    exact saved.cons keysAside.goes_on (keysAside.none _)
  · have counts := h.keys.append fun c inside => isAside_keys (isAside_savesCounts s c inside)
    have others := (counts.cons impressionsAside.goes_on (impressionsAside.none _)).cons countsAside'.goes_on
      (countsAside'.none _)
    exact (others.append fun c inside => isAside_keys (isAside_savesUnique s c inside)).sent rfl

theorem turned (h : IsPaced u s) (order : Order) (rest : List Order) : IsPaced u (turned s order rest) := by
  constructor
  · cases order <;> exact h.answers
  · exact (turned_crew s rest order).trans h.crew
  · rw [turned_calls, turned_queueGauge]
    cases order with
    | push pushed =>
      rw [callsOf_push]
      dsimp only
      split
      · exact h.counted_queue _
      · exact h.delivered_queue _
    | flush => exact h.flushed.1
    | _ => exact h.queue.append fun c inside => isAside_queue (isAside_callsOf rfl (by simp) c inside)
  · rw [turned_calls, turned_uniqueGauge]
    cases order with
    | push pushed =>
      rw [callsOf_push]
      dsimp only
      split
      · exact h.counted_keys _
      · exact h.delivered_keys _
    | flush => exact h.flushed.2
    | _ => exact h.keys.append fun c inside => isAside_keys (isAside_callsOf rfl (by simp) c inside)

theorem told (h : IsPaced u s) (command : Command) : IsPaced u (s.toldTracker command) := by
  obtain ⟨crew, queueGauge, uniqueGauge⟩ := toldTracker_gauges s command
  constructor
  · rw [(toldTracker_eq s command).1]
    exact h.answers
  · exact crew.trans h.crew
  · rw [toldTracker_calls, queueGauge]
    exact h.queue.append fun c inside => isAside_queue (isAside_callsOfTold s command c inside)
  · rw [toldTracker_calls, uniqueGauge]
    exact h.keys.append fun c inside => isAside_keys (isAside_callsOfTold s command c inside)

/-- The calls of an impression that is only counted, and the gauge after it. -/
theorem counted_turn (h : IsPaced u s) {pushed : TrackedImpression} (isCounted : isCounted s.mode pushed = true)
    (rest : List Order) :
    let tracked := ((keysQueue u).pending s.ground.calls).length
    let full := (keysQueue u).fillingCount uniqueKeyBytes
    (Tracking.turned s (.push pushed) rest).ground.calls =
      (if tracked + 1 = full
        then .tell u.scene.tracker.crew.uniqueKeys .flush :: (if s.tracker.persistence then [.saveUnique] else []) else []) ++
      .trackUnique pushed.impression.keyName pushed.impression.featureName :: s.ground.calls ∧
    (Tracking.turned s (.push pushed) rest).tracker.uniqueGauge.count = (if tracked + 1 = full then 0 else tracked + 1) := by
  intro tracked full
  have count : s.tracker.uniqueGauge.count = tracked := by rw [h.keys.gauge]; rfl
  have fills : (s.tracker.uniqueGauge.add uniqueKeyBytes).isDue = true ↔ tracked + 1 = full := h.keys.isDue_iff (by decide)
  rw [turned_calls, callsOf_push, isCounted, if_pos rfl, turned_uniqueGauge]
  dsimp only
  rw [isCounted, if_pos rfl, count_gaugeAfter, count]
  unfold Scene.callsOfCounted Scene.savesUnique
  rw [h.crew, List.append_assoc]
  simp only [fills]
  exact ⟨rfl, trivial⟩

/-- The calls of an impression that may be delivered, and the gauge after it. -/
theorem delivered_turn (h : IsPaced u s) {pushed : TrackedImpression} (delivers : isCounted s.mode pushed = false)
    (rest : List Order) :
    let queued := ((impressionsQueue u).pending s.ground.calls).length
    let full := (impressionsQueue u).fillingCount impressionBytes
    let s' := Tracking.turned s (.push pushed) rest
    s'.ground.calls = .impressions .deduped 1 :: s.ground.calls ∧ s'.tracker.queueGauge = s.tracker.queueGauge ∨
      ∃ previousTime,
        let i := { pushed.impression with previousTime }
        let taken := (u.answers.outcome (.queueImpression i :: s.ground.calls)).isOk
        s'.ground.calls =
          .impressions .queued 1 :: ((if taken ∧ queued + 1 = full then [.tell u.scene.tracker.crew.impressions .flush] else []) ++
            .queueImpression i :: s.ground.calls) ∧
        s'.tracker.queueGauge.count = (if taken then if queued + 1 = full then 0 else queued + 1 else queued) := by
  intro queued full s'
  have count : s.tracker.queueGauge.count = queued := by rw [h.queue.gauge]; rfl
  have fills : (s.tracker.queueGauge.add impressionBytes).isDue = true ↔ queued + 1 = full := h.queue.isDue_iff (by decide)
  have calls : s'.ground.calls = s.callsOfDelivery (s.lastSeen pushed.impression) ++ s.ground.calls := by
    rw [turned_calls, callsOf_push, delivers]
    rfl
  have gauge : s'.tracker.queueGauge =
      if s.isQueued (s.lastSeen pushed.impression) && s.accepts (.queueImpression (s.lastSeen pushed.impression))
      then Scene.gaugeAfter s.tracker.queueGauge impressionBytes else s.tracker.queueGauge := by
    rw [turned_queueGauge]
    dsimp only
    rw [delivers]
    rfl
  unfold Scene.callsOfDelivery Scene.fillsQueue at calls
  cases queues : s.isQueued (s.lastSeen pushed.impression) with
  | false =>
    rw [queues] at calls gauge
    exact .inl ⟨calls, gauge⟩
  | true =>
    rw [queues, if_pos rfl, accepts_eq_isOk h.answers, h.crew] at calls
    rw [queues, Bool.true_and, accepts_eq_isOk h.answers] at gauge
    refine .inr ⟨(s.tracker.observer.testAndSet pushed.impression.identityHash pushed.impression.time).1, ?_, ?_⟩
    · simp only [Bool.and_eq_true, fills] at calls
      rw [calls, List.cons_append, List.append_assoc]
      rfl
    · rw [gauge, apply_ite FlushGauge.count, count_gaugeAfter, count]
      simp only [fills]
      rfl

end IsPaced

theorem isPaced_scene (u : Setup) : IsPaced u u.scene := by
  have opening : ∀ c ∈ u.scene.ground.calls, isAside c = true := by
    intro c inside
    have kind := List.all_eq_true.1 u.opening_scene c inside
    cases c <;> first | rfl | cases kind
  exact ⟨u.answers_scene, rfl, .empty fun c inside => isAside_queue (opening c inside),
    .empty fun c inside => isAside_keys (opening c inside)⟩

theorem isPaced_after (u : Setup) (inputs : List Input) : IsPaced u (after u inputs) :=
  run_induction (P := fun _ s => IsPaced u s) (isPaced_scene u) (fun _ command h => h.told command)
    (fun _ order rest _ h => h.turned order rest) inputs

end Turns

/-- **Both queues are sent when they are filled, and on a flush.** Of any settings, over any host, whatever it refuses, whatever the
tracker is told and whenever its pipeline has its turn, let `queued` be the number of impressions that the host took since the worker
of the impressions was last told to send them, and `tracked` that of the impressions that were only counted since the worker of the
unique keys was.

1. The gauges say these numbers, with the bytes of as many items, an impression having 150 and a key 100. Each number is less than it
   takes to fill the queue: as many as the settings say, or as have as many bytes, and at least one.
2. A new tracker has nothing sent. What a tracker is told has nothing sent either, and leaves the gauges as they are.
3. On a flush each of the three workers is told to send once, and both gauges start anew.
4. An impression that is only counted goes to the unique keys. These are sent right then exactly if it fills them, and saved before that
   exactly if there is leave to persist. The gauge of the impressions stays.
5. An impression that may be delivered was seen before, or is offered to the host. The queue is sent right then exactly if the host
   takes it and it fills the queue; if the host refuses it, the gauge stays. The gauge of the unique keys stays in any case.
6. At any other order nothing is offered, tracked or sent, and both gauges stay. -/
theorem flushed_at_thresholds (u : Setup) (inputs : List Input) :
    let s := after u inputs
    let s' := after u (.step :: inputs)
    let crew := u.scene.tracker.crew
    let queued := ((impressionsQueue u).pending s.ground.calls).length
    let tracked := ((keysQueue u).pending s.ground.calls).length
    let full := max 1 (min u.settings.impressionsQueueSize (u.settings.impressionsQueueBytes ⌈/⌉ 150))
    let fullOfKeys := max 1 (min u.settings.impressionsQueueSize (u.settings.impressionsQueueBytes ⌈/⌉ 100))
    (s.tracker.queueGauge.count = queued ∧ s.tracker.queueGauge.bytes = queued * 150 ∧ queued < full ∧
      s.tracker.uniqueGauge.count = tracked ∧ s.tracker.uniqueGauge.bytes = tracked * 100 ∧ tracked < fullOfKeys) ∧
    (u.scene.ground.calls.filter isFlush = [] ∧ ∀ command,
      (after u (.tell command :: inputs)).ground.calls.filter isFlush = s.ground.calls.filter isFlush ∧
      (after u (.tell command :: inputs)).tracker.queueGauge = s.tracker.queueGauge ∧
      (after u (.tell command :: inputs)).tracker.uniqueGauge = s.tracker.uniqueGauge) ∧
    (∀ rest, s.tracker.orders.queue = .flush :: rest →
      (∃ led, s'.ground.calls = led ++ s.ground.calls ∧ led.filter isFlush =
        [.tell crew.uniqueKeys .flush, .tell crew.counts .flush, .tell crew.impressions .flush]) ∧
      s'.tracker.queueGauge.count = 0 ∧ s'.tracker.uniqueGauge.count = 0) ∧
    (∀ pushed rest, s.tracker.orders.queue = .push pushed :: rest → isCounted u.settings.impressionsMode pushed = true →
      s'.ground.calls =
        (if tracked + 1 = fullOfKeys
          then .tell crew.uniqueKeys .flush :: (if s.tracker.persistence then [.saveUnique] else []) else []) ++
        .trackUnique pushed.impression.keyName pushed.impression.featureName :: s.ground.calls ∧
      s'.tracker.uniqueGauge.count = (if tracked + 1 = fullOfKeys then 0 else tracked + 1) ∧
      s'.tracker.queueGauge = s.tracker.queueGauge) ∧
    (∀ pushed rest, s.tracker.orders.queue = .push pushed :: rest → isCounted u.settings.impressionsMode pushed = false →
      (s'.ground.calls = .impressions .deduped 1 :: s.ground.calls ∧ s'.tracker.queueGauge = s.tracker.queueGauge ∨
        ∃ previousTime,
          let i := { pushed.impression with previousTime }
          let taken := (u.answers.outcome (.queueImpression i :: s.ground.calls)).isOk
          s'.ground.calls =
            .impressions .queued 1 :: ((if taken ∧ queued + 1 = full then [.tell crew.impressions .flush] else []) ++
              .queueImpression i :: s.ground.calls) ∧
          s'.tracker.queueGauge.count = (if taken then if queued + 1 = full then 0 else queued + 1 else queued)) ∧
      s'.tracker.uniqueGauge = s.tracker.uniqueGauge) ∧
    ∀ order rest, s.tracker.orders.queue = order :: rest → pushed? order = none → order ≠ .flush →
      (∃ led, s'.ground.calls = led ++ s.ground.calls ∧ ∀ c ∈ led, isAside c = true) ∧
      s'.tracker.queueGauge = s.tracker.queueGauge ∧ s'.tracker.uniqueGauge = s.tracker.uniqueGauge := by
  intro s s' crew queued tracked full fullOfKeys
  have paced : IsPaced u s := isPaced_after u inputs
  have counts : s.tracker.queueGauge.count = queued := by rw [paced.queue.gauge]; rfl
  have countsKeys : s.tracker.uniqueGauge.count = tracked := by rw [paced.keys.gauge]; rfl
  have mode : s.mode = u.settings.impressionsMode := after_mode u inputs
  have turn {order : Order} {rest : List Order} (waiting : s.tracker.orders.queue = order :: rest) :
      s' = turned s order rest := take_step_cons waiting
  refine ⟨⟨counts, counts ▸ paced.queue.even, counts ▸ paced.queue.short, countsKeys, countsKeys ▸ paced.keys.even,
    countsKeys ▸ paced.keys.short⟩, ⟨u.filter_scene (fun _ => rfl) (fun _ => rfl) rfl, ?_⟩, ?_, ?_, ?_, ?_⟩
  · intro command
    have same : after u (.tell command :: inputs) = s.toldTracker command := take_tell s command
    rw [same, toldTracker_calls, List.filter_append, filter_isFlush (isAside_callsOfTold s command)]
    exact ⟨rfl, (toldTracker_gauges s command).2⟩
  · intro rest waiting
    rw [turn waiting, turned_calls, turned_queueGauge, turned_uniqueGauge]
    have sent := filter_isFlush_callsOf s
    rw [paced.crew] at sent
    exact ⟨⟨s.callsOf .flush, rfl, sent⟩, rfl, rfl⟩
  · intro pushed rest waiting counted
    rw [← mode] at counted
    obtain ⟨calls, gauge⟩ := paced.counted_turn counted rest
    rw [turn waiting]
    refine ⟨calls, gauge, ?_⟩
    rw [turned_queueGauge]
    exact if_pos counted
  · intro pushed rest waiting delivers
    rw [← mode] at delivers
    rw [turn waiting]
    refine ⟨paced.delivered_turn delivers rest, ?_⟩
    rw [turned_uniqueGauge]
    exact if_neg (Bool.eq_false_iff.1 delivers)
  · intro order rest waiting plain other
    rw [turn waiting, turned_calls, turned_queueGauge, turned_uniqueGauge]
    refine ⟨⟨s.callsOf order, rfl, isAside_callsOf plain other⟩, ?_⟩
    cases order with
    | push pushed => cases plain
    | flush => exact absurd rfl other
    | _ => exact ⟨rfl, rfl⟩

/-- A tracker that delivers every impression and whose queue is filled by two. -/
def shortQueue : Setup where
  settings := { impressionsMode := .debug, impressionsQueueSize := 2 }
  keepsHashes := false
  answers := {}

/-- An impression that is tracked. -/
def evaluation : TrackedImpression := { impression := .new "user" "checkout" "on" 0 }

/-- Two impressions are tracked, of which the first was handled. -/
def oneOfTwo : List Input := [.step, .tell (.push evaluation), .tell (.push evaluation)]

/-- The second impression fills the queue, which is sent right then. -/
theorem flushed_at_thresholds_second : ∃ i, (after shortQueue (.step :: oneOfTwo)).ground.calls =
    .impressions .queued 1 :: .tell shortQueue.scene.tracker.crew.impressions .flush :: .queueImpression i ::
      (after shortQueue oneOfTwo).ground.calls := by
  obtain ⟨-, -, -, -, delivered, -⟩ := flushed_at_thresholds shortQueue oneOfTwo
  obtain ⟨seen | ⟨previousTime, calls, -⟩, -⟩ := delivered evaluation [] rfl rfl
  · have queued : (after shortQueue (.step :: oneOfTwo)).ground.calls.head? = some (.impressions .queued 1) := rfl
    rw [seen.1] at queued
    cases queued
  · have filled : ((impressionsQueue shortQueue).pending (after shortQueue oneOfTwo).ground.calls).length + 1 =
        max 1 (min 2 (5242880 ⌈/⌉ 150)) := rfl
    exact ⟨_, calls.trans (by rw [if_pos ⟨rfl, filled⟩]; rfl)⟩

end FlagKeeper.Tracking
