import FlagKeeper.Proofs.Tracking.Accounts
import FlagKeeper.Proofs.Tracking.Restart
import FlagKeeper.Proofs.Tracking.Thresholds

/-!
# The lifecycle does not disturb the impressions

To start, stop, pause or resume a tracker concerns its periodic workers and what is saved. Two trackers, of which one is told all this
and the other is not, do the same with the impressions: they offer the same ones to the host, with the same times, record the same, and
have their queues sent at the same places in between. The counts may be saved at other times, but none comes or goes.

The argument is one about two runs. What a pipeline does next with an impression depends on a part of what there is only, and two
scenes that have this part in common are `Alike`. They stay so if both handle the same order, and if one of them handles an order of
the lifecycle. What the pipelines handle follows from what the trackers are told (`asked`), whenever they have their turns.
-/

namespace FlagKeeper.Tracking

open Ensemble (Call Answers)
open HourCounter (tally)
open ImpressionTracker (Order Command impressionBytes uniqueKeyBytes)
open Recording (Scene Setup)

/-- Whether a command is to start, stop, pause or resume. -/
def isLifecycle : Command → Bool
  | .start => true
  | .stop => true
  | .pause => true
  | .resume => true
  | _ => false

/-- Whether an order is to start, stop, pause or resume. -/
def isLifecycleOrder : Order → Bool
  | .start => true
  | .stop => true
  | .pause => true
  | .resume => true
  | _ => false

/-- Whether a call is part of the work with impressions: to offer one, to record what became of it, to track its key, or to have a queue
sent. -/
def isWork : Call → Bool
  | .queueImpression _ => true
  | .impressions .queued _ => true
  | .impressions .deduped _ => true
  | .trackUnique _ _ => true
  | .tell _ .flush => true
  | _ => false

/-- The queue of a host takes or refuses an impression by what it saw of the work with impressions so far. -/
def IsSteady (a : Answers) : Prop :=
  ∀ i calls calls', calls.filter isWork = calls'.filter isWork →
    a.outcome (.queueImpression i :: calls) = a.outcome (.queueImpression i :: calls')

/-! ## Scenes that are alike -/

/-- Two scenes have in common what the work with impressions depends on, and the work that was done. -/
structure Alike (s s' : Scene) : Prop where
  mode : s.mode = s'.mode
  answers : s.ground.answers = s'.ground.answers
  crew : s.tracker.crew = s'.tracker.crew
  observer : s.tracker.observer = s'.tracker.observer
  queueGauge : s.tracker.queueGauge = s'.tracker.queueGauge
  uniqueGauge : s.tracker.uniqueGauge = s'.tracker.uniqueGauge
  work : s.ground.calls.filter isWork = s'.ground.calls.filter isWork

section Orders

variable {s s' s'' : Scene} {order : Order}

/-- The work that an order leads to. -/
theorem work_callsOf (s : Scene) (order : Order) : (s.callsOf order).filter isWork =
    match order with
    | .push pushed =>
      if isCounted s.mode pushed then
        (if (s.tracker.uniqueGauge.add uniqueKeyBytes).isDue then [.tell s.tracker.crew.uniqueKeys .flush] else []) ++
          [.trackUnique pushed.impression.keyName pushed.impression.featureName]
      else s.callsOfDelivery (s.lastSeen pushed.impression)
    | .flush =>
      [.tell s.tracker.crew.uniqueKeys .flush, .tell s.tracker.crew.counts .flush, .tell s.tracker.crew.impressions .flush]
    | _ => [] := by
  have counts : s.savesCounts.filter isWork = [] := Recording.filter_savesCounts s fun _ => rfl
  have unique : s.savesUnique.filter isWork = [] := Recording.filter_savesUnique s rfl
  have hashes : s.savesHashes.filter isWork = [] := Recording.filter_savesHashes s fun _ => rfl
  have periodic {told : WorkerOrder} (other : told ≠ .flush) : (s.tellsPeriodic told).filter isWork = [] :=
    Recording.filter_tellsPeriodic s fun _ => by cases told <;> first | rfl | exact absurd rfl other
  cases order with
  | push pushed =>
    rw [callsOf_push]
    dsimp only
    split
    · unfold Scene.callsOfCounted
      split
      · simp [List.filter_cons, isWork, unique]
      · rfl
    · unfold Scene.callsOfDelivery
      split
      · split <;> rfl
      · rfl
  | flush => simp [Scene.callsOf, List.filter_cons, isWork, unique, counts]
  | pause => simp [Scene.callsOf, periodic, hashes, unique, counts]
  | destroy => simp [Scene.callsOf, periodic, hashes, unique, counts]
  | _ => exact periodic (by simp)

namespace Alike

theorem refl (s : Scene) : Alike s s := ⟨rfl, rfl, rfl, rfl, rfl, rfl, rfl⟩

theorem symm (h : Alike s s') : Alike s' s :=
  ⟨h.mode.symm, h.answers.symm, h.crew.symm, h.observer.symm, h.queueGauge.symm, h.uniqueGauge.symm, h.work.symm⟩

theorem trans (h : Alike s s') (h' : Alike s' s'') : Alike s s'' :=
  ⟨h.mode.trans h'.mode, h.answers.trans h'.answers, h.crew.trans h'.crew, h.observer.trans h'.observer,
    h.queueGauge.trans h'.queueGauge, h.uniqueGauge.trans h'.uniqueGauge, h.work.trans h'.work⟩

theorem lastSeen (h : Alike s s') (i : Impression) : s.lastSeen i = s'.lastSeen i := by
  unfold Scene.lastSeen
  rw [h.observer]

theorem isQueued (h : Alike s s') (i : Impression) : s.isQueued i = s'.isQueued i := by
  unfold Scene.isQueued
  rw [h.mode]

/-- A steady host takes an impression from both or from neither. -/
theorem accepts (h : Alike s s') (steady : IsSteady s.ground.answers) (i : Impression) :
    s.accepts (.queueImpression i) = s'.accepts (.queueImpression i) := by
  unfold Scene.accepts
  rw [steady i s.ground.calls s'.ground.calls h.work, h.answers]

theorem callsOfDelivery (h : Alike s s') (steady : IsSteady s.ground.answers) (i : Impression) :
    s.callsOfDelivery i = s'.callsOfDelivery i := by
  unfold Scene.callsOfDelivery Scene.fillsQueue
  rw [h.isQueued, h.accepts steady, h.queueGauge, h.crew]

/-- Both handle the same order. -/
theorem turned (h : Alike s s') (steady : IsSteady s.ground.answers) (order : Order) (rest rest' : List Order) :
    Alike (turned s order rest) (turned s' order rest') where
  mode := h.mode
  answers := by cases order <;> exact h.answers
  crew := by rw [turned_crew, turned_crew, h.crew]
  observer := by
    rw [turned_observer, turned_observer, h.observer, h.mode]
  queueGauge := by
    rw [turned_queueGauge, turned_queueGauge]
    cases order with
    | push pushed =>
      dsimp only
      rw [h.mode, h.queueGauge, h.lastSeen, h.isQueued, h.accepts steady]
    | flush => exact congrArg FlushGauge.reset h.queueGauge
    | _ => exact h.queueGauge
  uniqueGauge := by rw [turned_uniqueGauge, turned_uniqueGauge, h.uniqueGauge, h.mode]
  work := by
    rw [turned_calls, turned_calls, List.filter_append, List.filter_append, h.work, work_callsOf, work_callsOf]
    cases order with
    | push pushed =>
      dsimp only
      rw [h.mode, h.uniqueGauge, h.crew, h.lastSeen, h.callsOfDelivery steady]
    | flush =>
      dsimp only
      rw [h.crew]
    | _ => rfl

/-- One handles an order of the lifecycle. -/
theorem of_lifecycle (lifecycle : isLifecycleOrder order = true) (rest : List Order) : Alike (Tracking.turned s order rest) s where
  mode := rfl
  answers := by cases order <;> rfl
  crew := turned_crew s rest order
  observer := by
    rw [turned_observer]
    cases order <;> first | rfl | cases lifecycle
  queueGauge := by
    rw [turned_queueGauge]
    cases order <;> first | rfl | cases lifecycle
  uniqueGauge := by
    rw [turned_uniqueGauge]
    cases order <;> first | rfl | cases lifecycle
  work := by
    rw [turned_calls, List.filter_append, work_callsOf]
    cases order <;> first | rfl | cases lifecycle

/-- One is told something. -/
theorem of_told (s : Scene) (command : Command) : Alike (s.toldTracker command) s where
  mode := toldTracker_mode s command
  answers := by
    rw [(toldTracker_eq s command).1]
    rfl
  crew := (toldTracker_gauges s command).1
  observer := toldTracker_observer s command
  queueGauge := (toldTracker_gauges s command).2.1
  uniqueGauge := (toldTracker_gauges s command).2.2
  work := toldTracker_filter s command rfl fun _ => rfl

end Alike

/-- Orders of the lifecycle may be left out. -/
theorem alike_goneOn_filter (steady : IsSteady s.ground.answers) (orders : List Order) :
    Alike (goneOn s orders) (goneOn s (orders.filter (!isLifecycleOrder ·))) := by
  induction orders with
  | nil => exact .refl s
  | cons order earlier ih =>
    cases lifecycle : isLifecycleOrder order with
    | true =>
      rw [List.filter_cons_of_neg (by simp [lifecycle]), goneOn_cons]
      exact (Alike.of_lifecycle lifecycle _).trans ih
    | false =>
      have same : IsSteady (goneOn s earlier).ground.answers := by
        rw [(goneOn_same s earlier).2.2]
        exact steady
      rw [List.filter_cons_of_pos (by simp [lifecycle]), goneOn_cons, goneOn_cons]
      exact ih.turned same order _ _

/-- Orders of the lifecycle bring nothing that is counted. -/
theorem volume_filter (mode : ImpressionsMode) (feature : String) (hour : Int) (orders : List Order) :
    volume mode feature hour (orders.filter (!isLifecycleOrder ·)) = volume mode feature hour orders := by
  have same : pushes (orders.filter (!isLifecycleOrder ·)) = pushes orders := by
    unfold pushes
    rw [List.filterMap_filter]
    refine congrArg (List.filterMap · orders) (funext fun order => ?_)
    cases order <;> rfl
  unfold volume
  rw [same]

end Orders

/-- A tracker works as its pipeline does that goes on with the orders, whenever it has its turns and whatever it is told besides. -/
theorem alike_after (u : Setup) (steady : IsSteady u.answers) (inputs : List Input) :
    Alike (after u inputs) (goneOn u.scene (handled u inputs)) := by
  refine run_induction (P := fun orders s => Alike s (goneOn u.scene orders)) (.refl _) ?_ ?_ inputs
  · intro past command alike
    exact (Alike.of_told _ command).trans alike
  · intro past order rest _ alike
    rw [goneOn_cons]
    refine alike.turned ?_ order _ _
    rw [(isPaced_after u past).answers]
    exact steady

/-! ## What a tracker is told -/

/-- What a tracker was told, the latest first. -/
def commands (inputs : List Input) : List Command :=
  inputs.filterMap fun
    | .tell command => some command
    | .step => none

/-- Whether impressions are tracked once a tracker was told something, the latest first. -/
def tracks (u : Setup) : List Command → Bool
  | [] => u.settings.userConsent.allowsTracking
  | .enableTracking enable :: _ => enable
  | _ :: past => tracks u past

/-- The order to the pipeline in what a tracker is told. -/
def order? (tracking : Bool) : Command → Option Order
  | .push pushed => if tracking then some (.push pushed) else none
  | .start => some .start
  | .stop => some .stop
  | .pause => some .pause
  | .resume => some .resume
  | .flush => some .flush
  | .destroy => some .destroy
  | _ => none

/-- The orders to the pipeline in all that a tracker was told, the latest first. -/
def asked (u : Setup) : List Command → List Order
  | [] => []
  | command :: past => (order? (tracks u past) command).toList ++ asked u past

/-- How many impressions came to a tracker when it did not track them. -/
def untracked (u : Setup) : List Command → Nat
  | [] => 0
  | .push _ :: past => if tracks u past then untracked u past else untracked u past + 1
  | _ :: past => untracked u past

section Told

variable {u : Setup} {said : List Command} {command : Command} {s : Scene}

/-- Without the lifecycle, the same impressions are tracked, the other orders are the same, and so is the number of impressions that are
not tracked. -/
theorem told_filter (u : Setup) (told : List Command) :
    tracks u (told.filter (!isLifecycle ·)) = tracks u told ∧
    asked u (told.filter (!isLifecycle ·)) = (asked u told).filter (!isLifecycleOrder ·) ∧
    untracked u (told.filter (!isLifecycle ·)) = untracked u told := by
  induction told with
  | nil => exact ⟨rfl, rfl, rfl⟩
  | cons command past ih =>
    obtain ⟨tracking, orders, dropped⟩ := ih
    cases lifecycle : isLifecycle command with
    | true =>
      rw [List.filter_cons_of_neg (by simp [lifecycle])]
      cases command <;> first | exact ⟨tracking, orders, dropped⟩ | cases lifecycle
    | false =>
      rw [List.filter_cons_of_pos (by simp [lifecycle])]
      have kept : ((order? (tracks u past) command).toList).filter (!isLifecycleOrder ·) = (order? (tracks u past) command).toList := by
        cases command <;> cases tracks u past <;> first | rfl | cases lifecycle
      refine ⟨?_, ?_, ?_⟩
      · cases command <;> first | exact tracking | rfl
      · rw [asked, asked, List.filter_append, kept, tracking, orders]
      · cases command <;> simp only [untracked, tracking, dropped]

/-- Whether impressions are tracked is all the same to the pipeline. -/
theorem turned_tracking (s : Scene) (order : Order) (rest : List Order) :
    (turned s order rest).tracker.tracking = s.tracker.tracking := by
  cases order with
  | push pushed =>
    obtain ⟨_, _, after⟩ :=
      stateAfter_push (s.tracked { s.tracker with orders := { s.tracker.orders with queue := rest } }) pushed
    show (Scene.stateAfter _ (.push pushed)).tracking = _
    rw [after]
    rfl
  | _ => rfl

/-- A tracker that was not told to end tracks impressions as it was told, and what it was told waits or was handled. -/
structure Follows (u : Setup) (told : List Command) (handled : List Order) (s : Scene) : Prop where
  alive : s.tracker.destroyed = false
  opened : s.tracker.orders.isOpen = true
  lasting : .destroy ∉ s.tracker.orders.queue
  tracking : s.tracker.tracking = tracks u told
  orders : s.tracker.orders.queue.reverse ++ handled = asked u told

namespace Follows

/-- The tracker is told anything but to end. -/
theorem told {handled : List Order} (h : Follows u said handled s) (lasting : command ≠ .destroy) :
    Follows u (command :: said) handled (s.toldTracker command) := by
  obtain ⟨alive, opened, ends, tracking, orders⟩ := h
  have sent {order : Order} (goes_on : order ≠ .destroy) (asks : order? (tracks u said) command = some order)
      (tracks : tracks u (command :: said) = Tracking.tracks u said) : Follows u (command :: said) handled (s.sent order) := by
    have queue : (s.sent order).tracker.orders = { queue := s.tracker.orders.queue ++ [order], isOpen := true } := by
      show s.tracker.orders.send order = _
      unfold Channel.send
      rw [opened]
      rfl
    refine ⟨alive, by rw [queue], ?_, tracking.trans tracks.symm, ?_⟩
    · rw [queue]
      simpa [goes_on.symm] using ends
    · rw [queue, asked, asks, List.reverse_append, ← orders]
      rfl
  have sentIfAlive (order : Order) : s.sentIfAlive order = s.sent order := by
    unfold Scene.sentIfAlive
    rw [alive]
    rfl
  have quiet {s' : Scene} (tracker : s'.tracker.destroyed = s.tracker.destroyed ∧ s'.tracker.orders = s.tracker.orders)
      (tracks : s'.tracker.tracking = Tracking.tracks u (command :: said)) (asks : order? (Tracking.tracks u said) command = none) :
      Follows u (command :: said) handled s' := by
    refine ⟨tracker.1.trans alive, tracker.2 ▸ opened, tracker.2 ▸ ends, tracks, ?_⟩
    rw [tracker.2, asked, asks, orders]
    rfl
  unfold Scene.toldTracker
  cases command with
  | push pushed =>
    dsimp only
    rw [alive, if_neg Bool.false_ne_true]
    cases tracks : s.tracker.tracking with
    | true =>
      rw [tracks] at tracking
      exact sent (by simp) (by simp [order?, ← tracking]) rfl
    | false =>
      have untracked : Tracking.tracks u said = false := tracking.symm.trans tracks
      exact quiet ⟨rfl, rfl⟩ tracking (by simp [order?, untracked])
  | destroy => exact absurd rfl lasting
  | stop => exact sent (by simp) rfl rfl
  | enableTracking enable => exact quiet ⟨rfl, rfl⟩ rfl rfl
  | enablePersistence enable => exact quiet ⟨rfl, rfl⟩ tracking rfl
  | _ =>
    dsimp only
    rw [sentIfAlive]
    exact sent (by simp) rfl rfl

/-- An order is handled. -/
theorem turned {handled rest : List Order} {order : Order} (h : Follows u said handled s)
    (waiting : s.tracker.orders.queue = order :: rest) : Follows u said (order :: handled) (turned s order rest) := by
  obtain ⟨alive, opened, ends, tracking, orders⟩ := h
  rw [waiting] at ends orders
  rw [List.mem_cons, not_or] at ends
  have goes_on : order ≠ .destroy := fun ended => ends.1 ended.symm
  have after : (Tracking.turned s order rest).tracker.orders = { s.tracker.orders with queue := rest } ∧
      (Tracking.turned s order rest).tracker.destroyed = s.tracker.destroyed := turned_orders goes_on
  refine ⟨after.2.trans alive, ?_, ?_, ?_, ?_⟩
  · rw [after.1]
    exact opened
  · rw [after.1]
    exact ends.2
  · exact (turned_tracking s order rest).trans tracking
  · rw [after.1, ← orders, List.reverse_cons, List.append_assoc]
    rfl

end Follows

theorem commands_tell (command : Command) (past : List Input) : commands (.tell command :: past) = command :: commands past := rfl

theorem commands_steps (n : Nat) (inputs : List Input) : commands (List.replicate n .step ++ inputs) = commands inputs := by
  induction n with
  | zero => rfl
  | succ n ih => exact ih

/-- As long as it is not told to end, a tracker follows what it is told. -/
theorem follows_after (u : Setup) {inputs : List Input} (lasting : .destroy ∉ commands inputs) :
    Follows u (commands inputs) (handled u inputs) (after u inputs) ∧ dropped u inputs = untracked u (commands inputs) := by
  induction inputs with
  | nil => exact ⟨⟨rfl, rfl, List.not_mem_nil, rfl, rfl⟩, rfl⟩
  | cons i past ih =>
    cases i with
    | tell command =>
      rw [commands_tell, List.mem_cons, not_or] at lasting
      obtain ⟨follows, drops⟩ := ih lasting.2
      have goes_on : command ≠ .destroy := fun ended => lasting.1 ended.symm
      rw [commands_tell, after, take_tell]
      refine ⟨follows.told goes_on, ?_⟩
      cases command with
      | push pushed =>
        rw [dropped, untracked, Tracking.drops, follows.alive, follows.tracking, drops]
        cases tracks u (commands past) <;> rfl
      | _ => exact drops
    | step =>
      obtain ⟨follows, drops⟩ := ih lasting
      refine ⟨?_, drops⟩
      rw [after]
      cases waiting : (after u past).tracker.orders.queue with
      | nil =>
        rw [handled_step_nil waiting, take_step_nil waiting]
        exact follows
      | cons order rest =>
        rw [handled_step_cons waiting, take_step_cons waiting]
        exact follows.turned waiting

end Told

/-! ## Two runs -/

/-- Some inputs, and as many turns of the pipeline after them as orders wait then. -/
def settled (u : Setup) (inputs : List Input) : List Input :=
  List.replicate (after u inputs).tracker.orders.queue.length .step ++ inputs

section Runs

variable {u : Setup} {inputs : List Input}

/-- With each turn, one order less waits. -/
theorem length_queue_steps (u : Setup) (inputs : List Input) (n : Nat) :
    (after u (List.replicate n .step ++ inputs)).tracker.orders.queue.length ≤
      (after u inputs).tracker.orders.queue.length - n := by
  induction n with
  | zero => exact Nat.le_refl _
  | succ n ih =>
    rw [List.replicate_succ, List.cons_append, after]
    cases waiting : (after u (List.replicate n .step ++ inputs)).tracker.orders.queue with
    | nil =>
      rw [take_step_nil waiting, waiting]
      exact Nat.zero_le _
    | cons order rest =>
      rw [waiting, List.length_cons] at ih
      have fewer : (take (after u (List.replicate n .step ++ inputs)) .step).tracker.orders.queue.length ≤ rest.length := by
        rw [take_step_cons waiting]
        by_cases ended : order = .destroy
        · subst ended
          exact Nat.zero_le _
        · rw [(turned_orders ended).1]
      omega

/-- In the end no order waits. -/
theorem queue_settled (u : Setup) (inputs : List Input) : (after u (settled u inputs)).tracker.orders.queue = [] := by
  have none := length_queue_steps u inputs (after u inputs).tracker.orders.queue.length
  rw [Nat.sub_self, Nat.le_zero_eq] at none
  exact List.eq_nil_of_length_eq_zero none

theorem commands_settled (u : Setup) (inputs : List Input) : commands (settled u inputs) = commands inputs := commands_steps _ _

/-- In the end all that the tracker was told was handled. -/
theorem handled_settled (lasting : .destroy ∉ commands inputs) : handled u (settled u inputs) = asked u (commands inputs) := by
  have follows := (follows_after u ((commands_settled u inputs).symm ▸ lasting)).1.orders
  rw [queue_settled, commands_settled] at follows
  exact follows

theorem dropped_settled (lasting : .destroy ∉ commands inputs) : dropped u (settled u inputs) = untracked u (commands inputs) := by
  rw [(follows_after u ((commands_settled u inputs).symm ▸ lasting)).2, commands_settled]

end Runs

/-- **To start, stop, pause and resume does not disturb the impressions.** Of any settings, over any host whose queue goes by the work
with impressions alone when it takes or refuses one: let a tracker be told anything but to end, and another one the same without all
starts, stops, pauses and resumes, and let the two pipelines have their turns whenever they like, and then as many as orders wait.

1. In the end no order waits with either.
2. Both offered the same impressions to the host, with the times at which these were last seen, recorded the same ones as queued and
   as seen before, tracked the same unique keys, and told the same workers to send what is queued, all that in the same order.
3. Both recorded as many impressions as dropped.
4. For each feature and hour, the counts that were pushed to the store and the count that the counter still has are together the same
   with both. -/
theorem lifecycle_undisturbing (u : Setup) (steady : IsSteady u.answers) (inputs quiet : List Input)
    (lasting : .destroy ∉ commands inputs) (deleted : commands quiet = (commands inputs).filter (!isLifecycle ·)) :
    let s := after u (settled u inputs)
    let s' := after u (settled u quiet)
    (s.tracker.orders.queue = [] ∧ s'.tracker.orders.queue = []) ∧
    s.ground.calls.filter isWork = s'.ground.calls.filter isWork ∧
    s.drops = s'.drops ∧
    ∀ feature time,
      tally feature (hourStart time) (pushedCounts s.ground.calls) + s.tracker.counter.countFor feature time =
        tally feature (hourStart time) (pushedCounts s'.ground.calls) + s'.tracker.counter.countFor feature time := by
  intro s s'
  have lasting' : .destroy ∉ commands quiet := by
    rw [deleted]
    exact fun inside => lasting (List.mem_of_mem_filter inside)
  obtain ⟨-, asked, untracked⟩ := told_filter u (commands inputs)
  have orders : handled u (settled u quiet) = (handled u (settled u inputs)).filter (!isLifecycleOrder ·) := by
    rw [handled_settled lasting, handled_settled lasting', deleted, asked]
  have alike : Alike s s' := by
    have without := alike_goneOn_filter (s := u.scene) (u.answers_scene.symm ▸ steady) (handled u (settled u inputs))
    rw [← orders] at without
    exact ((alike_after u steady _).trans without).trans (alike_after u steady _).symm
  refine ⟨⟨queue_settled u inputs, queue_settled u quiet⟩, alike.work, ?_, fun feature time => ?_⟩
  · rw [drops_after, drops_after, dropped_settled lasting, dropped_settled lasting', deleted, untracked]
  · have account (inputs : List Input) := tally_after u inputs feature (HourCounter.hourMillis_dvd_hourStart time)
    rw [HourCounter.countFor_eq_tally (orderly_after u _).1, HourCounter.countFor_eq_tally (orderly_after u _).1, account, account,
      orders, volume_filter]

/-- Two impressions are tracked, and between them the tracker is paused and resumed. -/
def pausedBetween : List Input :=
  [.tell .flush, .tell (.push evaluation), .step, .tell .resume, .tell .pause, .step, .tell (.push evaluation)]

/-- Two impressions are tracked. -/
def unpaused : List Input := [.tell .flush, .tell (.push evaluation), .tell (.push evaluation)]

/-- The pause makes no difference to a tracker whose queue is filled by the two: it has it sent with the second, and on the flush. -/
theorem lifecycle_undisturbing_pause :
    (after shortQueue (settled shortQueue pausedBetween)).ground.calls.filter isWork =
        (after shortQueue (settled shortQueue unpaused)).ground.calls.filter isWork ∧
      ((after shortQueue (settled shortQueue pausedBetween)).ground.calls.filter isWork).length = 8 :=
  ⟨(lifecycle_undisturbing shortQueue (fun _ _ _ _ => rfl) pausedBetween unpaused (by simp [commands, pausedBetween]) rfl).2.1, rfl⟩

end FlagKeeper.Tracking
