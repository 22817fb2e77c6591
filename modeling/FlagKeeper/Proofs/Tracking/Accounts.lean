import FlagKeeper.Proofs.Impressions.HourCounter
import FlagKeeper.Proofs.Tracking.Scene
import Mathlib.Data.List.Forall2

/-!
# Every impression is accounted for

Where the impressions that are pushed to a tracker come to. One that is pushed while impressions are tracked is taken: it waits in
the queue of the pipeline, or was handled, and then it was queued, or recorded as seen before, or its key was recorded as unique. One
that is pushed while they are not is recorded as dropped. And the impressions that are to be counted were counted, each once: those of
a feature and an hour are as many as the counts that were pushed to the store and the count that is still in the counter say together.
-/

namespace FlagKeeper.Tracking

open Ensemble (Call)
open HourCounter (tally IsOrderly isInHour)
open ImpressionTracker (Order Command)
open Recording (Scene Setup)

/-! ## Impressions that are taken -/

/-- Whether an impression that is pushed is taken: it is not the end, and impressions are tracked. -/
def takes (s : Scene) : Bool := !s.tracker.destroyed && s.tracker.tracking

/-- Whether an impression that is pushed is dropped: it is not the end, but impressions are not tracked. -/
def drops (s : Scene) : Bool := !s.tracker.destroyed && !s.tracker.tracking

/-- The impressions that were taken, the latest first. -/
def taken (u : Setup) : List Input → List TrackedImpression
  | [] => []
  | .tell (.push pushed) :: past => if takes (after u past) then pushed :: taken u past else taken u past
  | _ :: past => taken u past

/-- How many impressions were dropped. -/
def dropped (u : Setup) : List Input → Nat
  | [] => 0
  | .tell (.push _) :: past => if drops (after u past) then dropped u past + 1 else dropped u past
  | _ :: past => dropped u past

/-- There is no impression behind the end of a queue. -/
def EndsLast : List Order → Prop
  | [] => True
  | .destroy :: later => pushes later = []
  | _ :: later => EndsLast later

section Queue

variable {queue : List Order} {order : Order}

theorem EndsLast.of_cons (h : EndsLast (order :: queue)) (lasting : order ≠ .destroy) : EndsLast queue := by
  cases order with
  | destroy => exact absurd rfl lasting
  | _ => exact h

theorem endsLast_of_not_mem (lasting : .destroy ∉ queue) : EndsLast queue := by
  induction queue with
  | nil => trivial
  | cons order later ih =>
    rw [List.mem_cons, not_or] at lasting
    have rest := ih lasting.2
    cases order with
    | destroy => exact absurd rfl lasting.1
    | _ => exact rest

/-- Any order but an impression may come behind the end. -/
theorem EndsLast.append (h : EndsLast queue) (plain : pushed? order = none) : EndsLast (queue ++ [order]) := by
  induction queue with
  | nil =>
    cases order with
    | destroy => rfl
    | _ => trivial
  | cons first later ih =>
    cases first with
    | destroy =>
      show pushes (later ++ [order]) = []
      unfold pushes
      rw [List.filterMap_append, List.filterMap_cons_none plain]
      exact List.append_eq_nil_iff.2 ⟨h, rfl⟩
    | _ => exact ih h

end Queue

/-- What was taken waits in the queue or was handled. -/
structure Delivers (taken handled : List TrackedImpression) (s : Scene) : Prop where
  /-- Before the end, the queue is open and the end is not in it. -/
  alive : s.tracker.destroyed = false → s.tracker.orders.isOpen = true ∧ .destroy ∉ s.tracker.orders.queue
  ends : EndsLast s.tracker.orders.queue
  all : taken = (pushes s.tracker.orders.queue).reverse ++ handled

namespace Delivers

variable {s : Scene} {taken handled : List TrackedImpression} {order : Order}

theorem sent (h : Delivers taken handled s) (plain : pushed? order = none)
    (lasting : s.tracker.destroyed = false → order ≠ .destroy) : Delivers taken handled (s.sent order) := by
  obtain ⟨alive, ends, all⟩ := h
  cases opened : s.tracker.orders.isOpen with
  | false =>
    have same : s.sent order = s := by
      unfold Scene.sent Channel.send
      rw [opened]
      rfl
    rw [same]
    exact ⟨alive, ends, all⟩
  | true =>
    have queue : (s.sent order).tracker.orders = { queue := s.tracker.orders.queue ++ [order], isOpen := true } := by
      show s.tracker.orders.send order = _
      unfold Channel.send
      rw [opened]
      rfl
    have none : pushes (s.tracker.orders.queue ++ [order]) = pushes s.tracker.orders.queue := by
      unfold pushes
      rw [List.filterMap_append, List.filterMap_cons_none plain]
      exact List.append_nil _
    constructor
    · intro there
      rw [queue]
      refine ⟨rfl, fun inside => ?_⟩
      rcases List.mem_append.1 inside with earlier | last
      · exact (alive there).2 earlier
      · exact lasting there (List.mem_singleton.1 last).symm
    · rw [queue]
      exact ends.append plain
    · rw [queue]
      exact none ▸ all

theorem sentIfAlive (h : Delivers taken handled s) (plain : pushed? order = none) (lasting : order ≠ .destroy) :
    Delivers taken handled (s.sentIfAlive order) := by
  unfold Scene.sentIfAlive
  split
  · exact h
  · exact h.sent plain fun _ => lasting

/-- An impression is taken. -/
theorem pushed (h : Delivers taken handled s) (there : s.tracker.destroyed = false) (p : TrackedImpression) :
    Delivers (p :: taken) handled (s.sent (.push p)) := by
  obtain ⟨alive, ends, all⟩ := h
  obtain ⟨opened, lasting⟩ := alive there
  have queue : (s.sent (.push p)).tracker.orders = { queue := s.tracker.orders.queue ++ [.push p], isOpen := true } := by
    show s.tracker.orders.send (.push p) = _
    unfold Channel.send
    rw [opened]
    rfl
  have last : Order.destroy ∉ s.tracker.orders.queue ++ [.push p] := by simpa using lasting
  constructor
  · intro _
    rw [queue]
    exact ⟨rfl, last⟩
  · rw [queue]
    exact endsLast_of_not_mem last
  · rw [queue, all]
    unfold pushes
    rw [List.filterMap_append, List.reverse_append]
    rfl

/-- The tracker is told anything but to take an impression. -/
theorem told (h : Delivers taken handled s) {command : Command} (other : ∀ p, command ≠ .push p) :
    Delivers taken handled (s.toldTracker command) := by
  cases command with
  | push p => exact absurd rfl (other p)
  | stop => exact h.sent rfl (by simp)
  | destroy =>
    unfold Scene.toldTracker
    dsimp only
    split
    · exact h
    · have ended : Delivers taken handled (s.tracked { s.tracker with destroyed := true }) :=
        ⟨fun there => absurd there (by simp [Scene.tracked]), h.ends, h.all⟩
      exact ended.sent rfl fun there => absurd there (by simp [Scene.tracked])
  | enableTracking enable => exact ⟨h.alive, h.ends, h.all⟩
  | enablePersistence enable => exact ⟨h.alive, h.ends, h.all⟩
  | _ => exact h.sentIfAlive rfl (by simp)

/-- An order is handled. -/
theorem turned {rest : List Order} (h : Delivers taken handled s) (waiting : s.tracker.orders.queue = order :: rest) :
    Delivers taken ((pushed? order).toList ++ handled) (turned s order rest) := by
  obtain ⟨alive, ends, all⟩ := h
  rw [waiting] at alive ends all
  have all' : taken = (pushes rest).reverse ++ ((pushed? order).toList ++ handled) := by
    rw [all, pushes, List.filterMap_cons, ← List.append_assoc]
    cases pushed? order <;> simp [pushes]
  by_cases ended : order = .destroy
  · subst ended
    refine ⟨fun there => absurd List.mem_cons_self (alive there).2, trivial, ?_⟩
    have none : pushes rest = [] := ends
    rw [none] at all'
    exact all'
  · have orders : (Tracking.turned s order rest).tracker.orders = { s.tracker.orders with queue := rest } ∧
        (Tracking.turned s order rest).tracker.destroyed = s.tracker.destroyed := turned_orders ended
    obtain ⟨orders, destroyed⟩ := orders
    constructor
    · rw [orders, destroyed]
      exact fun there => ⟨(alive there).1, fun inside => (alive there).2 (List.mem_cons_of_mem _ inside)⟩
    · rw [orders]
      exact ends.of_cons ended
    · rw [orders]
      exact all'

end Delivers

/-- A new tracker waits for orders. -/
theorem delivers_scene (u : Setup) : Delivers [] [] u.scene := ⟨fun _ => ⟨rfl, List.not_mem_nil⟩, trivial, rfl⟩

theorem taken_of_ne_push (u : Setup) (past : List Input) {command : Command} (other : ∀ p, command ≠ .push p) :
    taken u (.tell command :: past) = taken u past := by
  cases command with
  | push p => exact absurd rfl (other p)
  | _ => rfl

/-- At any time of a run, what was taken waits in the queue or was handled. -/
theorem delivers_after (u : Setup) (inputs : List Input) :
    Delivers (taken u inputs) (pushes (handled u inputs)) (after u inputs) := by
  induction inputs with
  | nil => exact delivers_scene u
  | cons i past ih =>
    cases i with
    | tell command =>
      show Delivers (taken u (.tell command :: past)) (pushes (handled u past)) (take (after u past) (.tell command))
      rw [take_tell]
      by_cases pushing : ∃ p, command = .push p
      · obtain ⟨p, rfl⟩ := pushing
        unfold taken takes Scene.toldTracker
        dsimp only
        cases there : (after u past).tracker.destroyed with
        | true => exact ih
        | false =>
          cases (after u past).tracker.tracking with
          | true => exact ih.pushed there p
          | false => exact ⟨ih.alive, ih.ends, ih.all⟩
      · have other : ∀ p, command ≠ .push p := fun p same => pushing ⟨p, same⟩
        rw [taken_of_ne_push u past other]
        exact ih.told other
    | step =>
      show Delivers (taken u past) (pushes (handled u (.step :: past))) (take (after u past) .step)
      cases waiting : (after u past).tracker.orders.queue with
      | nil =>
        rw [handled_step_nil waiting, take_step_nil waiting]
        exact ih
      | cons order rest =>
        rw [handled_step_cons waiting, take_step_cons waiting, pushes_cons]
        exact ih.turned waiting

/-! ## What became of them -/

/-- Whether a call says what became of an impression that was taken. -/
def isFate : Call → Bool
  | .trackUnique _ _ => true
  | .impressions .queued _ => true
  | .impressions .deduped _ => true
  | _ => false

/-- A call says what became of an impression: of one that is only counted, its key is recorded as unique; any other is recorded as
queued, or as seen before. -/
def IsFateOf (mode : ImpressionsMode) (pushed : TrackedImpression) : Call → Prop
  | .trackUnique key feature =>
    isCounted mode pushed = true ∧ key = pushed.impression.keyName ∧ feature = pushed.impression.featureName
  | .impressions .queued n => isCounted mode pushed = false ∧ n = 1
  | .impressions .deduped n => isCounted mode pushed = false ∧ n = 1
  | _ => False

/-- Each impression that is handled has one fate. -/
theorem fates_fateOf (s : Scene) (order : Order) :
    List.Forall₂ (IsFateOf s.mode) (pushed? order).toList ((s.fateOf order).filter isFate) := by
  cases order with
  | push pushed =>
    unfold Scene.fateOf
    dsimp only
    split
    case isTrue counted => exact .cons ⟨counted, rfl, rfl⟩ .nil
    case isFalse delivers =>
      have delivers : isCounted s.mode pushed = false := Bool.eq_false_iff.2 delivers
      split
      · exact .cons ⟨delivers, rfl⟩ .nil
      · exact .cons ⟨delivers, rfl⟩ .nil
  | _ => exact .nil

/-- The fates of a run are those of the impressions that were handled, one for each and in order. -/
theorem fates_after (u : Setup) (inputs : List Input) :
    List.Forall₂ (IsFateOf u.settings.impressionsMode) (pushes (handled u inputs))
      ((after u inputs).ground.calls.filter isFate) := by
  refine run_induction (P := fun orders s =>
    List.Forall₂ (IsFateOf u.settings.impressionsMode) (pushes orders) (s.ground.calls.filter isFate)) ?_ ?_ ?_ inputs
  · rw [u.filter_scene (fun _ => rfl) (fun _ => rfl) rfl]
    exact .nil
  · intro past command fates
    rw [toldTracker_filter _ _ rfl fun _ => rfl]
    exact fates
  · intro past order rest _ fates
    rw [turned_calls, List.filter_append, Recording.filter_callsOf _ (fun _ _ => rfl) (fun _ => rfl) (fun _ => rfl) rfl,
      pushes_cons, ← after_mode u past]
    rw [← after_mode u past] at fates
    exact List.rel_append (fates_fateOf _ order) fates

/-- The records of drops are those of the impressions that were dropped. -/
theorem drops_after (u : Setup) (inputs : List Input) :
    (after u inputs).drops = List.replicate (dropped u inputs) (.impressions .dropped 1) := by
  induction inputs with
  | nil => exact u.drops_scene
  | cons i past ih =>
    cases i with
    | tell command =>
      show (take (after u past) (.tell command)).drops = _
      have told : (take (after u past) (.tell command)).drops =
          (callsOfTold (after u past) command).filter Recording.isDrop ++ (after u past).drops := by
        unfold Scene.drops
        rw [take_tell, toldTracker_calls, List.filter_append]
      rw [told, ih]
      cases command with
      | push p =>
        show (if drops (after u past) then [.impressions .dropped 1] else []).filter Recording.isDrop ++ _ =
          List.replicate (if drops (after u past) then dropped u past + 1 else dropped u past) _
        split
        · exact List.replicate_succ.symm
        · rfl
      | _ => rfl
    | step =>
      show (take (after u past) .step).drops = _
      cases waiting : (after u past).tracker.orders.queue with
      | nil =>
        rw [take_step_nil waiting]
        exact ih
      | cons order rest =>
        unfold Scene.drops
        rw [take_step_cons waiting, turned_calls, List.filter_append, Recording.drops_callsOf, List.nil_append]
        exact ih

/-! ## What is counted -/

/-- How many of the impressions that some orders brought are to be counted for a feature in the hour that starts at a time. -/
def volume (mode : ImpressionsMode) (feature : String) (hour : Int) (orders : List Order) : Nat :=
  (pushes orders).countP fun p => isTallied mode p && (p.impression.featureName = feature && isInHour hour p.impression.time)

/-- The counts that a call pushes to the store. -/
def countsOf : Call → List FeatureCount
  | .pushCounts counts => counts
  | _ => []

/-- The counts that some calls pushed to the store. -/
def pushedCounts (calls : List Call) : List FeatureCount := calls.flatMap countsOf

/-- Whether a call pushes counts to the store. -/
def isPushCounts : Call → Bool
  | .pushCounts _ => true
  | _ => false

section Counts

variable {s : Scene} {order : Order}

/-- Counts are pushed when they are saved, and not otherwise. -/
theorem filter_isPushCounts (s : Scene) (order : Order) :
    (s.callsOf order).filter isPushCounts = if isSaving order then s.savesCounts else [] := by
  have own : s.savesCounts.filter isPushCounts = s.savesCounts := by
    unfold Scene.savesCounts
    split <;> rfl
  have unique : s.savesUnique.filter isPushCounts = [] := Recording.filter_savesUnique s rfl
  have hashes : s.savesHashes.filter isPushCounts = [] := Recording.filter_savesHashes s fun _ => rfl
  have periodic (told : WorkerOrder) : (s.tellsPeriodic told).filter isPushCounts = [] :=
    Recording.filter_tellsPeriodic s fun _ => rfl
  cases order with
  | push pushed =>
    unfold Scene.callsOf Scene.callsOfCounted Scene.callsOfDelivery
    dsimp only
    split
    · split
      · simp [unique, isPushCounts, isSaving]
      · rfl
    · split
      · split <;> rfl
      · rfl
  | flush => simp [Scene.callsOf, unique, own, isPushCounts, isSaving]
  | pause =>
    show (s.tellsPeriodic .pause ++ (s.savesHashes ++ (s.savesUnique ++ s.savesCounts))).filter isPushCounts = s.savesCounts
    rw [List.filter_append, List.filter_append, List.filter_append, periodic, hashes, unique, own]
    rfl
  | destroy =>
    show (s.savesHashes ++ (s.savesUnique ++ (s.savesCounts ++ s.tellsPeriodic .destroy))).filter isPushCounts = s.savesCounts
    rw [List.filter_append, List.filter_append, List.filter_append, periodic, hashes, unique, own]
    exact List.append_nil _
  | _ => exact periodic _

theorem pushedCounts_append (calls calls' : List Call) : pushedCounts (calls ++ calls') = pushedCounts calls ++ pushedCounts calls' :=
  List.flatMap_append

/-- Other calls push nothing. -/
theorem pushedCounts_filter (calls : List Call) : pushedCounts (calls.filter isPushCounts) = pushedCounts calls := by
  induction calls with
  | nil => rfl
  | cons c rest ih =>
    unfold pushedCounts at ih ⊢
    cases c with
    | pushCounts counts =>
      rw [List.filter_cons_of_pos rfl, List.flatMap_cons, List.flatMap_cons, ih]
    | _ => exact ih

/-- A new tracker has pushed nothing. -/
theorem pushedCounts_scene (u : Setup) : pushedCounts u.scene.ground.calls = [] := by
  rw [← pushedCounts_filter, u.filter_scene (fun _ => rfl) (fun _ => rfl) rfl]
  rfl

theorem pushedCounts_toldTracker (s : Scene) (command : Command) :
    pushedCounts (s.toldTracker command).ground.calls = pushedCounts s.ground.calls := by
  rw [← pushedCounts_filter, toldTracker_filter _ _ rfl fun _ => rfl, pushedCounts_filter]

/-- When counts are saved, all that there are are pushed. -/
theorem pushedCounts_savesCounts (s : Scene) :
    pushedCounts s.savesCounts = if s.tracker.persistence then s.tracker.counter.counts else [] := by
  unfold Scene.savesCounts HourCounter.isEmpty
  cases s.tracker.persistence with
  | false => rfl
  | true =>
    cases s.tracker.counter.counts with
    | nil => rfl
    | cons c rest => exact List.append_nil _

/-- What an order pushes to the store, and what it leaves in the counter. -/
theorem counts_callsOf (s : Scene) (order : Order) :
    pushedCounts (s.callsOf order) = if isSaving order && s.tracker.persistence then s.tracker.counter.counts else [] := by
  rw [← pushedCounts_filter, filter_isPushCounts]
  cases isSaving order with
  | false => rfl
  | true => exact pushedCounts_savesCounts s

theorem volume_cons (mode : ImpressionsMode) (feature : String) (hour : Int) (order : Order) (orders : List Order) :
    volume mode feature hour (order :: orders) = volume mode feature hour [order] + volume mode feature hour orders := by
  unfold volume
  rw [pushes_cons, pushes_cons, List.countP_append, List.countP_append]
  rfl

/-- An order moves counts from the counter to the store, and adds those of the impression that it brings. -/
theorem tally_turned (s : Scene) (order : Order) (rest : List Order) (feature : String) {hour : Int} (aligned : hourMillis ∣ hour) :
    tally feature hour (pushedCounts (turned s order rest).ground.calls) +
        tally feature hour (turned s order rest).tracker.counter.counts =
      tally feature hour (pushedCounts s.ground.calls) + tally feature hour s.tracker.counter.counts +
        volume s.mode feature hour [order] := by
  rw [turned_calls, pushedCounts_append, HourCounter.tally_append, counts_callsOf, turned_counter]
  cases saving : isSaving order && s.tracker.persistence with
  | true =>
    have none : volume s.mode feature hour [order] = 0 := by
      cases order with
      | push pushed => cases saving
      | _ => rfl
    rw [if_pos rfl, if_pos rfl, none, HourCounter.tally_nil]
    omega
  | false =>
    rw [if_neg Bool.false_ne_true, if_neg Bool.false_ne_true, HourCounter.tally_nil, Int.zero_add]
    cases order with
    | push pushed =>
      have one : volume s.mode feature hour [.push pushed] =
          if isTallied s.mode pushed ∧ pushed.impression.featureName = feature ∧ hourStart pushed.impression.time = hour
          then 1 else 0 := by
        unfold volume
        rw [pushes_cons]
        simp [pushed?, pushes, List.countP_cons, HourCounter.isInHour_iff aligned]
      rw [one]
      dsimp only
      cases isTallied s.mode pushed with
      | true =>
        rw [if_pos rfl]
        show _ + tally feature hour (HourCounter.addTo _ _ _ _) = _
        rw [HourCounter.tally_addTo]
        by_cases own : pushed.impression.featureName = feature ∧ hourStart pushed.impression.time = hour
        · simp [own, Int.add_assoc]
        · simp [own]
      | false => simp
    | _ => exact (Int.add_zero _).symm

/-- What is pushed to the store are counts of the counter, and there are some. -/
theorem pushed_callsOf {s : Scene} {order : Order} {counts : List FeatureCount} (inside : .pushCounts counts ∈ s.callsOf order) :
    counts = s.tracker.counter.counts ∧ counts ≠ [] := by
  have among : Call.pushCounts counts ∈ (s.callsOf order).filter isPushCounts := List.mem_filter.2 ⟨inside, rfl⟩
  rw [filter_isPushCounts] at among
  unfold Scene.savesCounts HourCounter.isEmpty at among
  split at among
  · split at among
    case isTrue some =>
      cases List.mem_singleton.1 among
      refine ⟨rfl, fun none => ?_⟩
      simp [none] at some
    case isFalse => cases among
  · cases among

end Counts

section Runs

variable (u : Setup)

/-- The counts that were pushed and those in the counter are the volume of what was handled. -/
theorem tally_after (inputs : List Input) (feature : String) {hour : Int} (aligned : hourMillis ∣ hour) :
    tally feature hour (pushedCounts (after u inputs).ground.calls) +
        tally feature hour (after u inputs).tracker.counter.counts =
      volume u.settings.impressionsMode feature hour (handled u inputs) := by
  refine run_induction (P := fun orders s => tally feature hour (pushedCounts s.ground.calls) +
    tally feature hour s.tracker.counter.counts = volume u.settings.impressionsMode feature hour orders) ?_ ?_ ?_ inputs
  · rw [pushedCounts_scene]
    rfl
  · intro past command account
    rw [pushedCounts_toldTracker, toldTracker_counter]
    exact account
  · intro past order rest _ account
    rw [tally_turned _ _ _ _ aligned, account, volume_cons _ _ _ order (handled u past), after_mode]
    omega

/-- The counts in the counter are in order, and so are those that were pushed, of which there are some. -/
theorem orderly_after (inputs : List Input) : IsOrderly (after u inputs).tracker.counter.counts ∧
    ∀ counts, .pushCounts counts ∈ (after u inputs).ground.calls → counts ≠ [] ∧ IsOrderly counts := by
  refine run_induction (P := fun _ s => IsOrderly s.tracker.counter.counts ∧
    ∀ counts, .pushCounts counts ∈ s.ground.calls → counts ≠ [] ∧ IsOrderly counts) ?_ ?_ ?_ inputs
  · refine ⟨IsOrderly.nil, fun counts inside => ?_⟩
    cases List.all_eq_true.1 u.opening_scene _ inside
  · rintro past command ⟨counter, pushed⟩
    rw [toldTracker_counter, toldTracker_calls]
    refine ⟨counter, fun counts inside => ?_⟩
    rcases List.mem_append.1 inside with new | earlier
    · obtain drop | ⟨enable, leave⟩ := mem_callsOfTold new
      · cases drop
      · cases leave
    · exact pushed counts earlier
  · rintro past order rest - ⟨counter, pushed⟩
    constructor
    · rw [turned_counter]
      split
      · exact IsOrderly.nil
      · cases order with
        | push p =>
          dsimp only
          split
          · exact HourCounter.isOrderly_increment counter _ _ _
          · exact counter
        | _ => exact counter
    · intro counts inside
      rw [turned_calls] at inside
      rcases List.mem_append.1 inside with new | earlier
      · obtain ⟨same, some⟩ := pushed_callsOf new
        exact ⟨some, same ▸ counter⟩
      · exact pushed counts earlier

end Runs

/-- **Every impression is accounted for.** Of any settings, over any host, whatever the tracker is told and whenever its pipeline has
its turn:

1. What was taken waits in the queue or was handled, in order; each impression that was handled has one fate, in order: it was
   recorded as queued, or as seen before, or, if it is only counted, its key was recorded as unique. For each impression that was
   dropped there is one record.
2. For each feature and hour, the counts that were pushed to the store for the start of the hour and what the counter still has for any
   time of the hour are together as many as the impressions of that feature and hour that were handled and are to be counted: those that
   are only counted, and all in optimized mode.
3. Whenever counts are pushed, there are some, under the starts of hours, and one for each feature and hour.
4. Once a pause, a flush or the end is handled with leave to persist, the counter is empty. -/
theorem impressions_accounted (u : Setup) (inputs : List Input) :
    let s := after u inputs
    let orders := handled u inputs
    let mode := u.settings.impressionsMode
    (taken u inputs = (pushes s.tracker.orders.queue).reverse ++ pushes orders ∧
      List.Forall₂ (IsFateOf mode) (pushes orders) (s.ground.calls.filter isFate) ∧
      s.drops = List.replicate (dropped u inputs) (.impressions .dropped 1)) ∧
    (∀ feature hour time, 3600000 ∣ hour → hour ≤ time → time < hour + 3600000 →
      tally feature hour (pushedCounts s.ground.calls) + s.tracker.counter.countFor feature time =
        volume mode feature hour orders) ∧
    (∀ counts, .pushCounts counts ∈ s.ground.calls → counts ≠ [] ∧ IsOrderly counts) ∧
    ∀ order rest, s.tracker.orders.queue = order :: rest → isSaving order = true → s.tracker.persistence = true →
      (after u (.step :: inputs)).tracker.counter.isEmpty = true := by
  intro s orders mode
  obtain ⟨orderly, pushed⟩ := orderly_after u inputs
  refine ⟨⟨(delivers_after u inputs).all, fates_after u inputs, drops_after u inputs⟩, ?_, pushed, ?_⟩
  · intro feature hour time aligned late early
    have inside : hourStart time = hour := (HourCounter.hourStart_eq_iff aligned).2 ⟨late, early⟩
    rw [HourCounter.countFor_eq_tally orderly, inside]
    exact tally_after u inputs feature aligned
  · intro order rest waiting saving leave
    show (take s .step).tracker.counter.isEmpty = true
    rw [take_step_cons waiting, turned_counter, saving, leave]
    rfl

/-- Two impressions that are tracked in one hour, the latter only to be counted, and a pause that has its turn next. -/
def trackedAndPaused : List Input :=
  [.step, .step, .tell .pause, .tell (.push { impression := .new "user" "checkout" "on" 3599999, disabled := true }),
    .tell (.push { impression := .new "user" "checkout" "on" 0 })]

/-- After the pause, an impression that is only to be counted in the next hour. -/
def nextHour : List Input :=
  .step :: .tell (.push { impression := .new "user" "checkout" "on" 3600000, disabled := true }) :: .step :: trackedAndPaused

/-- After the pause the counter is empty. At the end, each hour has its own count: two of the first hour, one of the second. -/
theorem impressions_accounted_pause :
    (after Setup.plain (.step :: trackedAndPaused)).tracker.counter.isEmpty = true ∧
    tally "checkout" 0 (pushedCounts (after Setup.plain nextHour).ground.calls) +
      (after Setup.plain nextHour).tracker.counter.countFor "checkout" 3599999 = 2 ∧
    tally "checkout" 3600000 (pushedCounts (after Setup.plain nextHour).ground.calls) +
      (after Setup.plain nextHour).tracker.counter.countFor "checkout" 7199999 = 1 := by
  have emptied := (impressions_accounted Setup.plain trackedAndPaused).2.2.2 .pause [] rfl rfl rfl
  have counted := (impressions_accounted Setup.plain nextHour).2.1
  refine ⟨emptied, ?_, ?_⟩
  · exact counted "checkout" 0 3599999 (by decide) (by decide) (by decide)
  · exact counted "checkout" 3600000 7199999 (by decide) (by decide) (by decide)

end FlagKeeper.Tracking
