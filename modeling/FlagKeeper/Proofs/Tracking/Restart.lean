import FlagKeeper.Proofs.Impressions.RecentList
import FlagKeeper.Proofs.Tracking.Scene

/-!
# A tracker that takes over from an earlier one

The hashes of the observer are stored when the tracker pauses or is destroyed, and the observer of a later tracker is filled from them.
What a tracker shows of the impressions that may be delivered, and what it stores, follows from the bounded list that its observer is
and from the orders that its pipeline handles (`shown`). So all that a new tracker needs to go on like the old one is the same list, and
that is what is in the store once the hashes were stored after the last impression (`isSaved`). The main statement of this file says so;
an observer with less room starts with the latest of the hashes.
-/

namespace FlagKeeper.Tracking

open Ensemble (Call Answers)
open ImpressionTracker (Order Command)
open Recording (Scene Setup tracker)

/-! ## What shows of orders -/

/-- What shows of an order: how an impression that may be delivered fares, and the hashes that are stored. -/
def outcome (mode : ImpressionsMode) (keepsHashes : Bool) (l : RecentList) : Order → List Call
  | .push pushed =>
    let i := { pushed.impression with previousTime := l.time? pushed.impression.identityHash }
    if isCounted mode pushed then []
    else if mode = .debug || ImpressionTracker.isFirstInHour i then [.impressions .queued 1, .queueImpression i]
    else [.impressions .deduped 1]
  | .pause => if keepsHashes then [.replaceHashes l.entries] else []
  | .destroy => if keepsHashes then [.replaceHashes l.entries] else []
  | _ => []

/-- What is remembered once an order was handled. -/
def remembering (mode : ImpressionsMode) (l : RecentList) : Order → RecentList
  | .push pushed => if isCounted mode pushed then l else l.set (seen pushed.impression)
  | _ => l

/-- What is remembered once some orders were handled, the latest first. -/
def memory (mode : ImpressionsMode) (l : RecentList) : List Order → RecentList
  | [] => l
  | order :: earlier => remembering mode (memory mode l earlier) order

/-- What shows of some orders, the latest first. -/
def shown (mode : ImpressionsMode) (keepsHashes : Bool) (l : RecentList) : List Order → List Call
  | [] => []
  | order :: earlier => outcome mode keepsHashes (memory mode l earlier) order ++ shown mode keepsHashes l earlier

/-- Whether a call shows how an impression fares that may be delivered, or what is stored of the hashes. -/
def isShown : Call → Bool
  | .queueImpression _ => true
  | .impressions .queued _ => true
  | .impressions .deduped _ => true
  | .replaceHashes _ => true
  | _ => false

section Orders

variable {mode : ImpressionsMode} {keepsHashes : Bool} {l : RecentList}

theorem memory_append (later earlier : List Order) : memory mode l (later ++ earlier) = memory mode (memory mode l earlier) later := by
  induction later with
  | nil => rfl
  | cons order rest ih => exact congrArg (remembering mode · order) ih

/-- What shows of later orders follows from what the earlier ones left. -/
theorem shown_append (later earlier : List Order) : shown mode keepsHashes l (later ++ earlier) =
    shown mode keepsHashes (memory mode l earlier) later ++ shown mode keepsHashes l earlier := by
  induction later with
  | nil => rfl
  | cons order rest ih =>
    show outcome mode keepsHashes (memory mode l (rest ++ earlier)) order ++ shown mode keepsHashes l (rest ++ earlier) = _
    rw [memory_append, ih, ← List.append_assoc]
    rfl

/-- What is stored is all that is remembered, and only where there is a store. -/
theorem eq_entries_of_outcome {order : Order} {seen : List SeenImpression}
    (inside : .replaceHashes seen ∈ outcome mode keepsHashes l order) : keepsHashes = true ∧ seen = l.entries := by
  have saving (inside : .replaceHashes seen ∈ if keepsHashes then [Call.replaceHashes l.entries] else []) :
      keepsHashes = true ∧ seen = l.entries := by
    split at inside
    case isTrue keeps => exact ⟨keeps, by simpa using inside⟩
    case isFalse => cases inside
  cases order with
  | push pushed =>
    unfold outcome at inside
    dsimp only at inside
    split at inside
    · cases inside
    · split at inside <;> simp at inside
  | pause => exact saving inside
  | destroy => exact saving inside
  | _ => cases inside

theorem keepsHashes_of_shown {orders : List Order} {seen : List SeenImpression}
    (inside : .replaceHashes seen ∈ shown mode keepsHashes l orders) : keepsHashes = true := by
  induction orders with
  | nil => cases inside
  | cons order earlier ih =>
    rcases List.mem_append.1 inside with new | before
    · exact (eq_entries_of_outcome new).1
    · exact ih before

end Orders

section Turns

variable {s : Scene}

theorem filter_savesHashes (s : Scene) : s.savesHashes.filter isShown = s.savesHashes := by
  unfold Scene.savesHashes
  split <;> rfl

/-- What shows of an order follows from what the observer shows. -/
theorem filter_isShown (sound : s.tracker.observer.IsSound) (order : Order) :
    (s.callsOf order).filter isShown = outcome s.mode s.keepsHashes s.tracker.observer.recent order := by
  have unique : s.savesUnique.filter isShown = [] := Recording.filter_savesUnique s rfl
  have counts : s.savesCounts.filter isShown = [] := Recording.filter_savesCounts s fun _ => rfl
  have periodic (told : WorkerOrder) : (s.tellsPeriodic told).filter isShown = [] := Recording.filter_tellsPeriodic s fun _ => rfl
  cases order with
  | push pushed =>
    have decorated : s.lastSeen pushed.impression =
        { pushed.impression with previousTime := s.tracker.observer.recent.time? pushed.impression.identityHash } := by
      unfold Scene.lastSeen
      rw [sound.testAndSet_fst]
      rfl
    have counted : (s.callsOfCounted pushed.impression).filter isShown = [] := by
      unfold Scene.callsOfCounted
      split
      · simp [unique, isShown]
      · rfl
    unfold Scene.callsOf outcome isCounted
    dsimp only
    rw [decorated]
    split
    · exact counted
    · unfold Scene.callsOfDelivery Scene.isQueued
      split
      · split <;> rfl
      · rfl
  | pause =>
    show (s.tellsPeriodic .pause ++ (s.savesHashes ++ (s.savesUnique ++ s.savesCounts))).filter isShown = s.savesHashes
    simp only [List.filter_append, periodic, unique, counts, filter_savesHashes,
      List.append_nil, List.nil_append]
  | destroy =>
    show (s.savesHashes ++ (s.savesUnique ++ (s.savesCounts ++ s.tellsPeriodic .destroy))).filter isShown = s.savesHashes
    simp only [List.filter_append, periodic, unique, counts, filter_savesHashes,
      List.append_nil]
  | flush =>
    unfold Scene.callsOf
    simp [unique, counts, isShown, outcome]
  | _ => exact periodic _

/-- What the observer shows once an order was handled. -/
theorem recent_turned (fits : s.tracker.observer.Fits) (order : Order) (rest : List Order) :
    (turned s order rest).tracker.observer.Fits ∧
    (turned s order rest).tracker.observer.recent = remembering s.mode s.tracker.observer.recent order := by
  rw [turned_observer]
  cases order with
  | push pushed =>
    unfold remembering
    dsimp only
    split
    · exact ⟨fits, rfl⟩
    · exact ⟨fits.testAndSet (seen pushed.impression), fits.recent_testAndSet (seen pushed.impression)⟩
  | _ => exact ⟨fits, rfl⟩

end Turns

section Runs

variable (u : Setup)

theorem after_keepsHashes (inputs : List Input) : (after u inputs).keepsHashes = u.keepsHashes :=
  run_induction (P := fun _ s => s.keepsHashes = u.keepsHashes) rfl
    (fun _ command same => by rw [(toldTracker_eq _ command).1]; exact same) (fun _ _ _ _ same => same) inputs

theorem fits_after (inputs : List Input) : (after u inputs).tracker.observer.Fits := by
  rw [after_observer]
  exact SeenCache.fits_ofList ..

/-- What shows of a run, and what its observer comes to show, follows from what the observer showed at first and from the orders. -/
theorem shown_after (inputs : List Input) :
    (after u inputs).tracker.observer.recent =
      memory u.settings.impressionsMode u.scene.tracker.observer.recent (handled u inputs) ∧
    (after u inputs).ground.calls.filter isShown =
      shown u.settings.impressionsMode u.keepsHashes u.scene.tracker.observer.recent (handled u inputs) := by
  refine run_induction (P := fun orders s =>
    s.tracker.observer.recent = memory u.settings.impressionsMode u.scene.tracker.observer.recent orders ∧
    s.ground.calls.filter isShown =
      shown u.settings.impressionsMode u.keepsHashes u.scene.tracker.observer.recent orders) ?_ ?_ ?_ inputs
  · exact ⟨rfl, u.filter_scene (fun _ => rfl) (fun _ => rfl) rfl⟩
  · rintro past command ⟨recent, calls⟩
    rw [toldTracker_observer, toldTracker_filter _ _ rfl fun _ => rfl]
    exact ⟨recent, calls⟩
  · rintro past order rest - ⟨recent, calls⟩
    have fits := fits_after u past
    have shows := filter_isShown fits.sound order
    rw [after_mode, after_keepsHashes, recent] at shows
    rw [(recent_turned fits order rest).2, turned_calls, List.filter_append, shows, calls, after_mode, recent]
    exact ⟨rfl, rfl⟩

end Runs

/-! ## A pipeline that goes on -/

/-- A pipeline went on with some orders, the latest first. -/
def goneOn (s : Scene) : List Order → Scene
  | [] => s
  | order :: earlier => (((tracker s.mode s.keepsHashes).handle order).run (goneOn s earlier)).2

/-- Going on leaves the mode, the store and the host as they are. -/
theorem goneOn_same (s : Scene) (orders : List Order) : (goneOn s orders).mode = s.mode ∧
    (goneOn s orders).keepsHashes = s.keepsHashes ∧ (goneOn s orders).ground.answers = s.ground.answers := by
  induction orders with
  | nil => exact ⟨rfl, rfl, rfl⟩
  | cons order earlier ih =>
    rw [goneOn, ← ih.1, ← ih.2.1, ← ih.2.2, Recording.run_handle]
    exact ⟨rfl, rfl, rfl⟩

/-- Going on is to handle order after order, whatever waits. -/
theorem goneOn_cons (s : Scene) (order : Order) (earlier : List Order) :
    goneOn s (order :: earlier) = turned (goneOn s earlier) order (goneOn s earlier).tracker.orders.queue := by
  obtain ⟨mode, keeps, -⟩ := goneOn_same s earlier
  rw [goneOn, ← mode, ← keeps, Recording.run_handle]
  rfl

/-- What shows of the orders that a pipeline goes on with follows from what its observer shows. -/
theorem shown_goneOn {s : Scene} (fits : s.tracker.observer.Fits) (orders : List Order) :
    (goneOn s orders).ground.calls.filter isShown =
      shown s.mode s.keepsHashes s.tracker.observer.recent orders ++ s.ground.calls.filter isShown := by
  suffices whole : (goneOn s orders).tracker.observer.Fits ∧
      (goneOn s orders).tracker.observer.recent = memory s.mode s.tracker.observer.recent orders ∧
      (goneOn s orders).ground.calls.filter isShown =
        shown s.mode s.keepsHashes s.tracker.observer.recent orders ++ s.ground.calls.filter isShown from whole.2.2
  induction orders with
  | nil => exact ⟨fits, rfl, rfl⟩
  | cons order earlier ih =>
    obtain ⟨fits, recent, calls⟩ := ih
    obtain ⟨mode, keeps, -⟩ := goneOn_same s earlier
    obtain ⟨fits', recent'⟩ := recent_turned fits order (goneOn s earlier).tracker.orders.queue
    have shows := filter_isShown fits.sound order
    rw [mode, keeps, recent] at shows
    rw [mode, recent] at recent'
    rw [goneOn_cons]
    refine ⟨fits', recent', ?_⟩
    rw [turned_calls, List.filter_append, shows, calls, ← List.append_assoc]
    rfl

/-! ## What is in the store -/

/-- The hashes that a call is to bring into the store. -/
def hashesOf : Call → List (List SeenImpression)
  | .replaceHashes seen => [seen]
  | _ => []

/-- The lists of hashes that some calls on top of earlier ones brought into the store of a host, the latest first. -/
def updates (a : Answers) (earlier : List Call) : List Call → List (List SeenImpression)
  | [] => []
  | c :: calls => (if (a.outcome (c :: (calls ++ earlier))).isOk then hashesOf c else []) ++ updates a earlier calls

/-- The list of the last update that came into the store. -/
def lastUpdate (a : Answers) (calls : List Call) : Option (List SeenImpression) := (updates a [] calls).head?

/-- Whether the hashes came into the store since the last impression was handled. -/
def isSaved (u : Setup) : List Input → Bool
  | [] => false
  | .tell _ :: past => isSaved u past
  | .step :: past =>
    let s := after u past
    match s.tracker.orders.queue with
    | [] => isSaved u past
    | .push _ :: _ => false
    | order :: _ => !(updates u.answers s.ground.calls (s.callsOf order)).isEmpty || isSaved u past

section Store

variable (a : Answers)

theorem updates_append (calls calls' earlier : List Call) :
    updates a earlier (calls' ++ calls) = updates a (calls ++ earlier) calls' ++ updates a earlier calls := by
  induction calls' with
  | nil => rfl
  | cons c rest ih =>
    simp only [List.cons_append, updates, ih, List.append_assoc]

theorem mem_of_updates {earlier calls : List Call} {seen : List SeenImpression} (inside : seen ∈ updates a earlier calls) :
    .replaceHashes seen ∈ calls := by
  induction calls with
  | nil => cases inside
  | cons c rest ih =>
    rcases List.mem_append.1 inside with new | before
    · split at new
      · cases c with
        | replaceHashes stored =>
          cases List.mem_singleton.1 new
          exact List.mem_cons_self
        | _ => cases new
      · cases new
    · exact List.mem_cons_of_mem _ (ih before)

/-- What an order stores is what the observer shows. -/
theorem eq_snapshot_of_updates {s : Scene} (sound : s.tracker.observer.IsSound) {order : Order} {seen : List SeenImpression}
    (inside : seen ∈ updates a s.ground.calls (s.callsOf order)) : seen = s.tracker.observer.snapshot := by
  have called : Call.replaceHashes seen ∈ (s.callsOf order).filter isShown := List.mem_filter.2 ⟨mem_of_updates a inside, rfl⟩
  rw [filter_isShown sound] at called
  exact (eq_entries_of_outcome called).2

/-- What a tracker is told stores nothing yet. -/
theorem updates_told (s : Scene) (command : Command) :
    updates a [] (take s (.tell command)).ground.calls = updates a [] s.ground.calls := by
  have nothing : updates a s.ground.calls (callsOfTold s command) = [] := by
    rw [List.eq_nil_iff_forall_not_mem]
    intro seen inside
    obtain drop | ⟨enable, leave⟩ := mem_callsOfTold (mem_of_updates a inside)
    · cases drop
    · cases leave
  rw [take_tell, toldTracker_calls, updates_append, List.append_nil, nothing, List.nil_append]

/-- An order that is no impression leaves the store with what the observer shows, if it stores that or if the store had it before. -/
theorem updates_turned {s : Scene} (sound : s.tracker.observer.IsSound) {order : Order} (rest : List Order)
    (lasting : ∀ pushed, order ≠ .push pushed)
    (saved : updates a s.ground.calls (s.callsOf order) = [] →
      (updates a [] s.ground.calls).head? = some s.tracker.observer.snapshot) :
    (updates a [] (turned s order rest).ground.calls).head? = some (turned s order rest).tracker.observer.snapshot := by
  have unseen : (turned s order rest).tracker.observer = s.tracker.observer := by
    rw [turned_observer]
    cases order with
    | push pushed => exact absurd rfl (lasting pushed)
    | _ => rfl
  rw [unseen, turned_calls, updates_append, List.append_nil]
  cases new : updates a s.ground.calls (s.callsOf order) with
  | nil => exact saved new
  | cons seen others =>
    have snapshot : seen = s.tracker.observer.snapshot := eq_snapshot_of_updates a sound (new ▸ List.mem_cons_self)
    rw [snapshot]
    rfl

end Store

/-- Once the hashes came into the store after the last impression, the store has what the observer shows. -/
theorem lastUpdate_of_isSaved (u : Setup) {inputs : List Input} (saved : isSaved u inputs = true) :
    lastUpdate u.answers (after u inputs).ground.calls = some (after u inputs).tracker.observer.snapshot := by
  unfold lastUpdate
  induction inputs with
  | nil => cases saved
  | cons i past ih =>
    cases i with
    | tell command =>
      show (updates u.answers [] (take (after u past) (.tell command)).ground.calls).head? =
        some (take (after u past) (.tell command)).tracker.observer.snapshot
      rw [updates_told, ih saved, take_tell, toldTracker_observer]
    | step =>
      show (updates u.answers [] (take (after u past) .step).ground.calls).head? =
        some (take (after u past) .step).tracker.observer.snapshot
      unfold isSaved at saved
      dsimp only at saved
      cases waiting : (after u past).tracker.orders.queue with
      | nil =>
        rw [waiting] at saved
        rw [take_step_nil waiting]
        exact ih saved
      | cons order rest =>
        rw [waiting] at saved
        have before (saved : (!(updates u.answers (after u past).ground.calls ((after u past).callsOf order)).isEmpty ||
            isSaved u past) = true) (nothing : updates u.answers (after u past).ground.calls ((after u past).callsOf order) = []) :
            (updates u.answers [] (after u past).ground.calls).head? = some (after u past).tracker.observer.snapshot := by
          rw [nothing] at saved
          exact ih saved
        rw [take_step_cons waiting]
        cases order with
        | push pushed => cases saved
        | _ => exact updates_turned u.answers (fits_after u past).sound rest (by simp) (before saved)

/-- There is a store where hashes came into it. -/
theorem keepsHashes_of_isSaved (u : Setup) {inputs : List Input} (saved : isSaved u inputs = true) : u.keepsHashes = true := by
  have stored : (updates u.answers [] (after u inputs).ground.calls).head? = some (after u inputs).tracker.observer.snapshot :=
    lastUpdate_of_isSaved u saved
  have called := mem_of_updates u.answers (List.mem_of_mem_head? stored)
  have among : Call.replaceHashes (after u inputs).tracker.observer.snapshot ∈ (after u inputs).ground.calls.filter isShown :=
    List.mem_filter.2 ⟨called, rfl⟩
  rw [(shown_after u inputs).2] at among
  exact keepsHashes_of_shown among

/-! ## Taking over -/

/-- **A new tracker goes on like the old one.** Of any settings, over any hosts, whatever the old tracker was told and whenever its
pipeline had its turn: if its hashes came into the store after the last impression that it handled, and if the store gives a new
tracker the list of the last update, let `kept` be the bounded list with the room of the new observer and as many of the latest hashes
of the old one.

1. There are as many as there is room for, or all.
2. Whatever is set, the new observer gives the same times and shows the same as `kept`.
3. Whatever the new tracker is told, what shows of it, its updates of the store included, is what shows of `kept` for the orders that
   it handles.
4. With the same room and mode, that is what would show of the old pipeline if it went on with these orders; and it is what shows of the
   old tracker if that goes on and handles these orders. -/
theorem restart_resumes (old new : Setup) (past : List Input) (saved : isSaved old past = true) (keeps : new.keepsHashes = true)
    (faithful : ∀ seen, lastUpdate old.answers (after old past).ground.calls = some seen →
      new.answers.hashes [.readHashes] = .ok seen) :
    let before := (after old past).tracker.observer.recent
    let room := max new.settings.observerCapacity 1
    let kept := before.latest room
    let mode := new.settings.impressionsMode
    kept.entries.length = min room before.entries.length ∧
    (∀ sets, (new.scene.tracker.observer.testAll sets).1 = (kept.testAll sets).1 ∧
      (new.scene.tracker.observer.testAll sets).2.snapshot = (kept.testAll sets).2.entries) ∧
    (∀ inputs, (after new inputs).ground.calls.filter isShown = shown mode true kept (handled new inputs)) ∧
    (new.settings.observerCapacity = old.settings.observerCapacity → mode = old.settings.impressionsMode → ∀ inputs,
      (goneOn (after old past) (handled new inputs)).ground.calls.filter isShown =
          (after new inputs).ground.calls.filter isShown ++ (after old past).ground.calls.filter isShown ∧
      ∀ later, handled old (later ++ past) = handled new inputs ++ handled old past →
        (after old (later ++ past)).ground.calls.filter isShown =
          (after new inputs).ground.calls.filter isShown ++ (after old past).ground.calls.filter isShown) := by
  intro before room kept mode
  have fits := fits_after old past
  have restored : new.restored = (after old past).tracker.observer.snapshot := by
    unfold Setup.restored
    rw [keeps, faithful _ (lastUpdate_of_isSaved old saved)]
    rfl
  have resumed : new.scene.tracker.observer.recent = kept := by
    rw [new.observer_scene, restored]
    exact SeenCache.recent_ofList_snapshot fits.sound _
  have filled : new.scene.tracker.observer.Fits := by
    rw [new.observer_scene]
    exact SeenCache.fits_ofList ..
  have shows (inputs : List Input) :
      (after new inputs).ground.calls.filter isShown = shown mode true kept (handled new inputs) := by
    rw [(shown_after new inputs).2, keeps, resumed]
  refine ⟨before.length_latest room, fun sets => ?_, shows, fun same sameMode inputs => ?_⟩
  · obtain ⟨times, recent⟩ := filled.testAll sets
    rw [resumed] at times recent
    exact ⟨times, congrArg RecentList.entries recent⟩
  · have whole : kept = before := by
      have capacity : room = before.capacity := by
        show max new.settings.observerCapacity 1 = (after old past).tracker.observer.capacity
        rw [same, after_observer, SeenCache.capacity_ofList]
      show before.latest room = before
      rw [capacity]
      exact RecentList.latest_self fits.length
    have stores : old.keepsHashes = true := keepsHashes_of_isSaved old saved
    obtain ⟨remembered, shownBefore⟩ := shown_after old past
    rw [shows, whole]
    constructor
    · rw [shown_goneOn fits, after_mode, after_keepsHashes, stores, ← sameMode]
    · intro later sameOrders
      rw [(shown_after old (later ++ past)).2, sameOrders, shown_append, ← shownBefore, ← remembered, stores, ← sameMode]

/-- Parts with the settings that are given by default, over a host that stores hashes. -/
def withStore : Setup where
  settings := {}
  keepsHashes := true
  answers := {}

/-- An impression that is tracked, and a pause. -/
def seenAndPaused : List Input :=
  [.step, .tell .pause, .step, .tell (.push { impression := .new "user" "checkout" "on" 5 })]

/-- Parts over a host that has stored the hashes of that pause. -/
def successor : Setup :=
  { withStore with answers := { hashes := fun _ => .ok (after withStore seenAndPaused).tracker.observer.snapshot } }

/-- To the new tracker, the same impression in the same hour was seen before. -/
theorem restart_resumes_deduped :
    (after successor [.step, .tell (.push { impression := .new "user" "checkout" "on" 9 })]).ground.calls.filter isShown =
      [.impressions .deduped 1] := by
  have stored : lastUpdate withStore.answers (after withStore seenAndPaused).ground.calls =
      some (after withStore seenAndPaused).tracker.observer.snapshot := lastUpdate_of_isSaved withStore rfl
  obtain ⟨-, -, shows, -⟩ := restart_resumes withStore successor seenAndPaused rfl rfl fun seen last => by
    rw [stored, Option.some_inj] at last
    rw [← last]
    rfl
  have remembered : (after withStore seenAndPaused).tracker.observer.recent =
      ⟨500, [⟨(Impression.new "user" "checkout" "on" 5).identityHash, 5⟩]⟩ := (shown_after withStore seenAndPaused).1
  have same : (Impression.new "user" "checkout" "on" 9).identityHash = (Impression.new "user" "checkout" "on" 5).identityHash := rfl
  have time : (Impression.new "user" "checkout" "on" 9).time = 9 := rfl
  have orders : handled successor [.step, .tell (.push { impression := .new "user" "checkout" "on" 9 })] =
      [.push { impression := .new "user" "checkout" "on" 9 }] := rfl
  have mode : successor.settings.impressionsMode = .optimized := rfl
  have room : successor.settings.observerCapacity = 500 := rfl
  rw [shows, remembered, orders, mode, room]
  simp [shown, outcome, memory, isCounted, RecentList.latest, RecentList.time?, same, time, ImpressionTracker.isFirstInHour,
    hourStart, hourMillis]

end FlagKeeper.Tracking
