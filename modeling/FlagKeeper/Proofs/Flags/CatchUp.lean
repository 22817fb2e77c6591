import FlagKeeper.Proofs.Flags.Scene

/-!
# Catching up with changes of flags

The flag synchronizer launches a worker for a change number only when the number is ahead of the stored one and no worker is under
way for it. When a worker is done, its number is free again, and a success is announced; a fetch of all flags announces its success
and one kind of failure. The invariant `Scene.Sound` holds all of this together: what is kept against what the journal says, and
what was broadcast against what was done.
-/

namespace FlagKeeper.FlagSync

open Workshop (Tracks targets makings completions)

variable {β : Type}

/-- A worker that reached what it was started for. -/
def succeeded (c : Worker × Outcome) : Bool :=
  match c.1.kind, c.2 with
  | .flagsSync, .ok () => true
  | .flagsUpdate _, .ok () => true
  | _, _ => false

/-- A fetch of all flags whose address was too long. -/
def wasTooLong (c : Worker × Outcome) : Bool :=
  match c.1.kind, c.2 with
  | .flagsSync, .error .uriTooLong => true
  | _, _ => false

/-- What is broadcast when a worker is done tells that it reached what it was started for, or that an address was too long. -/
theorem announcement_cases (c : Worker × Outcome) :
    (announcement c.1.kind c.2 = some .syncExecuted ∧ succeeded c = true ∧ wasTooLong c = false) ∨
      (announcement c.1.kind c.2 = some .uriTooLongOnSync ∧ succeeded c = false ∧ wasTooLong c = true) ∨
      (announcement c.1.kind c.2 = none ∧ succeeded c = false ∧ wasTooLong c = false) := by
  obtain ⟨w, result⟩ := c
  unfold announcement succeeded wasTooLong
  cases w.kind with
  | flagsSync =>
    cases result with
    | ok => simp
    | error e => cases e <;> simp
  | flagsUpdate n => cases result <;> simp
  | _ => simp

namespace Scene

/-- What a synchronizer, which syncs or does not, keeps and what it broadcast agree with the journal. -/
structure Sound (syncEnabled : Bool) (s : Scene β) : Prop where
  fixed : s.syncEnabled = syncEnabled
  main : s.state.mainWorker.kind = .flagsSync
  /-- The worker that fetches again and again neither has a number to reach nor is it ever done. -/
  periodic : ∀ w, s.state.periodicWorker = some w → w.kind = .periodicFlags
  /-- After the synchronizer was stopped, workers may be under way that it does not keep any more. -/
  reach : ∃ held, Tracks WorkerKind.changeNumber? held s.shop.journal ∧ s.state.catalog.targets ⊆ held ∧
    (s.state.stopped = false → s.state.catalog.targets = held)
  ahead : ∀ l ∈ s.shop.journal, ∀ w n, l.what = .told w .start → w.kind.changeNumber? = some n → l.seen < n
  off : syncEnabled = false → ∀ w ∈ makings s.shop.journal, w.kind.changeNumber? = none
  announced : s.sent.filter (· ≠ .splitLoadedFromCache) =
    (completions s.shop.journal).filterMap fun c => announcement c.1.kind c.2

namespace Sound

variable {syncEnabled : Bool} {s s' : Scene β}

theorem beside (h : s.Sound syncEnabled) (beside : s.Beside s') : s'.Sound syncEnabled := by
  obtain ⟨state, shop, enabled, sent⟩ := beside
  obtain ⟨fixed, main, periodic, reach, ahead, off, announced⟩ := h
  rw [← state] at main periodic reach
  rw [← shop] at reach ahead off announced
  rw [← sent] at announced
  exact ⟨enabled.trans fixed, main, periodic, reach, ahead, off, announced⟩

/-- The cache was loaded, which is announced besides. -/
theorem announce (h : s.Sound syncEnabled) : ({ s with sent := .splitLoadedFromCache :: s.sent } : Scene β).Sound syncEnabled :=
  { h with announced := by simpa using h.announced }

/-- A worker is told something that changes nothing about what is under way. -/
theorem told (h : s.Sound syncEnabled) {w : Worker} {order : WorkerOrder} (aside : order = .start → w.kind.changeNumber? = none) :
    (s.wrote (.told w order)).Sound syncEnabled := by
  obtain ⟨held, tracked, within, listed⟩ := h.reach
  refine { h with reach := ⟨held, tracked.told aside, within, listed⟩, ahead := ?_ }
  intro l inside w' n start aimed
  rcases List.mem_cons.1 inside with rfl | earlier
  · cases start
    rw [aside rfl] at aimed
    cases aimed
  · exact h.ahead l earlier w' n start aimed

/-- A worker is done: the one that fetches all flags, or one that was under way. -/
theorem finished (h : s.Sound syncEnabled) {w : Worker} (own : w.kind = .flagsSync ∨ w ∈ Workshop.running s.shop.journal)
    (result : Outcome) : (s.finished w result).Sound syncEnabled := by
  obtain ⟨held, tracked, within, listed⟩ := h.reach
  have ahead : ∀ l ∈ (s.finished w result).shop.journal, ∀ w' n, l.what = .told w' .start →
      w'.kind.changeNumber? = some n → l.seen < n := by
    intro l inside w' n start aimed
    rcases List.mem_cons.1 inside with rfl | earlier
    · cases start
    · exact h.ahead l earlier w' n start aimed
  have announced : (s.finished w result).sent.filter (· ≠ .splitLoadedFromCache) =
      (completions (s.finished w result).shop.journal).filterMap fun c => announcement c.1.kind c.2 := by
    show ((announcement w.kind result).toList ++ s.sent).filter _ =
      ((w, result) :: completions s.shop.journal).filterMap fun c => announcement c.1.kind c.2
    rw [List.filter_append, h.announced, List.filterMap_cons]
    rcases announcement_cases (w, result) with ⟨event, -⟩ | ⟨event, -⟩ | ⟨event, -⟩ <;> simp [event]
  cases aimed : w.kind.changeNumber? with
  | none =>
    have kept : s.settled w.kind = s.state := by
      unfold settled
      cases kind : w.kind <;> first | rfl | (rw [kind] at aimed; cases aimed)
    have shape : (s.finished w result).state = s.state := kept
    refine ⟨h.fixed, ?_, ?_, ⟨held, tracked.doneAside result aimed, ?_, ?_⟩, ahead, h.off, announced⟩ <;> rw [shape]
    · exact h.main
    · exact h.periodic
    · exact within
    · exact listed
  | some n =>
    have kind : w.kind = .flagsUpdate n := by
      cases kind : w.kind <;> rw [kind] at aimed <;> cases aimed
      rfl
    have underWay : w ∈ Workshop.running s.shop.journal := by
      rcases own with main | underWay
      · rw [main] at kind
        cases kind
      · exact underWay
    have shape : (s.finished w result).state = { s.state with catalog := (s.state.catalog.remove n).2 } := by
      show s.settled w.kind = _
      rw [kind]
      rfl
    refine ⟨h.fixed, ?_, ?_, ⟨_, tracked.done result aimed underWay, ?_, ?_⟩, ahead, h.off, announced⟩ <;> rw [shape]
    · exact h.main
    · exact h.periodic
    · show (s.state.catalog.remove n).2.targets ⊆ _
      rw [Catalog.targets_remove]
      exact List.filter_subset _ within
    · intro alive
      show (s.state.catalog.remove n).2.targets = _
      rw [Catalog.targets_remove, listed alive]

/-- A worker that was told to start may be done at once. -/
theorem started {w : Worker} (h : (s.wrote (.told w .start)).Sound syncEnabled) : (s.started w).Sound syncEnabled := by
  rcases started_cases s w with same | ⟨result, -, same⟩ <;> rw [same]
  · exact h
  · exact h.finished (.inr List.mem_cons_self) result

/-- All flags are fetched. -/
theorem fetched (h : s.Sound syncEnabled) : (s.started s.state.mainWorker).Sound syncEnabled := by
  refine (h.told fun _ => ?_).started
  rw [h.main]
  rfl

/-- The worker that fetches again and again is told something. -/
theorem periodicTold (h : s.Sound syncEnabled) (order : WorkerOrder) : (s.periodicTold order).Sound syncEnabled := by
  rcases s.periodicTold_cases order with same | ⟨w, there, same | ⟨other, same⟩⟩ <;> rw [same]
  · exact h
  · refine (h.told fun _ => ?_).started
    rw [h.periodic w there]
    rfl
  · exact h.told fun start => (other start).elim

/-- A worker is launched for a number that is ahead and that none is under way for. -/
theorem launched (h : s.Sound syncEnabled) (alive : s.state.stopped = false) (enabled : s.syncEnabled = true) {n : Int}
    (news : s.shelf.changeNumber s.stock < n) (fresh : s.state.catalog.contains n = false) : (s.launched n).Sound syncEnabled := by
  obtain ⟨held, tracked, within, listed⟩ := h.reach
  have new : n ∉ held := by
    rw [← listed alive, ← Catalog.contains_iff, fresh]
    exact Bool.false_ne_true
  have appended : (s.entered n).state.catalog.targets = held ++ [n] := by
    rw [← listed alive]
    exact List.map_append
  have begun : ((s.entered n).wrote (.told (s.nextWorker n) .start)).Sound syncEnabled :=
    { fixed := h.fixed
      main := h.main
      periodic := h.periodic
      reach := by
        have made : Tracks WorkerKind.changeNumber? held (s.entered n).shop.journal := tracked.made
        have begun := made.start (w := s.nextWorker n) (v := s.shelf.changeNumber s.stock) rfl new
        have same := List.perm_append_singleton n held
        exact ⟨held ++ [n], begun.of_perm same, appended ▸ List.Subset.refl _, fun _ => appended⟩
      ahead := by
        intro l inside w n' start aimed
        rcases List.mem_cons.1 inside with rfl | before
        · cases start
          cases aimed
          exact news
        · rcases List.mem_cons.1 before with rfl | earlier
          · cases start
          · exact h.ahead l earlier w n' start aimed
      off := fun off => (Bool.false_ne_true (off.symm.trans (h.fixed.symm.trans enabled))).elim
      announced := h.announced }
  exact begun.started

/-- Some workers are told to stop. -/
theorem tolled (h : s.Sound syncEnabled) (workers : List Worker) : (s.tolled workers).Sound syncEnabled := by
  unfold Scene.tolled
  induction workers generalizing s with
  | nil => exact h
  | cons w rest ih => exact ih (h.told fun start => by cases start)

/-- Once the synchronizer is stopped, it need not keep what is under way. -/
theorem doomed (h : s.Sound syncEnabled) : s.doomed.Sound syncEnabled := by
  obtain ⟨held, tracked, within, -⟩ := h.reach
  exact { h with reach := ⟨held, tracked, within, fun alive => by cases alive⟩ }

theorem emptied (h : s.Sound syncEnabled) (gone : s.state.stopped = true) : s.emptied.Sound syncEnabled := by
  obtain ⟨held, tracked, -, -⟩ := h.reach
  have never {p : Prop} (alive : s.emptied.state.stopped = false) : p := (Bool.false_ne_true (alive.symm.trans gone)).elim
  exact { h with reach := ⟨held, tracked, List.nil_subset _, never⟩ }

/-- Everything is ended. What is under way goes on until it is done, but nothing is kept of it any more. -/
theorem closed (h : s.Sound syncEnabled) : s.closed.Sound syncEnabled := by
  have told : (s.doomed.wrote (.told s.state.mainWorker .stop)).Sound syncEnabled := h.doomed.told fun start => by cases start
  have quiet := (told.periodicTold .stop).periodicTold .destroy
  exact (quiet.emptied (stopped_periodicTold.trans stopped_periodicTold)).tolled _

/-- Every turn keeps it. -/
theorem turn (h : s.Sound syncEnabled) {i : Input β} (turn : s.Turn i s') : s'.Sound syncEnabled := by
  cases turn with
  | aside beside => exact h.beside beside
  | announce beside => exact (h.beside beside).announce
  | periodic order => exact h.periodicTold order
  | fetch beside =>
    rw [← beside.state]
    exact (h.beside beside).fetched
  | launch alive enabled news fresh => exact h.launched alive enabled news fresh
  | finish own =>
    refine h.finished ?_ _
    rcases own with rfl | underWay
    · exact .inl h.main
    · exact .inr underWay
  | close => exact h.closed

end Sound

end Scene

section Runs

variable (u : Setup β)

/-- A new synchronizer is sound. -/
theorem Setup.sound_scene : u.scene.Sound u.syncEnabled := by
  obtain ⟨filter, enabled, shelf, stock, prompt⟩ := u
  cases enabled with
  | false =>
    exact
      { fixed := rfl
        main := rfl
        periodic := fun w there => by cases there
        reach := ⟨[], Tracks.nil.made, List.Subset.refl _, fun _ => rfl⟩
        ahead := by
          intro l inside w n start
          cases List.mem_singleton.1 inside
          cases start
        off := by
          intro _ w inside
          cases List.mem_singleton.1 inside
          rfl
        announced := rfl }
  | true =>
    exact
      { fixed := rfl
        main := rfl
        periodic := fun w there => by cases there; rfl
        reach := ⟨[], Tracks.nil.made.made, List.Subset.refl _, fun _ => rfl⟩
        ahead := by
          intro l inside w n start
          rcases List.mem_cons.1 inside with rfl | first
          · cases start
          · cases List.mem_singleton.1 first
            cases start
        off := fun off => by cases off
        announced := rfl }

/-- Whatever happens to a synchronizer, it is sound. -/
theorem Setup.sound (inputs : List (Input β)) : (u.after inputs).Sound u.syncEnabled := by
  induction inputs with
  | nil => exact u.sound_scene
  | cons i past ih => exact ih.turn ((u.after past).turn i)

/-- A synchronizer that was not told to stop is not stopped. -/
theorem Setup.alive {inputs : List (Input β)} (spared : .tell .stop ∉ inputs) : (u.after inputs).state.stopped = false := by
  induction inputs with
  | nil =>
    obtain ⟨filter, enabled, shelf, stock, prompt⟩ := u
    cases enabled <;> rfl
  | cons i past ih =>
    rw [List.mem_cons, not_or] at spared
    exact ((u.after past).turn i).alive (Ne.symm spared.1) (ih spared.2)

/-- From the call to stop on, no worker is made. -/
theorem Setup.makings_stopped (later past : List (Input β)) :
    (u.after (later ++ .tell .stop :: past)).state.stopped = true ∧
      makings (u.after (later ++ .tell .stop :: past)).shop.journal = makings (u.after past).shop.journal := by
  induction later with
  | nil =>
    show ((u.after past).take (.tell .stop)).state.stopped = true ∧ makings ((u.after past).take (.tell .stop)).shop.journal = _
    rw [Scene.take_stop]
    by_cases gone : (u.after past).state.stopped = true
    · rw [if_pos gone]
      exact ⟨gone, rfl⟩
    · rw [if_neg gone]
      exact ⟨Scene.stopped_closed, Scene.makings_closed⟩
  | cons i later ih =>
    obtain ⟨gone, same⟩ := ih
    obtain ⟨gone', same'⟩ := ((u.after (later ++ .tell .stop :: past)).turn i).ended gone
    exact ⟨gone', same'.trans same⟩

/-- **Catching up.** Whatever happens to the flag synchronizer, over any store, in whichever order, and whenever its workers are
done:

1. At no moment are two workers under way for one change number.
2. Until the synchronizer is stopped, the number of catch-ups that it counts is the number of workers under way.
3. Every worker is started for a number that is greater than the stored one at that moment.
4. None is made if sync is off, and no worker at all is made from the call to stop on.
5. But for the announcements of a loaded cache, the status events that were broadcast are those of the workers that were done, in
   that order; so a success was told of as often as a worker reached what it was started for, and a too long address as often as a
   fetch of all flags failed with it. -/
theorem flag_catch_up_single_flight (inputs : List (Input β)) :
    (∀ moment, moment <:+ (u.after inputs).shop.journal → (targets WorkerKind.changeNumber? moment).Nodup) ∧
    (.tell .stop ∉ inputs →
      ((plain u.filter u.syncEnabled u.shelf).inFlight.run (u.after inputs)).1 =
        (targets WorkerKind.changeNumber? (u.after inputs).shop.journal).length) ∧
    (∀ l ∈ (u.after inputs).shop.journal, ∀ w n, l.what = .told w .start → w.kind.changeNumber? = some n → l.seen < n) ∧
    (u.syncEnabled = false → ∀ w ∈ makings (u.after inputs).shop.journal, w.kind.changeNumber? = none) ∧
    (∀ later past, inputs = later ++ .tell .stop :: past →
      makings (u.after inputs).shop.journal = makings (u.after past).shop.journal) ∧
    (u.after inputs).sent.filter (· ≠ .splitLoadedFromCache) =
      (completions (u.after inputs).shop.journal).filterMap (fun c => announcement c.1.kind c.2) ∧
    (u.after inputs).sent.count .syncExecuted = (completions (u.after inputs).shop.journal).countP succeeded ∧
    (u.after inputs).sent.count .uriTooLongOnSync = (completions (u.after inputs).shop.journal).countP wasTooLong := by
  have sound := u.sound inputs
  obtain ⟨held, tracked, -, listed⟩ := sound.reach
  have counted {e : StatusEvent} (other : e ≠ .splitLoadedFromCache) :
      (u.after inputs).sent.count e =
        (completions (u.after inputs).shop.journal).countP fun c => announcement c.1.kind c.2 = some e := by
    rw [← List.count_filter (p := (· ≠ .splitLoadedFromCache)) (by simpa using other), sound.announced, List.count,
      List.countP_filterMap]
    refine List.countP_congr fun c _ => ?_
    cases announcement c.1.kind c.2 <;> simp
  refine ⟨tracked.single, ?_, sound.ahead, sound.off, ?_, sound.announced, ?_, ?_⟩
  · intro spared
    have size : (u.after inputs).state.catalog.size = held.length := by
      rw [Catalog.size_eq_length_targets, listed (u.alive spared)]
    exact size.trans tracked.perm.length_eq
  · rintro later past rfl
    exact (u.makings_stopped later past).2
  · rw [counted (by simp)]
    refine List.countP_congr fun c _ => ?_
    rcases announcement_cases c with ⟨event, ok, -⟩ | ⟨event, ok, -⟩ | ⟨event, ok, -⟩ <;> simp [event, ok]
  · rw [counted (by simp)]
    refine List.countP_congr fun c _ => ?_
    rcases announcement_cases c with ⟨event, -, long⟩ | ⟨event, -, long⟩ | ⟨event, -, long⟩ <;> simp [event, long]

end Runs

/-- A store of no flags that holds its change number. -/
def Shelf.numbered : Shelf Int where
  flags _ := []
  changeNumber n := n
  queryText _ := none
  loadLocal n := (.ok (), n)
  setChangeNumber n _ := (.ok (), n)
  delete _ n := (.ok (), n)
  kill _ n := (.ok false, n)
  setQueryText _ n := (.ok (), n)

/-- A synchronizer over such a store, whose workers are never done at once. -/
def Setup.standard : Setup Int where
  filter := {}
  syncEnabled := true
  shelf := .numbered
  stock := 5
  prompt _ := none

/-- Two notifications bring the same news, another one old news, and after the call to stop another one comes in vain. -/
theorem flag_catch_up_single_flight_stopped :
    let past : List (Input Int) := [.tell (.synchronizeTo 7), .tell (.synchronizeTo 7), .tell (.synchronizeTo 4)]
    targets WorkerKind.changeNumber? (Setup.standard.after past).shop.journal = [7] ∧
      ((plain Setup.standard.filter true .numbered).inFlight.run (Setup.standard.after past)).1 = 1 ∧
      makings (Setup.standard.after ([.tell (.synchronizeTo 8)] ++ .tell .stop :: past)).shop.journal =
        makings (Setup.standard.after past).shop.journal := by
  intro past
  have underWay : targets WorkerKind.changeNumber? (Setup.standard.after past).shop.journal = [7] := by decide +kernel
  have counted := (flag_catch_up_single_flight Setup.standard past).2.1 (by simp [past])
  have stopped := (flag_catch_up_single_flight Setup.standard ([.tell (.synchronizeTo 8)] ++ .tell .stop :: past)).2.2.2.2.1
    [.tell (.synchronizeTo 8)] past rfl
  rw [underWay] at counted
  exact ⟨underWay, counted, stopped⟩

end FlagKeeper.FlagSync
