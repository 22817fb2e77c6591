import FlagKeeper.Proofs.Ensemble.Opening

/-!
# A client that may be started

`Setup.poised`: a client that was only put together, by identities that come and go, may be started whatever the host answered
meanwhile. Nothing of such a client has ended, nothing is in store for it, and no registered identity has a full refresh under way.

The one thing to see is that an identity that goes takes no other with it: each bundle is registered for one key, by which its
workers were made.
-/

namespace FlagKeeper.Ensemble

variable {s e : Ensemble}

/-- A client that may be started: nothing of it has ended, nothing is in store for it, and no registered identity has a full refresh
under way. -/
structure Poised (s : Ensemble) : Prop where
  loop : s.manager.loop = .waiting
  begun : s.manager.remoteStarted = false
  shutdownSent : s.manager.shutdownSent = false
  paused : s.manager.paused = false
  stopped : s.manager.stopped = false
  inbox : s.inbox = {}
  synchronizer : s.synchronizer.destroyed = false
  flags : s.flags.stopped = false
  identities : ∀ entry ∈ s.registry.bundles,
    (s.identity entry.2).segments.destroyed = false ∧ (s.identity entry.2).segments.refreshing = false
  tracker : s.tracker.destroyed = false
  trackerOrders : s.tracker.orders = {}
  events : s.events.destroyed = false
  eventOrders : s.events.orders.queue = []
  jobs : s.jobs = []

/-- Whether an input only puts a client together: an identity that comes or goes, time that passes, or a host that changes its
mind. -/
def Input.prepares : Input → Bool
  | .register _ => true
  | .unregister _ => true
  | .advance _ => true
  | .setClock _ => true
  | .answer _ => true
  | _ => false

/-- The end of an identity writes calls down and changes that identity, and that is all. -/
theorem run_tearDown (key : Key) (bundle : BundleId) :
    ∃ calls s', ((e.identityRegistry.tearDown key bundle).run s).2 = noteAll s' calls ∧
      (s' = s ∨ ∃ st, s' = s.setSegments bundle st) := by
  let stopped := s.noteAll ((s.identity bundle).segments.periodicWorker.toList.map (Call.tell · .stop))
  have run : ((e.identityRegistry.tearDown key bundle).run s).2 =
      noteAll ((e.segmentSync bundle).shutDown.run stopped).2 [.stopSignals bundle, .destroyAttributes key.matching] := by
    have first : ((e.segmentSync bundle).tellPeriodic .stop).run s = ((), stopped) := run_segments_tellPeriodic (by simp)
    show ((((e.segmentSync bundle).shutDown).run (((e.segmentSync bundle).tellPeriodic .stop).run s).2).2.note
      (.destroyAttributes key.matching)).note (.stopSignals bundle) = _
    rw [first]
    rfl
  cases destroyed : (s.identity bundle).segments.destroyed with
  | true =>
    have same : ((e.segmentSync bundle).shutDown.run stopped).2 = stopped := by
      show ((if (s.identity bundle).segments.destroyed = true then pure () else _ : Playing Unit).run stopped).2 = _
      rw [destroyed]
      rfl
    rw [same, noteAll_noteAll] at run
    exact ⟨_, s, run, .inl rfl⟩
  | false =>
    rw [run_segments_shutDown (s := stopped) destroyed rfl, noteAll_setSegments, noteAll_noteAll, noteAll_noteAll] at run
    exact ⟨_, _, run, .inr ⟨_, rfl⟩⟩

/-- A client stays poised while an identity ends that is registered no more. -/
theorem Poised.tearDownAny (h : Poised s) {going : Option BundleId}
    (gone : ∀ entry ∈ s.registry.bundles, going ≠ some entry.2) (key : Key) : Poised ((e.tearDownAny key going).run s).2 := by
  cases going with
  | none => exact h
  | some bundle =>
    obtain ⟨calls, s', run, changed⟩ := run_tearDown (e := e) (s := s) key bundle
    show Poised ((e.identityRegistry.tearDown key bundle).run s).2
    rw [run]
    rcases changed with rfl | ⟨st, rfl⟩
    · exact { h with }
    · refine { h with identities := fun entry inside => ?_ }
      rcases identity_put s bundle entry.2 st with kept | ⟨same, -⟩
      · show ((s.setSegments bundle st).identity entry.2).segments.destroyed = false ∧
          ((s.setSegments bundle st).identity entry.2).segments.refreshing = false
        rw [kept]
        exact h.identities entry inside
      · exact (gone entry inside (congrArg some same.symm)).elim

/-- A bundle is registered for one key only. -/
theorem Staffed.one_key (h : Staffed s) {key key' : Key} {bundle : BundleId} (inside : (key, bundle) ∈ s.registry.bundles)
    (inside' : (key', bundle) ∈ s.registry.bundles) : key = key' := by
  obtain ⟨w, rest, standing, kind, -⟩ := (h.registered key bundle inside).2
  obtain ⟨w', rest', standing', kind', -⟩ := (h.registered key' bundle inside').2
  rw [standing] at standing'
  cases standing'
  exact WorkerKind.segmentsSync.inj (kind.symm.trans kind')

/-- A bundle that is registered is that of an identity. -/
theorem Staffed.lt (h : Staffed s) {key : Key} {bundle : BundleId} (inside : (key, bundle) ∈ s.registry.bundles) :
    bundle < s.identities.length := by
  have there : bundle + 1 < (flagsDesk s.flags :: s.identities.map fun i => segmentsDesk i.segments).length :=
    (h.registered key bundle inside).1
  rw [List.length_cons, List.length_map] at there
  exact Nat.lt_of_succ_lt_succ there

/-- A client stays poised while an identity goes. -/
theorem Poised.unregister (h : Poised s) (staffed : Staffed s) (key : Key) : Poised (s.take (.unregister key)) := by
  have without : Poised (s.without key) :=
    { h with identities := fun entry inside => h.identities entry (List.mem_filter.1 inside).1 }
  show Poised ((do let _ ← s.identityRegistry.unregister key : Playing Unit).run s).2
  rw [run_unregister]
  refine without.tearDownAny (fun entry inside going => ?_) key
  obtain ⟨before, other⟩ := List.mem_filter.1 inside
  have same : entry.1 = key := staffed.one_key before (Registry.mem_of_lookup going)
  simp [same] at other

/-- A segment synchronizer that is made has not ended and has no full refresh under way. -/
theorem create_segments_idle (key : Key) (syncEnabled : Bool) :
    ((SegmentSync.create key syncEnabled makers).run s).1.destroyed = false ∧
      ((SegmentSync.create key syncEnabled makers).run s).1.refreshing = false := by
  cases syncEnabled <;> exact ⟨rfl, rfl⟩

/-- A client stays poised while an identity comes. -/
theorem Poised.register (h : Poised s) (staffed : Staffed s) (keys : (s.registry.bundles.map Prod.fst).Nodup) (key : Key) :
    Poised (s.take (.register key)) := by
  obtain ⟨st, more, calls, run, -⟩ := run_create_segments (s := s) key s.settings.syncEnabled
  have idle : st.destroyed = false ∧ st.refreshing = false := by
    have made := create_segments_idle (s := s) key s.settings.syncEnabled
    rw [run] at made
    exact made
  let s' : Ensemble :=
    { s with
      ground := { s.ground with made := s.ground.made + more, calls := calls ++ s.ground.calls }
      identities := s.identities ++ [⟨key, st⟩] }
  have enrolled : s.take (.register key) =
      ((s'.tearDownAny key (Registry.put key s.identities.length s.registry.bundles).1).run
        (s'.having key s.identities.length)).2 := by
    show ((s.enroll key).run s).2 = _
    unfold enroll
    rw [run_bind, run]
    rfl
  have having : Poised (s'.having key s.identities.length) := by
    refine { h with identities := fun entry inside => ?_ }
    show ((s.identities ++ [⟨key, st⟩])[entry.2]?.getD nobody).segments.destroyed = false ∧
      ((s.identities ++ [⟨key, st⟩])[entry.2]?.getD nobody).segments.refreshing = false
    rcases Ledger.of_mem_put inside with before | ⟨-, new⟩
    · rw [List.getElem?_append_left (staffed.lt before)]
      exact h.identities entry before
    · rw [new, List.getElem?_concat_length]
      exact idle
  rw [enrolled]
  refine having.tearDownAny (fun entry inside previous => ?_) key
  have old : (key, entry.2) ∈ s.registry.bundles := Registry.mem_of_lookup (Registry.put_fst.symm.trans previous)
  have before := staffed.lt old
  have new : entry.2 = s.identities.length := by
    rcases Ledger.of_mem_put inside with kept | ⟨-, new⟩
    · have same : entry.1 = key := staffed.one_key kept old
      have once : ((Registry.put key s.identities.length s.registry.bundles).2.map Prod.fst).Nodup := Registry.nodup_put keys key
      have found := Registry.lookup_of_mem once inside
      rw [same, Registry.lookup_put_self] at found
      exact (Option.some.inj found).symm
    · exact new
  exact Nat.lt_irrefl _ (new ▸ before)

/-- A new client is poised. -/
theorem Setup.poised_scene (u : Setup) : Poised u.scene := by
  obtain ⟨base, max, guardian, health, manager⟩ := Manager.State.eq_of_build u.built
  have state : u.scene.manager = u.manager := rfl
  rw [manager] at state
  have flags : u.scene.flags.stopped = false := (u.makes_parts { answers := u.answers }).1.1.2.2
  refine ⟨?_, ?_, ?_, ?_, ?_, rfl, rfl, flags, nofun, rfl, rfl, rfl, rfl, rfl⟩ <;> rw [state]

/-- What the clocks show does not matter. -/
theorem Poised.clocks (h : Poised s) (steady : Nat) (wall : Int) : Poised { s with steady, wall } := { h with }

/-- A client that was only put together may be started. -/
theorem Setup.poised (u : Setup) {past : List Input} (prepares : ∀ i ∈ past, i.prepares = true) : Poised (u.after past) := by
  induction past with
  | nil => exact u.poised_scene
  | cons i rest ih =>
    have before := ih fun j inside => prepares j (List.mem_cons_of_mem i inside)
    have known := prepares i List.mem_cons_self
    show Poised ((u.after rest).take i)
    cases i with
    | register key => exact before.register (u.staffed rest) (u.sound rest).covered.keys key
    | unregister key => exact before.unregister (u.staffed rest) key
    | advance d => exact before.clocks _ _
    | setClock wall => exact before.clocks _ _
    | answer answers => exact { before with }
    | _ => cases known

end FlagKeeper.Ensemble
