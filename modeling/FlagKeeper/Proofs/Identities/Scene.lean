import FlagKeeper.Proofs.Registry.Pausing
import FlagKeeper.Proofs.Segments.Periodic
import FlagKeeper.Synchronizer

/-!
# Identities under a synchronizer

The synchronizer of a client over the registry, and the registry over the segment synchronizers of its identities, each the
program that it is. What the synchronizer tells its other parts comes to nothing: they have no part in this. Identities come one
after the other, each with a segment synchronizer of its own, and go; what happens to one besides what it is told (a timer runs
out, a worker is done) can happen at any time.

An input is at most one operation on the registry (`Input.operation?`). The statement `Setup.follows` says that the registry is
what those operations make of it, that each identity was asked what they have it asked, and that until it is torn down its periodic
worker got just the orders that it was asked to pass on.
-/

namespace FlagKeeper

open Registry (Ask Operation saidTo brought)

/-- What a command to the synchronizer has done to the registry, if it does anything to it. -/
def Synchronizer.Command.operation? (alive : Bool) : Synchronizer.Command → Option Operation
  | .loadSegments scope => if alive then some (.broadcast .loadFromCache scope) else none
  | .loadAttributes scope => if alive then some (.loadAttributes scope) else none
  | .startKey key => if alive then some (.startSync key) else none
  | .synchronizeAll => if alive then some (.broadcast .synchronize none) else none
  | .synchronizeSegments scope => if alive then some (.broadcast .synchronize scope) else none
  | .forceSegments scope target delay => if alive then some (.broadcast (.force target delay) scope) else none
  | .startFetching => if alive then some .startPolling else none
  | .stopFetching => some .stopPolling
  | .notifySegmentsUpdated scope => some (.broadcast .notifyUpdated scope)
  | .notifyLargeSegmentsUpdated scope => some (.broadcast .notifyLargeUpdated scope)
  | .pause => if alive then some .pause else none
  | .resume => if alive then some .resume else none
  | .destroy => if alive then some .stop else none
  | _ => none

/-- The order for the periodic worker that an ask has passed on, if it has any. -/
def Registry.Ask.order? : Ask → Option WorkerOrder
  | .segments command => command.order?
  | _ => none

namespace Identities

/-- An identity: what it was asked, the latest ask first, and its segment synchronizer. -/
structure Identity where
  asked : List Ask := []
  segments : SegmentSync.Scene

/-- An identity does what it is asked. -/
def Identity.hear (a : Ask) (i : Identity) : Identity where
  asked := a :: i.asked
  segments :=
    match a with
    | .segments command => i.segments.take (.tell command)
    | _ => i.segments

/-- Something happens to an identity, but for what it is told: that comes from the registry. -/
def Identity.undergo (event : SegmentSync.Input) (i : Identity) : Identity :=
  match event with
  | .tell _ => i
  | _ => { i with segments := i.segments.take event }

/-- What there is besides the registry and the identities. -/
structure Rest where
  synchronizer : Synchronizer.State
  /-- How many identities have come. -/
  come : Nat := 0

/-- A registry of identities, and a synchronizer over it. -/
abbrev Scene := Registry.Scene Identity Rest

/-- Programs on the plain host. -/
abbrev Plain := StateM Scene

/-- The registry of the identities. -/
def registry : Registry Plain := Registry.plain Identity.hear

/-- The synchronizer over the registry. -/
def synchronizer : Synchronizer Plain where
  state :=
    { get := return (← get).rest.synchronizer
      set := fun synchronizer => modify fun s => { s with rest := { s.rest with synchronizer } } }
  flags _ := return ()
  registry
  impressions _ := return ()
  events _ := return ()

/-- What a client's identities are put together from. -/
structure Setup where
  consent : Consent
  /-- How loading attributes ends. -/
  loading : Outcome
  /-- The segment synchronizers of the identities, in the order in which these come. -/
  identities : BundleId → SegmentSync.Setup

/-- A new client, to which no identity has come. -/
def Setup.scene (u : Setup) : Scene where
  bundles b := { segments := (u.identities b).scene }
  loading := u.loading
  rest := { synchronizer := { consent := u.consent } }

/-- What can happen to the identities of a client. -/
inductive Input where
  /-- The synchronizer is told something. -/
  | tell (command : Synchronizer.Command)
  /-- The next identity comes. -/
  | register
  | unregister (key : Key)
  /-- Background work is done. -/
  | job (job : Registry.Job)
  /-- Something happens to an identity. -/
  | event (bundle : BundleId) (event : SegmentSync.Input)

/-- What is done about an input. -/
def Setup.program (u : Setup) : Input → Plain Unit
  | .tell command => synchronizer.run command
  | .register => do
    let bundle := (← get).rest.come
    modify fun s => { s with rest := { s.rest with come := bundle + 1 } }
    registry.register (u.identities bundle).key bundle
  | .unregister key => do let _ ← registry.unregister key
  | .job j => registry.runJob j
  | .event b e => modify fun s => { s with bundles := Function.update s.bundles b ((s.bundles b).undergo e) }

/-- The scene after an input. -/
def Setup.take (u : Setup) (s : Scene) (i : Input) : Scene := ((u.program i).run s).2

/-- A new client after some inputs, the latest first. -/
def Setup.after (u : Setup) : List Input → Scene
  | [] => u.scene
  | i :: past => u.take (u.after past) i

/-- What an input has done to the registry, if it does anything to it. -/
def Setup.operation? (u : Setup) (s : Scene) : Input → Option Operation
  | .tell command => command.operation? !s.rest.synchronizer.destroyed
  | .register => some (.register (u.identities s.rest.come).key s.rest.come)
  | .unregister key => some (.unregister key)
  | .job j => some (.job j)
  | .event _ _ => none

/-- What some inputs have done to the registry, the latest first. -/
def Setup.operations (u : Setup) : List Input → List Operation
  | [] => []
  | i :: past => (u.operation? (u.after past) i).toList ++ u.operations past

/-! ## What the programs leave behind -/

/-- An operation was done, if any. -/
def didAny (s : Scene) : Option Operation → Scene
  | some op => s.did Identity.hear op
  | none => s

section Run

variable {s : Scene}

/-- What the synchronizer keeps after a command. -/
def kept (st : Synchronizer.State) : Synchronizer.Command → Synchronizer.State
  | .setConsent consent => if st.destroyed then st else { st with consent }
  | .destroy => { st with destroyed := true }
  | _ => st

theorem run_operation (once : s.state.Once) (op : Operation) : (op.program registry).run s = ((), s.did Identity.hear op) :=
  Registry.run_program once op

/-- A part of a program that comes to an operation, with orders around it that come to nothing. -/
theorem run_operation_only (once : s.state.Once) (op : Operation) :
    (op.program registry >>= fun _ => return () : Plain Unit).run s = ((), s.did Identity.hear op) := by
  show ((op.program registry).run s) = _
  exact run_operation once op

theorem run_ifAlive (act : Plain Unit) :
    (synchronizer.ifAlive act).run s = if !s.rest.synchronizer.destroyed then act.run s else ((), s) := by
  show ((if !s.rest.synchronizer.destroyed then act else pure () : Plain Unit).run s) = _
  split <;> rfl

/-- What is done unless the synchronizer is destroyed, if it comes to an operation. -/
theorem run_alive {op : Operation} {act : Plain Unit} (comes : act.run s = ((), s.did Identity.hear op)) :
    (synchronizer.ifAlive act).run s = ((), didAny s (if !s.rest.synchronizer.destroyed then some op else none)) := by
  rw [run_ifAlive]
  split
  · exact comes
  · rfl

/-- What a command to the synchronizer comes to. -/
theorem run_command (once : s.state.Once) (command : Synchronizer.Command) :
    (synchronizer.run command).run s =
      ((), didAny { s with rest := { s.rest with synchronizer := kept s.rest.synchronizer command } }
        (command.operation? !s.rest.synchronizer.destroyed)) := by
  have idle : ∀ {s : Scene} (act : Plain Unit), (∀ s, act.run s = ((), s)) → (synchronizer.ifAlive act).run s = ((), s) := by
    intro s act nothing
    rw [run_ifAlive, nothing, ite_self]
  cases command with
  | loadFlags => exact idle _ fun _ => rfl
  | loadAndSynchronizeFlags => exact idle _ fun _ => rfl
  | loadSegments scope => exact run_alive (run_operation once (.broadcast .loadFromCache scope))
  | loadAttributes scope => exact run_alive (run_operation once (.loadAttributes scope))
  | startKey key => exact run_alive (run_operation once (.startSync key))
  | synchronizeAll => exact run_alive (run_operation once (.broadcast .synchronize none))
  | synchronizeFlags => exact idle _ fun _ => rfl
  | synchronizeFlagsTo changeNumber => exact idle _ fun _ => rfl
  | synchronizeSegments scope => exact run_alive (run_operation once (.broadcast .synchronize scope))
  | forceSegments scope target delay => exact run_alive (run_operation once (.broadcast (.force target delay) scope))
  | startFetching => exact run_alive (run_operation once .startPolling)
  | stopFetching => exact run_operation once .stopPolling
  | startRecording => exact idle _ fun _ => rfl
  | stopRecording => rfl
  | setConsent consent =>
    have recording : ∀ s : Scene,
        ((if consent = .granted then synchronizer.startRecording else synchronizer.stopRecording : Plain Unit).run s) =
          ((), s) := by
      intro s
      split
      · exact idle (do synchronizer.impressions .start; synchronizer.events .start) fun _ => rfl
      · rfl
    show (synchronizer.ifAlive (synchronizer.setConsent consent)).run s = _
    rw [run_ifAlive, kept]
    by_cases gone : s.rest.synchronizer.destroyed = true
    · rw [if_pos gone, gone]
      rfl
    · rw [if_neg gone, if_pos (by simpa using gone)]
      exact recording _
  | pushImpression pushed => exact idle _ fun _ => rfl
  | pushEvent event =>
    refine idle _ fun s => ?_
    show ((if s.rest.synchronizer.consent.allowsTracking = true then pure () else pure () : Plain Unit).run s) = _
    rw [ite_self]
    rfl
  | notifySegmentsUpdated scope => exact run_operation once (.broadcast .notifyUpdated scope)
  | notifyLargeSegmentsUpdated scope => exact run_operation once (.broadcast .notifyLargeUpdated scope)
  | notifyFlagsUpdated => rfl
  | notifyFlagKilled kill => exact idle _ fun _ => rfl
  | pause => exact run_alive (run_operation_only once .pause)
  | resume => exact run_alive (run_operation_only once .resume)
  | flush => exact idle _ fun _ => rfl
  | destroy =>
    show (synchronizer.ifAlive _).run s = _
    rw [run_ifAlive, Synchronizer.Command.operation?]
    by_cases gone : s.rest.synchronizer.destroyed = true
    · have same : kept s.rest.synchronizer .destroy = s.rest.synchronizer := by rw [kept, ← gone]
      rw [same, gone]
      rfl
    · rw [if_pos (by simpa using gone), if_pos (by simpa using gone)]
      let doomed : Scene := { s with rest := { s.rest with synchronizer := kept s.rest.synchronizer .destroy } }
      exact run_operation_only (s := doomed) once .stop

/-- An input was taken note of, before the registry does anything about it. -/
def noted (s : Scene) : Input → Scene
  | .tell command => { s with rest := { s.rest with synchronizer := kept s.rest.synchronizer command } }
  | .register => { s with rest := { s.rest with come := s.rest.come + 1 } }
  | .event b e => { s with bundles := Function.update s.bundles b ((s.bundles b).undergo e) }
  | _ => s

theorem Setup.take_eq (u : Setup) (once : s.state.Once) (i : Input) : u.take s i = didAny (noted s i) (u.operation? s i) := by
  cases i with
  | tell command => exact congrArg Prod.snd (run_command once command)
  | register => exact congrArg Prod.snd (run_operation (s := noted s .register) once (.register _ s.rest.come))
  | unregister key => exact congrArg Prod.snd (run_operation once (.unregister key))
  | job j => exact congrArg Prod.snd (run_operation once (.job j))
  | event b e => rfl

end Run

/-! ## What an identity passes on -/

section Loyalty

variable {v : SegmentSync.Setup} {i : Identity}

/-- The orders that an identity was asked to pass on, the latest first. -/
def Identity.ordered (i : Identity) : List WorkerOrder := i.asked.filterMap Ask.order?

/-- The periodic worker of an identity, if there is to be one, got the orders that the identity was asked to pass on. -/
structure PassedOn (v : SegmentSync.Setup) (i : Identity) : Prop where
  alive : i.segments.state.destroyed = false
  worker : i.segments.state.periodicWorker.isSome = v.syncEnabled
  orders : i.segments.orders = if v.syncEnabled then i.ordered else []

/-- An identity passes orders on until it is asked to end. -/
structure Loyal (v : SegmentSync.Setup) (i : Identity) : Prop where
  sound : i.segments.Sound
  passedOn : .segments .destroy ∉ i.asked → PassedOn v i

theorem loyal_new (v : SegmentSync.Setup) : Loyal v { segments := v.scene } := by
  obtain ⟨worker, orders⟩ := v.orders_scene
  refine ⟨v.sound_scene, fun _ => ⟨v.alive_scene, worker, ?_⟩⟩
  rw [orders]
  exact (ite_self _).symm

/-- What the periodic worker does not notice changes nothing. -/
theorem PassedOn.beside (h : PassedOn v i) {j : Identity} (beside : i.segments.Beside j.segments) (same : j.ordered = i.ordered) :
    PassedOn v j where
  alive := beside.destroyed.trans h.alive
  worker := by rw [beside.periodicWorker, h.worker]
  orders := by rw [beside.orders, h.orders, same]

theorem Loyal.hear (h : Loyal v i) (a : Ask) : Loyal v (i.hear a) := by
  have before : .segments .destroy ∉ (i.hear a).asked → PassedOn v i := fun unasked =>
    h.passedOn fun asked => unasked (List.mem_cons_of_mem _ asked)
  have silent : a.order? = none → (i.hear a).ordered = i.ordered := List.filterMap_cons_none
  cases a with
  | segments command =>
    refine ⟨h.sound.turn (i.segments.turn (.tell command)), fun unasked => ?_⟩
    have passedOn := before unasked
    cases passes : command.order? with
    | none =>
      refine passedOn.beside (h.sound.beside_tell passes ?_) (silent passes)
      rintro rfl
      exact unasked List.mem_cons_self
    | some order =>
      have told : (i.hear (.segments command)).segments = i.segments.periodicTold order :=
        SegmentSync.Scene.take_order passes passedOn.alive
      have ordered : (i.hear (.segments command)).ordered = order :: i.ordered := List.filterMap_cons_some passes
      have state := h.sound.state_periodicTold order
      refine ⟨?_, ?_, ?_⟩
      · rw [told, state, passedOn.alive]
      · rw [told, state, passedOn.worker]
      · rw [told, h.sound.orders_periodicTold, passedOn.worker, passedOn.orders, ordered]
        cases v.syncEnabled <;> rfl
  | _ => exact ⟨h.sound, fun unasked => (before unasked).beside (.refl _) (silent rfl)⟩

@[simp] theorem asked_undergo (i : Identity) (event : SegmentSync.Input) : (i.undergo event).asked = i.asked := by
  have kept : ∀ segments, ({ i with segments } : Identity).asked = i.asked := fun _ => rfl
  cases event with
  | tell command => rfl
  | _ => exact kept _

theorem Loyal.undergo (h : Loyal v i) (event : SegmentSync.Input) : Loyal v (i.undergo event) := by
  have other : (∀ command, event ≠ .tell command) → Loyal v { i with segments := i.segments.take event } := fun untold =>
    ⟨h.sound.turn (i.segments.turn event), fun unasked => (h.passedOn unasked).beside (h.sound.beside_take untold) rfl⟩
  cases event with
  | tell command => exact h
  | _ => exact other (by simp)

end Loyalty

/-! ## The registry and the identities -/

section Follows

variable {u : Setup} {s : Scene} {ops : List Operation}

/-- The registry, and what the identities were asked, are what some operations make of them, the latest first. Each registration
brought another identity. -/
structure Follows (u : Setup) (s : Scene) (ops : List Operation) : Prop where
  state : s.state = (Registry.after u.loading ops).state
  asked : ∀ b, (s.bundles b).asked = (Registry.after u.loading ops).bundles b
  loyal : ∀ b, Loyal (u.identities b) (s.bundles b)
  come : ∀ b ∈ brought ops, b < s.rest.come
  fresh : (brought ops).Nodup

theorem asked_foldl (said : List Ask) (i : Identity) : (said.foldl (fun i a => i.hear a) i).asked = said.reverse ++ i.asked := by
  induction said generalizing i with
  | nil => rfl
  | cons a said ih =>
    rw [List.foldl_cons, ih, List.reverse_cons, List.append_assoc]
    rfl

theorem Loyal.foldl {v : SegmentSync.Setup} (said : List Ask) {i : Identity} (h : Loyal v i) :
    Loyal v (said.foldl (fun i a => i.hear a) i) := by
  induction said generalizing i with
  | nil => exact h
  | cons a said ih => exact ih (h.hear a)

/-- One more operation was done. If it registers an identity, this has come just now. -/
theorem Follows.did (h : Follows u s ops) {op : Operation}
    (new : ∀ k b, op = .register k b → b ∉ brought ops ∧ b < s.rest.come) :
    Follows u (s.did Identity.hear op) (op :: ops) := by
  have heard : ∀ b, (s.did Identity.hear op).bundles b =
      (saidTo b (op.asks s.state)).foldl (fun i a => i.hear a) (s.bundles b) := fun b => Registry.Scene.bundles_asked _ b
  have rest : (s.did Identity.hear op).rest = s.rest := s.rest_asked Identity.hear _
  refine ⟨?_, fun b => ?_, fun b => ?_, fun b inside => ?_, ?_⟩
  · rw [Registry.state_after_cons, ← h.state]
    rfl
  · rw [heard, asked_foldl, Registry.bundles_after_cons, ← h.state, h.asked]
  · rw [heard]
    exact (h.loyal b).foldl _
  · rw [rest]
    cases op with
    | register k held =>
      rcases List.mem_cons.1 inside with rfl | before
      · exact (new k b rfl).2
      · exact h.come b before
    | _ => exact h.come b inside
  · cases op with
    | register k held => exact List.nodup_cons.2 ⟨(new k held rfl).1, h.fresh⟩
    | _ => exact h.fresh

/-- Something happens to one identity. -/
theorem Follows.event (h : Follows u s ops) (b : BundleId) (e : SegmentSync.Input) : Follows u (noted s (.event b e)) ops := by
  have changed : ∀ b', (noted s (.event b e)).bundles b' = if b' = b then (s.bundles b).undergo e else s.bundles b' := fun b' =>
    Function.update_apply _ _ _ _
  refine ⟨h.state, fun b' => ?_, fun b' => ?_, h.come, h.fresh⟩
  · rw [changed, ← h.asked]
    split_ifs with here
    · rw [here, asked_undergo]
    · rfl
  · rw [changed]
    split_ifs with here
    · rw [here]
      exact (h.loyal b).undergo e
    · exact h.loyal b'

/-- Taking note of an input does nothing to the registry. -/
theorem Follows.noted (h : Follows u s ops) (i : Input) : Follows u (noted s i) ops := by
  cases i with
  | register => exact ⟨h.state, h.asked, h.loyal, fun b inside => Nat.lt_succ_of_lt (h.come b inside), h.fresh⟩
  | event b e => exact h.event b e
  | tell command => exact ⟨h.state, h.asked, h.loyal, h.come, h.fresh⟩
  | _ => exact h

/-- Whatever happens, the registry follows the operations, and the identities do as they are asked. -/
theorem Setup.follows (u : Setup) (inputs : List Input) : Follows u (u.after inputs) (u.operations inputs) := by
  induction inputs with
  | nil =>
    exact
      { state := rfl
        asked := fun _ => rfl
        loyal := fun b => loyal_new (u.identities b)
        come := fun _ inside => by cases inside
        fresh := List.nodup_nil }
  | cons i past ih =>
    have once : (u.after past).state.Once := by
      rw [ih.state]
      exact Registry.once_after u.loading _
    have noted := ih.noted i
    rw [Setup.after, u.take_eq once, Setup.operations]
    cases asks : u.operation? (u.after past) i with
    | none => exact noted
    | some op =>
      refine noted.did fun k b registers => ?_
      subst registers
      cases i with
      | register =>
        cases asks
        exact ⟨fun before => Nat.lt_irrefl _ (ih.come _ before), Nat.lt_succ_self _⟩
      | tell command => cases command <;> simp [Setup.operation?, Synchronizer.Command.operation?] at asks
      | _ => cases asks

end Follows

end Identities

end FlagKeeper
