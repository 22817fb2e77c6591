import Mathlib.Logic.Function.Basic
import FlagKeeper.Registry.Basic

/-!
# A registry on a plain host

The registry is a program over any host. Here a bundle is whatever hears what it is asked to do, one `Ask` after the other: a list
that writes everything down, or a part that acts on it. What can be done to a registry is an `Operation`, and `Scene.take` runs the
registry's own program for it.

The statement says what each operation is in full (`Scene.take_eq`): a new state of the registry, and a list of asks. Both are
functions of the state before. In between nothing looks at the bundles, so the asks can be heard one after the other when the
registry is done.
-/

namespace FlagKeeper.Registry

/-- What a bundle can be asked to do. -/
inductive Ask where
  | segments (command : SegmentSync.Command)
  | loadAttributes (matching : String)
  | destroyAttributes (matching : String)
  | signal (signal : Signal)
  | stopSignals

/-- A registry, what has become of each bundle, and what else there is. -/
structure Scene (ω ρ : Type) where
  state : State := {}
  bundles : BundleId → ω
  /-- How loading attributes ends. -/
  loading : Outcome := .ok ()
  rest : ρ

/-- Programs on the plain host. -/
abbrev Plain (ω ρ : Type) := StateM (Scene ω ρ)

section Host

variable {ω ρ : Type} (hear : Ask → ω → ω)

/-- A bundle was asked to do something. -/
def Scene.ask (s : Scene ω ρ) (bundle : BundleId) (a : Ask) : Scene ω ρ :=
  { s with bundles := Function.update s.bundles bundle (hear a (s.bundles bundle)) }

/-- Some bundles were asked to do something, one after the other. -/
def Scene.asked (s : Scene ω ρ) (asks : List (BundleId × Ask)) : Scene ω ρ := asks.foldl (fun s a => s.ask hear a.1 a.2) s

/-- Asks a bundle to do something. -/
def ask (bundle : BundleId) (a : Ask) : Plain ω ρ Unit := modify fun s => s.ask hear bundle a

/-- The registry on the plain host. Background work is not kept: it comes in as an operation. -/
def plain : Registry (Plain ω ρ) where
  state := { get := return (← get).state, set := fun state => modify fun s => { s with state } }
  bundle b :=
    { segments := fun command => ask hear b (.segments command)
      attributes :=
        { loadLocal := fun matching => do
            ask hear b (.loadAttributes matching)
            return (← get).loading
          destroy := fun matching => ask hear b (.destroyAttributes matching) }
      signal := fun signal => ask hear b (.signal signal)
      stopSignals := ask hear b .stopSignals }
  background _ := return ()

end Host

/-- What the identities in a scope can be told. -/
inductive Broadcast where
  | loadFromCache
  | synchronize
  | force (target : ChangeNumbers) (delay : Duration)
  | notifyUpdated
  | notifyLargeUpdated

/-- What a segment synchronizer is told by a broadcast. -/
def Broadcast.command : Broadcast → SegmentSync.Command
  | .loadFromCache => .loadFromCache
  | .synchronize => .synchronize
  | .force target delay => .force target delay
  | .notifyUpdated => .notifyUpdated
  | .notifyLargeUpdated => .notifyLargeUpdated

/-- What can be done to a registry. -/
inductive Operation where
  | register (key : Key) (bundle : BundleId)
  | unregister (key : Key)
  | startSync (key : Key)
  | syncKey (key : Key)
  | broadcast (news : Broadcast) (scope : Option String)
  | loadAttributes (scope : Option String)
  | startPolling
  | stopPolling
  | pause
  | resume
  | stop
  /-- Background work is done. -/
  | job (job : Job)

/-- What a registry does about an operation. -/
def Operation.program {m : Type → Type} [Monad m] (r : Registry m) : Operation → m Unit
  | .register key bundle => r.register key bundle
  | .unregister key => do let _ ← r.unregister key
  | .startSync key => r.startSync key
  | .syncKey key => r.tellKey key .synchronize
  | .broadcast news scope => r.tellSegments scope news.command
  | .loadAttributes scope => r.loadAttributes scope
  | .startPolling => r.startPolling
  | .stopPolling => r.stopPolling
  | .pause => r.tellSegments none .pause
  | .resume => r.tellSegments none .resume
  | .stop => r.stop
  | .job j => r.runJob j

/-- The scene after an operation. -/
def Scene.take {ω ρ : Type} (hear : Ask → ω → ω) (s : Scene ω ρ) (op : Operation) : Scene ω ρ :=
  ((op.program (plain hear)).run s).2

/-! ## What operations come to -/

/-- What a bundle is asked to do when it is torn down. -/
def tearDownAsks (key : Key) (bundle : BundleId) : List (BundleId × Ask) :=
  [(bundle, .segments .stopPeriodic), (bundle, .segments .destroy), (bundle, .destroyAttributes key.matching),
    (bundle, .stopSignals)]

namespace State

variable (st : State)

/-- The bundle of a key is torn down, if there is one. -/
def tearDownAnyAsks (key : Key) : List (BundleId × Ask) :=
  match st.bundles.lookup key with
  | some bundle => tearDownAsks key bundle
  | none => []

/-- Every bundle is torn down. -/
def tearDownAllAsks : List (BundleId × Ask) := st.bundles.flatMap fun entry => tearDownAsks entry.1 entry.2

/-- The segment synchronizers in a scope are told something. -/
def tellAsks (scope : Option String) (command : SegmentSync.Command) : List (BundleId × Ask) :=
  (st.bundles.filter fun entry => inScope scope entry.1).map fun entry => (entry.2, .segments command)

/-- The segment synchronizer of a key is told something, if there is one. -/
def tellKeyAsks (key : Key) (command : SegmentSync.Command) : List (BundleId × Ask) :=
  match st.bundles.lookup key with
  | some bundle => [(bundle, .segments command)]
  | none => []

/-- No key has two bundles. -/
def Once : Prop := (st.bundles.map Prod.fst).Nodup

end State

namespace Operation

/-- What bundles are asked to do at an operation, the first ask first. -/
def asks (st : State) : Operation → List (BundleId × Ask)
  | .register key _ => st.tearDownAnyAsks key
  | .unregister key => st.tearDownAnyAsks key
  | .startSync key =>
    st.tellAsks (some key.matching) .loadFromCache ++ st.tellKeyAsks key .synchronize ++
      (if st.polling then st.tellKeyAsks key .startPeriodic else [])
  | .syncKey key => st.tellKeyAsks key .synchronize
  | .broadcast news scope => st.tellAsks scope news.command
  | .loadAttributes _ => []
  | .startPolling => st.tellAsks none .startPeriodic
  | .stopPolling => st.tellAsks none .stopPeriodic
  | .pause => st.tellAsks none .pause
  | .resume => st.tellAsks none .resume
  | .stop => st.tearDownAllAsks
  | .job (.loadAttributes matching bundle) =>
    [(bundle, .loadAttributes matching), (bundle, .signal .attributesLoadedFromCache)]

/-- What a registry keeps after an operation. -/
def next (st : State) : Operation → State
  | .register key bundle => { st with bundles := (put key bundle st.bundles).2 }
  | .unregister key => { st with bundles := st.bundles.filter fun entry => entry.1 ≠ key }
  | .startPolling => { st with polling := true }
  | .stopPolling => { st with polling := false }
  | .stop => { st with bundles := [] }
  | _ => st

/-- No key comes to have two bundles. -/
theorem once_next {st : State} (once : st.Once) (op : Operation) : (op.next st).Once := by
  cases op with
  | register key bundle => exact nodup_put once key
  | unregister key => exact once.sublist (List.Sublist.map _ List.filter_sublist)
  | stop => exact List.nodup_nil
  | _ => exact once

/-- When the first key is unregistered, the others remain. -/
theorem next_unregister_head {st : State} {key : Key} {bundle : BundleId} {later : List (Key × BundleId)}
    (held : st.bundles = (key, bundle) :: later) (once : st.Once) : ((unregister key).next st).bundles = later := by
  rw [State.Once, held] at once
  show st.bundles.filter _ = later
  rw [held, List.filter_cons_of_neg (by simp), List.filter_eq_self]
  rintro ⟨k, b⟩ inside
  have other : k ≠ key := by
    rintro rfl
    exact (List.nodup_cons.1 once).1 (List.mem_map.2 ⟨_, inside, rfl⟩)
  simpa using other

end Operation

/-- An operation was done: the registry keeps what it is to keep, and each bundle has heard what it was asked to do. -/
def Scene.did {ω ρ : Type} (hear : Ask → ω → ω) (s : Scene ω ρ) (op : Operation) : Scene ω ρ :=
  { s.asked hear (op.asks s.state) with state := op.next s.state }

section Run

variable {ω ρ : Type} {hear : Ask → ω → ω} {s : Scene ω ρ}

namespace Scene

variable (hear s)

theorem asked_append (first later : List (BundleId × Ask)) : s.asked hear (first ++ later) = (s.asked hear first).asked hear later :=
  List.foldl_append

/-- What bundles are asked to do leaves the registry as it is, and does not hang on it. -/
theorem asked_withState (st : State) (asks : List (BundleId × Ask)) :
    Scene.asked hear { s with state := st } asks = { s.asked hear asks with state := st } := by
  induction asks generalizing s with
  | nil => rfl
  | cons a asks ih => exact ih (s.ask hear a.1 a.2)

/-- It makes no difference whether the registry keeps what it is to keep first. -/
theorem did_eq (op : Operation) :
    s.did hear op = Scene.asked hear { s with state := op.next s.state } (op.asks s.state) :=
  (s.asked_withState hear (op.next s.state) (op.asks s.state)).symm

@[simp] theorem state_asked (asks : List (BundleId × Ask)) : (s.asked hear asks).state = s.state := by
  induction asks generalizing s with
  | nil => rfl
  | cons a asks ih => exact ih (s.ask hear a.1 a.2)

@[simp] theorem rest_asked (asks : List (BundleId × Ask)) : (s.asked hear asks).rest = s.rest := by
  induction asks generalizing s with
  | nil => rfl
  | cons a asks ih => exact ih (s.ask hear a.1 a.2)

end Scene

/-- What some asks say to one bundle. -/
def saidTo (bundle : BundleId) (asks : List (BundleId × Ask)) : List Ask :=
  asks.filterMap fun a => if a.1 = bundle then some a.2 else none

theorem mem_saidTo {bundle : BundleId} {asks : List (BundleId × Ask)} {a : Ask} :
    a ∈ saidTo bundle asks ↔ (bundle, a) ∈ asks := by
  simp only [saidTo, List.mem_filterMap, Option.ite_none_right_eq_some, Option.some.injEq, Prod.exists]
  constructor
  · rintro ⟨b, a', there, rfl, rfl⟩
    exact there
  · intro there
    exact ⟨bundle, a, there, rfl, rfl⟩

/-- A bundle hears what is said to it, in order. -/
theorem Scene.bundles_asked (asks : List (BundleId × Ask)) (bundle : BundleId) :
    (s.asked hear asks).bundles bundle = (saidTo bundle asks).foldl (fun part a => hear a part) (s.bundles bundle) := by
  induction asks generalizing s with
  | nil => rfl
  | cons a asks ih =>
    obtain ⟨b, what⟩ := a
    show ((s.ask hear b what).asked hear asks).bundles bundle = _
    rw [ih]
    by_cases here : b = bundle
    · subst here
      simp [saidTo, Scene.ask]
    · simp [saidTo, Scene.ask, here, Function.update_of_ne (Ne.symm here)]

/-! ## What the programs leave behind -/

theorem run_bind {α β : Type} (x : Plain ω ρ α) (f : α → Plain ω ρ β) :
    (x >>= f).run s = (f (x.run s).1).run (x.run s).2 := rfl

theorem run_get : ((plain hear).state.get).run s = (s.state, s) := rfl

/-- A loop whose rounds only ask something. -/
theorem run_forM {α : Type} {act : α → Plain ω ρ Unit} {asks : α → List (BundleId × Ask)}
    (each : ∀ a (s : Scene ω ρ), (act a).run s = ((), s.asked hear (asks a))) (l : List α) (s : Scene ω ρ) :
    (l.forM act).run s = ((), s.asked hear (l.flatMap asks)) := by
  induction l generalizing s with
  | nil => rfl
  | cons a l ih =>
    show (l.forM act).run ((act a).run s).2 = _
    rw [each, ih, List.flatMap_cons, s.asked_append]

theorem run_tearDown (key : Key) (bundle : BundleId) :
    ((plain hear).tearDown key bundle).run s = ((), s.asked hear (tearDownAsks key bundle)) := rfl

theorem run_tellSegments (scope : Option String) (command : SegmentSync.Command) :
    ((plain hear).tellSegments scope command).run s = ((), s.asked hear (s.state.tellAsks scope command)) := by
  have each : ∀ (entry : Key × BundleId) (s : Scene ω ρ),
      (((plain hear).bundle entry.2).segments command).run s = ((), s.asked hear [(entry.2, .segments command)]) :=
    fun _ _ => rfl
  have told := run_forM each (s.state.bundles.filter fun entry => inScope scope entry.1) s
  rw [← List.map_eq_flatMap] at told
  exact told

theorem run_tellKey (key : Key) (command : SegmentSync.Command) :
    ((plain hear).tellKey key command).run s = ((), s.asked hear (s.state.tellKeyAsks key command)) := by
  show ((match s.state.bundles.lookup key with
    | some bundle => ((plain hear).bundle bundle).segments command
    | none => return () : Plain ω ρ Unit).run s) = _
  unfold State.tellKeyAsks
  cases s.state.bundles.lookup key <;> rfl

theorem run_loadAttributes (scope : Option String) : ((plain hear).loadAttributes scope).run s = ((), s) := by
  have each : ∀ (entry : Key × BundleId) (s : Scene ω ρ),
      ((plain hear).background (.loadAttributes entry.1.matching entry.2)).run s = ((), s.asked hear []) := fun _ _ => rfl
  have told := run_forM each (s.state.bundles.filter fun entry => inScope scope entry.1) s
  rw [List.flatMap_eq_nil_iff.2 fun _ _ => rfl] at told
  exact told

theorem run_startSync (key : Key) :
    ((plain hear).startSync key).run s = ((), s.asked hear ((Operation.startSync key).asks s.state)) := by
  simp only [startSync, run_bind, run_tellSegments, run_loadAttributes, run_tellKey, run_get, Scene.state_asked, Operation.asks]
  rw [s.asked_append, s.asked_append]
  cases s.state.polling with
  | false => rfl
  | true => simp only [if_true, run_tellKey, Scene.state_asked]

/-- Takes a key out of the registry and tears its bundle down, if there is one. -/
def letGo (hear : Ask → ω → ω) (key : Key) : Plain ω ρ Unit := do
  match ← (plain hear).remove key with
  | some bundle => (plain hear).tearDown key bundle
  | none => return ()

theorem run_letGo (key : Key) :
    (letGo hear key).run s = ((), s.did hear (.unregister key)) := by
  show ((match s.state.bundles.lookup key with
    | some bundle => (plain hear).tearDown key bundle
    | none => return () : Plain ω ρ Unit).run { s with state := (Operation.unregister key).next s.state }) = _
  rw [Scene.did_eq, Operation.asks, State.tearDownAnyAsks]
  cases s.state.bundles.lookup key <;> rfl

theorem run_remove (key : Key) :
    ((plain hear).remove key).run s =
      (s.state.bundles.lookup key, { s with state := (Operation.unregister key).next s.state }) := rfl

/-- A key that is unregistered is let go. -/
theorem run_unregister (key : Key) : ((plain hear).unregister key >>= fun _ => return ()).run s = (letGo hear key).run s := by
  unfold unregister letGo
  rw [run_bind, run_bind, run_bind, run_remove]
  cases s.state.bundles.lookup key <;> rfl

theorem run_register (key : Key) (bundle : BundleId) :
    ((plain hear).register key bundle).run s = ((), s.did hear (.register key bundle)) := by
  show ((match (put key bundle s.state.bundles).1 with
    | some old => (plain hear).tearDown key old
    | none => return () : Plain ω ρ Unit).run { s with state := (Operation.register key bundle).next s.state }) = _
  rw [Scene.did_eq, Operation.asks, State.tearDownAnyAsks, put_fst]
  cases s.state.bundles.lookup key <;> rfl

/-- Letting the keys go in turn tears every bundle down. -/
theorem run_letGo_all (bundles : List (Key × BundleId)) (s : Scene ω ρ) (held : s.state.bundles = bundles)
    (once : s.state.Once) :
    ((bundles.map Prod.fst).forM (letGo hear)).run s =
      ((), s.did hear .stop) := by
  induction bundles generalizing s with
  | nil =>
    obtain ⟨⟨bundles, polling⟩, parts, loading, rest⟩ := s
    cases held
    rfl
  | cons entry later ih =>
    obtain ⟨key, bundle⟩ := entry
    have found : s.state.tearDownAnyAsks key = tearDownAsks key bundle := by
      rw [State.tearDownAnyAsks, held, List.lookup_cons_self]
    have left := Operation.next_unregister_head held once
    have all : Operation.stop.asks s.state =
        tearDownAsks key bundle ++ Operation.stop.asks ((Operation.unregister key).next s.state) := by
      rw [Operation.asks, Operation.asks, State.tearDownAllAsks, State.tearDownAllAsks, left, held, List.flatMap_cons]
    show ((later.map Prod.fst).forM (letGo hear)).run ((letGo hear key).run s).2 = _
    rw [run_letGo, ih _ left (Operation.once_next once _)]
    simp only [Scene.did]
    rw [Scene.asked_withState, all, s.asked_append, ← found]
    rfl

theorem run_stop (once : s.state.Once) : ((plain hear).stop).run s = ((), s.did hear .stop) :=
  run_letGo_all s.state.bundles s rfl once

/-- What an operation comes to. -/
theorem run_program (once : s.state.Once) (op : Operation) : (op.program (plain hear)).run s = ((), s.did hear op) := by
  have kept : ∀ asks, { s.asked hear asks with state := s.state } = s.asked hear asks := by
    intro asks
    rw [← s.asked_withState]
  cases op with
  | register key bundle => exact run_register key bundle
  | unregister key => exact (run_unregister key).trans (run_letGo key)
  | startSync key => exact (run_startSync key).trans (congrArg _ (kept _).symm)
  | syncKey key => exact (run_tellKey key _).trans (congrArg _ (kept _).symm)
  | broadcast news scope => exact (run_tellSegments scope _).trans (congrArg _ (kept _).symm)
  | loadAttributes scope => exact run_loadAttributes scope
  | startPolling =>
    show ((plain hear).tellSegments none .startPeriodic).run { s with state := Operation.startPolling.next s.state } = _
    rw [run_tellSegments, s.asked_withState]
    rfl
  | stopPolling =>
    show ((plain hear).tellSegments none .stopPeriodic).run { s with state := Operation.stopPolling.next s.state } = _
    rw [run_tellSegments, s.asked_withState]
    rfl
  | pause => exact (run_tellSegments none _).trans (congrArg _ (kept _).symm)
  | resume => exact (run_tellSegments none _).trans (congrArg _ (kept _).symm)
  | stop => exact run_stop once
  | job j => cases j; rfl

theorem Scene.take_eq (once : s.state.Once) (op : Operation) : s.take hear op = s.did hear op :=
  congrArg Prod.snd (run_program once op)

end Run

end FlagKeeper.Registry
