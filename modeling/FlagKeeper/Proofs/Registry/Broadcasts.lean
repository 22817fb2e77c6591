import FlagKeeper.Proofs.Registry.Membership

/-!
# Whom a broadcast reaches

A broadcast goes to the identities in a scope: those of one matching key, or all there are. The statement of this file
(`told_in_scope`) counts what each bundle hears of it: one word for each key in scope that has the bundle, so a bundle that belongs to
one key hears it once or not at all, and one that was displaced hears nothing.

Attributes are loaded in the background, when the host comes to it. So the registry runs on a host here that writes down what
background work it is left with: which work that is, and what a piece of it asks whenever it is done, are said apart.
-/

namespace FlagKeeper.Registry

/-- The keys in a scope that have a bundle: those with the matching key that the scope names, or all if it names none. -/
def keysInScope (ops : List Operation) (scope : Option String) (bundle : BundleId) : Set Key :=
  {key | (∀ matching ∈ scope, key.matching = matching) ∧ Registered ops key bundle}

/-- Background work that has attributes loaded, once for each key in scope, for the bundle of the key. -/
def LoadsInScope (ops : List Operation) (scope : Option String) (jobs : List Job) : Prop :=
  ∀ matching bundle,
    jobs.count (.loadAttributes matching bundle) = {key ∈ keysInScope ops scope bundle | key.matching = matching}.ncard

/-- The scope and the word of an operation that says one word to the segment synchronizers in a scope and asks nothing else. -/
def Operation.told? : Operation → Option (Option String × SegmentSync.Command)
  | .broadcast news scope => some (scope, news.command)
  | .startPolling => some (none, .startPeriodic)
  | .stopPolling => some (none, .stopPeriodic)
  | .pause => some (none, .pause)
  | .resume => some (none, .resume)
  | _ => none

instance (ops : List Operation) (key : Key) (bundle : BundleId) : Decidable (Registered ops key bundle) :=
  decidable_of_iff _ (@lookup_iff_registered (.ok ()) ops key bundle)

section Scope

variable {ops : List Operation} {scope : Option String} {key : Key} {bundle : BundleId}

theorem inScope_iff : inScope scope key = true ↔ ∀ matching ∈ scope, key.matching = matching := by
  cases scope with
  | none => simp [inScope]
  | some matching => simp [inScope]

theorem keysInScope_eq : keysInScope ops scope bundle = {key | inScope scope key = true ∧ Registered ops key bundle} :=
  Set.ext fun _ => and_congr_left' inScope_iff.symm

/-- A bundle that was registered once belongs to its key alone. -/
theorem registered_iff_of_once (held : Registered ops key bundle) (once : (brought ops).count bundle = 1) {k : Key} :
    Registered ops k bundle ↔ k = key :=
  ⟨fun there => key_eq_of_once once held.mem there.mem, fun same => same ▸ held⟩

/-- A bundle that belongs to one key has this key in scope, or none. -/
theorem ncard_keysInScope_of_one (one : ∀ k, Registered ops k bundle ↔ k = key) :
    (keysInScope ops scope bundle).ncard = if ∀ matching ∈ scope, key.matching = matching then 1 else 0 := by
  have its (k : Key) : k ∈ keysInScope ops scope bundle ↔ (∀ matching ∈ scope, k.matching = matching) ∧ k = key :=
    and_congr_right fun _ => one k
  split
  · next inside =>
    rw [Set.ncard_eq_one]
    refine ⟨key, Set.ext fun k => (its k).trans ⟨And.right, ?_⟩⟩
    rintro rfl
    exact ⟨inside, rfl⟩
  · next outside =>
    have none : keysInScope ops scope bundle = ∅ := by
      refine Set.eq_empty_of_forall_notMem fun k inside => ?_
      obtain ⟨here, rfl⟩ := (its k).1 inside
      exact outside here
    rw [none, Set.ncard_empty]

/-- A bundle that belongs to no key has none in scope. -/
theorem ncard_keysInScope_of_none (none : ∀ k, ¬Registered ops k bundle) : (keysInScope ops scope bundle).ncard = 0 := by
  rw [Set.eq_empty_of_forall_notMem fun k (inside : k ∈ keysInScope ops scope bundle) => none k inside.2, Set.ncard_empty]

/-- Keys that have a bundle can be counted in the registry. -/
theorem ncard_registered_of (loading : Outcome) (p : Key → Bool) :
    {key | p key = true ∧ Registered ops key bundle}.ncard =
      (((after loading ops).state.keysOf bundle).filter p).length := by
  have once := once_after loading ops
  refine ncard_keys ((nodup_keysOf once).filter p) fun key => ?_
  rw [List.mem_filter, mem_keysOf once, lookup_iff_registered, and_comm]

end Scope

/-! ## Background work -/

/-- To have the attributes of everyone in scope loaded. -/
def State.loads (st : State) (scope : Option String) : List Job :=
  (st.bundles.filter fun entry => inScope scope entry.1).map fun entry => .loadAttributes entry.1.matching entry.2

/-- A bundle is to load the attributes of a matching key once for each of its keys with it. -/
theorem State.count_loads (st : State) (scope : Option String) (matching : String) (bundle : BundleId) :
    (st.loads scope).count (.loadAttributes matching bundle) =
      ((st.keysOf bundle).filter fun key => inScope scope key && key.matching = matching).length := by
  rw [State.loads, State.keysOf, ← List.countP_eq_length_filter, List.count, List.countP_map, List.countP_map, List.countP_filter,
    List.countP_filter]
  refine congrArg (List.countP · st.bundles) (funext fun entry => ?_)
  rw [Function.comp_apply, Function.comp_apply, Bool.eq_iff_iff]
  simp only [Bool.and_eq_true, beq_iff_eq, Job.loadAttributes.injEq, decide_eq_true_eq]
  tauto

/-- What background work an operation leaves, the first piece first. -/
def Operation.leaves (st : State) : Operation → List Job
  | .startSync key => st.loads (some key.matching)
  | .loadAttributes scope => st.loads scope
  | _ => []

/-- Such an operation asks nothing else of the bundles, and leaves no background work. -/
theorem asks_of_told (st : State) {op : Operation} {scope : Option String} {command : SegmentSync.Command}
    (told : op.told? = some (scope, command)) : op.asks st = st.tellAsks scope command ∧ op.leaves st = [] := by
  cases op <;> cases told <;> exact ⟨rfl, rfl⟩

/-- A registry that leaves background work to another. -/
def withBackground {m : Type → Type} (r : Registry m) (background : Job → m Unit) : Registry m := { r with background }

/-- To whom background work is left is all the same, where there is none. -/
theorem program_withBackground {m : Type → Type} [Monad m] (r : Registry m) (background : Job → m Unit) {op : Operation}
    (direct : ∀ scope, op ≠ .loadAttributes scope) (other : ∀ key, op ≠ .startSync key) :
    op.program (r.withBackground background) = op.program r := by
  cases op with
  | loadAttributes scope => exact absurd rfl (direct scope)
  | startSync key => exact absurd rfl (other key)
  | _ => rfl

namespace Deferring

/-- A registry whose bundles write down what they are asked to do, and the background work it left, each the latest first. -/
abbrev Book := Scene (List Ask) (List Job)

/-- Writes down a piece of background work. -/
def defer (job : Job) : Plain (List Ask) (List Job) Unit := modify fun s => { s with rest := job :: s.rest }

/-- The registry that has its background work written down. -/
def registry : Registry (Plain (List Ask) (List Job)) := (plain List.cons).withBackground defer

/-- A new registry after some operations, the latest first. -/
def after (loading : Outcome) : List Operation → Book
  | [] => { bundles := fun _ => [], loading, rest := [] }
  | op :: past => ((op.program registry).run (after loading past)).2

section Run

variable {s : Book}

/-- Some background work was left, the first piece first. -/
def left (s : Book) (jobs : List Job) : Book := { s with rest := jobs.reverse ++ s.rest }

/-- What bundles are asked and what work is left have nothing to do with each other. -/
theorem asked_left (jobs : List Job) (asks : List (BundleId × Ask)) :
    (left s jobs).asked List.cons asks = left (s.asked List.cons asks) jobs := by
  induction asks generalizing s with
  | nil => rfl
  | cons a asks ih => exact ih (s := s.ask List.cons a.1 a.2)

theorem run_defer (job : Key × BundleId → Job) (entries : List (Key × BundleId)) (s : Book) :
    (entries.forM fun entry => defer (job entry)).run s = ((), left s (entries.map job)) := by
  induction entries generalizing s with
  | nil => rfl
  | cons entry rest ih =>
    show (rest.forM fun entry => defer (job entry)).run (left s [job entry]) = _
    rw [ih]
    simp [left]

theorem run_loadAttributes (scope : Option String) :
    (registry.loadAttributes scope).run s = ((), left s (s.state.loads scope)) :=
  run_defer (fun entry => .loadAttributes entry.1.matching entry.2) (s.state.bundles.filter fun entry => inScope scope entry.1) s

theorem run_tellSegments (scope : Option String) (command : SegmentSync.Command) :
    (registry.tellSegments scope command).run s = ((), s.asked List.cons (s.state.tellAsks scope command)) :=
  Registry.run_tellSegments scope command

theorem run_tellKey (key : Key) (command : SegmentSync.Command) :
    (registry.tellKey key command).run s = ((), s.asked List.cons (s.state.tellKeyAsks key command)) :=
  Registry.run_tellKey key command

theorem run_get : (registry.state.get).run s = (s.state, s) := rfl

theorem run_startSync (key : Key) :
    (registry.startSync key).run s =
      ((), left (s.did List.cons (.startSync key)) ((Operation.startSync key).leaves s.state)) := by
  have told : (registry.startSync key).run s =
      ((), (left s (s.state.loads (some key.matching))).asked List.cons ((Operation.startSync key).asks s.state)) := by
    have state_left : ∀ (s : Book) (jobs : List Job), (left s jobs).state = s.state := fun _ _ => rfl
    simp only [startSync, run_bind, run_tellSegments, run_loadAttributes, run_tellKey, run_get, Scene.state_asked, state_left,
      Operation.asks, Scene.asked_append, asked_left]
    cases s.state.polling with
    | false => rfl
    | true => simp only [if_true, run_tellKey, Scene.state_asked, state_left, asked_left]
  rw [told, asked_left, Scene.did_eq]
  rfl

/-- What an operation comes to. -/
theorem run_program_eq (once : s.state.Once) (op : Operation) :
    (op.program registry).run s = ((), left (s.did List.cons op) (op.leaves s.state)) := by
  have direct (none : op.leaves s.state = []) (same : op.program registry = op.program (plain List.cons)) :
      (op.program registry).run s = ((), left (s.did List.cons op) (op.leaves s.state)) := by
    rw [same, run_program once, none]
    rfl
  cases op with
  | startSync key => exact run_startSync key
  | loadAttributes scope => exact run_loadAttributes scope
  | _ => exact direct rfl (program_withBackground _ _ (by simp) (by simp))

end Run

/-! ## What is heard of an operation, and what is left to do -/

section History

variable {loading : Outcome} {past : List Operation} {op : Operation} {scope : Option String} {key : Key} {bundle : BundleId}

/-- The registry is the same on either host. -/
theorem state_after (loading : Outcome) (ops : List Operation) : (after loading ops).state = (Registry.after loading ops).state := by
  induction ops with
  | nil => rfl
  | cons op past ih =>
    have once : (after loading past).state.Once := by
      rw [ih]
      exact once_after loading past
    rw [state_after_cons, after, run_program_eq once, ← ih]
    rfl

/-- What is left of an operation. -/
theorem after_cons :
    after loading (op :: past) =
      left ((after loading past).did List.cons op) (op.leaves (Registry.after loading past).state) := by
  have once : (after loading past).state.Once := by
    rw [state_after]
    exact once_after loading past
  rw [after, run_program_eq once, state_after]

theorem bundles_after_cons :
    (after loading (op :: past)).bundles bundle =
      (saidTo bundle (op.asks (Registry.after loading past).state)).reverse ++ (after loading past).bundles bundle := by
  rw [after_cons, ← state_after]
  show (Scene.asked _ _ _).bundles bundle = _
  rw [Scene.bundles_asked, List.foldl_flip_cons_eq_append, List.map_id']

theorem rest_after_cons :
    (after loading (op :: past)).rest =
      (op.leaves (Registry.after loading past).state).reverse ++ (after loading past).rest := by
  rw [after_cons]
  show _ ++ (Scene.asked _ _ _).rest = _
  rw [Scene.rest_asked]

/-- A broadcast says one word to a bundle for each key in scope that has it. -/
theorem saidTo_tellAsks_after (loading : Outcome) (scope : Option String) (command : SegmentSync.Command) :
    (saidTo bundle ((Registry.after loading past).state.tellAsks scope command)).reverse =
      List.replicate (keysInScope past scope bundle).ncard (.segments command) := by
  rw [saidTo_tellAsks, List.map_const', List.reverse_replicate, keysInScope_eq, ncard_registered_of loading]

theorem saidTo_tellKeyAsks_after (loading : Outcome) (command : SegmentSync.Command) :
    (saidTo bundle ((Registry.after loading past).state.tellKeyAsks key command)).reverse =
      if Registered past key bundle then [.segments command] else [] := by
  rw [saidTo_tellKeyAsks]
  simp only [lookup_iff_registered]
  split <;> rfl

/-- The work to have attributes loaded is one piece for each key in scope. -/
theorem loadsInScope (loading : Outcome) (scope : Option String) :
    LoadsInScope past scope ((Registry.after loading past).state.loads scope).reverse := by
  intro matching bundle
  have its : {key ∈ keysInScope past scope bundle | key.matching = matching} =
      {key | (inScope scope key && key.matching = matching) = true ∧ Registered past key bundle} := by
    ext key
    simp [keysInScope_eq, and_right_comm]
  rw [its, ncard_registered_of loading, List.count_reverse, State.count_loads]

end History

/-- Whatever was done to a registry:

1. at a broadcast, and at an order to all identities, each bundle hears the one word once for each key in scope that it is
   registered under then, and nothing else;
2. to load attributes asks nothing of the bundles, and leaves as background work to load those of each key in scope, once, for the
   bundle it has;
3. this work asks its own bundle alone, whenever it is done: to load the attributes, and to signal that they are there;
4. when a key is brought up to date, each bundle is told to load the segments once for each key with the same matching key, the
   bundle of the key itself to refresh, and to poll if polling is on; to load attributes is left as in the second part;
5. a bundle that belongs to one key has one key in scope if the scope names no matching key or that of the key, and none otherwise;
   one that belongs to no key has none. -/
theorem told_in_scope (loading : Outcome) (past : List Operation) :
    (∀ op scope command, Operation.told? op = some (scope, command) →
      (∀ bundle, (after loading (op :: past)).bundles bundle =
        List.replicate (keysInScope past scope bundle).ncard (.segments command) ++ (after loading past).bundles bundle) ∧
      (after loading (op :: past)).rest = (after loading past).rest) ∧
    (∀ scope, (after loading (.loadAttributes scope :: past)).bundles = (after loading past).bundles ∧
      ∃ jobs, (after loading (.loadAttributes scope :: past)).rest = jobs ++ (after loading past).rest ∧
        LoadsInScope past scope jobs) ∧
    (∀ matching bundle, (after loading (.job (.loadAttributes matching bundle) :: past)).bundles =
      Function.update (after loading past).bundles bundle
        (.signal .attributesLoadedFromCache :: .loadAttributes matching :: (after loading past).bundles bundle)) ∧
    (∀ key, (∀ bundle, (after loading (.startSync key :: past)).bundles bundle =
        (if (after loading past).state.polling = true ∧ Registered past key bundle then [.segments .startPeriodic] else []) ++
        (if Registered past key bundle then [.segments .synchronize] else []) ++
        List.replicate (keysInScope past (some key.matching) bundle).ncard (.segments .loadFromCache) ++
        (after loading past).bundles bundle) ∧
      ∃ jobs, (after loading (.startSync key :: past)).rest = jobs ++ (after loading past).rest ∧
        LoadsInScope past (some key.matching) jobs) ∧
    (∀ scope bundle,
      (∀ key, (∀ k, Registered past k bundle ↔ k = key) →
        (keysInScope past scope bundle).ncard = if ∀ matching ∈ scope, key.matching = matching then 1 else 0) ∧
      ((∀ k, ¬Registered past k bundle) → (keysInScope past scope bundle).ncard = 0)) := by
  refine ⟨fun op scope command told => ?_, fun scope => ?_, fun matching bundle => ?_, fun key => ?_, fun scope bundle => ?_⟩
  · obtain ⟨asks, leaves⟩ := asks_of_told (Registry.after loading past).state told
    refine ⟨fun bundle => ?_, ?_⟩
    · rw [bundles_after_cons, asks, saidTo_tellAsks_after]
    · rw [rest_after_cons, leaves, List.reverse_nil, List.nil_append]
  · exact ⟨funext fun bundle => bundles_after_cons, _, rest_after_cons, loadsInScope loading scope⟩
  · funext other
    rw [bundles_after_cons]
    by_cases same : bundle = other
    · subst same
      simp [Operation.asks, saidTo]
    · simp [Operation.asks, saidTo, same, Ne.symm same]
  · refine ⟨fun bundle => ?_, _, rest_after_cons, loadsInScope loading _⟩
    rw [bundles_after_cons, state_after, Operation.asks, saidTo_append, saidTo_append, List.reverse_append,
      List.reverse_append, saidTo_tellAsks_after, saidTo_tellKeyAsks_after]
    cases (Registry.after loading past).state.polling with
    | false => simp [saidTo]
    | true =>
      rw [if_pos rfl, saidTo_tellKeyAsks_after]
      simp
  · exact ⟨fun key => ncard_keysInScope_of_one, ncard_keysInScope_of_none⟩

/-- Two identities of one matching key come and one of another, and the bundle of the first is replaced. -/
def crowd : List Operation :=
  [.register ⟨"user", none⟩ 3, .register ⟨"other", none⟩ 2, .register ⟨"user", some "b"⟩ 1, .register ⟨"user", none⟩ 0]

/-- News for a matching key reach a bundle with it once, and neither one with another nor the bundle that was replaced. An order to all
identities reaches each once, and the bundle that was replaced not at all. -/
theorem told_in_scope_crowd :
    (Operation.told? (.broadcast .notifyUpdated (some "user")) = some (some "user", .notifyUpdated) ∧
      (after (.ok ()) (.broadcast .notifyUpdated (some "user") :: crowd)).bundles 1 =
        .segments .notifyUpdated :: (after (.ok ()) crowd).bundles 1 ∧
      (after (.ok ()) (.broadcast .notifyUpdated (some "user") :: crowd)).bundles 2 = (after (.ok ()) crowd).bundles 2 ∧
      (after (.ok ()) (.broadcast .notifyUpdated (some "user") :: crowd)).bundles 0 = (after (.ok ()) crowd).bundles 0) ∧
    (Operation.told? .pause = some (none, .pause) ∧
      (after (.ok ()) (.pause :: crowd)).bundles 1 = .segments .pause :: (after (.ok ()) crowd).bundles 1 ∧
      (after (.ok ()) (.pause :: crowd)).bundles 2 = .segments .pause :: (after (.ok ()) crowd).bundles 2 ∧
      (after (.ok ()) (.pause :: crowd)).bundles 0 = (after (.ok ()) crowd).bundles 0) := by
  have sibling : Registered crowd ⟨"user", some "b"⟩ 1 := by simp [crowd, registered_cons, Operation.Displaces]
  have other : Registered crowd ⟨"other", none⟩ 2 := by simp [crowd, registered_cons, Operation.Displaces]
  have replaced : ∀ k, ¬Registered crowd k 0 := by
    simp [crowd, registered_cons, Operation.Displaces, not_registered_nil]
  obtain ⟨told, -, -, -, ones⟩ := told_in_scope (.ok ()) crowd
  obtain ⟨heard, -⟩ := told (.broadcast .notifyUpdated (some "user")) _ _ rfl
  obtain ⟨paused, -⟩ := told .pause _ _ rfl
  refine ⟨⟨rfl, ?_, ?_, ?_⟩, rfl, ?_, ?_, ?_⟩
  · rw [heard, (ones _ 1).1 _ fun k => registered_iff_of_once sibling rfl]
    rfl
  · rw [heard, (ones _ 2).1 _ fun k => registered_iff_of_once other rfl]
    rfl
  · rw [heard, (ones _ 0).2 replaced]
    rfl
  · rw [paused, (ones _ 1).1 _ fun k => registered_iff_of_once sibling rfl]
    rfl
  · rw [paused, (ones _ 2).1 _ fun k => registered_iff_of_once other rfl]
    rfl
  · rw [paused, (ones _ 0).2 replaced]
    rfl

end Deferring

end FlagKeeper.Registry
