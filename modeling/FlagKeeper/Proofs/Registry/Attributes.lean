import FlagKeeper.Proofs.Registry.Membership

/-!
# Attributes that identities share

Attributes are kept by matching key, so identities that differ in the bucketing part alone have them in common. Here all bundles of
a registry share one store of attributes, and what else bundles are asked comes to nothing. The host may put attributes into the
store at any time.

The store is told to drop a matching key each time an identity with it leaves, whoever else has it. So what it holds can be read off
what was done (`attributes_held_iff`), and an identity that stays loses its attributes with the first that leaves
(`sibling_attributes_dropped`). Other matching keys are never touched.
-/

namespace FlagKeeper.Registry

/-- A store of attributes: what it holds for each matching key, and the matching keys that it was told to drop, the latest first. -/
structure Shelf (α : Type) where
  held : String → Option α := fun _ => none
  dropped : List String := []

namespace Shelf

variable {α : Type} (shelf : Shelf α)

/-- Attributes are put into the store. -/
def put (matching : String) (attributes : α) : Shelf α :=
  { shelf with held := Function.update shelf.held matching (some attributes) }

/-- The store drops all it holds for a matching key. -/
def drop (matching : String) : Shelf α :=
  { held := Function.update shelf.held matching none, dropped := matching :: shelf.dropped }

/-- The store drops some matching keys, one after the other. -/
def dropAll (matchings : List String) : Shelf α := matchings.foldl drop shelf

theorem held_dropAll (matchings : List String) (matching : String) :
    (shelf.dropAll matchings).held matching = if matching ∈ matchings then none else shelf.held matching := by
  induction matchings generalizing shelf with
  | nil => rfl
  | cons first rest ih =>
    show ((shelf.drop first).dropAll rest).held matching = _
    rw [ih]
    by_cases here : matching = first <;> simp [drop, here]

end Shelf

/-- A registry whose bundles have other stores of attributes. -/
def withAttributes {m : Type → Type} (r : Registry m) (attributes : BundleId → AttributeStore m) : Registry m :=
  { r with bundle := fun b => { r.bundle b with attributes := attributes b } }

/-- Which stores of attributes the bundles have is all the same, unless bundles come or go, or load their attributes. -/
theorem program_withAttributes {m : Type → Type} [Monad m] (r : Registry m) (attributes : BundleId → AttributeStore m)
    {op : Operation} (stays : ¬op.IsPassage) (other : ∀ j, op ≠ .job j) :
    op.program (r.withAttributes attributes) = op.program r := by
  cases op with
  | register key bundle => exact absurd trivial stays
  | unregister key => exact absurd trivial stays
  | stop => exact absurd trivial stays
  | job j => exact absurd rfl (other j)
  | _ => rfl

namespace Sharing

variable {α : Type}

/-- A registry whose bundles share a store of attributes. -/
abbrev Scene (α : Type) := Registry.Scene Unit (Shelf α)

/-- Programs on the plain host. -/
abbrev Plain (α : Type) := StateM (Scene α)

/-- Bundles pay no heed to what they are asked. -/
def ignore (_ : Ask) (_ : Unit) : Unit := ()

/-- The store that all bundles share. -/
def store : AttributeStore (Plain α) where
  loadLocal _ := return (← get).loading
  destroy matching := modify fun s => { s with rest := s.rest.drop matching }

/-- The registry of the bundles that share the store. -/
def registry : Registry (Plain α) := (plain ignore).withAttributes fun _ => store

/-- What can happen to the registry and the store. -/
inductive Input (α : Type) where
  | operate (op : Operation)
  /-- The host puts attributes into the store. -/
  | put (matching : String) (attributes : α)

/-- The scene after an input. -/
def take (s : Scene α) : Input α → Scene α
  | .operate op => ((op.program registry).run s).2
  | .put matching attributes => { s with rest := s.rest.put matching attributes }

/-- A new registry and an empty store after some inputs, the latest first. -/
def after (loading : Outcome) : List (Input α) → Scene α
  | [] => { bundles := fun _ => (), loading, rest := {} }
  | i :: past => take (after loading past) i

/-- What was done to the registry, the latest first. -/
def operations (inputs : List (Input α)) : List Operation :=
  inputs.filterMap fun i =>
    match i with
    | .operate op => some op
    | .put _ _ => none

end Sharing

/-- The keys whose bundles are torn down at an operation. -/
def Operation.leaving (st : State) : Operation → List Key
  | .register key _ => if (st.bundles.lookup key).isSome then [key] else []
  | .unregister key => if (st.bundles.lookup key).isSome then [key] else []
  | .stop => st.bundles.map Prod.fst
  | _ => []

/-- A key leaves if it is registered and displaced. -/
theorem mem_leaving {st : State} {op : Operation} {key : Key} (once : st.Once) :
    key ∈ op.leaving st ↔ (∃ bundle, st.bundles.lookup key = some bundle) ∧ op.Displaces key := by
  have one {k : Key} : key ∈ (if (st.bundles.lookup k).isSome then [k] else []) ↔
      (∃ bundle, st.bundles.lookup key = some bundle) ∧ k = key := by
    rw [← Option.isSome_iff_exists]
    split
    · next here =>
      rw [List.mem_singleton]
      exact ⟨fun same => ⟨same ▸ here, same.symm⟩, fun both => both.2.symm⟩
    · next away =>
      refine iff_of_false List.not_mem_nil ?_
      rintro ⟨here, rfl⟩
      exact away here
  cases op with
  | register k b => exact one
  | unregister k => exact one
  | stop =>
    rw [Operation.leaving, Operation.Displaces, and_true, List.mem_map]
    constructor
    · rintro ⟨⟨_, bundle⟩, inside, rfl⟩
      exact ⟨bundle, lookup_of_mem once inside⟩
    · rintro ⟨bundle, found⟩
      exact ⟨_, mem_of_lookup found, rfl⟩
  | _ => simp [Operation.leaving, Operation.Displaces]

namespace Sharing

variable {α : Type}

/-! ## What the programs leave behind -/

section Run

variable {s : Scene α} {key : Key} {bundle : BundleId}

theorem asked_eq (asks : List (BundleId × Ask)) : s.asked ignore asks = s := by
  induction asks with
  | nil => rfl
  | cons a asks ih => exact ih

/-- Some identities left, one after the other. -/
def left (s : Scene α) (st : State) (keys : List Key) : Scene α :=
  { s with state := st, rest := s.rest.dropAll (keys.map Key.matching) }

theorem run_tearDown : (registry.tearDown key bundle).run s = ((), left s s.state [key]) := rfl

/-- An operation at which no bundle comes or goes leaves the store as it is. -/
theorem run_of_stay {op : Operation} (once : s.state.Once) (stays : ¬op.IsPassage) (other : ∀ j, op ≠ .job j)
    (none : op.leaving s.state = []) :
    (op.program registry).run s = ((), left s (op.next s.state) (op.leaving s.state)) := by
  rw [registry, program_withAttributes _ _ stays other, run_program once, Scene.did, asked_eq, none]
  rfl

/-- The bundle of a key is torn down, if there was one. -/
theorem run_displaced (st : State) (previous : Option BundleId) :
    (match previous with
      | some held => registry.tearDown key held
      | none => return () : Plain α Unit).run { s with state := st } =
        ((), left s st (if previous.isSome then [key] else [])) := by
  cases previous <;> rfl

/-- Takes a key out of the registry and tears its bundle down, if there is one. -/
def letGo (key : Key) : Plain α Unit := do
  match ← registry.remove key with
  | some held => registry.tearDown key held
  | none => return ()

theorem run_letGo : (letGo key).run s =
    ((), left s ((Operation.unregister key).next s.state) ((Operation.unregister key).leaving s.state)) :=
  run_displaced ((Operation.unregister key).next s.state) (s.state.bundles.lookup key)

theorem run_unregister : (registry.unregister key >>= fun _ => return ()).run s = (letGo key).run s := by
  have removed : (registry.remove key).run s =
      (s.state.bundles.lookup key, { s with state := (Operation.unregister key).next s.state }) := rfl
  unfold unregister letGo
  rw [run_bind, run_bind, run_bind, removed]
  cases s.state.bundles.lookup key <;> rfl

/-- Letting the keys go in turn has the store drop them all. -/
theorem run_stop (bundles : List (Key × BundleId)) (s : Scene α) (held : s.state.bundles = bundles) (once : s.state.Once) :
    ((bundles.map Prod.fst).forM letGo).run s =
      ((), left s (Operation.stop.next s.state) (bundles.map Prod.fst)) := by
  induction bundles generalizing s with
  | nil =>
    obtain ⟨⟨bundles, polling⟩, parts, loading, rest⟩ := s
    cases held
    rfl
  | cons entry later ih =>
    obtain ⟨key, bundle⟩ := entry
    have gone : (Operation.unregister key).leaving s.state = [key] := by
      rw [Operation.leaving, held, List.lookup_cons_self]
      rfl
    have stays := Operation.next_unregister_head held once
    show ((later.map Prod.fst).forM letGo).run ((letGo key).run s).2 = _
    rw [run_letGo, ih _ stays (Operation.once_next once _), gone]
    rfl

/-- What an operation comes to: the store drops the matching keys of those that leave. -/
theorem run_program_eq (once : s.state.Once) (op : Operation) :
    (op.program registry).run s = ((), left s (op.next s.state) (op.leaving s.state)) := by
  cases op with
  | register key bundle =>
    show ((match (Registry.put key bundle s.state.bundles).1 with
      | some held => registry.tearDown key held
      | none => return () : Plain α Unit).run { s with state := (Operation.register key bundle).next s.state }) = _
    rw [run_displaced, put_fst]
    rfl
  | unregister key => exact run_unregister.trans run_letGo
  | stop => exact run_stop s.state.bundles s rfl once
  | job j =>
    cases j
    rfl
  | _ => exact run_of_stay once id (by simp) rfl

end Run

/-! ## What the store holds -/

/-- What an input has to do with the attributes of a matching key, after some inputs: they are put into the store, or an identity
with the matching key leaves. -/
def Touches (past : List (Input α)) (matching : String) : Input α → Prop
  | .operate op => ∃ key bundle, key.matching = matching ∧ Registered (operations past) key bundle ∧ op.Displaces key
  | .put m _ => m = matching

/-- Attributes were put into the store for a matching key, and since then neither were any others nor did an identity with that
matching key leave. -/
def Kept (inputs : List (Input α)) (matching : String) (attributes : α) : Prop :=
  ∃ later past, inputs = later ++ .put matching attributes :: past ∧
    ∀ first i rest, later = first ++ i :: rest → ¬Touches (rest ++ .put matching attributes :: past) matching i

section History

variable {loading : Outcome} {inputs past : List (Input α)} {i : Input α} {op : Operation} {key : Key} {bundle : BundleId}
  {matching : String} {attributes : α}

/-- Attributes are kept over one more input if they are put then, or were kept and are not touched. -/
theorem kept_cons :
    Kept (i :: past) matching attributes ↔
      i = .put matching attributes ∨ Kept past matching attributes ∧ ¬Touches past matching i := by
  constructor
  · rintro ⟨later, earlier, split, untouched⟩
    cases later with
    | nil => exact .inl (List.cons.inj split).1
    | cons last later =>
      obtain ⟨rfl, rfl⟩ := List.cons.inj split
      refine .inr ⟨⟨later, earlier, rfl, fun first j rest same => ?_⟩, untouched [] i later rfl⟩
      exact untouched (i :: first) j rest (congrArg (List.cons i) same)
  · rintro (rfl | ⟨⟨later, earlier, rfl, untouched⟩, now⟩)
    · refine ⟨[], past, rfl, fun first j rest same => ?_⟩
      cases first <;> cases same
    · refine ⟨i :: later, earlier, rfl, fun first j rest same => ?_⟩
      cases first with
      | nil =>
        obtain ⟨rfl, rfl⟩ := List.cons.inj same
        exact now
      | cons _ first => exact untouched first j rest (List.cons.inj same).2

/-- The registry is what the operations make of it. -/
theorem state_after : (after loading inputs).state = (Registry.after loading (operations inputs)).state := by
  induction inputs with
  | nil => rfl
  | cons i past ih =>
    cases i with
    | put matching attributes => exact ih
    | operate op =>
      have once : (after loading past).state.Once := by
        rw [ih]
        exact once_after loading _
      show ((op.program registry).run (after loading past)).2.state = _
      rw [run_program_eq once, show operations (.operate op :: past) = op :: operations past from rfl, state_after_cons, ← ih]
      rfl

theorem once_after_sharing (loading : Outcome) (inputs : List (Input α)) : (after loading inputs).state.Once := by
  rw [state_after]
  exact once_after loading _

theorem rest_operate :
    (after loading (.operate op :: inputs)).rest =
      (after loading inputs).rest.dropAll ((op.leaving (after loading inputs).state).map Key.matching) := by
  show ((op.program registry).run (after loading inputs)).2.rest = _
  rw [run_program_eq (once_after_sharing loading inputs)]
  rfl

/-- A matching key is dropped when an identity with it leaves. -/
theorem mem_dropped :
    matching ∈ (op.leaving (after loading inputs).state).map Key.matching ↔ Touches inputs matching (.operate op) := by
  rw [state_after, List.mem_map]
  simp only [mem_leaving (once_after loading (operations inputs)), lookup_iff_registered]
  constructor
  · rintro ⟨key, ⟨⟨bundle, held⟩, displaced⟩, rfl⟩
    exact ⟨key, bundle, rfl, held, displaced⟩
  · rintro ⟨key, bundle, rfl, held, displaced⟩
    exact ⟨key, ⟨⟨bundle, held⟩, displaced⟩, rfl⟩

/-- The store holds the attributes that were kept. -/
theorem held_iff_kept : (after loading inputs).rest.held matching = some attributes ↔ Kept inputs matching attributes := by
  induction inputs with
  | nil =>
    refine iff_of_false (by rintro ⟨⟩) ?_
    rintro ⟨later, past, split, -⟩
    cases later <;> cases split
  | cons i past ih =>
    rw [kept_cons, ← ih]
    cases i with
    | put m a =>
      show Function.update (after loading past).rest.held m (some a) matching = some attributes ↔ _
      by_cases same : matching = m
      · subst same
        simp [Touches]
      · simp [Touches, same, Ne.symm same]
    | operate op =>
      rw [rest_operate, Shelf.held_dropAll]
      by_cases touched : Touches past matching (.operate op)
      · rw [if_pos (mem_dropped.2 touched)]
        simp [touched]
      · rw [if_neg (mt mem_dropped.1 touched)]
        simp [touched]

/-- To unregister a registered key has the store drop its matching key once. -/
theorem dropped_unregister (held : Registered (operations inputs) key bundle) :
    (after loading (.operate (.unregister key) :: inputs)).rest.dropped =
      key.matching :: (after loading inputs).rest.dropped := by
  have found : ((after loading inputs).state.bundles.lookup key).isSome = true := by
    rw [state_after, lookup_iff_registered.2 held]
    rfl
  rw [rest_operate, Operation.leaving, if_pos found]
  rfl

/-- To unregister another key has the store drop nothing. -/
theorem dropped_unregister_of_absent (absent : ¬∃ bundle, Registered (operations inputs) key bundle) :
    (after loading (.operate (.unregister key) :: inputs)).rest.dropped = (after loading inputs).rest.dropped := by
  have missing : ¬((after loading inputs).state.bundles.lookup key).isSome = true := by
    rw [Option.isSome_iff_exists]
    rintro ⟨bundle, found⟩
    rw [state_after] at found
    exact absent ⟨bundle, lookup_iff_registered.1 found⟩
  rw [rest_operate, Operation.leaving, if_neg missing]
  rfl

end History

/-- Whatever happened to a registry whose bundles share one store of attributes:

1. to unregister a registered key has the store drop the matching key of it, once, whoever else has that matching key; to unregister
   another key has it drop nothing;
2. the store holds those attributes for a matching key that were put last, if no identity with that matching key left since;
3. so an identity that shares the matching key of another stays registered when that one is unregistered, and has no attributes
   then. -/
theorem attributes_held_iff (loading : Outcome) (inputs : List (Input α)) :
    (∀ key, (∃ bundle, Registered (operations inputs) key bundle) →
      (after loading (.operate (.unregister key) :: inputs)).rest.dropped = key.matching :: (after loading inputs).rest.dropped) ∧
    (∀ key, (¬∃ bundle, Registered (operations inputs) key bundle) →
      (after loading (.operate (.unregister key) :: inputs)).rest.dropped = (after loading inputs).rest.dropped) ∧
    (∀ matching attributes,
      (after loading inputs).rest.held matching = some attributes ↔ Kept inputs matching attributes) ∧
    (∀ key bundle sibling bundle', Registered (operations inputs) key bundle → Registered (operations inputs) sibling bundle' →
      sibling ≠ key → sibling.matching = key.matching →
        Registered (operations (.operate (.unregister key) :: inputs)) sibling bundle' ∧
        (after loading (.operate (.unregister key) :: inputs)).rest.held sibling.matching = none) := by
  refine ⟨?_, fun key => dropped_unregister_of_absent, fun matching attributes => held_iff_kept, ?_⟩
  · rintro key ⟨bundle, held⟩
    exact dropped_unregister held
  · intro key bundle sibling bundle' held stays other same
    refine ⟨registered_cons.2 (.inr ⟨stays, Ne.symm other⟩), ?_⟩
    have dropped : Touches inputs sibling.matching (.operate (.unregister key)) := ⟨key, bundle, same.symm, held, rfl⟩
    rw [rest_operate, Shelf.held_dropAll, if_pos (mem_dropped.2 dropped)]

/-- Two identities of one matching key come, and the host puts attributes into the store. -/
def siblings : List (Input String) :=
  [.put "user" "attributes", .operate (.register ⟨"user", some "b"⟩ 1), .operate (.register ⟨"user", none⟩ 0)]

/-- One of two siblings is unregistered: the other has no attributes then. -/
theorem attributes_held_iff_siblings :
    Registered (operations siblings) ⟨"user", none⟩ 0 ∧ Registered (operations siblings) ⟨"user", some "b"⟩ 1 ∧
    (after (.ok ()) siblings).rest.held "user" = some "attributes" ∧
    (after (.ok ()) (.operate (.unregister ⟨"user", none⟩) :: siblings)).rest.held "user" = none := by
  have first : Registered (operations siblings) ⟨"user", none⟩ 0 := by
    simp [siblings, operations, registered_cons, Operation.Displaces]
  have second : Registered (operations siblings) ⟨"user", some "b"⟩ 1 := by
    simp [siblings, operations, registered_cons]
  obtain ⟨-, -, held, lost⟩ := attributes_held_iff (.ok ()) siblings
  exact ⟨first, second, (held _ _).2 (kept_cons.2 (.inl rfl)), (lost _ _ _ _ first second (by decide) rfl).2⟩

/-- Of two siblings one is unregistered: the store is told to drop the matching key that the other still has. -/
theorem sibling_attributes_dropped :
    (after (.ok ()) siblings).rest.dropped = [] ∧
    (after (.ok ()) (.operate (.unregister ⟨"user", none⟩) :: siblings)).rest.dropped = ["user"] ∧
    (after (.ok ()) (.operate (.unregister ⟨"user", none⟩) :: siblings)).state.bundles = [(⟨"user", some "b"⟩, 1)] :=
  ⟨rfl, rfl, by decide +kernel⟩

end Sharing

end FlagKeeper.Registry
