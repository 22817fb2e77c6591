import Mathlib.Data.Set.Card
import FlagKeeper.Proofs.Registry.Polling

/-!
# Who is registered

Which bundle a key has can be read off what was done to the registry: the one that was registered under it last, unless the key was
displaced since (`lookup_iff_registered`).

What an operation asks of one bundle hangs on the keys under which the bundle is registered, and on nothing else that the registry
keeps: each broadcast says one thing for each of the keys in its scope (`saidTo_tellAsks`), and a tear-down says its four things for
each key that goes (`saidTo_tearDownAllAsks`).
-/

namespace FlagKeeper.Registry

/-- An operation that only lets bundles come or go. -/
def Operation.IsPassage : Operation → Prop
  | .register _ _ => True
  | .unregister _ => True
  | .stop => True
  | _ => False

/-- A key has a bundle, by what was done, the latest first: the bundle was registered under it, and the key was not displaced since. -/
def Registered (ops : List Operation) (key : Key) (bundle : BundleId) : Prop :=
  ∃ later past, ops = later ++ .register key bundle :: past ∧ ∀ op ∈ later, ¬op.Displaces key

section History

variable {loading : Outcome} {ops past : List Operation} {op : Operation} {key : Key} {bundle : BundleId}

/-- A key has a bundle after one more operation if the operation registers it, or if the key had it and is not displaced. -/
theorem registered_cons :
    Registered (op :: past) key bundle ↔ op = .register key bundle ∨ Registered past key bundle ∧ ¬op.Displaces key := by
  constructor
  · rintro ⟨later, earlier, split, spared⟩
    cases later with
    | nil => exact .inl (List.cons.inj split).1
    | cons first later =>
      obtain ⟨rfl, rfl⟩ := List.cons.inj split
      refine .inr ⟨⟨later, earlier, rfl, fun op inside => ?_⟩, spared op List.mem_cons_self⟩
      exact spared op (List.mem_cons_of_mem _ inside)
  · rintro (rfl | ⟨⟨later, earlier, rfl, spared⟩, kept⟩)
    · exact ⟨[], past, rfl, fun _ inside => by cases inside⟩
    · refine ⟨op :: later, earlier, rfl, fun op' inside => ?_⟩
      rcases List.mem_cons.1 inside with rfl | before
      · exact kept
      · exact spared op' before

theorem not_registered_nil : ¬Registered [] key bundle := by
  rintro ⟨later, past, split, -⟩
  cases later <;> cases split

/-- Looking a key up finds the bundle that was registered last, unless the key was displaced since. -/
theorem lookup_iff_registered :
    (after loading ops).state.bundles.lookup key = some bundle ↔ Registered ops key bundle := by
  induction ops with
  | nil => exact iff_of_false (by rintro ⟨⟩) not_registered_nil
  | cons op past ih => rw [state_after_cons, lookup_next, ih, registered_cons]

theorem Registered.mem (held : Registered ops key bundle) : .register key bundle ∈ ops := by
  obtain ⟨later, past, rfl, -⟩ := held
  exact List.mem_append_right _ List.mem_cons_self

end History

/-- Keys are counted by a list that has each of them once. -/
theorem ncard_keys {p : Key → Prop} {keys : List Key} (once : keys.Nodup) (all : ∀ key, key ∈ keys ↔ p key) :
    {key | p key}.ncard = keys.length := by
  have same : {key | p key} = (keys.toFinset : Set Key) := by
    ext key
    rw [Finset.mem_coe, List.mem_toFinset, all]
    exact Iff.rfl
  rw [same, Set.ncard_coe_finset, List.toFinset_card_of_nodup once]

/-! ## What is said to one bundle -/

/-- The keys under which a bundle is registered. -/
def State.keysOf (st : State) (bundle : BundleId) : List Key := (st.bundles.filter fun entry => entry.2 = bundle).map Prod.fst

/-- What a bundle is asked when it is torn down, the first ask first. -/
def parting (key : Key) : List Ask :=
  [.segments .stopPeriodic, .segments .destroy, .destroyAttributes key.matching, .stopSignals]

section Said

variable {st : State} {key : Key} {bundle : BundleId}

theorem mem_keysOf (once : st.Once) : key ∈ st.keysOf bundle ↔ st.bundles.lookup key = some bundle := by
  have inside : key ∈ st.keysOf bundle ↔ (key, bundle) ∈ st.bundles := by simp [State.keysOf]
  exact inside.trans ⟨lookup_of_mem once, mem_of_lookup⟩

theorem nodup_keysOf (once : st.Once) : (st.keysOf bundle).Nodup := once.sublist (List.Sublist.map _ List.filter_sublist)

theorem saidTo_append (first later : List (BundleId × Ask)) :
    saidTo bundle (first ++ later) = saidTo bundle first ++ saidTo bundle later := List.filterMap_append

theorem saidTo_map (other : BundleId) (asks : List Ask) :
    saidTo bundle (asks.map (Prod.mk other)) = if other = bundle then asks else [] := by
  unfold saidTo
  rw [List.filterMap_map]
  by_cases same : other = bundle
  · have all : (fun a : BundleId × Ask => if a.1 = bundle then some a.2 else none) ∘ Prod.mk other = some :=
      funext fun _ => if_pos same
    rw [if_pos same, all, List.filterMap_some]
  · rw [if_neg same, List.filterMap_eq_nil_iff]
    exact fun _ _ => if_neg same

/-- Where each entry of a registry is asked something, a bundle is asked what goes with its keys. -/
theorem saidTo_flatMap (asks : Key → List Ask) (entries : List (Key × BundleId)) :
    saidTo bundle (entries.flatMap fun entry => (asks entry.1).map (Prod.mk entry.2)) =
      ((entries.filter fun entry => entry.2 = bundle).map Prod.fst).flatMap asks := by
  induction entries with
  | nil => rfl
  | cons entry rest ih =>
    rw [List.flatMap_cons, saidTo_append, saidTo_map, ih]
    by_cases same : entry.2 = bundle
    · rw [if_pos same, List.filter_cons_of_pos (by simpa using same), List.map_cons, List.flatMap_cons]
    · rw [if_neg same, List.filter_cons_of_neg (by simpa using same), List.nil_append]

/-- When everything is torn down, a bundle is asked to part from each of its keys. -/
theorem saidTo_tearDownAllAsks : saidTo bundle st.tearDownAllAsks = (st.keysOf bundle).flatMap parting :=
  saidTo_flatMap parting st.bundles

/-- Where the bundle of a key is asked something, if there is one, another bundle is asked nothing. -/
theorem saidTo_lookup (asks : List Ask) :
    saidTo bundle (match st.bundles.lookup key with
      | some held => asks.map (Prod.mk held)
      | none => []) = if st.bundles.lookup key = some bundle then asks else [] := by
  cases st.bundles.lookup key with
  | none => rfl
  | some held =>
    simp only [Option.some.injEq]
    exact saidTo_map held asks

theorem saidTo_tearDownAnyAsks :
    saidTo bundle (st.tearDownAnyAsks key) = if st.bundles.lookup key = some bundle then parting key else [] :=
  saidTo_lookup (parting key)

theorem saidTo_tellKeyAsks (command : SegmentSync.Command) :
    saidTo bundle (st.tellKeyAsks key command) = if st.bundles.lookup key = some bundle then [.segments command] else [] :=
  saidTo_lookup [.segments command]

/-- A broadcast says one thing to a bundle for each of its keys in scope. -/
theorem saidTo_tellAsks (scope : Option String) (command : SegmentSync.Command) :
    saidTo bundle (st.tellAsks scope command) = ((st.keysOf bundle).filter (inScope scope)).map fun _ => .segments command := by
  have told : st.tellAsks scope command = (st.bundles.filter fun entry => inScope scope entry.1).flatMap fun entry =>
      ([Ask.segments command].map (Prod.mk entry.2)) := List.map_eq_flatMap
  have same : ((st.bundles.filter fun entry => inScope scope entry.1).filter fun entry => entry.2 = bundle).map Prod.fst =
      (st.keysOf bundle).filter (inScope scope) := by
    rw [State.keysOf, List.filter_map, List.filter_filter, List.filter_filter]
    simp only [Function.comp_apply, Bool.and_comm]
  rw [told, saidTo_flatMap (fun _ => [.segments command]), same, List.map_eq_flatMap]

end Said

end FlagKeeper.Registry
