import FlagKeeper.Segments.SegmentSync

/-!
# The identities of a client

The registry holds the parts that belong to one identity, for every identity in use, and passes orders on to them: to all
identities that share a matching key, or to all there are. A bundle of parts is torn down when it leaves the registry.
-/

namespace FlagKeeper

/-- By what number the registry knows a bundle. -/
abbrev BundleId := Nat

/-- The parts that belong to one identity. -/
structure IdentityBundle (m : Type → Type) where
  segments : SegmentSync.Command → m Unit
  attributes : AttributeStore m
  signal : Signal → m Unit
  /-- Ends the signals for good. -/
  stopSignals : m Unit

namespace Registry

/-- What the registry keeps: the bundle of each key, in the order in which the keys came. -/
structure State where
  bundles : List (Key × BundleId) := []
  /-- Whether identities are polled, also those that come later. -/
  polling : Bool := false
  deriving Repr

/-- Work that is done in the background. -/
inductive Job where
  /-- To load the attributes of an identity. -/
  | loadAttributes (matching : String) (bundle : BundleId)
  deriving DecidableEq, Repr

end Registry

/-- The registry in its surroundings. -/
structure Registry (m : Type → Type) where
  state : Cell m Registry.State
  bundle : BundleId → IdentityBundle m
  background : Registry.Job → m Unit

namespace Registry

variable {m : Type → Type} [Monad m]

/-- Puts a bundle under a key; gives the one that was there. -/
def put (key : Key) (bundle : BundleId) : List (Key × BundleId) → Option BundleId × List (Key × BundleId)
  | [] => (none, [(key, bundle)])
  | (k, held) :: rest =>
    if k = key then (some held, (k, bundle) :: rest)
    else
      let (previous, rest) := put key bundle rest
      (previous, (k, held) :: rest)

section Bundles

variable {key other : Key} {bundle : BundleId} {bundles : List (Key × BundleId)}

/-- What was there before a bundle was put. -/
theorem put_fst : (put key bundle bundles).1 = bundles.lookup key := by
  induction bundles with
  | nil => rfl
  | cons entry rest ih =>
    obtain ⟨k, held⟩ := entry
    rw [put, List.lookup_cons]
    by_cases here : k = key
    · simp [here]
    · have away : (key == k) = false := by simpa using Ne.symm here
      rw [if_neg here, away]
      exact ih

/-- The bundle that was put is found under its key. -/
theorem lookup_put_self : (put key bundle bundles).2.lookup key = some bundle := by
  induction bundles with
  | nil => simp [put]
  | cons entry rest ih =>
    obtain ⟨k, held⟩ := entry
    rw [put]
    by_cases here : k = key
    · simp [here]
    · have away : (key == k) = false := by simpa using Ne.symm here
      rw [if_neg here, List.lookup_cons, away]
      exact ih

/-- Under the other keys there is what was there before. -/
theorem lookup_put_of_ne (ne : other ≠ key) : (put key bundle bundles).2.lookup other = bundles.lookup other := by
  have away : (other == key) = false := by simpa using ne
  induction bundles with
  | nil => rw [put, List.lookup_cons, away]
  | cons entry rest ih =>
    obtain ⟨k, held⟩ := entry
    rw [put]
    by_cases here : k = key
    · subst here
      rw [if_pos rfl, List.lookup_cons, List.lookup_cons, away]
    · rw [if_neg here, List.lookup_cons, List.lookup_cons, ih]

/-- Under a key that was taken out there is nothing, and under the others what was there before. -/
theorem lookup_filter_ne :
    (bundles.filter fun entry => entry.1 ≠ key).lookup other = if other = key then none else bundles.lookup other := by
  induction bundles with
  | nil => simp
  | cons entry rest ih =>
    obtain ⟨k, held⟩ := entry
    by_cases here : k = key
    · subst here
      rw [List.filter_cons_of_neg (by simp), ih, List.lookup_cons]
      by_cases same : other = k
      · simp [same]
      · have away : (other == k) = false := by simpa using same
        rw [away]
    · rw [List.filter_cons_of_pos (by simpa using here), List.lookup_cons, List.lookup_cons, ih]
      by_cases found : other = k
      · subst found
        simp [here]
      · have away : (other == k) = false := by simpa using found
        rw [away]

/-- Where no key occurs twice, looking a key up finds what is there. -/
theorem lookup_of_mem (once : (bundles.map Prod.fst).Nodup) (inside : (key, bundle) ∈ bundles) :
    bundles.lookup key = some bundle := by
  induction bundles with
  | nil => cases inside
  | cons entry rest ih =>
    obtain ⟨k, b⟩ := entry
    rw [List.map_cons, List.nodup_cons] at once
    rcases List.mem_cons.1 inside with same | later
    · cases same
      exact List.lookup_cons_self
    · have away : (key == k) = false := by
        rw [beq_eq_false_iff_ne]
        rintro rfl
        exact once.1 (List.mem_map.2 ⟨_, later, rfl⟩)
      rw [List.lookup_cons, away]
      exact ih once.2 later

/-- What looking a key up finds is there. -/
theorem mem_of_lookup (found : bundles.lookup key = some bundle) : (key, bundle) ∈ bundles := by
  obtain ⟨first, last, split, -⟩ := List.lookup_eq_some_iff.1 found
  rw [split]
  exact List.mem_append_right _ List.mem_cons_self

/-- The keys after a bundle was put are those from before and its own. -/
theorem key_of_mem_put (inside : other ∈ (put key bundle bundles).2.map Prod.fst) :
    other ∈ bundles.map Prod.fst ∨ other = key := by
  induction bundles with
  | nil => exact .inr (List.mem_singleton.1 inside)
  | cons entry rest ih =>
    unfold put at inside
    by_cases here : entry.1 = key
    · rw [if_pos here] at inside
      exact .inl inside
    · rw [if_neg here] at inside
      rcases List.mem_cons.1 inside with rfl | later
      · exact .inl List.mem_cons_self
      · exact (ih later).imp_left (List.mem_cons_of_mem _)

/-- No key occurs twice after a bundle was put. -/
theorem nodup_put (once : (bundles.map Prod.fst).Nodup) (key : Key) : ((put key bundle bundles).2.map Prod.fst).Nodup := by
  induction bundles with
  | nil => simp [put]
  | cons entry rest ih =>
    unfold put
    rw [List.map_cons, List.nodup_cons] at once
    by_cases here : entry.1 = key
    · rw [if_pos here]
      exact List.nodup_cons.2 once
    · rw [if_neg here]
      refine List.nodup_cons.2 ⟨fun again => ?_, ih once.2⟩
      rcases key_of_mem_put again with before | same
      · exact once.1 before
      · exact here same

end Bundles

/-- Ends the parts of an identity. -/
def tearDown (r : Registry m) (key : Key) (bundle : BundleId) : m Unit := do
  let b := r.bundle bundle
  b.segments .stopPeriodic
  b.segments .destroy
  b.attributes.destroy key.matching
  b.stopSignals

/-- The bundle of a key. -/
def lookup (r : Registry m) (key : Key) : m (Option BundleId) := do return (← r.state.get).bundles.lookup key

/-- Registers the bundle of a key; one that was there is torn down. -/
def register (r : Registry m) (key : Key) (bundle : BundleId) : m Unit := do
  let previous ← r.state.step fun st =>
    let (previous, bundles) := put key bundle st.bundles
    (previous, { st with bundles })
  match previous with
  | some old => r.tearDown key old
  | none => return ()

/-- Takes the bundle of a key out of the registry. -/
def remove (r : Registry m) (key : Key) : m (Option BundleId) :=
  r.state.step fun st => (st.bundles.lookup key, { st with bundles := st.bundles.filter fun entry => entry.1 ≠ key })

/-- Removes and tears down the bundle of a key; gives how many remain if there was one. -/
def unregister (r : Registry m) (key : Key) : m (Option Nat) := do
  match ← r.remove key with
  | none => return none
  | some bundle =>
    r.tearDown key bundle
    return some (← r.state.get).bundles.length

/-- Whether a key is in scope: one that has the matching key, or any. -/
def inScope (scope : Option String) (key : Key) : Bool :=
  match scope with
  | none => true
  | some matching => key.matching = matching

/-- Does something for every bundle in scope. -/
def forEach (r : Registry m) (scope : Option String) (act : Key → BundleId → m Unit) : m Unit := do
  let bundles := (← r.state.get).bundles.filter fun entry => inScope scope entry.1
  bundles.forM fun (key, bundle) => act key bundle

/-- Tells the segment synchronizer of every identity in scope. -/
def tellSegments (r : Registry m) (scope : Option String) (command : SegmentSync.Command) : m Unit :=
  r.forEach scope fun _ bundle => (r.bundle bundle).segments command

/-- Has the attributes of every identity in scope loaded in the background. -/
def loadAttributes (r : Registry m) (scope : Option String) : m Unit :=
  r.forEach scope fun key bundle => r.background (.loadAttributes key.matching bundle)

/-- Does background work; a failure to load is borne. -/
def runJob (r : Registry m) : Job → m Unit
  | .loadAttributes matching bundle => do
    let _ ← (r.bundle bundle).attributes.loadLocal matching
    (r.bundle bundle).signal .attributesLoadedFromCache

/-- Tells the segment synchronizer of one identity, if it is registered. -/
def tellKey (r : Registry m) (key : Key) (command : SegmentSync.Command) : m Unit := do
  match ← r.lookup key with
  | some bundle => (r.bundle bundle).segments command
  | none => return ()

/-- Brings a new identity up to date. -/
def startSync (r : Registry m) (key : Key) : m Unit := do
  r.tellSegments (some key.matching) .loadFromCache
  r.loadAttributes (some key.matching)
  r.tellKey key .synchronize
  if (← r.state.get).polling then r.tellKey key .startPeriodic

/-- Polls the identities there are and those to come. -/
def startPolling (r : Registry m) : m Unit := do
  r.state.modify fun st => { st with polling := true }
  r.tellSegments none .startPeriodic

/-- Ends polling. -/
def stopPolling (r : Registry m) : m Unit := do
  r.state.modify fun st => { st with polling := false }
  r.tellSegments none .stopPeriodic

/-- Removes and tears down every identity. -/
def stop (r : Registry m) : m Unit := do
  let keys := (← r.state.get).bundles.map (·.1)
  keys.forM fun key => do
    match ← r.remove key with
    | some bundle => r.tearDown key bundle
    | none => return ()

end Registry

end FlagKeeper
