import Mathlib.Data.List.Nodup
import FlagKeeper.Proofs.Flags.Cache

/-!
# Loading flags from a store that never fails

The store of flags belongs to the host. What is relied on here is little (`Shelf.IsReliable`): every operation succeeds, a deletion takes
out just the flags that are named, any other write changes just what it is about, and reading a store again that was read changes
nothing. On such a store a load does what it does to a cache whose writes all succeed, so that everything there is to say follows from
what becomes of that cache (`Cache.loaded`).
-/

namespace FlagKeeper

/-- Where no two flags have one name, all flags stay but for those that are not covered when these are deleted by name. -/
theorem FlagFilter.filter_uncovered (f : FlagFilter) {cached : List FeatureFlag} (unique : (cached.map (·.name)).Nodup) :
    (cached.filter fun flag => !(f.uncovered cached).contains flag.name) = cached.filter f.keeps := by
  refine List.filter_congr fun flag inside => ?_
  have named_iff : (f.uncovered cached).contains flag.name = true ↔ f.keeps flag = false := by
    rw [List.contains_iff_mem]
    unfold uncovered
    rw [List.mem_map]
    constructor
    · rintro ⟨other, among, same⟩
      obtain ⟨there, dropped⟩ := List.mem_filter.1 among
      rw [List.inj_on_of_nodup_map unique there inside same] at dropped
      simpa using dropped
    · exact fun dropped => ⟨flag, List.mem_filter.2 ⟨inside, by simp [dropped]⟩, rfl⟩
  cases kept : f.keeps flag with
  | true =>
    rw [kept] at named_iff
    simpa using named_iff
  | false =>
    rw [named_iff.2 kept]
    rfl

namespace FlagSync

/-! ## A cache whose writes all succeed -/

namespace Cache

variable (filter : FlagFilter) (c : Cache)

/-- Nothing is to be done, only the query text is to be written, or flags are to be deleted before. -/
theorem loaded_cases :
    c.queryText = some filter.queryText ∧ c.loaded filter {} = c ∨
    c.queryText ≠ some filter.queryText ∧
      (filter.uncovered c.flags = [] ∧ c.loaded filter {} = c.after (.setQueryText filter.queryText) true ∨
        filter.uncovered c.flags ≠ [] ∧
          c.loaded filter {} = ((c.after (.delete (filter.uncovered c.flags)) true).after (.setChangeNumber (-1)) true).after
            (.setQueryText filter.queryText) true) := by
  unfold loaded
  by_cases same : c.queryText = some filter.queryText
  · rw [if_pos same]
    exact .inl ⟨same, rfl⟩
  · rw [if_neg same]
    refine .inr ⟨same, ?_⟩
    by_cases covered : filter.uncovered c.flags = []
    · rw [if_pos (List.isEmpty_iff.2 covered)]
      exact .inl ⟨covered, rfl⟩
    · rw [if_neg (by rwa [List.isEmpty_iff])]
      exact .inr ⟨covered, rfl⟩

theorem queryText_loaded : (c.loaded filter {}).queryText = some filter.queryText := by
  rcases loaded_cases filter c with ⟨same, loaded⟩ | ⟨-, ⟨-, loaded⟩ | ⟨-, loaded⟩⟩ <;> rw [loaded]
  · exact same
  · rfl
  · rfl

/-- Loading once more does nothing. -/
theorem loaded_loaded : (c.loaded filter {}).loaded filter {} = c.loaded filter {} :=
  if_pos (queryText_loaded filter c)

theorem flags_loaded {c : Cache} (unique : (c.flags.map (·.name)).Nodup) :
    (c.loaded filter {}).flags = if c.queryText = some filter.queryText then c.flags else c.flags.filter filter.keeps := by
  rcases loaded_cases filter c with ⟨same, loaded⟩ | ⟨other, ⟨covered, loaded⟩ | ⟨-, loaded⟩⟩ <;> rw [loaded]
  · rw [if_pos same]
  · rw [if_neg other, ← filter.filter_uncovered unique, covered]
    exact (List.filter_true _).symm
  · rw [if_neg other]
    exact filter.filter_uncovered unique

/-- The change number is forgotten just if a flag went. -/
theorem changeNumber_loaded :
    ((∃ flag ∈ c.flags, flag ∉ (c.loaded filter {}).flags) → (c.loaded filter {}).changeNumber = -1) ∧
    ((∀ flag ∈ c.flags, flag ∈ (c.loaded filter {}).flags) → (c.loaded filter {}).changeNumber = c.changeNumber) := by
  rcases loaded_cases filter c with ⟨-, loaded⟩ | ⟨-, ⟨-, loaded⟩ | ⟨some, loaded⟩⟩ <;> rw [loaded]
  · exact ⟨fun ⟨_, inside, gone⟩ => (gone inside).elim, fun _ => rfl⟩
  · exact ⟨fun ⟨_, inside, gone⟩ => (gone inside).elim, fun _ => rfl⟩
  · refine ⟨fun _ => rfl, fun all => ?_⟩
    obtain ⟨name, named⟩ := List.exists_mem_of_ne_nil _ some
    obtain ⟨flag, among, rfl⟩ := List.mem_map.1 named
    have stays := (List.mem_filter.1 (all flag (List.mem_filter.1 among).1)).2
    rw [List.contains_iff_mem.2 named] at stays
    cases stays

end Cache

/-! ## A store that never fails -/

variable {β : Type}

namespace Shelf

/-- What can be read from a store. -/
def view (shelf : Shelf β) (b : β) : Cache where
  flags := shelf.flags b
  changeNumber := shelf.changeNumber b
  queryText := shelf.queryText b

/-- An operation succeeded, and what can be read from the store is `v` then. -/
structure Does (shelf : Shelf β) (ready : β → Prop) (out : Outcome × β) (v : Cache) : Prop where
  ok : out.1 = .ok ()
  ready : ready out.2
  view : shelf.view out.2 = v

/-- A store of flags that never fails, and does what it is asked to and no more. It is `ready` once it was read. -/
structure IsReliable (shelf : Shelf β) (ready : β → Prop) : Prop where
  load : ∀ b, (shelf.loadLocal b).1 = .ok () ∧ ready (shelf.loadLocal b).2
  again : ∀ b, ready b → shelf.view (shelf.loadLocal b).2 = shelf.view b
  delete : ∀ names b, ready b → shelf.Does ready (shelf.delete names b) ((shelf.view b).written (.delete names))
  setChangeNumber : ∀ n b, ready b →
    shelf.Does ready (shelf.setChangeNumber n b) ((shelf.view b).written (.setChangeNumber n))
  setQueryText : ∀ text b, ready b →
    shelf.Does ready (shelf.setQueryText text b) ((shelf.view b).written (.setQueryText text))

end Shelf

/-- What a store holds, and a record of the writes to it and of the signals that were given, the latest first. -/
structure Kept (β : Type) where
  held : β
  writes : List Write := []
  signals : List Signal := []

/-- A write was recorded, and what came of it. -/
def Kept.wrote {α : Type} (k : Kept β) (w : Write) (out : α × β) : α × Kept β :=
  (out.1, { k with held := out.2, writes := w :: k.writes })

/-- A store whose writes are recorded. -/
def Shelf.recorded (shelf : Shelf β) : Shelf (Kept β) where
  flags k := shelf.flags k.held
  changeNumber k := shelf.changeNumber k.held
  queryText k := shelf.queryText k.held
  loadLocal k := ((shelf.loadLocal k.held).1, { k with held := (shelf.loadLocal k.held).2 })
  setChangeNumber n k := k.wrote (.setChangeNumber n) (shelf.setChangeNumber n k.held)
  delete names k := k.wrote (.delete names) (shelf.delete names k.held)
  kill order k := k.wrote (.kill order) (shelf.kill order k.held)
  setQueryText text k := k.wrote (.setQueryText text) (shelf.setQueryText text k.held)

/-- The synchronizer on the plain host, with a record of its writes and signals. -/
def recording (filter : FlagFilter) (enabled : Bool) (shelf : Shelf β) : FlagSync (Plain (Kept β)) :=
  { plain filter enabled shelf.recorded with
    signal := fun e => modify fun s => { s with stock := { s.stock with signals := e :: s.stock.signals } } }

namespace Kept

/-- The cache that a store is whose writes all succeeded. -/
def cache (shelf : Shelf β) (k : Kept β) : Cache := { shelf.view k.held with tried := k.writes.map fun w => (w, true) }

/-- The store was read. -/
def read (shelf : Shelf β) (k : Kept β) : Kept β := { k with held := (shelf.loadLocal k.held).2 }

/-- Of two stores that are the same cache, the same can be read, and the same was written to them. -/
theorem same_of_cache {shelf : Shelf β} {k k' : Kept β} (same : k.cache shelf = k'.cache shelf) :
    shelf.view k.held = shelf.view k'.held ∧ k.writes = k'.writes := by
  have tried : k.writes.map (fun w => (w, true)) = k'.writes.map (fun w => (w, true)) := congrArg Cache.tried same
  have apart : Function.Injective fun w : Write => (w, true) := fun _ _ pairs => congrArg Prod.fst pairs
  exact ⟨congrArg (fun c : Cache => { c with tried := [] }) same, List.map_injective_iff.2 apart tried⟩

end Kept

/-! ## What a load leaves behind -/

section Run

variable {shelf : Shelf β} {ready : β → Prop} {s : Scene (Kept β)}

/-- A program succeeds, and changes nothing but the store, which is the cache `c` then. -/
def Brings (shelf : Shelf β) (ready : β → Prop) (x : Plain (Kept β) Outcome) (s : Scene (Kept β)) (c : Cache) : Prop :=
  ∃ k, x.run s = (.ok (), { s with stock := k }) ∧ ready k.held ∧ k.cache shelf = c ∧ k.signals = s.stock.signals

theorem Brings.andThen {x y : Plain (Kept β) Outcome} {c c' : Cache} (first : Brings shelf ready x s c)
    (next : ∀ k, ready k.held → k.cache shelf = c → Brings shelf ready y { s with stock := k } c') :
    Brings shelf ready (FlagSync.andThen x y) s c' := by
  obtain ⟨k, ran, still, became, quiet⟩ := first
  obtain ⟨k', ran', still', became', quiet'⟩ := next k still became
  refine ⟨k', ?_, still', became', quiet'.trans quiet⟩
  rw [run_andThen, ran]
  exact ran'

/-- A write that succeeds. -/
theorem brings_write {w : Write} {change : β → Outcome × β}
    (does : shelf.Does ready (change s.stock.held) ((shelf.view s.stock.held).written w)) :
    Brings shelf ready (stockStep fun k => k.wrote w (change k.held)) s ((s.stock.cache shelf).after w true) := by
  refine ⟨(s.stock.wrote w (change s.stock.held)).2, ?_, does.ready, ?_, rfl⟩
  · exact Prod.ext does.ok rfl
  · show ({ shelf.view (change s.stock.held).2 with tried := _ } : Cache) = _
    rw [does.view]
    cases w <;> rfl

variable (reliable : shelf.IsReliable ready)
include reliable

/-- Reading a store again that was read changes nothing. -/
theorem cache_read {k : Kept β} (set : ready k.held) : (k.read shelf).cache shelf = k.cache shelf :=
  congrArg (fun v : Cache => { v with tried := k.writes.map fun w => (w, true) }) (reliable.again k.held set)

variable (filter : FlagFilter) (enabled : Bool)

theorem brings_reconcile (set : ready s.stock.held) :
    Brings shelf ready (recording filter enabled shelf).reconcile s ((s.stock.cache shelf).loaded filter {}) := by
  have cleared (k : Kept β) (names : List String) (set : ready k.held) :
      Brings shelf ready (shelf.recorded.store.delete names) { s with stock := k }
        ((k.cache shelf).after (.delete names) true) := brings_write (reliable.delete names k.held set)
  have forgotten (k : Kept β) (set : ready k.held) :
      Brings shelf ready (shelf.recorded.store.setChangeNumber (-1)) { s with stock := k }
        ((k.cache shelf).after (.setChangeNumber (-1)) true) := brings_write (reliable.setChangeNumber (-1) k.held set)
  have texted (k : Kept β) (set : ready k.held) :
      Brings shelf ready (shelf.recorded.store.setQueryText filter.queryText) { s with stock := k }
        ((k.cache shelf).after (.setQueryText filter.queryText) true) :=
    brings_write (reliable.setQueryText filter.queryText k.held set)
  let c := s.stock.cache shelf
  let store := shelf.recorded.store
  show ∃ k, ((if c.queryText = some filter.queryText then pure (.ok ()) else _ : Plain (Kept β) Outcome).run s) = _ ∧ _
  rcases Cache.loaded_cases filter c with ⟨same, loaded⟩ | ⟨other, work⟩
  · rw [if_pos same, loaded]
    exact ⟨s.stock, rfl, set, rfl, rfl⟩
  · rw [if_neg other]
    show Brings shelf ready (FlagSync.andThen
      (if (filter.uncovered c.flags).isEmpty then pure (.ok ())
        else FlagSync.andThen (store.delete (filter.uncovered c.flags)) (store.setChangeNumber (-1)))
      (store.setQueryText filter.queryText)) s (c.loaded filter {})
    -- Each write is followed by the next one, for it succeeded; what the store is then is what the next one finds.
    rcases work with ⟨covered, loaded⟩ | ⟨some, loaded⟩
    · rw [if_pos (List.isEmpty_iff.2 covered), loaded]
      exact texted s.stock set
    · rw [if_neg (by rwa [List.isEmpty_iff]), loaded]
      have both : Brings shelf ready
          (FlagSync.andThen (store.delete (filter.uncovered c.flags)) (store.setChangeNumber (-1))) s
          ((c.after (.delete (filter.uncovered c.flags)) true).after (.setChangeNumber (-1)) true) := by
        refine (cleared s.stock _ set).andThen fun k set' became => ?_
        rw [← became]
        exact forgotten k set'
      refine both.andThen fun k set' became => ?_
      rw [← became]
      exact texted k set'

/-- A load reads the store, reconciles it, and tells of the flags that are left. -/
theorem run_load (s : Scene (Kept β)) :
    ∃ k, (recording filter enabled shelf).loadFromCache.run s = ((), { s with stock := k }) ∧ ready k.held ∧
    k.cache shelf = ((s.stock.read shelf).cache shelf).loaded filter {} ∧
    k.signals = if (shelf.flags k.held).isEmpty then s.stock.signals else .splitsLoadedFromCache :: s.stock.signals := by
  let s₁ : Scene (Kept β) := { s with stock := s.stock.read shelf }
  have reconciled : Brings shelf ready (recording filter enabled shelf).reconcile s₁ ((s₁.stock.cache shelf).loaded filter {}) :=
    brings_reconcile reliable filter enabled (reliable.load s.stock.held).2
  obtain ⟨k, ran, set, became, quiet⟩ := reconciled
  let s' := ((recording filter enabled shelf).reconcile.run s₁).2
  have run_eq : (recording filter enabled shelf).loadFromCache.run s =
      (if (!(shelf.flags s'.stock.held).isEmpty) = true then (recording filter enabled shelf).signal .splitsLoadedFromCache
      else pure () : Plain (Kept β) Unit).run s' := rfl
  have left : s' = { s with stock := k } := congrArg Prod.snd ran
  rw [run_eq, left]
  cases none : (shelf.flags k.held).isEmpty with
  | true => exact ⟨k, rfl, set, became, by rw [none]; exact quiet⟩
  | false =>
    refine ⟨{ k with signals := .splitsLoadedFromCache :: k.signals }, rfl, set, became, ?_⟩
    rw [none, quiet]
    rfl

end Run

/-- **Loading is exact, and once is enough.** Of any filter, over any store that never fails and in which no two flags have one name:

1. The flags that are left are those that the filter covers, in their order, if its query text is not the stored one; else all are.
2. The change number is forgotten if any flag went, and stays if none did.
3. The query text that is stored then is that of the filter.
4. That the flags were loaded is told just once, if there are any, and else not at all.
5. Another load makes no write, and leaves all that can be read as it is. -/
theorem load_reconciles_exactly (shelf : Shelf β) (ready : β → Prop) (reliable : shelf.IsReliable ready) (filter : FlagFilter)
    (enabled : Bool) (s : Scene (Kept β)) (unique : ((shelf.flags (shelf.loadLocal s.stock.held).2).map (·.name)).Nodup) :
    let load := (recording filter enabled shelf).loadFromCache
    let cached := (shelf.loadLocal s.stock.held).2
    let once := (load.run s).2
    let twice := (load.run once).2
    shelf.flags once.stock.held =
      (if shelf.queryText cached = some filter.queryText then shelf.flags cached
        else (shelf.flags cached).filter filter.keeps) ∧
    ((∃ flag ∈ shelf.flags cached, flag ∉ shelf.flags once.stock.held) → shelf.changeNumber once.stock.held = -1) ∧
    ((∀ flag ∈ shelf.flags cached, flag ∈ shelf.flags once.stock.held) →
      shelf.changeNumber once.stock.held = shelf.changeNumber cached) ∧
    shelf.queryText once.stock.held = some filter.queryText ∧
    once.stock.signals =
      (if (shelf.flags once.stock.held).isEmpty then s.stock.signals else .splitsLoadedFromCache :: s.stock.signals) ∧
    twice.stock.writes = once.stock.writes ∧ shelf.view twice.stock.held = shelf.view once.stock.held := by
  intro load cached once twice
  obtain ⟨k, ran, set, became, told⟩ := run_load reliable filter enabled s
  obtain ⟨k', ran', -, became', -⟩ := run_load reliable filter enabled once
  have first : once.stock = k := congrArg (fun out : Unit × Scene (Kept β) => out.2.stock) ran
  have second : twice.stock = k' := congrArg (fun out : Unit × Scene (Kept β) => out.2.stock) ran'
  have same : k'.cache shelf = k.cache shelf := by
    rw [became', first, cache_read reliable set, became, Cache.loaded_loaded]
  have number := Cache.changeNumber_loaded filter ((s.stock.read shelf).cache shelf)
  have text := Cache.queryText_loaded filter ((s.stock.read shelf).cache shelf)
  rw [← became] at number text
  obtain ⟨view, writes⟩ := Kept.same_of_cache same
  rw [first, second]
  exact ⟨(congrArg Cache.flags became).trans (Cache.flags_loaded filter unique), number.1, number.2, text, told, writes, view⟩

/-- A cache none of whose writes fails is a store that never fails. -/
theorem Cache.isReliable : (Cache.shelf {}).IsReliable fun _ => True where
  load _ := ⟨rfl, trivial⟩
  again _ _ := rfl
  delete _ _ _ := ⟨rfl, trivial, rfl⟩
  setChangeNumber _ _ _ := ⟨rfl, trivial, rfl⟩
  setQueryText _ _ _ := ⟨rfl, trivial, rfl⟩

/-- A synchronizer that is to keep two of three flags, over the cache of another filter. -/
def keepsTwo : Scene (Kept Cache) :=
  ({ filter := .byNames ["a", "c"]
     syncEnabled := true
     shelf := (Cache.shelf {}).recorded
     stock :=
       { held :=
          { flags := [⟨"c", 1, .empty, false, "off"⟩, ⟨"b", 2, .empty, false, "on"⟩, ⟨"a", 3, .empty, false, "off"⟩]
            changeNumber := 50
            queryText := some "&names=b" } }
     prompt := fun _ => none : Setup (Kept Cache) }).scene

/-- The two flags stay in their order, the change number is forgotten, and another load makes no write. -/
theorem load_reconciles_exactly_two :
    let load := (recording (.byNames ["a", "c"]) true (Cache.shelf {})).loadFromCache
    let once := (load.run keepsTwo).2
    once.stock.held.flags = [⟨"c", 1, .empty, false, "off"⟩, ⟨"a", 3, .empty, false, "off"⟩] ∧
      once.stock.held.changeNumber = -1 ∧ once.stock.held.queryText = some "&names=a,c" ∧
      once.stock.signals = [.splitsLoadedFromCache] ∧ (load.run once).2.stock.writes = once.stock.writes := by
  intro load once
  obtain ⟨flags, forgotten, -, text, told, writes, -⟩ :=
    load_reconciles_exactly (Cache.shelf {}) (fun _ => True) Cache.isReliable (.byNames ["a", "c"]) true keepsTwo (by decide +kernel)
  have left : once.stock.held.flags = [⟨"c", 1, .empty, false, "off"⟩, ⟨"a", 3, .empty, false, "off"⟩] := flags
  refine ⟨left, forgotten ⟨⟨"b", 2, .empty, false, "on"⟩, List.mem_cons_of_mem _ List.mem_cons_self, ?_⟩, text, told, writes⟩
  show _ ∉ once.stock.held.flags
  rw [left]
  simp

end FlagSync

end FlagKeeper
