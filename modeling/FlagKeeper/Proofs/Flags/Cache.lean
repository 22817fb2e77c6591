import FlagKeeper.Proofs.Flags.Scene
import FlagKeeper.Simulation.Host

/-!
# A cache of flags whose writes may fail

A store of flags that is no more than what is to be expected of one: a write that succeeds has its effect, and one that fails has none.
Which of them fail is given beforehand (`Faults`), and the cache keeps a record of all that was tried, so that it can be said what was
written since when. What loading the cache does to it is spelt out (`Cache.loaded`), and is one of five things (`Cache.Load`).
-/

namespace FlagKeeper.FlagSync

/-- A write to a cache of flags. -/
inductive Write where
  | delete (names : List String)
  | setChangeNumber (n : Int)
  | setQueryText (text : String)
  | kill (kill : FlagKill)

/-- How the calls to a cache end, by the number of writes that were tried before. -/
structure Faults where
  load : Nat → Outcome := fun _ => .ok ()
  write : Nat → Outcome := fun _ => .ok ()

/-- What a cache of flags holds. -/
structure Cache where
  flags : List FeatureFlag
  changeNumber : Int := -1
  queryText : Option String := none
  /-- The writes that were tried, the latest first, and whether they succeeded. -/
  tried : List (Write × Bool) := []

namespace Cache

/-- The effect of a write. -/
def written (c : Cache) : Write → Cache
  | .delete names => { c with flags := c.flags.filter fun f => !names.contains f.name }
  | .setChangeNumber n => { c with changeNumber := n }
  | .setQueryText text => { c with queryText := some text }
  | .kill k => { c with flags := (Simulation.HostPorts.applyKill k c.flags).2 }

/-- The cache after a write was tried. -/
def after (c : Cache) (w : Write) (succeeds : Bool) : Cache :=
  { if succeeds then c.written w else c with tried := (w, succeeds) :: c.tried }

/-- How the next write ends. -/
def ending (c : Cache) (faults : Faults) : Outcome := faults.write c.tried.length

/-- Tries a write. -/
def write (faults : Faults) (w : Write) (c : Cache) : Outcome × Cache := (c.ending faults, c.after w (c.ending faults).isOk)

/-- The operations of the cache. -/
def shelf (faults : Faults) : Shelf Cache where
  flags := Cache.flags
  changeNumber := Cache.changeNumber
  queryText := Cache.queryText
  loadLocal c := (faults.load c.tried.length, c)
  setChangeNumber n := write faults (.setChangeNumber n)
  delete names := write faults (.delete names)
  kill k c :=
    ((c.ending faults).map fun _ => (Simulation.HostPorts.applyKill k c.flags).1, c.after (.kill k) (c.ending faults).isOk)
  setQueryText text := write faults (.setQueryText text)

variable (filter : FlagFilter) (faults : Faults) (c : Cache)

/-- The query text was tried to be written. -/
def texted : Cache := c.after (.setQueryText filter.queryText) (c.ending faults).isOk

/-- After a deletion, the change number was tried to be forgotten; only then comes the query text. -/
def forgotten : Cache :=
  let next := c.after (.setChangeNumber (-1)) (c.ending faults).isOk
  if (c.ending faults).isOk then next.texted filter faults else next

/-- The flags that are not covered were tried to be deleted; only then comes the rest. -/
def cleared : Cache :=
  let next := c.after (.delete (filter.uncovered c.flags)) (c.ending faults).isOk
  if (c.ending faults).isOk then next.forgotten filter faults else next

/-- The cache after it was loaded. -/
def loaded : Cache :=
  if c.queryText = some filter.queryText then c
  else if (filter.uncovered c.flags).isEmpty then c.texted filter faults
  else c.cleared filter faults

end Cache

section Run

variable {s : Scene Cache} {filter : FlagFilter} {enabled : Bool} {faults : Faults}

/-- A step is followed by another one only if it succeeds. -/
theorem run_andThen {β : Type} {s : Scene β} (first next : Plain β Outcome) :
    (andThen first next).run s = if (first.run s).1.isOk then next.run (first.run s).2 else first.run s := by
  unfold andThen
  rw [run_bind]
  rcases first.run s with ⟨_ | _, s'⟩ <;> rfl

theorem run_setChangeNumber (n : Int) : (((Cache.shelf faults).store).setChangeNumber n).run s =
    (s.stock.ending faults, { s with stock := s.stock.after (.setChangeNumber n) (s.stock.ending faults).isOk }) := rfl

theorem run_delete (names : List String) : (((Cache.shelf faults).store).delete names).run s =
    (s.stock.ending faults, { s with stock := s.stock.after (.delete names) (s.stock.ending faults).isOk }) := rfl

theorem run_reconcile : (((plain filter enabled (Cache.shelf faults)).reconcile).run s).2 =
    { s with stock := s.stock.loaded filter faults } := by
  let store := (Cache.shelf faults).store
  show ((if s.stock.queryText = some filter.queryText then pure (.ok ()) else _ : Plain Cache Outcome).run s).2 = _
  unfold Cache.loaded
  by_cases same : s.stock.queryText = some filter.queryText
  · rw [if_pos same, if_pos same]
    rfl
  · rw [if_neg same, if_neg same]
    show ((andThen
      (if (filter.uncovered s.stock.flags).isEmpty then pure (.ok ())
        else andThen (store.delete (filter.uncovered s.stock.flags)) (store.setChangeNumber (-1)))
      (store.setQueryText filter.queryText)).run s).2 = _
    rw [run_andThen]
    by_cases covered : (filter.uncovered s.stock.flags).isEmpty = true
    · rw [if_pos covered, if_pos covered]
      rfl
    · rw [if_neg covered, if_neg covered, run_andThen, run_delete]
      unfold Cache.cleared Cache.forgotten
      dsimp only
      by_cases deleted : (s.stock.ending faults).isOk = true
      · rw [deleted, if_pos rfl, if_pos rfl, run_setChangeNumber]
        dsimp only
        by_cases forgotten : ((s.stock.after (.delete (filter.uncovered s.stock.flags)) true).ending faults).isOk = true
        · rw [if_pos forgotten, if_pos forgotten]
          rfl
        · rw [if_neg forgotten, if_neg forgotten]
      · rw [if_neg deleted, if_neg deleted, if_neg deleted]

/-- Loading the cache changes nothing else here. -/
theorem run_loadFromCache : ((plain filter enabled (Cache.shelf faults)).loadFromCache).run s =
    ((), { s with stock := s.stock.loaded filter faults }) := by
  let s' : Scene Cache := (((plain filter enabled (Cache.shelf faults)).reconcile).run s).2
  have loaded : s' = { s with stock := s.stock.loaded filter faults } := run_reconcile
  show ((if (!s'.stock.flags.isEmpty) = true then pure () else pure () : Plain Cache Unit).run s') = _
  rw [ite_self, loaded]
  rfl

end Run

/-! ## What a load does -/

namespace Cache

variable {filter : FlagFilter} {faults : Faults} {c : Cache}

/-- What can become of a cache that is loaded. -/
inductive Load (filter : FlagFilter) (c : Cache) : Cache → Prop where
  /-- The filter is the one that the cache was loaded with before. -/
  | unchanged (same : c.queryText = some filter.queryText) : Load filter c c
  /-- Nothing was to be deleted, and the query text was tried to be written. -/
  | covered (other : c.queryText ≠ some filter.queryText) (covered : filter.uncovered c.flags = []) (ok : Bool) :
      Load filter c (c.after (.setQueryText filter.queryText) ok)
  /-- The deletion failed. -/
  | undeleted (other : c.queryText ≠ some filter.queryText) (some : filter.uncovered c.flags ≠ []) :
      Load filter c (c.after (.delete (filter.uncovered c.flags)) false)
  /-- After the deletion, the change number could not be forgotten. -/
  | unforgotten (other : c.queryText ≠ some filter.queryText) (some : filter.uncovered c.flags ≠ []) :
      Load filter c ((c.after (.delete (filter.uncovered c.flags)) true).after (.setChangeNumber (-1)) false)
  /-- After the deletion, the change number was forgotten, and the query text was tried to be written. -/
  | forgotten (other : c.queryText ≠ some filter.queryText) (some : filter.uncovered c.flags ≠ []) (ok : Bool) :
      Load filter c (((c.after (.delete (filter.uncovered c.flags)) true).after (.setChangeNumber (-1)) true).after
        (.setQueryText filter.queryText) ok)

theorem load (filter : FlagFilter) (faults : Faults) (c : Cache) : Load filter c (c.loaded filter faults) := by
  unfold loaded
  by_cases same : c.queryText = some filter.queryText
  · rw [if_pos same]
    exact .unchanged same
  · rw [if_neg same]
    by_cases covered : filter.uncovered c.flags = []
    · rw [if_pos (List.isEmpty_iff.2 covered)]
      exact .covered same covered _
    · rw [if_neg (by rwa [List.isEmpty_iff])]
      unfold cleared
      cases (c.ending faults).isOk with
      | false => exact .undeleted same covered
      | true =>
        dsimp only
        rw [if_pos rfl]
        unfold forgotten
        cases ((c.after (.delete (filter.uncovered c.flags)) true).ending faults).isOk with
        | false => exact .unforgotten same covered
        | true => exact .forgotten same covered _

/-- Once the flags that are not covered were deleted, all are covered. -/
theorem uncovered_written (filter : FlagFilter) (c : Cache) :
    filter.uncovered (c.written (.delete (filter.uncovered c.flags))).flags = [] := by
  unfold written FlagFilter.uncovered
  rw [List.map_eq_nil_iff, List.filter_eq_nil_iff]
  intro flag inside uncovered
  obtain ⟨among, stays⟩ := List.mem_filter.1 inside
  simp only [Bool.not_eq_true', List.contains_eq_mem, decide_eq_false_iff_not] at stays
  exact stays (List.mem_map.2 ⟨flag, List.mem_filter.2 ⟨among, uncovered⟩, rfl⟩)

end Cache

end FlagKeeper.FlagSync
