import FlagKeeper.Proofs.Flags.Cache
import FlagKeeper.Proofs.Flags.FilterScope

/-!
# A changed filter that goes unnoticed

Whether the filter has changed since the cache was written is told from the query text. So a change that the query text does not show
goes unnoticed, and flags stay in the cache that the new filter does not cover. The main statement of this file says for which changes
that is so: those that do not show in the text and that leave out some flags. Filters whose members have commas or ampersands in them
may be among them, and filters by sets that differ in another restriction, which is not in the text (`change_unnoticed_by_sets`).
-/

namespace FlagKeeper.FlagSync

open FlagFilter (CoversNothing Within IsLegible)

variable {β : Type} {s : Scene β} {filter : FlagFilter} {enabled : Bool} {shelf : Shelf β}

/-- Where the stored query text is that of the filter, there is nothing to be done. -/
theorem run_reconcile_unchanged (same : shelf.queryText s.stock = some filter.queryText) :
    ((plain filter enabled shelf).reconcile).run s = (.ok (), s) := by
  show ((if shelf.queryText s.stock = some filter.queryText then pure (.ok ()) else _ : Plain β Outcome).run s) = _
  rw [if_pos same]
  rfl

/-- No flag is left out just if none of the flags that were kept is. -/
theorem uncovered_eq_nil_iff (f g : FlagFilter) :
    (∀ cached, f.uncovered cached = [] → g.uncovered cached = []) ↔ ∀ flag, f.keeps flag = true → g.keeps flag = true := by
  have covered (f : FlagFilter) (cached : List FeatureFlag) : f.uncovered cached = [] ↔ ∀ flag ∈ cached, f.keeps flag = true := by
    unfold FlagFilter.uncovered
    rw [List.map_eq_nil_iff, List.filter_eq_nil_iff]
    simp
  constructor
  · intro none flag kept
    have left := none [flag] ((covered f [flag]).2 (by simpa using kept))
    exact (covered g [flag]).1 left flag List.mem_cons_self
  · intro covers cached kept
    rw [covered] at kept ⊢
    exact fun flag inside => covers flag (kept flag inside)

/-- **Which changes go unnoticed.** For any two filters of the same query text and any store of flags that has this text:

1. When the cache is loaded with the other filter, nothing is changed in it.
2. So, of caches that the one filter left, no flag ever stays that the other does not cover just if the one covers no flag at all, or
   if the restrictions of the other allow whatever those of the one allow.
3. The two keep the same flags just if that goes both ways.
4. If no member of either has a comma or an ampersand in it, the two have the same sets; and without sets they are the same filter, so
   that nothing has gone unnoticed. -/
theorem unnoticed_change_iff (old new : FlagFilter) (same : old.queryText = new.queryText)
    (stored : shelf.queryText s.stock = some old.queryText) :
    ((plain new enabled shelf).reconcile).run s = (.ok (), s) ∧
    ((∀ cached, old.uncovered cached = [] → new.uncovered cached = []) ↔ old.CoversNothing ∨ old.Within new) ∧
    ((∀ flag, old.keeps flag = new.keeps flag) ↔ (old.CoversNothing ∨ old.Within new) ∧ (new.CoversNothing ∨ new.Within old)) ∧
    (old.IsLegible → new.IsLegible → old.sets = new.sets ∧ (old.sets.isEmpty = true → old = new)) := by
  refine ⟨run_reconcile_unchanged (stored.trans (congrArg some same)), ?_, ?_, ?_⟩
  · rw [uncovered_eq_nil_iff, FlagFilter.covers_iff]
  · rw [← FlagFilter.covers_iff, ← FlagFilter.covers_iff]
    constructor
    · intro equal
      exact ⟨fun flag kept => equal flag ▸ kept, fun flag kept => (equal flag).symm ▸ kept⟩
    · rintro ⟨forth, back⟩ flag
      exact Bool.eq_iff_iff.2 ⟨forth flag, back flag⟩
  · exact fun legible legible' => FlagFilter.queryText_inj legible legible' same

/-- A filter by a set. -/
def bySet : FlagFilter := .bySets ["s"]

/-- A filter by the same set and a name. -/
def bySetAndName : FlagFilter := { names := .ofList ["x"], sets := .ofList ["s"] }

/-- A synchronizer whose cache was loaded with the filter by the set. -/
def loadedBySet : Scene Cache :=
  ({ filter := bySetAndName
     syncEnabled := true
     shelf := Cache.shelf {}
     stock := { flags := [FlagFilter.flagOf "other" (.ofList ["s"])], changeNumber := 50, queryText := some "&sets=s" }
     prompt := fun _ => none : Setup Cache }).scene

/-- That the name was added goes unnoticed, and a flag stays that has another one. -/
theorem unnoticed_change_iff_set :
    ((plain bySetAndName true (Cache.shelf {})).reconcile).run loadedBySet = (.ok (), loadedBySet) ∧
    ¬(bySet.CoversNothing ∨ bySet.Within bySetAndName) := by
  have stored : (Cache.shelf {}).queryText loadedBySet.stock = some bySet.queryText := rfl
  obtain ⟨unchanged, exact, -, -⟩ := unnoticed_change_iff (s := loadedBySet) bySet bySetAndName rfl stored
  refine ⟨unchanged, fun covers => ?_⟩
  have none := exact.2 covers loadedBySet.stock.flags rfl
  cases none

/-- Not every change of a filter shows in its query text. -/
theorem change_unnoticed_by_sets :
    ¬∀ old new : FlagFilter, old.validate = .ok () → new.validate = .ok () → old.queryText = new.queryText →
      ∀ flag, old.keeps flag = new.keeps flag := by
  intro shows
  have kept := shows bySet bySetAndName rfl rfl rfl (FlagFilter.flagOf "other" (.ofList ["s"]))
  cases kept

end FlagKeeper.FlagSync
