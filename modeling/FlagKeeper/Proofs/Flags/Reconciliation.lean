import FlagKeeper.Proofs.Flags.Cache

/-!
# Reconciling a cache whose writes may fail

After flags were deleted from the cache, all flags are to be fetched anew, so the change number has to be forgotten before the query text
says that the cache is that of the filter. Loading the cache tries the three writes in this order, and stops at one that fails. But what
the next load finds to be done depends on the flags alone: once they were deleted, it goes straight to the query text. The main statement
of this file says what comes of that over any number of loads: there is one deletion at most, the change number is forgotten since then
just if it could be in that same load, and if it could not, no later load makes up for it (`forgotten_since_deletion_iff`).
-/

namespace FlagKeeper.FlagSync

/-- The synchronizer after its cache was loaded some times. -/
def afterLoads (filter : FlagFilter) (enabled : Bool) (faults : Faults) (s : Scene Cache) : Nat → Scene Cache
  | 0 => s
  | n + 1 => (((plain filter enabled (Cache.shelf faults)).loadFromCache).run (afterLoads filter enabled faults s n)).2

namespace Cache

/-- Whether flags were deleted. -/
def isDeletion : Write × Bool → Bool
  | (.delete _, ok) => ok
  | _ => false

/-- Whether the change number was tried to be written in vain. -/
def isMissedNumber : Write × Bool → Bool
  | (.setChangeNumber _, ok) => !ok
  | _ => false

/-- Whether only the query text was tried to be written, or flags were tried to be deleted in vain. -/
def isHarmless : Write × Bool → Bool
  | (.setQueryText _, _) => true
  | (.delete _, ok) => !ok
  | _ => false

/-- Whether the change number was forgotten since flags were deleted the last time, by what was tried, the latest first. -/
def isResetSince : List (Write × Bool) → Bool
  | [] => false
  | (.delete _, true) :: _ => false
  | (.setChangeNumber n, true) :: earlier => n = -1 || isResetSince earlier
  | _ :: earlier => isResetSince earlier

section Harmless

variable {tried : List (Write × Bool)}

theorem countP_harmless (harmless : ∀ t ∈ tried, isHarmless t = true) : tried.countP isDeletion = 0 := by
  rw [List.countP_eq_zero]
  rintro ⟨w, ok⟩ inside deletion
  have kind := harmless _ inside
  cases w with
  | delete names =>
    cases ok with
    | true => cases kind
    | false => cases deletion
  | _ => cases deletion

theorem any_harmless (harmless : ∀ t ∈ tried, isHarmless t = true) : tried.any isMissedNumber = false := by
  rw [List.any_eq_false]
  rintro ⟨w, ok⟩ inside missed
  have kind := harmless _ inside
  cases w with
  | setChangeNumber n => cases kind
  | _ => cases missed

theorem isResetSince_harmless (harmless : ∀ t ∈ tried, isHarmless t = true) (earlier : List (Write × Bool)) :
    isResetSince (tried ++ earlier) = isResetSince earlier := by
  induction tried with
  | nil => rfl
  | cons t rest ih =>
    have kind := harmless t List.mem_cons_self
    obtain ⟨w, ok⟩ := t
    have later := ih fun t inside => harmless t (List.mem_cons_of_mem _ inside)
    cases w with
    | delete names =>
      cases ok with
      | true => cases kind
      | false => exact later
    | setQueryText text => exact later
    | _ => cases kind

end Harmless

/-! ## What loads come to -/

variable {filter : FlagFilter} {c₀ c c' : Cache}

/-- No flag was deleted yet, and the change number is as it was. -/
structure Untouched (c₀ c : Cache) : Prop where
  changeNumber : c.changeNumber = c₀.changeNumber
  tried : ∀ t ∈ c.tried, isHarmless t = true

/-- Flags were deleted in one load, in which the change number came next. -/
structure Cleared (filter : FlagFilter) (c₀ : Cache) (forgotten : Bool) (c : Cache) : Prop where
  covered : filter.uncovered c.flags = []
  changeNumber : c.changeNumber = if forgotten then -1 else c₀.changeNumber
  tried : ∃ later names earlier, c.tried = later ++ (.setChangeNumber (-1), forgotten) :: (.delete names, true) :: earlier ∧
    (∀ t ∈ later, isHarmless t = true) ∧ ∀ t ∈ earlier, isHarmless t = true

theorem Untouched.load (h : Untouched c₀ c) (load : Load filter c c') :
    Untouched c₀ c' ∨ ∃ forgotten, Cleared filter c₀ forgotten c' := by
  cases load with
  | unchanged => exact .inl h
  | covered other covered ok =>
    refine .inl ⟨?_, List.forall_mem_cons.2 ⟨rfl, h.tried⟩⟩
    cases ok <;> exact h.changeNumber
  | undeleted => exact .inl ⟨h.changeNumber, List.forall_mem_cons.2 ⟨rfl, h.tried⟩⟩
  | unforgotten =>
    exact .inr ⟨false, uncovered_written filter c, h.changeNumber, [], _, c.tried, rfl, List.forall_mem_nil _, h.tried⟩
  | forgotten other some ok =>
    refine .inr ⟨true, ?_, ?_, [(.setQueryText filter.queryText, ok)], _, c.tried, rfl, List.forall_mem_singleton.2 rfl, h.tried⟩
    · cases ok <;> exact uncovered_written filter c
    · cases ok <;> rfl

theorem Cleared.load {forgotten : Bool} (h : Cleared filter c₀ forgotten c) (load : Load filter c c') :
    Cleared filter c₀ forgotten c' := by
  cases load with
  | unchanged => exact h
  | covered other covered ok =>
    obtain ⟨later, names, earlier, tried, texts, vain⟩ := h.tried
    refine ⟨?_, ?_, (.setQueryText filter.queryText, ok) :: later, names, earlier, ?_, List.forall_mem_cons.2 ⟨rfl, texts⟩, vain⟩
    · cases ok <;> exact h.covered
    · cases ok <;> exact h.changeNumber
    · exact congrArg (_ :: ·) tried
  | undeleted other some => exact absurd h.covered some
  | unforgotten other some => exact absurd h.covered some
  | forgotten other some => exact absurd h.covered some

/-- What any number of loads comes to. -/
theorem loads_cases (filter : FlagFilter) (enabled : Bool) (faults : Faults) {s : Scene Cache} (fresh : s.stock.tried = [])
    (n : Nat) :
    Untouched s.stock (afterLoads filter enabled faults s n).stock ∨
      ∃ forgotten, Cleared filter s.stock forgotten (afterLoads filter enabled faults s n).stock := by
  induction n with
  | zero => exact .inl ⟨rfl, fun t inside => by rw [afterLoads, fresh] at inside; cases inside⟩
  | succ n ih =>
    have step : (afterLoads filter enabled faults s (n + 1)).stock =
        (afterLoads filter enabled faults s n).stock.loaded filter faults :=
      congrArg (fun out : Unit × Scene Cache => out.2.stock) run_loadFromCache
    have load := Cache.load filter faults (afterLoads filter enabled faults s n).stock
    rw [← step] at load
    rcases ih with untouched | ⟨forgotten, cleared⟩
    · exact untouched.load load
    · exact .inr ⟨forgotten, cleared.load load⟩

end Cache

open Cache (isDeletion isMissedNumber isResetSince)

/-- **What failing writes cost.** Of any filter, over any cache, whichever of its calls fail, after any number of loads:

1. Flags were deleted in one load at most.
2. If they were, all flags of the cache are covered; the change number was forgotten since then just if it was never tried to be
   written in vain; and if it was not forgotten, it is still what it was at first. -/
theorem forgotten_since_deletion_iff (filter : FlagFilter) (enabled : Bool) (faults : Faults) (s : Scene Cache)
    (fresh : s.stock.tried = []) (n : Nat) :
    let c := (afterLoads filter enabled faults s n).stock
    c.tried.countP isDeletion ≤ 1 ∧
    (c.tried.any isDeletion = true →
      filter.uncovered c.flags = [] ∧
      (isResetSince c.tried = true ↔ c.tried.any isMissedNumber = false) ∧
      c.changeNumber = if isResetSince c.tried then -1 else s.stock.changeNumber) := by
  intro c
  rcases Cache.loads_cases filter enabled faults fresh n with untouched | ⟨forgotten, cleared⟩
  · have none : c.tried.countP isDeletion = 0 := Cache.countP_harmless untouched.tried
    refine ⟨none ▸ Nat.zero_le 1, fun some => ?_⟩
    rw [List.any_eq_true, ← List.countP_pos_iff, none] at some
    cases some
  · obtain ⟨later, names, earlier, tried, texts, vain⟩ := cleared.tried
    have tried : c.tried = _ := tried
    have since : isResetSince c.tried = forgotten := by
      rw [tried, Cache.isResetSince_harmless texts]
      cases forgotten <;> rfl
    have missed : c.tried.any isMissedNumber = !forgotten := by
      rw [tried, List.any_append, List.any_cons, List.any_cons, Cache.any_harmless texts, Cache.any_harmless vain]
      cases forgotten <;> rfl
    refine ⟨?_, fun _ => ⟨cleared.covered, ?_, ?_⟩⟩
    · rw [tried, List.countP_append, List.countP_cons, List.countP_cons, Cache.countP_harmless texts, Cache.countP_harmless vain]
      exact Nat.le_refl 1
    · rw [since, missed]
      cases forgotten <;> simp
    · rw [since]
      exact cleared.changeNumber

/-- The second write fails, and no other. -/
def failsSecond : Faults where
  write n := if n = 1 then .error (.storage "the disk is full") else .ok ()

/-- A synchronizer that is to keep one of two flags. -/
def keepsOne : Scene Cache :=
  ({ filter := .byNames ["keep"]
     syncEnabled := true
     shelf := Cache.shelf failsSecond
     stock := { flags := [⟨"keep", 1, .empty, false, "off"⟩, ⟨"drop", 1, .empty, false, "off"⟩], changeNumber := 50 }
     prompt := fun _ => none : Setup Cache }).scene

/-- After two loads, the query text says that all is well, and the change number is still the old one. -/
theorem forgotten_since_deletion_iff_missed :
    (afterLoads (.byNames ["keep"]) true failsSecond keepsOne 2).stock.changeNumber = 50 := by
  obtain ⟨-, deleted⟩ := forgotten_since_deletion_iff (.byNames ["keep"]) true failsSecond keepsOne rfl 2
  obtain ⟨-, since, number⟩ := deleted rfl
  have missed : ¬isResetSince (afterLoads (.byNames ["keep"]) true failsSecond keepsOne 2).stock.tried = true := fun reset => by
    cases since.1 reset
  rw [number, if_neg missed]
  rfl

/-- A load that writes the query text does not always find that the change number was forgotten. -/
theorem reset_missed_after_deletion :
    ¬∀ (filter : FlagFilter) (enabled : Bool) (faults : Faults) (s : Scene Cache), s.stock.tried = [] → ∀ n,
      let c := (afterLoads filter enabled faults s n).stock
      c.tried.any isDeletion = true → c.queryText = some filter.queryText → isResetSince c.tried = true := by
  intro always
  cases always (.byNames ["keep"]) true failsSecond keepsOne rfl 2 rfl rfl

end FlagKeeper.FlagSync
