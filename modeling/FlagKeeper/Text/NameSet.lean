/-!
# Sets of names

A set of names is kept as a strictly ascending list, so that two sets with the same names are equal and a set always comes out
in the same order. Names are ordered by code points.
-/

namespace FlagKeeper

/-- A finite set of names. -/
structure NameSet where
  toList : List String
  ascending : toList.Pairwise (· < ·)

namespace NameSet

/-- Puts `x` in its place in an ascending list, unless it is there already. -/
def place (x : String) : List String → List String
  | [] => [x]
  | y :: ys => if x < y then x :: y :: ys else if y < x then y :: place x ys else y :: ys

theorem mem_place {x z : String} {ys : List String} (h : z ∈ place x ys) : z = x ∨ z ∈ ys := by
  induction ys with
  | nil => exact Or.inl (by simpa [place] using h)
  | cons y ys ih =>
    rw [place] at h
    split at h
    · simpa using h
    · split at h
      · rcases List.mem_cons.mp h with h | h
        · exact Or.inr (h ▸ List.mem_cons_self)
        · exact (ih h).imp id (List.mem_cons_of_mem y)
      · exact Or.inr h

theorem pairwise_place (x : String) {ys : List String} (h : ys.Pairwise (· < ·)) : (place x ys).Pairwise (· < ·) := by
  induction ys with
  | nil => simp [place]
  | cons y ys ih =>
    obtain ⟨hy, hys⟩ := List.pairwise_cons.mp h
    rw [place]
    split
    · rename_i hxy
      refine List.pairwise_cons.mpr ⟨fun z hz => ?_, h⟩
      rcases List.mem_cons.mp hz with hz | hz
      · exact hz ▸ hxy
      · exact String.lt_trans hxy (hy z hz)
    · split
      · rename_i hyx
        refine List.pairwise_cons.mpr ⟨fun z hz => ?_, ih hys⟩
        rcases mem_place hz with hz | hz
        · exact hz ▸ hyx
        · exact hy z hz
      · exact h

/-- The set without names. -/
def empty : NameSet := ⟨[], .nil⟩

instance : Inhabited NameSet := ⟨empty⟩

/-- The set with one more name. -/
def insert (s : NameSet) (x : String) : NameSet := ⟨place x s.toList, pairwise_place x s.ascending⟩

/-- The set of the names of a list. -/
def ofList (xs : List String) : NameSet := xs.foldl insert empty

/-- Two sets with the same names in order are equal. -/
theorem ext {s t : NameSet} (h : s.toList = t.toList) : s = t := by
  cases s
  cases t
  cases h
  rfl

instance : DecidableEq NameSet := fun s t =>
  if h : s.toList = t.toList then .isTrue (ext h) else .isFalse fun e => h (e ▸ rfl)

/-- Whether a name is in the set. -/
def contains (s : NameSet) (x : String) : Bool := s.toList.contains x

/-- Whether there is no name in the set. -/
def isEmpty (s : NameSet) : Bool := s.toList.isEmpty

/-- How many names the set has. -/
def size (s : NameSet) : Nat := s.toList.length

/-- Whether no name is in both sets. -/
def isDisjoint (s t : NameSet) : Bool := s.toList.all fun x => !t.contains x

/-- The names in order, with commas between them. -/
def commaSeparated (s : NameSet) : String := ",".intercalate s.toList

end NameSet

end FlagKeeper
