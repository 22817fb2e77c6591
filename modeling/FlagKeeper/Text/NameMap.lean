/-!
# Values by name

A table from names to values is a list of pairs in ascending order of the names. `putNamed` keeps that order and gives each name
one value, the last one set.
-/

namespace FlagKeeper

/-- Sets the value of a name; an earlier value is replaced. -/
def putNamed {α : Type} (name : String) (value : α) : List (String × α) → List (String × α)
  | [] => [(name, value)]
  | (other, held) :: rest =>
    if name < other then (name, value) :: (other, held) :: rest
    else if other < name then (other, held) :: putNamed name value rest
    else (name, value) :: rest

/-- The name just set has the value just given. -/
theorem lookup_putNamed_self {α : Type} (name : String) (value : α) (table : List (String × α)) :
    (putNamed name value table).lookup name = some value := by
  induction table with
  | nil => simp [putNamed]
  | cons pair rest ih =>
    obtain ⟨other, held⟩ := pair
    rw [putNamed]
    split
    · simp
    · split
      · rename_i h
        have hne : (name == other) = false := by
          simp only [beq_eq_false_iff_ne, ne_eq]
          exact fun e => String.lt_irrefl _ (e ▸ h)
        simp [List.lookup_cons, hne, ih]
      · simp

/-- Every other name keeps its value. -/
theorem lookup_putNamed_of_ne {α : Type} {name other : String} (h : other ≠ name) (value : α)
    (table : List (String × α)) : (putNamed name value table).lookup other = table.lookup other := by
  have hb : (other == name) = false := by simpa using h
  induction table with
  | nil => simp [putNamed, List.lookup_cons, hb]
  | cons pair rest ih =>
    obtain ⟨key, held⟩ := pair
    rw [putNamed]
    split
    · simp [List.lookup_cons, hb]
    · split
      · simp [List.lookup_cons, ih]
      · rename_i h1 h2
        have hk : key = name := String.le_antisymm h1 h2
        subst hk
        simp [List.lookup_cons, hb]

/-- What a table holds after a value was set is that value, or was there before. -/
theorem mem_of_mem_putNamed {α : Type} {name : String} {value : α} {table : List (String × α)} {entry : String × α}
    (h : entry ∈ putNamed name value table) : entry = (name, value) ∨ entry ∈ table := by
  induction table with
  | nil => exact .inl (List.mem_singleton.1 h)
  | cons pair rest ih =>
    obtain ⟨key, held⟩ := pair
    rw [putNamed] at h
    split at h
    · exact List.mem_cons.1 h
    · split at h
      · rcases List.mem_cons.1 h with rfl | h
        · exact .inr List.mem_cons_self
        · exact (ih h).imp_right (List.mem_cons_of_mem _)
      · exact (List.mem_cons.1 h).imp_right (List.mem_cons_of_mem _)

end FlagKeeper
