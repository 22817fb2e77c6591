/-!
# Workers in flight

A catalog holds the worker that is under way for each target. A target has one worker at most: whoever comes second is turned
away.
-/

namespace FlagKeeper

/-- The workers under way, by target, in the order they were put in. -/
structure Catalog (τ ω : Type) where
  entries : List (τ × ω) := []
  deriving Repr

namespace Catalog

variable {τ ω : Type} [DecidableEq τ]

/-- The worker of a target. -/
def find? (c : Catalog τ ω) (target : τ) : Option ω := (c.entries.find? fun entry => entry.1 = target).map (·.2)

/-- Whether a target has a worker. -/
def contains (c : Catalog τ ω) (target : τ) : Bool := c.entries.any fun entry => entry.1 = target

/-- Puts a worker in unless the target has one; says whether it went in. -/
def insertIfAbsent (c : Catalog τ ω) (target : τ) (worker : ω) : Bool × Catalog τ ω :=
  if c.contains target then (false, c) else (true, ⟨c.entries ++ [(target, worker)]⟩)

/-- Takes the worker of a target out. -/
def remove (c : Catalog τ ω) (target : τ) : Option ω × Catalog τ ω :=
  (c.find? target, ⟨c.entries.filter fun entry => entry.1 ≠ target⟩)

/-- Takes every worker out. -/
def takeAll (c : Catalog τ ω) : List ω × Catalog τ ω := (c.entries.map (·.2), {})

/-- How many workers are under way. -/
def size (c : Catalog τ ω) : Nat := c.entries.length

/-- Whether no worker is under way. -/
def isEmpty (c : Catalog τ ω) : Bool := c.entries.isEmpty

end Catalog

end FlagKeeper
