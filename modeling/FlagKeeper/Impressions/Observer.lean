import FlagKeeper.Host

/-!
# The observer's memory across restarts

The hashes that the observer has seen can be stored, and seed the observer of a later run. Where there is no store, or where it
fails, the observer starts empty and forgets at the end.
-/

namespace FlagKeeper.SeenCache

variable {m : Type → Type} [Monad m]

/-- A cache seeded with the stored hashes, or an empty one where there are none to be had. -/
def restore (capacity : Nat) (hashes : Option (HashStore m)) : m SeenCache :=
  match hashes with
  | none => return .new capacity
  | some store => do
    match ← store.all with
    | .ok seen => return .ofList capacity seen
    | .error _ => return .new capacity

/-- Stores the hashes of a cache, where there is a store. A failure is borne. -/
def save (c : SeenCache) (hashes : Option (HashStore m)) : m Unit :=
  match hashes with
  | none => return ()
  | some store => do
    let _ ← store.replace c.snapshot

end FlagKeeper.SeenCache
