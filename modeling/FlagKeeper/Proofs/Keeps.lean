import FlagKeeper.Host

/-!
# What programs keep

A program keeps a property of a state if the property holds after it whenever it held before. This goes from the parts of a program
to the whole, so that a property is followed through all programs of a part once it is known for the operations of its host and for
what it does with its own places.
-/

namespace FlagKeeper

variable {S α β : Type}

/-- A program keeps a property. -/
def Keeps (P : S → Prop) (x : StateM S α) : Prop := ∀ s, P s → P (x.run s).2

namespace Keeps

variable {P : S → Prop}

theorem pure (a : α) : Keeps P (Pure.pure a : StateM S α) := fun _ h => h

theorem bind {x : StateM S α} {f : α → StateM S β} (first : Keeps P x) (next : ∀ a, Keeps P (f a)) : Keeps P (x >>= f) :=
  fun s h => next _ _ (first s h)

theorem ite {c : Prop} [Decidable c] {x y : StateM S α} (yes : Keeps P x) (no : Keeps P y) :
    Keeps P (if c then x else y) := by
  by_cases h : c
  · rw [if_pos h]
    exact yes
  · rw [if_neg h]
    exact no

/-- Looking at the state changes nothing. -/
theorem read (look : S → α) : Keeps P (do return look (← get) : StateM S α) := fun _ h => h

/-- Doing something for each of some items keeps what doing it for one does. -/
theorem forM (items : List α) {act : α → StateM S PUnit} (each : ∀ a ∈ items, Keeps P (act a)) : Keeps P (items.forM act) := by
  induction items with
  | nil => exact pure _
  | cons a rest ih =>
    show Keeps P (act a >>= fun _ => rest.forM act)
    refine bind (each a List.mem_cons_self) fun _ => ?_
    exact ih fun b inside => each b (List.mem_cons_of_mem a inside)

/-- Doing something with a worker, if there is one. -/
theorem option {act : Worker → StateM S Unit} (kept : ∀ w, Keeps P (act w)) (w? : Option Worker) :
    Keeps P (match w? with
      | some w => act w
      | none => Pure.pure ()) := by
  cases w? with
  | none => exact pure _
  | some w => exact kept w

end Keeps

end FlagKeeper
