import FlagKeeper.FlushGauge
import FlagKeeper.Host

/-!
# Offering items for delivery

An item goes into a queue of the host, and a gauge says when the queue is due to be sent.
-/

namespace FlagKeeper.Queue

variable {m : Type → Type} [Monad m] {α : Type}

/-- Puts an item into the queue; says whether the queue is due to be sent. An item that the queue refuses does not count. -/
def offer (q : Queue m α) (gauge : Cell m FlushGauge) (item : α) (size : Nat) : m Bool := do
  match ← q.push item with
  | .error _ => return false
  | .ok () =>
    gauge.step fun g =>
      let next := g.add size
      (next.isDue, next)

end FlagKeeper.Queue
