/-!
# Channels

A channel hands items from many senders to one receiver, in the order they were sent. What is sent once the receiver is gone is
lost.
-/

namespace FlagKeeper

/-- The items under way, and whether the receiver is still there. -/
structure Channel (α : Type) where
  queue : List α := []
  isOpen : Bool := true
  deriving Repr

namespace Channel

variable {α : Type}

/-- Sends an item. -/
def send (c : Channel α) (item : α) : Channel α := if c.isOpen then { c with queue := c.queue ++ [item] } else c

/-- Takes the oldest item out. -/
def receive (c : Channel α) : Option α × Channel α :=
  match c.queue with
  | [] => (none, c)
  | item :: rest => (some item, { c with queue := rest })

/-- The channel after its receiver has gone. -/
def close (_ : Channel α) : Channel α := { queue := [], isOpen := false }

end Channel

end FlagKeeper
