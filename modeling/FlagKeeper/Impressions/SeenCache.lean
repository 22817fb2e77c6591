/-!
# Recently seen impressions

A cache of bounded size from the hash of an impression to the time it was last seen. The hash set longest ago goes first. A hash
that is set again leaves its earlier place in the order behind as a stale position; stale positions are skipped, and cleared
away once there are too many.
-/

namespace FlagKeeper

/-- A hash and when its impression was last seen. -/
structure SeenImpression where
  hash : UInt64
  time : Int
  deriving DecidableEq, Repr

/-- What the cache holds for a hash: the time, and the number of the setting that put it there. -/
structure SeenSlot where
  time : Int
  serial : Nat
  deriving DecidableEq, Repr

/-- The cache. A position in `order` is live when its number is the one that the hash's slot carries. -/
structure SeenCache where
  capacity : Nat
  slots : List (UInt64 × SeenSlot) := []
  order : List (UInt64 × Nat) := []
  nextSerial : Nat := 0
  deriving Repr

namespace SeenCache

/-- An empty cache; it has room for at least one hash. -/
def new (capacity : Nat) : SeenCache := { capacity := max capacity 1 }

/-- What the cache holds for a hash. -/
def slot? (c : SeenCache) (hash : UInt64) : Option SeenSlot := c.slots.lookup hash

/-- How many hashes the cache holds. -/
def size (c : SeenCache) : Nat := c.slots.length

/-- The slots without that of one hash. -/
def without (hash : UInt64) (slots : List (UInt64 × SeenSlot)) : List (UInt64 × SeenSlot) :=
  slots.filter fun entry => entry.1 != hash

/-- Whether a position is the current one of its hash. -/
def isLive (slots : List (UInt64 × SeenSlot)) (position : UInt64 × Nat) : Bool :=
  (slots.lookup position.1).map (·.serial) == some position.2

/-- Takes positions off the front of the order until the slots fit the capacity. -/
def evict (capacity : Nat) (slots : List (UInt64 × SeenSlot)) : List (UInt64 × Nat) →
    List (UInt64 × SeenSlot) × List (UInt64 × Nat)
  | [] => (slots, [])
  | position :: rest =>
    if slots.length ≤ capacity then (slots, position :: rest)
    else evict capacity (if isLive slots position then without position.1 slots else slots) rest

/-- Clears stale positions away when they may outnumber the live ones. -/
def compact (capacity : Nat) (slots : List (UInt64 × SeenSlot)) (order : List (UInt64 × Nat)) : List (UInt64 × Nat) :=
  if order.length > capacity * 2 then order.filter (isLive slots) else order

/-- Sets the time of a hash and returns the one it had. -/
def testAndSet (c : SeenCache) (hash : UInt64) (time : Int) : Option Int × SeenCache :=
  let previous := (c.slot? hash).map (·.time)
  let slots := (hash, { time, serial := c.nextSerial }) :: without hash c.slots
  let (slots, order) := evict c.capacity slots (c.order ++ [(hash, c.nextSerial)])
  (previous, { c with slots, order := compact c.capacity slots order, nextSerial := c.nextSerial + 1 })

/-- The hashes with their times, the one set longest ago first. -/
def snapshot (c : SeenCache) : List SeenImpression :=
  c.order.filterMap fun position =>
    if isLive c.slots position then (c.slot? position.1).map fun slot => ⟨position.1, slot.time⟩ else none

/-- The cache after setting a list of hashes in order. -/
def ofList (capacity : Nat) (hashes : List SeenImpression) : SeenCache :=
  hashes.foldl (fun c h => (c.testAndSet h.hash h.time).2) (new capacity)

end SeenCache

end FlagKeeper
