/-!
# Sets of characters

A property of the Unicode standard is a set of characters. It is given by the ranges of code points that have it, in ascending
order.
-/

namespace FlagKeeper

/-- Whether a character lies in one of the ranges. -/
def inRanges (ranges : List (Nat × Nat)) (c : Char) : Bool :=
  ranges.any fun (first, last) => first ≤ c.toNat && c.toNat ≤ last

end FlagKeeper
