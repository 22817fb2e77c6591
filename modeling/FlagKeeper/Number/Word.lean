/-!
# Numbers of 64 bits

Counts, hashes and times are kept in 64 bits, with or without a sign. Here is how many values that gives, and when an integer is
one of them.
-/

namespace FlagKeeper

/-- How many values 64 bits have. -/
abbrev wordCount : Nat := 18446744073709551616

/-- How many of them are negative when one bit is a sign. -/
abbrev negativeCount : Nat := 9223372036854775808

/-- Whether an integer fits 64 bits with a sign. -/
def fitsSigned (n : Int) : Bool := -negativeCount ≤ n && n < negativeCount

/-- Whether an integer fits 64 bits without a sign. -/
def fitsUnsigned (n : Int) : Bool := 0 ≤ n && n < wordCount

/-- The closest integer that fits 64 bits with a sign. -/
def clampSigned (n : Int) : Int := max (-negativeCount) (min n (negativeCount - 1))

end FlagKeeper
