import FlagKeeper.Number.Word

/-!
# Double-precision numbers

A number with a fraction is kept as the 64 bits of its IEEE 754 double. Everything here is exact arithmetic on natural
numbers: a finite magnitude is `significand * 2 ^ exponent`, and a quotient of naturals is rounded to the nearest double,
a tie going to the even significand. A product or a quotient of doubles is rounded once.
-/

namespace FlagKeeper

/-- A double-precision number, given by its bits. -/
structure Double where
  bits : UInt64
  deriving DecidableEq, Repr

namespace Double

/-- The number of significand patterns of one binary exponent. -/
def fractionCount : Nat := 4503599627370496

/-- The bits without the sign, as a natural number. -/
def magnitudeBits (x : Double) : Nat := x.bits.toNat % negativeCount

/-- Whether the sign bit is set; `-0.0` is negative in this sense. -/
def isNegative (x : Double) : Bool := negativeCount ≤ x.bits.toNat

/-- The exponent field, 0 for zero and the subnormal numbers. -/
def biasedExponent (x : Double) : Nat := x.magnitudeBits / fractionCount

/-- The fraction field. -/
def fraction (x : Double) : Nat := x.magnitudeBits % fractionCount

/-- Neither infinite nor a NaN. -/
def isFinite (x : Double) : Bool := x.biasedExponent < 2047

/-- An exponent field of ones with a fraction is no number. -/
def isNaN (x : Double) : Bool := !x.isFinite && x.fraction != 0

/-- Either zero. -/
def isZero (x : Double) : Bool := x.magnitudeBits = 0

/-- The magnitude of a finite number is `significand * 2 ^ exponent`. -/
def significand (x : Double) : Nat :=
  if x.biasedExponent = 0 then x.fraction else fractionCount + x.fraction

/-- The power of two that the significand counts. -/
def exponent (x : Double) : Int :=
  if x.biasedExponent = 0 then -1074 else x.biasedExponent - 1075

/-- The number with a given sign and given other bits. -/
def ofMagnitude (negative : Bool) (magnitude : Nat) : Double :=
  ⟨UInt64.ofNat (if negative then negativeCount + magnitude else magnitude)⟩

/-- Positive or negative zero. -/
def zero (negative : Bool) : Double := ofMagnitude negative 0

/-- Positive or negative infinity. -/
def infinity (negative : Bool) : Double := ofMagnitude negative (2047 * fractionCount)

/-- The NaN with the top fraction bit set. -/
def nan : Double := ofMagnitude false (2047 * fractionCount + fractionCount / 2)

/-- `num / den` to the nearest natural number, a tie to the even one. -/
def roundRatio (num den : Nat) : Nat :=
  let quotient := num / den
  let twice := 2 * (num % den)
  if twice > den || (twice == den && quotient % 2 == 1) then quotient + 1 else quotient

/-- `num / den * 2 ^ shift` as a quotient of naturals. -/
def scaleRatio (num den : Nat) (shift : Int) : Nat × Nat :=
  if shift ≥ 0 then (num * Nat.pow 2 shift.toNat, den) else (num, den * Nat.pow 2 (-shift).toNat)

/-- The double nearest to `num / den`, for positive `num` and `den`. The significand field carries into the exponent field,
and past the largest exponent the result is infinite. -/
def ofRatio (negative : Bool) (num den : Nat) : Double :=
  let guess : Int := max (-1074) ((num.log2 : Int) - den.log2 - 53)
  let (n, d) := scaleRatio num den (-guess)
  let shift := if n / d ≥ 2 * fractionCount then guess + 1 else guess
  let (n, d) := scaleRatio num den (-shift)
  let magnitude := (shift + 1074).toNat * fractionCount + roundRatio n d
  if magnitude ≥ 2047 * fractionCount then infinity negative else ofMagnitude negative magnitude

/-- How many decimal digits `n` has; one for zero. -/
def digitCount (n : Nat) : Nat := (Nat.toDigits 10 n).length

/-- The double nearest to `digits * 10 ^ exponent`. Exponents far outside the range are settled without computing the
power. -/
def ofDecimal (negative : Bool) (digits : Nat) (exponent : Int) : Double :=
  let top := exponent + digitCount digits
  if digits = 0 || top < -400 then zero negative
  else if top > 400 then infinity negative
  else if exponent ≥ 0 then ofRatio negative (digits * Nat.pow 10 exponent.toNat) 1
  else ofRatio negative digits (Nat.pow 10 (-exponent).toNat)

/-- The double nearest to an integer. -/
def ofInt (n : Int) : Double :=
  if n = 0 then zero false else ofRatio (n < 0) n.natAbs 1

/-- The magnitude of a finite number as a quotient of naturals. -/
def ratio (x : Double) : Nat × Nat := scaleRatio x.significand 1 x.exponent

/-- The double nearest to the product of two finite numbers. -/
def mul (x y : Double) : Double :=
  let negative := x.isNegative != y.isNegative
  if x.isZero || y.isZero then zero negative
  else ofRatio negative (x.ratio.1 * y.ratio.1) (x.ratio.2 * y.ratio.2)

/-- The double nearest to the quotient of two finite numbers, the second of which is not zero. -/
def div (x y : Double) : Double :=
  let negative := x.isNegative != y.isNegative
  if x.isZero then zero negative
  else ofRatio negative (x.ratio.1 * y.ratio.2) (x.ratio.2 * y.ratio.1)

/-- The number with its sign turned. -/
def neg (x : Double) : Double := ofMagnitude (!x.isNegative) x.magnitudeBits

/-- The nearest integer to a finite number, a half going away from zero. -/
def roundAway (x : Double) : Int :=
  let (n, d) := x.ratio
  let magnitude := (2 * n + d) / (2 * d)
  if x.isNegative then -(magnitude : Int) else magnitude

/-- The nearest integer between two bounds; an infinity takes the bound on its side, and a NaN is zero. -/
def roundWithin (x : Double) (low high : Int) : Int :=
  if x.isNaN then 0
  else if x.isFinite then max low (min high x.roundAway)
  else if x.isNegative then low else high

end Double

end FlagKeeper
