import FlagKeeper.Number.Double

/-!
# The shortest decimal text of a double

A double stands for the interval of reals that round to it. Its shortest text has the fewest digits of all decimals in that
interval, and among those of that length the one nearest to the double. `Double.shortest` finds the digits, a `DecimalLayout`
places the point.
-/

namespace FlagKeeper

/-- Whether a grid point `c * 10 ^ grid` lies in the interval of reals that round to a double, all in the common unit
`2 ^ (exponent - 2) * 10 ^ grid` split into a numerator and a denominator. -/
structure RoundingInterval where
  low : Nat
  value : Nat
  high : Nat
  unit : Nat
  closed : Bool

namespace RoundingInterval

/-- The interval of a finite non-zero double, scaled so that the grid points are the multiples of `unit`. Below a power of
two the neighbour is nearer, so the interval is shorter on that side. -/
def ofDouble (x : Double) (grid : Int) : RoundingInterval :=
  let m := x.significand
  let below := if x.fraction = 0 && x.biasedExponent > 1 then 1 else 2
  let (num, den) := Double.scaleRatio 1 1 (x.exponent - 2)
  let (up, down) := if grid ≥ 0 then (1, Nat.pow 10 grid.toNat) else (Nat.pow 10 (-grid).toNat, 1)
  let scale := num * up
  { low := (4 * m - below) * scale, value := 4 * m * scale, high := (4 * m + 2) * scale, unit := den * down,
    closed := m % 2 = 0 }

/-- Whether the grid point `c` rounds to the double. -/
def contains (i : RoundingInterval) (c : Nat) : Bool :=
  let point := c * i.unit
  if i.closed then i.low ≤ point && point ≤ i.high else i.low < point && point < i.high

/-- The grid point nearest to the double among its two neighbours, if one of them rounds to it. -/
def nearest? (i : RoundingInterval) : Option Nat :=
  let c := i.value / i.unit
  let excess := 2 * (i.value % i.unit)
  match i.contains c, i.contains (c + 1) with
  | true, true => some (if excess < i.unit || (excess == i.unit && c % 2 == 0) then c else c + 1)
  | true, false => some c
  | false, true => some (c + 1)
  | false, false => none

end RoundingInterval

namespace Double

/-- The decimal exponent of a positive quotient: `10 ^ e ≤ num / den < 10 ^ (e + 1)`. -/
def decimalExponent (num den : Nat) : Int :=
  if num ≥ den then (digitCount (num / den) : Int) - 1 else -(digitCount ((den - 1) / num) : Int)

/-- The first of the grids with `count`, `count + 1`, … digits that has a point in the interval. Seventeen digits always
suffice. -/
def shortestFrom (x : Double) (top : Int) : Nat → Nat → Nat × Int
  | _, 0 => (0, 0)
  | count, tries + 1 =>
    let grid := top - ((count : Int) - 1)
    match (RoundingInterval.ofDouble x grid).nearest? with
    | some c => (c, grid)
    | none => shortestFrom x top (count + 1) tries

/-- Digits and grid exponent of the shortest decimal that reads back as a finite non-zero double. -/
def shortest (x : Double) : Nat × Int :=
  let (num, den) := x.ratio
  shortestFrom x (decimalExponent num den) 1 17

end Double

/-- Where a decimal text has its point and its exponent. -/
structure DecimalLayout where
  /-- The decimal exponents that are written without an exponent part. -/
  positional : Int → Bool
  /-- Whether a whole number in positional form ends in `.0`. -/
  pointAlways : Bool
  /-- The texts of the values that are not finite. -/
  notANumber : String
  infinite : String

namespace DecimalLayout

/-- In a document, exponents from -5 to 15 are written positionally with a point, all others as `1.5e+300`. A document has no
text for a value that is not finite. -/
def document : DecimalLayout :=
  { positional := fun e => -5 ≤ e && e ≤ 15, pointAlways := true, notANumber := "null", infinite := "null" }

/-- As a name, a number is always positional and a whole number has no point. -/
def plain : DecimalLayout :=
  { positional := fun _ => true, pointAlways := false, notANumber := "NaN", infinite := "inf" }

/-- The digits `ds`, the first of which has weight `10 ^ e`, in positional form. -/
def positionalText (l : DecimalLayout) (ds : List Char) (e : Int) : List Char :=
  if e < 0 then '0' :: '.' :: (List.replicate (-e - 1).toNat '0' ++ ds)
  else
    let width := e.toNat + 1
    let whole := ds.take width ++ List.replicate (width - ds.length) '0'
    match ds.drop width with
    | [] => if l.pointAlways then whole ++ ['.', '0'] else whole
    | rest => whole ++ '.' :: rest

/-- The digits `ds`, the first of which has weight `10 ^ e`, with an exponent part. -/
def scientificText (ds : List Char) (e : Int) : List Char :=
  let mantissa :=
    match ds with
    | [] => []
    | [d] => [d]
    | d :: rest => d :: '.' :: rest
  mantissa ++ 'e' :: (if e < 0 then '-' else '+') :: Nat.toDigits 10 e.natAbs

/-- The text of a number without its sign. -/
def magnitudeText (l : DecimalLayout) (x : Double) : List Char :=
  if x.isZero then l.positionalText ['0'] 0
  else
    let (digits, grid) := x.shortest
    let written := Nat.toDigits 10 digits
    let e := grid + written.length - 1
    let ds := (written.reverse.dropWhile (· == '0')).reverse
    if l.positional e then l.positionalText ds e else scientificText ds e

/-- The text of a number. -/
def text (l : DecimalLayout) (x : Double) : String :=
  if x.isNaN then l.notANumber
  else
    let sign := if x.isNegative then "-" else ""
    if x.isFinite then sign ++ String.ofList (l.magnitudeText x) else sign ++ l.infinite

end DecimalLayout

end FlagKeeper
