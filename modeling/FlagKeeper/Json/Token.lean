import FlagKeeper.Json.Basic

/-!
# Tokens of document text

The text of a document is first cut into tokens. Blanks between tokens are dropped; a text is decoded and a number is given
its value. A number without point and exponent that fits 64 bits is whole, every other number is a double, worked out from its
digits in the arithmetic of doubles; one beyond the range of doubles is refused.
-/

namespace FlagKeeper

namespace Json

/-- The smallest lexical pieces of a document. -/
inductive Token where
  | openList
  | closeList
  | openRecord
  | closeRecord
  | comma
  | colon
  | value (v : Json)

/-- The blanks that may stand between tokens. -/
def isBlank (c : Char) : Bool := c = ' ' || c = '\n' || c = '\t' || c = '\r'

/-- The value of a hexadecimal digit. -/
def hexDigit? (c : Char) : Option Nat :=
  if '0' ≤ c && c ≤ '9' then some (c.toNat - 48)
  else if 'a' ≤ c && c ≤ 'f' then some (c.toNat - 87)
  else if 'A' ≤ c && c ≤ 'F' then some (c.toNat - 55)
  else none

/-- The number written by four hexadecimal digits at the front. -/
def hexQuad? : List Char → Option (Nat × List Char)
  | a :: b :: c :: d :: rest => do
    let a ← hexDigit? a
    let b ← hexDigit? b
    let c ← hexDigit? c
    let d ← hexDigit? d
    return (((a * 16 + b) * 16 + c) * 16 + d, rest)
  | _ => none

/-- The character of an escape by number, after its `u`. A high surrogate must be followed by the escape of a low one. -/
def unicodeEscape? (s : List Char) : Option (Char × List Char) := do
  let (high, rest) ← hexQuad? s
  if 0xD800 ≤ high && high < 0xDC00 then
    match rest with
    | '\\' :: 'u' :: rest =>
      let (low, rest) ← hexQuad? rest
      if 0xDC00 ≤ low && low < 0xE000 then
        return (Char.ofNat (0x10000 + (high - 0xD800) * 0x400 + (low - 0xDC00)), rest)
      else none
    | _ => none
  else if 0xDC00 ≤ high && high < 0xE000 then none
  else return (Char.ofNat high, rest)

/-- The character of an escape by letter. -/
def letterEscape? (c : Char) : Option Char :=
  if c = '\x22' || c = '\\' || c = '/' then some c
  else if c = 'b' then some '\x08'
  else if c = 'f' then some '\x0c'
  else if c = 'n' then some '\n'
  else if c = 'r' then some '\r'
  else if c = 't' then some '\t'
  else none

/-- Reads a text up to its closing quote. `fuel` bounds the number of characters; `done` holds the characters read so far,
last first. -/
def stringBody? : Nat → List Char → List Char → Option (String × List Char)
  | 0, _, _ => none
  | _ + 1, _, [] => none
  | fuel + 1, done, c :: rest =>
    if c = '\x22' then some (String.ofList done.reverse, rest)
    else if c = '\\' then
      match rest with
      | 'u' :: rest =>
        match unicodeEscape? rest with
        | some (c, rest) => stringBody? fuel (c :: done) rest
        | none => none
      | e :: rest =>
        match letterEscape? e with
        | some c => stringBody? fuel (c :: done) rest
        | none => none
      | [] => none
    else if c.toNat < 32 then none
    else stringBody? fuel (c :: done) rest

/-- The decimal digits at the front. -/
def digits (s : List Char) : List Char × List Char := (s.takeWhile Char.isDigit, s.dropWhile Char.isDigit)

/-- The value of a list of decimal digits. -/
def digitsValue (ds : List Char) : Nat := ds.foldl (fun n c => n * 10 + (c.toNat - 48)) 0

/-- The whole part of a number: no digit stands behind a leading zero. -/
def wholePart? (s : List Char) : Option (List Char × List Char) :=
  match digits s with
  | ([], _) => none
  | ('0' :: _ :: _, _) => none
  | split => some split

/-- The digits behind the point, if there is one. -/
def fractionPart? : List Char → Option (List Char × List Char)
  | '.' :: rest =>
    match digits rest with
    | ([], _) => none
    | split => some split
  | rest => some ([], rest)

/-- The exponent, if there is one. -/
def exponentPart? : List Char → Option (Option Int × List Char)
  | e :: rest =>
    if e = 'e' || e = 'E' then
      let (negative, rest) :=
        match rest with
        | '-' :: rest => (true, rest)
        | '+' :: rest => (false, rest)
        | rest => (false, rest)
      match digits rest with
      | ([], _) => none
      | (ds, rest) =>
        let n : Int := digitsValue ds
        some (some (if negative then -n else n), rest)
    else some (none, e :: rest)
  | [] => some (none, [])

/-- The number of the digits at the front, as many as fit 64 bits, and how many digits are left over. -/
def fittingDigits (n : Nat) : List Char → Nat × Nat
  | [] => (n, 0)
  | c :: rest =>
    let next := n * 10 + (c.toNat - 48)
    if next < wordCount then fittingDigits next rest else (n, rest.length + 1)

/-- The largest power of ten among the doubles. -/
def largestPower : Nat := 308

/-- The double of a power of ten, at most the largest. -/
def powerOfTen (k : Nat) : Double := Double.ofDecimal false 1 k

/-- The number `n * 10 ^ exponent`, worked out among the doubles: `n` is rounded, then the product with a power of ten, or the
quotient by one. A quotient beyond the largest power takes two steps. There is no number beyond the range of doubles. -/
def scaled? (n : Nat) (exponent : Int) : Option Double :=
  let x := Double.ofInt n
  if 0 ≤ exponent then
    if n = 0 then some x
    else if largestPower < exponent then none
    else
      let y := x.mul (powerOfTen exponent.toNat)
      if y.isFinite then some y else none
  else
    let k := (-exponent).toNat
    if k ≤ largestPower then some (x.div (powerOfTen k))
    else if k ≤ 2 * largestPower then some ((x.div (powerOfTen largestPower)).div (powerOfTen (k - largestPower)))
    else some (Double.zero false)

/-- The double that a number stands for, from its digits before and behind the point. Digits that do not fit 64 bits only count
as places. -/
def double? (negative : Bool) (whole fraction : List Char) (exponent : Int) : Option Double := do
  let (n, leftOver) := fittingDigits 0 whole
  let (n, ignored) := fittingDigits n fraction
  let x ← scaled? n (leftOver - (fraction.length - ignored) + exponent)
  return if negative then x.neg else x

/-- The whole number of a sign and digits, as far as 64 bits reach. There is no negative zero. -/
def wholeNumber? (negative : Bool) (n : Nat) : Option Int :=
  if negative then if n ≠ 0 && n ≤ negativeCount then some (-n) else none
  else if n < wordCount then some n
  else none

/-- The number at the front, after its sign. -/
def number? (negative : Bool) (s : List Char) : Option (Json × List Char) := do
  let (whole, rest) ← wholePart? s
  let (fraction, rest) ← fractionPart? rest
  let (exponent, rest) ← exponentPart? rest
  let isWhole := fraction.isEmpty && exponent.isNone
  match if isWhole then wholeNumber? negative (digitsValue whole) else none with
  | some n => return (.int n, rest)
  | none =>
    let x ← double? negative whole fraction (exponent.getD 0)
    return (.float x, rest)

/-- The token at the front of a text that starts with `c`. -/
def token? (fuel : Nat) (c : Char) (rest : List Char) : Option (Token × List Char) :=
  match c, rest with
  | '[', rest => some (.openList, rest)
  | ']', rest => some (.closeList, rest)
  | '\x7b', rest => some (.openRecord, rest)
  | '\x7d', rest => some (.closeRecord, rest)
  | ',', rest => some (.comma, rest)
  | ':', rest => some (.colon, rest)
  | 'n', 'u' :: 'l' :: 'l' :: rest => some (.value .null, rest)
  | 't', 'r' :: 'u' :: 'e' :: rest => some (.value (.bool true), rest)
  | 'f', 'a' :: 'l' :: 's' :: 'e' :: rest => some (.value (.bool false), rest)
  | '\x22', rest => (stringBody? fuel [] rest).map fun (s, rest) => (.value (.str s), rest)
  | '-', rest => (number? true rest).map fun (n, rest) => (.value n, rest)
  | c, rest => if c.isDigit then (number? false (c :: rest)).map fun (n, rest) => (.value n, rest) else none

/-- The tokens of a text, added behind those in `done`, which stand last first. -/
def tokensFrom? : Nat → List Token → List Char → Option (List Token)
  | _, done, [] => some done.reverse
  | 0, _, _ => none
  | fuel + 1, done, c :: rest =>
    if isBlank c then tokensFrom? fuel done rest
    else
      match token? (fuel + 1) c rest with
      | some (t, rest) => tokensFrom? fuel (t :: done) rest
      | none => none

/-- The tokens of a text. -/
def tokens? (s : String) : Option (List Token) :=
  let chars := s.toList
  tokensFrom? (chars.length + 1) [] chars

end Json

end FlagKeeper
