import FlagKeeper.Json.Token

/-!
# Numerals in settings

A value given as text is read as a number when all of it is a numeral: an optional sign and decimal digits for a whole number,
leading zeros allowed, and for a number with a fraction also a point and an exponent, or a word for infinity or no number.
-/

namespace FlagKeeper

/-- Splits off the sign: whether it is negative, and what follows. -/
def splitSign : List Char → Bool × List Char
  | '-' :: rest => (true, rest)
  | '+' :: rest => (false, rest)
  | rest => (false, rest)

/-- The value of a list of digits, if it is one. -/
def allDigits? (s : List Char) : Option Nat :=
  if !s.isEmpty && s.all Char.isDigit then some (Json.digitsValue s) else none

/-- The whole number that a text writes, if it fits 64 bits with a sign. -/
def wholeNumeral? (s : String) : Option Int := do
  let (negative, ds) := splitSign s.toList
  let n ← allDigits? ds
  let value : Int := if negative then -(n : Int) else n
  if fitsSigned value then some value else none

/-- The natural number that a text writes, if it fits 64 bits. -/
def naturalNumeral? (s : String) : Option Nat := do
  let n ← allDigits? (match s.toList with
    | '+' :: rest => rest
    | rest => rest)
  if n < wordCount then some n else none

/-- The exponent at the end of a numeral, all of it. -/
def exponentNumeral? : List Char → Option Int
  | [] => some 0
  | e :: rest =>
    if e = 'e' || e = 'E' then
      let (negative, ds) := splitSign rest
      (allDigits? ds).map fun n => if negative then -(n : Int) else n
    else none

/-- The number with a fraction that a text writes. -/
def fractionNumeral? (s : String) : Option Double := do
  let (negative, body) := splitSign s.toList
  let word := String.ofList (body.map Char.toLower)
  if word = "nan" then return ⟨Double.nan.bits ||| (if negative then 0x8000000000000000 else 0)⟩
  else if word = "inf" || word = "infinity" then return Double.infinity negative
  else
    let (whole, rest) := Json.digits body
    let (fraction, rest) :=
      match rest with
      | '.' :: rest => Json.digits rest
      | rest => ([], rest)
    if whole.isEmpty && fraction.isEmpty then none
    else
      let exponent ← exponentNumeral? rest
      return Double.ofDecimal negative (Json.digitsValue (whole ++ fraction)) (exponent - fraction.length)

end FlagKeeper
