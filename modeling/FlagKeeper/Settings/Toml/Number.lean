import FlagKeeper.Number.Double
import FlagKeeper.Settings.Toml.Text
import FlagKeeper.Text.Numeral

/-!
# Numbers of a settings file in TOML

A whole number is written with decimal digits and a sign or none, or with hexadecimal, octal or binary digits behind `0x`, `0o`
or `0b`; it fits 64 bits with a sign. A number with a fraction has digits behind a point, an exponent or both. Between two
digits an underscore may stand. A decimal number does not start with a zero that another digit follows.
-/

namespace FlagKeeper

namespace Toml

/-- The digits at the front, at least one, without the underscores between them. -/
def digitRun? (isDigit : Char → Bool) : List Char → Option (List Char × List Char)
  | [] => none
  | c :: rest =>
    if isDigit c then
      match rest with
      | '_' :: rest => do
        let (ds, rest) ← digitRun? isDigit rest
        return (c :: ds, rest)
      | d :: rest =>
        if isDigit d then do
          let (ds, rest) ← digitRun? isDigit (d :: rest)
          return (c :: ds, rest)
        else some ([c], d :: rest)
      | [] => some ([c], [])
    else none

/-- The digits before the point of a decimal number. -/
def wholeDigits? : List Char → Option (List Char × List Char)
  | '0' :: rest => some (['0'], rest)
  | s => digitRun? Char.isDigit s

/-- The value of digits in a base, if it fits 64 bits with a sign. -/
def basedInteger? (base : Nat) (s : List Char) : Option (Int × List Char) := do
  let (ds, rest) ← digitRun? (fun c => (Json.hexDigit? c).any (· < base)) s
  let n ← ds.foldlM (fun n c => (Json.hexDigit? c).map (n * base + ·)) 0
  if fitsSigned n then some (n, rest) else none

/-- A whole number. -/
def integer? : List Char → Option (Int × List Char)
  | '0' :: 'x' :: rest => basedInteger? 16 rest
  | '0' :: 'o' :: rest => basedInteger? 8 rest
  | '0' :: 'b' :: rest => basedInteger? 2 rest
  | s => do
    let (negative, body) := splitSign s
    let (ds, rest) ← wholeDigits? body
    let n : Int := if negative then -(Json.digitsValue ds : Int) else Json.digitsValue ds
    if fitsSigned n then some (n, rest) else none

/-- The digits behind a point; none where there is no point. -/
def fractionDigits? : List Char → Option (List Char × List Char)
  | '.' :: rest => digitRun? Char.isDigit rest
  | rest => some ([], rest)

/-- An exponent, if there is one. -/
def exponent? : List Char → Option (Option Int × List Char)
  | [] => some (none, [])
  | e :: rest =>
    if e = 'e' || e = 'E' then do
      let (negative, body) := splitSign rest
      let (ds, rest) ← digitRun? Char.isDigit body
      let n : Int := if negative then -(Json.digitsValue ds : Int) else Json.digitsValue ds
      return (some n, rest)
    else some (none, e :: rest)

/-- A number with a fraction or an exponent, or a word for infinity or no number. Digits must not write a positive number beyond
the doubles. -/
def double? (s : List Char) : Option (Double × List Char) :=
  match splitSign s with
  | (negative, 'i' :: 'n' :: 'f' :: rest) => some (Double.infinity negative, rest)
  | (_, 'n' :: 'a' :: 'n' :: rest) => some (Double.nan, rest)
  | (negative, body) => do
    let (whole, rest) ← wholeDigits? body
    let (fraction, rest) ← fractionDigits? rest
    let (exponent, rest) ← exponent? rest
    let x := Double.ofDecimal negative (Json.digitsValue (whole ++ fraction)) (exponent.getD 0 - fraction.length)
    if (fraction.isEmpty && exponent.isNone) || x = Double.infinity false then none else some (x, rest)

end Toml

end FlagKeeper
