import FlagKeeper.Json.Basic

/-!
# Document text

`Json.text` writes a document without any blanks. Texts keep every character as it is except the quote, the backslash and the
control characters.
-/

namespace FlagKeeper

namespace Json

/-- Two hexadecimal digits of a number below 256. -/
def hexPair (n : Nat) : List Char :=
  let digits := Nat.toDigits 16 n
  if digits.length < 2 then '0' :: digits else digits

/-- How one character of a text is written. -/
def escapedChar (c : Char) : List Char :=
  if c = '\x22' then ['\\', '\x22']
  else if c = '\\' then ['\\', '\\']
  else if c = '\x08' then ['\\', 'b']
  else if c = '\x0c' then ['\\', 'f']
  else if c = '\n' then ['\\', 'n']
  else if c = '\r' then ['\\', 'r']
  else if c = '\t' then ['\\', 't']
  else if c.toNat < 32 then ['\\', 'u', '0', '0'] ++ hexPair c.toNat
  else [c]

/-- A text between quotes. -/
def stringText (s : String) : String :=
  String.ofList ('\x22' :: (s.toList.flatMap escapedChar ++ ['\x22']))

mutual

/-- The text of a document. -/
def text : Json → String
  | .null => "null"
  | .bool b => if b then "true" else "false"
  | .int n => toString n
  | .float x => DecimalLayout.document.text x
  | .str s => stringText s
  | .arr elements => "[" ++ ",".intercalate (elementTexts elements) ++ "]"
  | .obj fields => "\x7b" ++ ",".intercalate (fieldTexts fields) ++ "\x7d"

/-- The texts of the elements of a list. -/
def elementTexts : List Json → List String
  | [] => []
  | x :: xs => text x :: elementTexts xs

/-- The texts of the fields of a record. -/
def fieldTexts : List (String × Json) → List String
  | [] => []
  | (name, x) :: rest => (stringText name ++ ":" ++ text x) :: fieldTexts rest

end

/-- The number of bytes of the text. -/
def byteSize (j : Json) : Nat := j.text.utf8ByteSize

end Json

end FlagKeeper
