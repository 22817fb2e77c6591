import FlagKeeper.Text.Printable

/-!
# Quoted text in messages

A message that shows a text puts it between double quotes and escapes what would be unclear: the quote and the backslash, the
usual control characters by their letters, and every other character without a glyph by its code point in hexadecimal.
-/

namespace FlagKeeper

/-- The code point of a character in hexadecimal between braces. -/
def codePointEscape (c : Char) : List Char :=
  '\\' :: 'u' :: '\x7b' :: (Nat.toDigits 16 c.toNat ++ ['\x7d'])

/-- How one character is written inside quotes. -/
def quotedChar (c : Char) : List Char :=
  if c = '\x00' then ['\\', '0']
  else if c = '\t' then ['\\', 't']
  else if c = '\r' then ['\\', 'r']
  else if c = '\n' then ['\\', 'n']
  else if c = '\\' then ['\\', '\\']
  else if c = '\x22' then ['\\', '\x22']
  else if hasGlyph c then [c]
  else codePointEscape c

/-- A text between double quotes. -/
def quoted (s : String) : String :=
  String.ofList ('\x22' :: (s.toList.flatMap quotedChar ++ ['\x22']))

end FlagKeeper
