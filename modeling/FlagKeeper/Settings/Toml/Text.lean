import FlagKeeper.Json.Token

/-!
# The text of a settings file in TOML

A file consists of lines, which end with a line feed, a carriage return before it or not. Blanks and comments may stand at the
end of a line. A text stands between quotes, in which a backslash escapes, or between apostrophes, in which nothing does; three
quotes or apostrophes enclose a text of several lines. A key is a sequence of names with points between them.
-/

namespace FlagKeeper

namespace Toml

/-- The blanks within a line. -/
def isBlank (c : Char) : Bool := c = ' ' || c = '\t'

/-- The characters that may stand in a comment: all but the controls, a tab excepted. -/
def isPlain (c : Char) : Bool := c = '\t' || (32 ≤ c.toNat && c.toNat != 127)

/-- Drops the blanks at the front. -/
def skipBlanks (s : List Char) : List Char := s.dropWhile isBlank

/-- Drops the line end at the front, if there is one. -/
def lineBreak? : List Char → Option (List Char)
  | '\n' :: rest => some rest
  | '\r' :: '\n' :: rest => some rest
  | _ => none

/-- Drops a comment at the front, up to the end of its line. -/
def skipComment : List Char → List Char
  | '#' :: rest => rest.dropWhile isPlain
  | rest => rest

/-- What follows the end of a line, before which blanks and a comment may stand. The end of a file ends its last line. -/
def lineEnd? (s : List Char) : Option (List Char) :=
  match skipComment (skipBlanks s) with
  | [] => some []
  | rest => lineBreak? rest

/-- Drops blanks, line ends and comments at the front. A comment reaches up to the end of its line. -/
def skipLines? (inComment : Bool) : List Char → Option (List Char)
  | [] => some []
  | '\n' :: rest => skipLines? false rest
  | '\r' :: '\n' :: rest => skipLines? false rest
  | c :: rest =>
    if inComment then if isPlain c then skipLines? true rest else none
    else if isBlank c then skipLines? false rest
    else if c = '#' then skipLines? true rest
    else some (c :: rest)

/-- The character of an escape by letter. -/
def letterEscape? (c : Char) : Option Char := if c = '/' then none else Json.letterEscape? c

/-- The character with the code point that hexadecimal digits write. -/
def codePoint? (digits : List Char) : Option Char := do
  let n ← digits.foldlM (fun n c => (Json.hexDigit? c).map (n * 16 + ·)) 0
  if n < 0xD800 || (0xE000 ≤ n && n < 0x110000) then some (Char.ofNat n) else none

/-- A text on one line, up to its closing quote; `done` stands last character first. -/
def basicText? (done : List Char) : List Char → Option (String × List Char)
  | [] => none
  | '\x22' :: rest => some (String.ofList done.reverse, rest)
  | '\\' :: 'u' :: a :: b :: c :: d :: rest => do basicText? ((← codePoint? [a, b, c, d]) :: done) rest
  | '\\' :: 'U' :: a :: b :: c :: d :: e :: f :: g :: h :: rest => do
    basicText? ((← codePoint? [a, b, c, d, e, f, g, h]) :: done) rest
  | '\\' :: c :: rest => do basicText? ((← letterEscape? c) :: done) rest
  | c :: rest => if isPlain c && c != '\\' then basicText? (c :: done) rest else none

/-- A text without escapes on one line, up to its closing apostrophe. -/
def literalText? (s : List Char) : Option (String × List Char) :=
  let isBody (c : Char) : Bool := isPlain c && c != '\x27'
  match s.dropWhile isBody with
  | '\x27' :: rest => some (String.ofList (s.takeWhile isBody), rest)
  | _ => none

/-- The end of a text of several lines, behind three of its quotes: up to two more quotes before belong to the text. -/
def closeLines? (quote : Char) (done rest : List Char) : Option (String × List Char) :=
  let more := rest.takeWhile (· = quote)
  if more.length ≤ 2 then some (String.ofList (done.reverse ++ more), rest.drop more.length) else none

/-- Whether a line ends here but for blanks. -/
def isLineEnd (s : List Char) : Bool := (lineBreak? (skipBlanks s)).isSome

/-- A text of several lines, up to its closing quotes; `done` stands last character first. A backslash at the end of a line
drops all blanks and line ends up to the next character, which is when `skipping`. -/
def basicLines? (skipping : Bool) (done : List Char) : List Char → Option (String × List Char)
  | [] => none
  | '\x22' :: '\x22' :: '\x22' :: rest => closeLines? '\x22' done rest
  | '\n' :: rest => basicLines? skipping (if skipping then done else '\n' :: done) rest
  | '\r' :: '\n' :: rest => basicLines? skipping (if skipping then done else '\n' :: done) rest
  | '\\' :: 'u' :: a :: b :: c :: d :: rest => do basicLines? false ((← codePoint? [a, b, c, d]) :: done) rest
  | '\\' :: 'U' :: a :: b :: c :: d :: e :: f :: g :: h :: rest => do
    basicLines? false ((← codePoint? [a, b, c, d, e, f, g, h]) :: done) rest
  | '\\' :: c :: rest =>
    if isLineEnd (c :: rest) then basicLines? true done rest
    else do basicLines? false ((← letterEscape? c) :: done) rest
  | c :: rest =>
    if skipping && isBlank c then basicLines? true done rest
    else if isPlain c && c != '\\' then basicLines? false (c :: done) rest
    else none

/-- A text of several lines without escapes, up to its closing apostrophes; `done` stands last character first. -/
def literalLines? (done : List Char) : List Char → Option (String × List Char)
  | [] => none
  | '\x27' :: '\x27' :: '\x27' :: rest => closeLines? '\x27' done rest
  | '\n' :: rest => literalLines? ('\n' :: done) rest
  | '\r' :: '\n' :: rest => literalLines? ('\n' :: done) rest
  | c :: rest => if isPlain c then literalLines? (c :: done) rest else none

/-- A text of any of the four kinds. A line end behind three opening quotes is not part of the text. -/
def text? : List Char → Option (String × List Char)
  | '\x22' :: '\x22' :: '\x22' :: rest => basicLines? false [] ((lineBreak? rest).getD rest)
  | '\x22' :: rest => basicText? [] rest
  | '\x27' :: '\x27' :: '\x27' :: rest => literalLines? [] ((lineBreak? rest).getD rest)
  | '\x27' :: rest => literalText? rest
  | _ => none

/-- The characters of a name without quotes. -/
def isNameChar (c : Char) : Bool := c.isAlphanum || c = '_' || c = '-'

/-- A name within a key. -/
def name? : List Char → Option (String × List Char)
  | '\x22' :: rest => basicText? [] rest
  | '\x27' :: rest => literalText? rest
  | s =>
    match s.takeWhile isNameChar with
    | [] => none
    | name => some (String.ofList name, s.dropWhile isNameChar)

/-- The names of a key, `most` of them at most, with blanks around each. -/
def names? (most : Nat) (s : List Char) : Option (List String × List Char) :=
  match most with
  | 0 => none
  | most + 1 => do
    let (name, rest) ← name? (skipBlanks s)
    match skipBlanks rest with
    | '.' :: rest =>
      let (names, rest) ← names? most rest
      return (name :: names, rest)
    | rest => return ([name], rest)

/-- How deep values may be nested, and how many names a key may have. -/
def deepest : Nat := 79

/-- A key: the names on the way to the field, and the name of the field. -/
def key? (s : List Char) : Option ((List String × String) × List Char) := do
  let (names, rest) ← names? deepest s
  let name ← names.getLast?
  return ((names.dropLast, name), rest)

end Toml

end FlagKeeper
