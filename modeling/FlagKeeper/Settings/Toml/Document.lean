import FlagKeeper.Settings.Toml.Moment
import FlagKeeper.Settings.Toml.Number
import FlagKeeper.Settings.Toml.Table

/-!
# Settings files in TOML

A file is a sequence of lines: `key = value` pairs, and headers that say which table the pairs behind them belong to. A value is a
text, a number, a truth value, a moment, a list or an inline table, whose pairs stand on its line.
-/

namespace FlagKeeper

namespace Toml

/-- A value without parts. -/
def scalar? : List Char → Option (Setting × List Char)
  | 't' :: 'r' :: 'u' :: 'e' :: rest => some (.bool (some .file) true, rest)
  | 'f' :: 'a' :: 'l' :: 's' :: 'e' :: rest => some (.bool (some .file) false, rest)
  | s =>
    ((text? s).map fun (t, rest) => (.str (some .file) t, rest)) <|>
    ((moment? s).map fun (m, rest) => (.str (some .file) m.text, rest)) <|>
    ((double? s).map fun (x, rest) => (.float (some .file) x, rest)) <|>
    ((integer? s).map fun (n, rest) => (.int (some .file) n, rest))

mutual

/-- A value. `room` is how much deeper values may be nested here; every value and every element takes one of `fuel`. -/
def value? (fuel room : Nat) (s : List Char) : Option (Setting × List Char) :=
  match fuel with
  | 0 => none
  | fuel + 1 =>
    match s with
    | '[' :: rest =>
      if room = 0 then none
      else do
        let (xs, rest) ← elements? fuel (room - 1) rest
        return (.list (some .file) xs, rest)
    | '\x7b' :: rest =>
      if room = 0 then none
      else
        match skipBlanks rest with
        | '\x7d' :: rest => some (.table (some .file) [], rest)
        | rest => do
          let (fields, rest) ← pairs? fuel (room - 1) [] rest
          return (.table (some .file) (finishFields fields), rest)
    | s => scalar? s

/-- The elements of a list up to its end. A comma may stand behind the last one. -/
def elements? (fuel room : Nat) (s : List Char) : Option (List Setting × List Char) :=
  match fuel with
  | 0 => none
  | fuel + 1 => do
    match ← skipLines? false s with
    | ']' :: rest => return ([], rest)
    | s =>
      let (x, rest) ← value? fuel room s
      match ← skipLines? false rest with
      | ',' :: rest =>
        let (xs, rest) ← elements? fuel room rest
        return (x :: xs, rest)
      | ']' :: rest => return ([x], rest)
      | _ => none

/-- The pairs of an inline table up to its end. -/
def pairs? (fuel room : Nat) (fields : Fields) (s : List Char) : Option (Fields × List Char) :=
  match fuel with
  | 0 => none
  | fuel + 1 => do
    let (key, rest) ← key? s
    let (v, rest) ← value? fuel room (skipBlanks (← mark? '=' rest))
    let fields ← fields.define? v key
    match skipBlanks rest with
    | ',' :: rest => pairs? fuel room fields rest
    | '\x7d' :: rest => return (fields, rest)
    | _ => none

end

/-- The lines of a file from some line on; each of them takes one of `fuel`. Values have `valueFuel`. `header` is the one in
force. -/
def lines? (valueFuel : Nat) : Nat → List String → Fields → List Char → Option Fields
  | 0, _, _, _ => none
  | fuel + 1, header, fields, s => do
    match ← skipLines? false s with
    | [] => return fields
    | '[' :: '[' :: rest =>
      let (key, rest) ← key? rest
      let rest ← lineEnd? (← mark? ']' (← mark? ']' rest))
      lines? valueFuel fuel (key.1 ++ [key.2]) (← fields.append? key) rest
    | '[' :: rest =>
      let (key, rest) ← key? rest
      let rest ← lineEnd? (← mark? ']' rest)
      lines? valueFuel fuel (key.1 ++ [key.2]) (← fields.open? key) rest
    | s =>
      let (key, rest) ← key? s
      let (v, rest) ← value? valueFuel deepest (skipBlanks (← mark? '=' rest))
      lines? valueFuel fuel header (← fields.defineUnder? header v key) (← lineEnd? rest)

/-- The characters of a file without the byte order mark that may stand in front. -/
def withoutMark : List Char → List Char
  | '\uFEFF' :: rest => rest
  | s => s

/-- The table that a file holds. A line takes a character at least, and a value with its elements two per character at most. -/
def parse? (s : String) : Option (List (String × Setting)) :=
  let chars := withoutMark s.toList
  (lines? (2 * chars.length + 2) (chars.length + 1) [] [] chars).map finishFields

end Toml

end FlagKeeper
