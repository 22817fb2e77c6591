import FlagKeeper.Json.Basic
import FlagKeeper.Settings.SourceError
import FlagKeeper.Text.Lowercase
import FlagKeeper.Text.Numeral

/-!
# Values of a settings source

A source of settings is a table of loosely typed values, each of which knows where it came from. Several sources are laid over
each other key by key; a key may be a path into tables and lists. The names in a key do not depend on case: what is laid over
a table goes under its name in small letters.
-/

namespace FlagKeeper

/-- A loosely typed value with its origin. -/
inductive Setting where
  | unit (origin : Option SettingOrigin)
  | bool (origin : Option SettingOrigin) (b : Bool)
  | int (origin : Option SettingOrigin) (n : Int)
  | float (origin : Option SettingOrigin) (x : Double)
  | str (origin : Option SettingOrigin) (s : String)
  | list (origin : Option SettingOrigin) (elements : List Setting)
  | table (origin : Option SettingOrigin) (fields : List (String × Setting))

instance : Inhabited Setting := ⟨.unit none⟩

namespace Setting

/-- Where a value came from. A table that was laid over others has no origin. -/
def origin : Setting → Option SettingOrigin
  | .unit o => o
  | .bool o _ => o
  | .int o _ => o
  | .float o _ => o
  | .str o _ => o
  | .list o _ => o
  | .table o _ => o

/-- What a message calls a value. -/
def found : Setting → SettingFound
  | .unit _ => .unit
  | .bool _ b => .bool b
  | .int _ n => .int n
  | .float _ x => .float x
  | .str _ s => .str s
  | .list _ _ => .sequence
  | .table _ _ => .map

/-- The fields of a table; any other value has none. -/
def tableFields : Setting → List (String × Setting)
  | .table _ fields => fields
  | _ => []

/-- Puts a field into a table. Any other value gives way to a new table. -/
def putField (held : Setting) (name : String) (value : Setting) : Setting :=
  match held with
  | .table origin fields => .table origin (putNamed name value fields)
  | _ => .table none [(name, value)]

/-- Changes the elements of a list. Any other value gives way to a new list. -/
def changeElements (change : List Setting → List Setting) : Setting → Setting
  | .list origin elements => .list origin (change elements)
  | _ => .list none (change [])

mutual

/-- Lays a value over the field of a table. A table is laid over field by field, anything else replaces what was there. -/
def lay (name : String) (root : Setting) : Setting → Setting
  | .table _ fields =>
    let target := (root.tableFields.lookup (inSmallLetters name)).getD (.table none [])
    root.putField (inSmallLetters name) (layAll target fields)
  | value => root.putField (inSmallLetters name) value

/-- Lays the fields of a table over a value. -/
def layAll (target : Setting) : List (String × Setting) → Setting
  | [] => target
  | (name, value) :: rest => layAll (lay name target value) rest

end

end Setting

/-- A path to a value. A negative index counts from the end of a list. -/
inductive SettingPath where
  | top (name : String)
  | child (parent : SettingPath) (name : String)
  | element (parent : SettingPath) (index : Int)

namespace SettingPath

/-- The characters of a plain name in a path. -/
def isNameChar (c : Char) : Bool := c.isAlphanum || c = ' ' || c = '_' || c = '-'

/-- The blanks that may stand around an index. -/
def isIndexBlank (c : Char) : Bool := c = ' ' || c = '\t'

/-- The index of an element up to its closing bracket. It fits 64 bits with a sign. -/
def index? (s : List Char) : Option (Int × List Char) := do
  let s := s.dropWhile isIndexBlank
  let (negative, s) :=
    match s with
    | '-' :: rest => (true, rest)
    | _ => (false, s)
  let n ← allDigits? (s.takeWhile Char.isDigit)
  let i : Int := if negative then -n else n
  match (s.dropWhile Char.isDigit).dropWhile isIndexBlank with
  | ']' :: rest => if fitsSigned i then some (i, rest) else none
  | _ => none

/-- Reads the steps of a path behind its start; every step consumes a character, so `fuel` need only be the length. -/
def steps? : Nat → SettingPath → List Char → Option SettingPath
  | _, p, [] => some p
  | 0, _, _ => none
  | fuel + 1, p, '.' :: rest =>
    match rest.takeWhile isNameChar with
    | [] => none
    | chars => steps? fuel (.child p (String.ofList chars)) (rest.dropWhile isNameChar)
  | fuel + 1, p, '[' :: rest => do
    let (i, rest) ← index? rest
    steps? fuel (.element p i) rest
  | _ + 1, _, _ => none

/-- The path that a key writes in small letters; a key that writes none is a plain name. -/
def ofKey (key : String) : SettingPath :=
  let name := inSmallLetters key
  let chars := name.toList
  match chars.takeWhile isNameChar with
  | [] => .top name
  | first => (steps? chars.length (.top (String.ofList first)) (chars.dropWhile isNameChar)).getD (.top name)

/-- Changes the element of a list; a list that is too short is filled up with units, on the side on which it is too short. -/
def changeElement (i : Int) (change : Setting → Setting) (xs : List Setting) : List Setting :=
  if 0 ≤ i then
    (xs ++ List.replicate (i.toNat + 1 - xs.length) (Setting.unit none)).modify i.toNat change
  else
    (List.replicate (i.natAbs - xs.length) (Setting.unit none) ++ xs).modify (xs.length - i.natAbs) change

/-- Changes the value at a path; tables and lists on the way are made where they are missing. -/
def update : SettingPath → (Setting → Setting) → Setting → Setting
  | .top name, change, root => root.putField name (change ((root.tableFields.lookup name).getD (.unit none)))
  | .child parent name, change, root =>
    update parent (fun held => held.putField name (change ((held.tableFields.lookup name).getD (.unit none)))) root
  | .element parent i, change, root => update parent (Setting.changeElements (changeElement i change)) root

/-- Lays a value over what is at a path. -/
def assign (value : Setting) : SettingPath → Setting → Setting
  | .top name, root => Setting.lay name root value
  | .child parent name, root => update parent (fun held => Setting.lay name held value) root
  | .element parent i, root => update parent (Setting.changeElements (changeElement i fun _ => value)) root

end SettingPath

/-- Lays a source over a table, key by key. -/
def Setting.overlay (root : Setting) (source : List (String × Setting)) : Setting :=
  source.foldl (fun root (key, value) => (SettingPath.ofKey key).assign value root) root

end FlagKeeper
