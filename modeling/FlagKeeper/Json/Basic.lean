import FlagKeeper.Number.Shortest
import FlagKeeper.Text.NameMap

/-!
# Documents

A document is the usual tree of records, lists, texts and numbers. Whole numbers and numbers with a fraction are told apart,
and the fields of a record stand in ascending order of their names, each name once.
-/

namespace FlagKeeper

/-- A document. -/
inductive Json where
  | null
  | bool (b : Bool)
  | int (n : Int)
  | float (x : Double)
  | str (s : String)
  | arr (elements : List Json)
  | obj (fields : List (String × Json))

instance : Inhabited Json := ⟨.null⟩

namespace Json

/-- The value of a field, if the record has one of that name. -/
def field? (fields : List (String × Json)) (name : String) : Option Json := fields.lookup name

/-- The record with these fields, a later one of a name winning over an earlier one. -/
def record (fields : List (String × Json)) : Json :=
  .obj (fields.foldl (fun held (name, value) => putNamed name value held) [])

/-- A list of texts. -/
def strings (xs : List String) : Json := .arr (xs.map .str)

/-- A number with a fraction. One that is not finite has no text, and `null` stands for it. -/
def number (x : Double) : Json := if x.isFinite then .float x else .null

/-- A text, or nothing. -/
def strOrNull (s : Option String) : Json := s.elim .null .str

/-- A whole number, or nothing. -/
def intOrNull (n : Option Int) : Json := n.elim .null .int

end Json

end FlagKeeper
