import FlagKeeper.Json.Printer
import FlagKeeper.Text.Quoted

/-!
# What can be wrong with a document

A document that is no value of the wanted type is refused for one of a few causes. `DecodeError.message` is the only place
that words them.
-/

namespace FlagKeeper

/-- What a document has where something else was wanted. -/
inductive Found where
  | null
  | bool (b : Bool)
  | int (n : Int)
  | float (x : Double)
  | str (s : String)
  | list
  | record

/-- What stands at the top of a document. -/
def Json.found : Json → Found
  | .null => .null
  | .bool b => .bool b
  | .int n => .int n
  | .float x => .float x
  | .str s => .str s
  | .arr _ => .list
  | .obj _ => .record

/-- How a message names what was found. -/
def Found.text : Found → String
  | .null => "null"
  | .bool b => if b then "boolean `true`" else "boolean `false`"
  | .int n => "integer `" ++ toString n ++ "`"
  | .float x => "floating point `" ++ DecimalLayout.document.text x ++ "`"
  | .str s => "string " ++ quoted s
  | .list => "sequence"
  | .record => "map"

/-- The causes for which a document is refused. -/
inductive DecodeError where
  /-- A field without a default is not there. -/
  | missingField (name : String)
  /-- Something of another kind is there. -/
  | wrongKind (found : Found) (expected : String)
  /-- Something of the right kind is there, but its value cannot be taken. -/
  | wrongValue (found : Found) (expected : String)
  /-- The name is none of the known ones. -/
  | unknownVariant (name : String) (known : List String)
  /-- A list has too few or too many elements. -/
  | wrongLength (length : Nat) (expected : String)

/-- The wording of a refusal. -/
def DecodeError.message : DecodeError → String
  | .missingField name => "missing field `" ++ name ++ "`"
  | .wrongKind found expected => "invalid type: " ++ found.text ++ ", expected " ++ expected
  | .wrongValue found expected => "invalid value: " ++ found.text ++ ", expected " ++ expected
  | .unknownVariant name known =>
    "unknown variant `" ++ name ++ "`, expected one of " ++ ", ".intercalate (known.map fun k => "`" ++ k ++ "`")
  | .wrongLength length expected => "invalid length " ++ toString length ++ ", expected " ++ expected

end FlagKeeper
