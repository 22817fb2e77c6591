import FlagKeeper.Number.Shortest
import FlagKeeper.Text.Quoted

/-!
# What can be wrong with a source of settings

A value of the wrong kind is reported with the path of its key and with the source it came from.
-/

namespace FlagKeeper

/-- What a source has where something else was wanted. -/
inductive SettingFound where
  | unit
  | int (n : Int)
  | str (s : String)
  | bool (b : Bool)
  | float (x : Double)
  | sequence
  | map

/-- How a message names what was found. -/
def SettingFound.text : SettingFound → String
  | .unit => "unit value"
  | .int n => "64-bit integer `" ++ toString n ++ "`"
  | .str s => "string " ++ quoted s
  | .bool b => if b then "boolean `true`" else "boolean `false`"
  | .float x => "floating point `" ++ DecimalLayout.plain.text x ++ "`"
  | .sequence => "sequence"
  | .map => "map"

/-- How a message names what was found where no conversion was tried. -/
def SettingFound.exactText : SettingFound → String
  | .int n => "integer `" ++ toString n ++ "`"
  | .float x =>
    let written := DecimalLayout.plain.text x
    "floating point `" ++ (if x.isFinite && !written.toList.contains '.' then written ++ ".0" else written) ++ "`"
  | found => found.text

/-- Where a value came from. -/
inductive SettingOrigin where
  | environment
  | file
  deriving DecidableEq, Repr

/-- How a message names a source. -/
def SettingOrigin.text : SettingOrigin → String
  | .environment => "the environment"
  | .file => "<file>"

/-- The causes for which a source of settings is refused. -/
inductive SourceError where
  /-- The file is not there. -/
  | fileNotFound
  /-- The file's extension names no known format. -/
  | unknownFormat
  /-- The file cannot be parsed, or is no table. -/
  | unreadable
  /-- A value cannot be converted. `path` is the key it stands under. -/
  | wrongKind (found : SettingFound) (expected : String) (path : Option String) (origin : Option SettingOrigin)
  /-- Something of another shape stands where a structure or a list was wanted. -/
  | wrongShape (found : SettingFound) (expected : String)
  /-- An enumeration has no such value. -/
  | noVariant (enumeration name : String)
  /-- A value of an enumeration is neither a text nor a table with one key. -/
  | noEnumeration (enumeration : String)

/-- The wording of a refusal, if it has one. -/
def SourceError.message? : SourceError → Option String
  | .fileNotFound => some "configuration file <file> not found"
  | .unknownFormat => some "configuration file <file> is not of a registered file format"
  | .unreadable => none
  | .wrongKind found expected path origin =>
    let key := path.elim "" fun k => " for key `" ++ k ++ "`"
    let place := origin.elim "" fun o => " in " ++ o.text
    some ("invalid type: " ++ found.text ++ ", expected " ++ expected ++ key ++ place)
  | .wrongShape found expected => some ("invalid type: " ++ found.exactText ++ ", expected " ++ expected)
  | .noVariant enumeration name => some ("enum " ++ enumeration ++ " does not have variant constructor " ++ name)
  | .noEnumeration enumeration =>
    some ("value of enum " ++ enumeration ++ " should be represented by either string or table with exactly one key")

end FlagKeeper
