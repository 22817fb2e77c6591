import FlagKeeper.Codec.Error
import FlagKeeper.Text.NameSet

/-!
# Decoding documents

A `Decoder` takes a document apart or says why it cannot. Values with several fields are described once, as `Fields`, and that
description serves both forms a document may have: a record, and the list of all fields in their order.

In a record, the fields that are present are decoded first, in ascending order of their names, and only then the absent ones
are looked at, in the order of the description; so of two faults the one that comes first in that order is reported.
-/

namespace FlagKeeper

/-- Takes a document apart. -/
abbrev Decoder (α : Type) := Json → Except DecodeError α

namespace Decoder

/-- A text. -/
def string : Decoder String
  | .str s => .ok s
  | j => .error (.wrongKind j.found "a string")

/-- A truth value. -/
def bool : Decoder Bool
  | .bool b => .ok b
  | j => .error (.wrongKind j.found "a boolean")

/-- An integer of 64 bits with a sign. -/
def int64 : Decoder Int
  | .int n => if fitsSigned n then .ok n else .error (.wrongValue (.int n) "i64")
  | j => .error (.wrongKind j.found "i64")

/-- An integer of 64 bits without a sign; messages call it `kind`. -/
def nat64 (kind : String) : Decoder Nat
  | .int n => if fitsUnsigned n then .ok n.toNat else .error (.wrongValue (.int n) kind)
  | j => .error (.wrongKind j.found kind)

/-- A number with a fraction; a whole number is taken at the nearest double. -/
def double : Decoder Double
  | .float x => .ok x
  | .int n => .ok (Double.ofInt n)
  | j => .error (.wrongKind j.found "f64")

/-- The elements of a list. -/
def list {α : Type} (element : Decoder α) : Decoder (List α)
  | .arr xs => xs.mapM element
  | j => .error (.wrongKind j.found "a sequence")

/-- A list of names, taken as a set. -/
def nameSet : Decoder NameSet := fun j => NameSet.ofList <$> list string j

/-- The fields of a record, whatever their names. -/
def table {α : Type} (value : Decoder α) : Decoder (List (String × α))
  | .obj fields => fields.mapM fun (name, j) => (name, ·) <$> value j
  | j => .error (.wrongKind j.found "a map")

/-- Any document. -/
def any : Decoder Json := .ok

/-- A value, or `null` for none. -/
def optional {α : Type} (value : Decoder α) : Decoder (Option α)
  | .null => .ok none
  | j => some <$> value j

/-- One of a few named values: its name, or a record that has the name as its only field, with nothing in it. -/
def variant {α : Type} (known : List (String × α)) : Decoder α
  | .str name => choose name
  | .obj [(name, content)] => do
    let value ← choose name
    match content with
    | .null => .ok value
    | j => .error (.wrongKind j.found "unit")
  | .obj _ => .error (.wrongValue .record "map with a single key")
  | j => .error (.wrongKind j.found "string or map")
where
  choose (name : String) : Except DecodeError α :=
    match known.lookup name with
    | some value => .ok value
    | none => .error (.unknownVariant name (known.map (·.1)))

end Decoder

/-- What holds where a field is absent. -/
inductive Absence (α : Type) where
  /-- The field must be there. -/
  | refused
  /-- A record may leave the field out, a list may not. -/
  | inRecord (value : α)
  /-- Both forms may leave the field out. -/
  | inBoth (value : α)

/-- One field of a value. -/
structure Field (α : Type) where
  name : String
  decode : Decoder α
  absence : Absence α

namespace Field

/-- A field that must be there. -/
def required {α : Type} (name : String) (decode : Decoder α) : Field α := ⟨name, decode, .refused⟩

/-- A field with a default. -/
def withDefault {α : Type} (name : String) (decode : Decoder α) (value : α) : Field α := ⟨name, decode, .inBoth value⟩

/-- A field that a record may leave out or set to `null`. -/
def optional {α : Type} (name : String) (decode : Decoder α) : Field (Option α) :=
  ⟨name, Decoder.optional decode, .inRecord none⟩

/-- The value of the field in a record. -/
def inRecord {α : Type} (f : Field α) (fields : List (String × Json)) : Except DecodeError α :=
  match Json.field? fields f.name, f.absence with
  | some j, _ => f.decode j
  | none, .refused => .error (.missingField f.name)
  | none, .inRecord value => .ok value
  | none, .inBoth value => .ok value

/-- Takes the field off the front of a list of fields, of which `taken` stood before. -/
def inList {α : Type} (f : Field α) (shape : String) : StateT (Nat × List Json) (Except DecodeError) α := do
  let (taken, rest) ← get
  match rest, f.absence with
  | j :: rest, _ => do
    set (taken + 1, rest)
    f.decode j
  | [], .inBoth value => return value
  | [], _ => throw (.wrongLength taken shape)

end Field

/-- The fields of a value of type `α`, in their order. -/
structure Fields (α : Type) where
  names : List String
  checks : List (String × Decoder Unit)
  inRecord : List (String × Json) → Except DecodeError α
  inList : String → StateT (Nat × List Json) (Except DecodeError) α

namespace Fields

/-- A single field. -/
def one {α : Type} (f : Field α) : Fields α :=
  { names := [f.name]
    checks := [(f.name, fun j => (fun _ => ()) <$> f.decode j)]
    inRecord := f.inRecord
    inList := f.inList }

/-- The value does not depend on any field. -/
def none {α : Type} (value : α) : Fields α :=
  { names := [], checks := [], inRecord := fun _ => .ok value, inList := fun _ => return value }

/-- The fields of a function, then one more field for its argument. -/
def also {α β : Type} (fs : Fields (α → β)) (f : Field α) : Fields β :=
  { names := fs.names ++ [f.name]
    checks := fs.checks ++ (one f).checks
    inRecord := fun fields => do
      let g ← fs.inRecord fields
      g <$> f.inRecord fields
    inList := fun shape => do
      let g ← fs.inList shape
      g <$> f.inList shape }

/-- Decodes every field that is present, in ascending order of the names. -/
def checkPresent {α : Type} (fs : Fields α) (fields : List (String × Json)) : Except DecodeError Unit :=
  (fs.checks.foldl (fun sorted (name, check) => putNamed name check sorted) []).forM fun (name, check) =>
    match Json.field? fields name with
    | some j => check j
    | Option.none => .ok ()

/-- Decodes a value that messages call by `name`, in either form. -/
def decoder {α : Type} (name : String) (fs : Fields α) : Decoder α
  | .obj fields => do
    fs.checkPresent fields
    fs.inRecord fields
  | .arr xs => do
    let (value, _, rest) ← (fs.inList ("struct " ++ name ++ " with " ++ toString fs.names.length ++ " elements")).run (0, xs)
    if rest.isEmpty then return value else throw (.wrongLength xs.length "fewer elements in array")
  | j => .error (.wrongKind j.found ("struct " ++ name))

end Fields

/-- The fields that are there. -/
def presentFields (fields : List (String × Option Json)) : List (String × Json) :=
  fields.filterMap fun (name, j) => j.map (name, ·)

end FlagKeeper
