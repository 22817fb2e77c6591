import FlagKeeper.Codec.Decoder

/-!
# Identities

A key names the identity that flags are evaluated for. Its matching part scopes segments and attributes; several keys may share
it and differ in the bucketing part.
-/

namespace FlagKeeper

/-- An identity. -/
structure Key where
  matching : String
  bucketing : Option String := none
  deriving DecidableEq, Repr, Inhabited

namespace Key

/-- The text of a key, its two parts joined by a colon. -/
def text (k : Key) : String :=
  match k.bucketing with
  | some bucketing => k.matching ++ ":" ++ bucketing
  | none => k.matching

/-- The fields of a key. -/
def fields : Fields Key :=
  (Fields.none Key.mk)
    |>.also (.required "matchingKey" .string)
    |>.also (.optional "bucketingKey" .string)

/-- Reads a key. -/
def decode : Decoder Key := fields.decoder "Key"

/-- Writes a key. -/
def encode (k : Key) : Json :=
  .obj (presentFields [("bucketingKey", k.bucketing.map .str), ("matchingKey", some (.str k.matching))])

end Key

end FlagKeeper
