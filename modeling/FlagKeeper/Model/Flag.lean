import FlagKeeper.Codec.Decoder

/-!
# Feature flags

What the cache holds of a flag, and the kill order that a notification may bring for one.
-/

namespace FlagKeeper

/-- A cached flag definition. -/
structure FeatureFlag where
  name : String
  changeNumber : Int
  sets : NameSet
  killed : Bool
  defaultTreatment : String

namespace FeatureFlag

/-- The fields of a flag. -/
def fields : Fields FeatureFlag :=
  (Fields.none FeatureFlag.mk)
    |>.also (.required "name" .string)
    |>.also (.required "changeNumber" .int64)
    |>.also (.withDefault "sets" .nameSet .empty)
    |>.also (.withDefault "killed" .bool false)
    |>.also (.required "defaultTreatment" .string)

/-- Reads a flag. -/
def decode : Decoder FeatureFlag := fields.decoder "FeatureFlag"

/-- Writes a flag. -/
def encode (f : FeatureFlag) : Json :=
  .obj [("changeNumber", .int f.changeNumber), ("defaultTreatment", .str f.defaultTreatment), ("killed", .bool f.killed),
    ("name", .str f.name), ("sets", .strings f.sets.toList)]

end FeatureFlag

/-- The order to treat a flag as killed. -/
structure FlagKill where
  name : String
  defaultTreatment : String
  changeNumber : Int
  deriving DecidableEq, Repr

namespace FlagKill

/-- The fields of a kill order. -/
def fields : Fields FlagKill :=
  (Fields.none FlagKill.mk)
    |>.also (.required "name" .string)
    |>.also (.required "defaultTreatment" .string)
    |>.also (.required "changeNumber" .int64)

/-- Reads a kill order. -/
def decode : Decoder FlagKill := fields.decoder "FlagKill"

/-- Writes a kill order. -/
def encode (k : FlagKill) : Json :=
  .obj [("changeNumber", .int k.changeNumber), ("defaultTreatment", .str k.defaultTreatment), ("name", .str k.name)]

end FlagKill

end FlagKeeper
