import FlagKeeper.Codec.Decoder

/-!
# Impressions

An impression records that an identity was evaluated against a flag. Counts of impressions are kept per feature and hour.
-/

namespace FlagKeeper

/-- How many milliseconds an hour has. -/
def hourMillis : Int := 3600000

/-- The start of the hour that a time lies in. -/
def hourStart (time : Int) : Int := time - time % hourMillis

/-- A record of one evaluation. -/
structure Impression where
  keyName : String
  bucketingKey : Option String
  featureName : String
  treatment : String
  label : Option String
  time : Int
  changeNumber : Option Int
  /-- When the same impression was seen before, set when the impression is queued. -/
  previousTime : Option Int
  properties : Option String
  deriving DecidableEq, Repr

namespace Impression

/-- An impression without its optional parts. -/
def new (key feature treatment : String) (time : Int) : Impression :=
  { keyName := key, bucketingKey := none, featureName := feature, treatment := treatment, label := none, time := time,
    changeNumber := none, previousTime := none, properties := none }

/-- The fields of an impression. -/
def fields : Fields Impression :=
  (Fields.none Impression.mk)
    |>.also (.required "keyName" .string)
    |>.also (.optional "bucketingKey" .string)
    |>.also (.required "featureName" .string)
    |>.also (.required "treatment" .string)
    |>.also (.optional "label" .string)
    |>.also (.required "time" .int64)
    |>.also (.optional "changeNumber" .int64)
    |>.also (.optional "previousTime" .int64)
    |>.also (.optional "properties" .string)

/-- Reads an impression. -/
def decode : Decoder Impression := fields.decoder "KeyImpression"

/-- Writes an impression. -/
def encode (i : Impression) : Json :=
  .obj (presentFields
    [("bucketingKey", i.bucketingKey.map .str), ("changeNumber", i.changeNumber.map .int),
      ("featureName", some (.str i.featureName)), ("keyName", some (.str i.keyName)), ("label", i.label.map .str),
      ("previousTime", i.previousTime.map .int), ("properties", i.properties.map .str), ("time", some (.int i.time)),
      ("treatment", some (.str i.treatment))])

end Impression

/-- How many impressions of a feature fell into an hour. -/
structure FeatureCount where
  feature : String
  timeframe : Int
  count : Int
  deriving DecidableEq, Repr

namespace FeatureCount

/-- The fields of a count. -/
def fields : Fields FeatureCount :=
  (Fields.none FeatureCount.mk)
    |>.also (.required "feature" .string)
    |>.also (.required "timeframe" .int64)
    |>.also (.required "count" .int64)

/-- Reads a count. -/
def decode : Decoder FeatureCount := fields.decoder "ImpressionsCountPerFeature"

/-- Writes a count. -/
def encode (c : FeatureCount) : Json :=
  .obj [("count", .int c.count), ("feature", .str c.feature), ("timeframe", .int c.timeframe)]

end FeatureCount

end FlagKeeper
