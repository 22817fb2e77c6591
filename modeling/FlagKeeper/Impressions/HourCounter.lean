import FlagKeeper.Model.Impression

/-!
# Counts per feature and hour

The counter adds up how many impressions each feature had in each hour, until it is drained.
-/

namespace FlagKeeper

/-- Counts by feature and start of the hour. -/
structure HourCounter where
  counts : List FeatureCount := []
  deriving Repr

namespace HourCounter

/-- Whether a count belongs to a feature and the start of an hour. -/
def isBucket (feature : String) (timeframe : Int) (c : FeatureCount) : Bool := c.feature = feature && c.timeframe = timeframe

/-- Adds to the bucket of a feature and the start of an hour, which may be new. -/
def addTo (feature : String) (timeframe amount : Int) : List FeatureCount → List FeatureCount
  | [] => [⟨feature, timeframe, amount⟩]
  | c :: rest =>
    if isBucket feature timeframe c then { c with count := c.count + amount } :: rest
    else c :: addTo feature timeframe amount rest

/-- Adds to the bucket of a feature and the hour that a time lies in. -/
def increment (c : HourCounter) (feature : String) (time amount : Int) : HourCounter :=
  ⟨addTo feature (hourStart time) amount c.counts⟩

/-- All counts, and the counter without any. -/
def drain (c : HourCounter) : List FeatureCount × HourCounter := (c.counts, {})

/-- The count of a feature in the hour that a time lies in. -/
def countFor (c : HourCounter) (feature : String) (time : Int) : Int :=
  ((c.counts.find? (isBucket feature (hourStart time))).map (·.count)).getD 0

/-- Whether nothing was counted. -/
def isEmpty (c : HourCounter) : Bool := c.counts.isEmpty

end HourCounter

end FlagKeeper
