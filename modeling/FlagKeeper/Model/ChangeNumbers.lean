import FlagKeeper.Codec.Decoder

/-!
# Change numbers of segments

The server stamps every change of segment memberships with a growing number, one for each of the two kinds of segments. A pair
of them is the state of an identity's memberships, or the state that a notification asks to reach.
-/

namespace FlagKeeper

/-- A change number for each kind of segments. -/
structure ChangeNumbers where
  segments : Int
  largeSegments : Int
  deriving DecidableEq, Repr

namespace ChangeNumbers

/-- No change is known of either kind. -/
def unknown : ChangeNumbers := ⟨-1, -1⟩

instance : Inhabited ChangeNumbers := ⟨unknown⟩

/-- The larger number of each kind. -/
def merge (a b : ChangeNumbers) : ChangeNumbers := ⟨max a.segments b.segments, max a.largeSegments b.largeSegments⟩

/-- Whether `a` is ahead of what is known in at least one kind. -/
def isNewerThan (a known : ChangeNumbers) : Bool := known.segments < a.segments || known.largeSegments < a.largeSegments

/-- The text of a pair. -/
def text (a : ChangeNumbers) : String := "msn_" ++ toString a.segments ++ "_mlsn_" ++ toString a.largeSegments

/-- The fields of a pair. -/
def fields : Fields ChangeNumbers :=
  (Fields.none ChangeNumbers.mk)
    |>.also (.required "segments" .int64)
    |>.also (.required "largeSegments" .int64)

/-- Reads a pair. -/
def decode : Decoder ChangeNumbers := fields.decoder "SegmentsChangeNumber"

/-- Writes a pair. -/
def encode (a : ChangeNumbers) : Json := .obj [("largeSegments", .int a.largeSegments), ("segments", .int a.segments)]

end ChangeNumbers

end FlagKeeper
