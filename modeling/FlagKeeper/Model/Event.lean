import FlagKeeper.Codec.Decoder

/-!
# Tracked events

An event that the host application reports about an identity. Its size is the size of its written form.
-/

namespace FlagKeeper

/-- A reported event. -/
structure TrackedEvent where
  key : String
  trafficType : String
  eventType : String
  value : Option Double
  timestamp : Int
  properties : List (String × Json)

namespace TrackedEvent

/-- An event without value and properties. -/
def new (key trafficType eventType : String) (timestamp : Int) : TrackedEvent :=
  { key := key, trafficType := trafficType, eventType := eventType, value := none, timestamp := timestamp, properties := [] }

/-- The fields of an event. -/
def fields : Fields TrackedEvent :=
  (Fields.none TrackedEvent.mk)
    |>.also (.required "key" .string)
    |>.also (.required "trafficTypeName" .string)
    |>.also (.required "eventTypeId" .string)
    |>.also (.optional "value" .double)
    |>.also (.required "timestamp" .int64)
    |>.also (.withDefault "properties" (.table .any) [])

/-- Reads an event. -/
def decode : Decoder TrackedEvent := fields.decoder "EventDto"

/-- Writes an event; properties only if there are any. -/
def encode (e : TrackedEvent) : Json :=
  .obj (presentFields
    [("eventTypeId", some (.str e.eventType)), ("key", some (.str e.key)),
      ("properties", if e.properties.isEmpty then none else some (.obj e.properties)),
      ("timestamp", some (.int e.timestamp)), ("trafficTypeName", some (.str e.trafficType)), ("value", e.value.map .number)])

/-- The number of bytes of the written form. -/
def byteSize (e : TrackedEvent) : Nat := e.encode.byteSize

end TrackedEvent

end FlagKeeper
