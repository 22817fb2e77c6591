import FlagKeeper.Model.ChangeNumbers
import FlagKeeper.Model.Key

/-!
# Workers

The host does the fetching and sending with workers that it makes on demand. A worker is known by its kind and by a number that
tells it from others of the same name.
-/

namespace FlagKeeper

/-- What a worker does. -/
inductive WorkerKind where
  /-- Fetches all flags. -/
  | flagsSync
  /-- Fetches all flags again and again. -/
  | periodicFlags
  /-- Fetches flags until a change number is reached. -/
  | flagsUpdate (changeNumber : Int)
  /-- Fetches the segments of an identity. -/
  | segmentsSync (key : Key)
  /-- Fetches the segments of an identity again and again. -/
  | periodicSegments (key : Key)
  /-- Fetches the segments of an identity until change numbers are reached. -/
  | segmentsUpdate (key : Key) (target : ChangeNumbers)
  /-- Sends the queued impressions. -/
  | impressionsRecorder
  /-- Sends the impression counts. -/
  | countRecorder
  /-- Sends the unique keys. -/
  | uniqueKeysRecorder
  /-- Sends the queued impressions again and again. -/
  | periodicImpressions
  /-- Sends the impression counts again and again. -/
  | periodicCounts
  /-- Sends the unique keys again and again. -/
  | periodicUniqueKeys
  /-- Sends the queued events. -/
  | eventsRecorder
  /-- Sends the queued events again and again. -/
  | periodicEvents
  deriving DecidableEq, Repr

/-- A worker. -/
structure Worker where
  kind : WorkerKind
  serial : Nat
  deriving DecidableEq, Repr

/-- What a worker can be told. -/
inductive WorkerOrder where
  | start
  | stop
  | pause
  | resume
  /-- For good. -/
  | destroy
  /-- To send what is queued. -/
  | flush
  deriving DecidableEq, Repr

end FlagKeeper
