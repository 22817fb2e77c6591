import FlagKeeper.Events.Recorder
import FlagKeeper.Flags.FlagSync
import FlagKeeper.Impressions.Tracker
import FlagKeeper.Registry.Basic

/-!
# The synchronizer

The one part that the rest of a client talks to. It passes what it is told on to the flag synchronizer, the identities, the
impression tracker and the event recorder, and knows what the user allows to be recorded. Once destroyed it asks for no more
work; what only ends work, or only passes a signal on, is still done.
-/

namespace FlagKeeper

namespace Synchronizer

/-- What the synchronizer can be told. A scope is the matching key of some identities, or nothing for all of them. -/
inductive Command where
  | loadFlags
  | loadAndSynchronizeFlags
  | loadSegments (scope : Option String)
  | loadAttributes (scope : Option String)
  /-- To bring a new identity up to date. -/
  | startKey (key : Key)
  /-- To fetch all flags and the segments of all identities. -/
  | synchronizeAll
  | synchronizeFlags
  | synchronizeFlagsTo (changeNumber : Int)
  | synchronizeSegments (scope : Option String)
  | forceSegments (scope : Option String) (target : ChangeNumbers) (delay : Duration)
  | startFetching
  | stopFetching
  | startRecording
  | stopRecording
  | setConsent (consent : Consent)
  | pushImpression (pushed : TrackedImpression)
  | pushEvent (event : TrackedEvent)
  | notifySegmentsUpdated (scope : Option String)
  | notifyLargeSegmentsUpdated (scope : Option String)
  | notifyFlagsUpdated
  /-- To apply a kill order and catch up with its change. -/
  | notifyFlagKilled (kill : FlagKill)
  | pause
  | resume
  | flush
  | destroy

/-- What the synchronizer keeps. -/
structure State where
  consent : Consent
  destroyed : Bool := false
  deriving DecidableEq, Repr

end Synchronizer

/-- The synchronizer in its surroundings. -/
structure Synchronizer (m : Type → Type) where
  state : Cell m Synchronizer.State
  flags : FlagSync.Command → m Unit
  registry : Registry m
  impressions : ImpressionTracker.Command → m Unit
  events : EventRecorder.Command → m Unit

namespace Synchronizer

variable {m : Type → Type} [Monad m]

/-- What the user allows. -/
def consent (s : Synchronizer m) : m Consent := do return (← s.state.get).consent

/-- Does something unless the synchronizer is destroyed. -/
def ifAlive (s : Synchronizer m) (act : m Unit) : m Unit := do
  if !(← s.state.get).destroyed then act

/-- Starts to record user data. -/
def startRecording (s : Synchronizer m) : m Unit :=
  s.ifAlive do
    s.impressions .start
    s.events .start

/-- Ends the recording of user data. -/
def stopRecording (s : Synchronizer m) : m Unit := do
  s.impressions .stop
  s.events .stop

/-- Takes the user's answer: tracking and persistence follow it, and recording goes on only if it is a yes. -/
def setConsent (s : Synchronizer m) (consent : Consent) : m Unit := do
  s.state.modify fun st => { st with consent }
  s.impressions (.enableTracking consent.allowsTracking)
  s.impressions (.enablePersistence consent.allowsPersistence)
  if consent = .granted then s.startRecording else s.stopRecording

/-- Takes an event, unless the user declined. -/
def pushEvent (s : Synchronizer m) (event : TrackedEvent) : m Unit := do
  if (← s.consent).allowsTracking then s.events (.push event)

/-- Ends everything, once. -/
def shutDown (s : Synchronizer m) : m Unit :=
  s.ifAlive do
    s.state.modify fun st => { st with destroyed := true }
    s.flags .stop
    s.registry.stop
    s.impressions .destroy
    s.events .destroy

/-- Does what the synchronizer is told. -/
def run (s : Synchronizer m) : Command → m Unit
  | .loadFlags => s.ifAlive (s.flags .load)
  | .loadAndSynchronizeFlags => s.ifAlive (s.flags .loadAndSynchronize)
  | .loadSegments scope => s.ifAlive (s.registry.tellSegments scope .loadFromCache)
  | .loadAttributes scope => s.ifAlive (s.registry.loadAttributes scope)
  | .startKey key => s.ifAlive (s.registry.startSync key)
  | .synchronizeAll =>
    s.ifAlive do
      s.flags .synchronize
      s.registry.tellSegments none .synchronize
  | .synchronizeFlags => s.ifAlive (s.flags .synchronize)
  | .synchronizeFlagsTo changeNumber => s.ifAlive (s.flags (.synchronizeTo changeNumber))
  | .synchronizeSegments scope => s.ifAlive (s.registry.tellSegments scope .synchronize)
  | .forceSegments scope target delay => s.ifAlive (s.registry.tellSegments scope (.force target delay))
  | .startFetching =>
    s.ifAlive do
      s.flags .startPeriodic
      s.registry.startPolling
  | .stopFetching => do
    s.flags .stopPeriodic
    s.registry.stopPolling
  | .startRecording => s.startRecording
  | .stopRecording => s.stopRecording
  | .setConsent consent => s.ifAlive (s.setConsent consent)
  | .pushImpression pushed => s.ifAlive (s.impressions (.push pushed))
  | .pushEvent event => s.ifAlive (s.pushEvent event)
  | .notifySegmentsUpdated scope => s.registry.tellSegments scope .notifyUpdated
  | .notifyLargeSegmentsUpdated scope => s.registry.tellSegments scope .notifyLargeUpdated
  | .notifyFlagsUpdated => s.flags .notifyUpdated
  | .notifyFlagKilled kill =>
    s.ifAlive do
      s.flags (.notifyKilled kill)
      s.flags (.synchronizeTo kill.changeNumber)
  | .pause =>
    s.ifAlive do
      s.flags .pause
      s.registry.tellSegments none .pause
      s.impressions .pause
      s.events .pause
  | .resume =>
    s.ifAlive do
      s.flags .resume
      s.registry.tellSegments none .resume
      s.impressions .resume
      s.events .resume
  | .flush =>
    s.ifAlive do
      s.impressions .flush
      s.events .flush
  | .destroy => s.shutDown

end Synchronizer

end FlagKeeper
