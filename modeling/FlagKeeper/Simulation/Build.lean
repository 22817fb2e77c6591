import FlagKeeper.Simulation.Client

/-!
# Putting a client into the world

Each part of the client is made in the simulated host, which sees the workers that are made for it.
-/

namespace FlagKeeper.Simulation

/-- What is known of an identity when it is registered. -/
structure IdentitySetup where
  key : Key
  label : Option String := none
  segments : Option Int := none
  largeSegments : Option Int := none

/-- The change numbers of a store that holds at most one. -/
def storedNumbers (key : Key) (number : Option Int) : List (String × Int) := (number.map fun n => (key.matching, n)).toList

/-- Makes an identity, and its segment synchronizer if that is to be simulated. -/
def makeIdentity (setup : IdentitySetup) (simulated : Bool) : Sim BundleId := do
  let w ← get
  let bundle := w.identities.length
  let identity : Identity :=
    { key := setup.key
      label := setup.label.getD setup.key.text
      segments := storedNumbers setup.key setup.segments
      largeSegments := storedNumbers setup.key setup.largeSegments }
  set { w with identities := w.identities ++ [identity] }
  if simulated then
    let w ← get
    let st ← SegmentSync.create setup.key w.setup.settings.syncEnabled ((ports w).workers (some bundle))
    modify fun w => { w with identities := changeAt (fun i => { i with sync := some st }) bundle w.identities }
  return bundle

/-- Makes the flag synchronizer. -/
def makeFlags : Sim Unit := do
  let w ← get
  let st ← FlagSync.create w.setup.settings.syncEnabled ((ports w).workers none)
  modify fun w => { w with flags := some st }

/-- Makes the impression tracker. -/
def makeTracker : Sim Unit := do
  let w ← get
  let tracker := w.impressionTracker (ports w)
  let st ← ImpressionTracker.create w.setup.settings tracker.queue tracker.hashes tracker.workers
  modify fun w => { w with tracker := some st }

/-- Makes the event recorder. -/
def makeEvents : Sim Unit := do
  let w ← get
  let st ← EventRecorder.create w.setup.settings ((ports w).workers none)
  modify fun w => { w with events := some st }

/-- Makes the registry. -/
def makeRegistry : Sim Unit := modify fun w => { w with registry := some {} }

/-- Registers an identity. Where the flag synchronizer is simulated, the segment synchronizers are too. -/
def registerIdentity (setup : IdentitySetup) : Sim Unit := do
  let bundle ← makeIdentity setup (← get).flags.isSome
  (← currentClient).registry.register setup.key bundle

/-- Makes the synchronizer. -/
def makeSynchronizer : Sim Unit :=
  modify fun w => { w with synchronizer := some { consent := w.setup.settings.userConsent } }

/-- Makes the manager, unless it cannot be built. -/
def makeManager (hasSynchronizer hasEvents : Bool) (backoff : Option (Duration × Duration)) : Sim (Except BuildError Unit) := do
  let w ← get
  match Manager.State.build w.setup.settings hasSynchronizer hasEvents backoff (w.wall / 1000000000) with
  | .ok st =>
    set { w with manager := some st }
    return .ok ()
  | .error e => return .error e

end FlagKeeper.Simulation
