import FlagKeeper.Script.Steps

/-!
# Reading scenarios

A scenario says which parts of a client are simulated, in what host, and what they go through. The kind of a scenario names the
parts.
-/

namespace FlagKeeper.Script

open FlagKeeper.Simulation

/-- What a scenario starts with, without its steps. -/
structure Scenario where
  kind : String
  setup : HostSetup
  /-- Puts the client together. -/
  assemble : Sim (Except BuildError Unit)

/-- The names in a list of what is left out. -/
def leftOut (input : Json) : List String :=
  match field input "without" with
  | .arr parts => parts.filterMap fun part => match part with | .str name => some name | _ => none
  | .str name => [name]
  | _ => []

/-- What the host is like. -/
def hostSetup (input : Json) (given : Settings) : Reading HostSetup := do
  return {
    settings := given
    now := ← withDefault int 1700000000000 (field? input "now")
    faults := ← withDefault (listOf text) [] (field? input "faults")
    automatic := ← withDefault automatic [] (field? input "auto")
    reactions := ← withDefault reactions [] (field? input "on")
    flags := ← withDefault flags [] (field? input "flags")
    changeNumber := ← withDefault int (-1) (field? input "change_number")
    queryText := ← orNull text (field input "query")
    hashes := ← whereGiven (listOf seen) (field? input "hashes")
    reportsPersistence := match field input "queue" with | .str "memory" => false | _ => true
    hasMetrics := match field input "telemetry" with | .str "metrics" => true | _ => false
    hasPush := !(leftOut input).contains "push"
    clientName := ← withDefault text "default" (field? input "instance") }

/-- The shortest and the longest delay. -/
def delayRange (j : Json) : Reading (Duration × Duration) := do
  let range ← elements j
  let base ← duration (argument range 0)
  return (base, ← duration (argument range 1))

/-- An interval worker: with the default interval, or with that of a periodic worker, or with one of its own. -/
def intervalWorker (input : Json) (given : Settings) : Reading (Except BuildError IntervalWorker) := do
  match field input "direct" with
  | .bool true => return .ok { settings := {} }
  | _ =>
    let ofTarget := given.refreshRate <$> named refreshTargets (field input "target")
    let base ← if (field? input "target").isSome then ofTarget else pure ({} : IntervalSettings).interval
    let interval ← withDefault duration base (field? input "interval")
    let jitter ← withDefault duration .zero (field? input "jitter")
    return IntervalWorker.build (!(leftOut input).contains "task") { interval, jitter }

/-- Registers identities in a new registry. -/
def registerAll (identities : List IdentitySetup) : Sim Unit := do
  makeRegistry
  identities.forM registerIdentity

/-- Puts together what cannot be refused. -/
def always (work : Sim Unit) : Sim (Except BuildError Unit) := do
  work
  return .ok ()

/-- Reads how a client of some kind is put together. -/
def assembly (kind : String) (input : Json) (given : Settings) : Reading (Sim (Except BuildError Unit)) := do
  let identities ← withDefault (listOf identity) [] (field? input "identities")
  let backoff ← whereGiven delayRange (field? input "backoff")
  let missing := leftOut input
  let manager := makeManager (!missing.contains "synchronizer") (!missing.contains "events") backoff
  match kind with
  | "flags" => return always makeFlags
  | "segments" => do
    let only ← identity input
    return always (do let _ ← makeIdentity only true)
  | "tracker" => return always makeTracker
  | "events" => return always makeEvents
  | "registry" => return always (registerAll identities)
  | "facade" =>
    return always do
      registerAll identities
      makeSynchronizer
  | "manager" => return manager
  | "stack" =>
    return do
      makeFlags
      registerAll identities
      makeTracker
      makeEvents
      makeSynchronizer
      manager
  | "timers" => return always (modify fun w => { w with alarms := some {} })
  | "backoff_timer" => do
    let base ← duration (field input "base")
    let max ← duration (field input "max")
    return always (modify fun w => { w with retry := some { backoff := { base, max } } })
  | "interval" => do
    match ← intervalWorker input given with
    | .ok worker => return always (modify fun w => { w with interval := some worker })
    | .error cause => return pure (.error cause)
  | "logger" => return always (return ())
  | "metrics" => return always (return ())
  | _ => malformed

/-- Reads a scenario of some kind. -/
def scenario (kind : String) (input : Json) : Reading Scenario := do
  let given ← settings (field? input "config")
  let setup ← hostSetup input given
  return { kind, setup, assemble := ← assembly kind input given }

end FlagKeeper.Script
