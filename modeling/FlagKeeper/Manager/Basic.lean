import FlagKeeper.Channel
import FlagKeeper.Manager.State
import FlagKeeper.Synchronizer

/-!
# The manager

The manager decides between streaming and polling. Status events reach it through a channel and are handled one at a time by a
loop. It sets the timer for reconnections, and turns the pause and the resume of the client into calls to the synchronizer and
to the streaming connection. During a pause events are dropped.
-/

namespace FlagKeeper

/-- The manager in its surroundings. -/
structure Manager (m : Type → Type) where
  state : Cell m Manager.State
  /-- The status events that wait. -/
  inbox : Cell m (Channel StatusEvent)
  synchronizer : Synchronizer.Command → m Unit
  /-- What the user allows, as far as the synchronizer knows. -/
  consent : m Consent
  /-- Without a streaming connection the manager polls. -/
  push : Option (PushOrder → m Unit)
  telemetry : TelemetrySink m
  log : LifeRecord → m Unit
  clocks : Clocks m

namespace Manager

variable {m : Type → Type} [Monad m]

/-- Tells the streaming connection, if there is one. -/
def tellPush (g : Manager m) (order : PushOrder) : m Unit :=
  match g.push with
  | some tell => tell order
  | none => return ()

/-- Tells the streaming connection, unless it was given up for good. -/
def tellLivePush (g : Manager m) (order : PushOrder) : m Unit := do
  if !(← g.state.get).streamingStopped then g.tellPush order

/-- Records how a component fares, as of now. -/
def noteHealth (g : Manager m) (change : Health → Int → Health) : m Unit := do
  let now ← g.clocks.wallSecs
  g.state.modify fun st => { st with health := change st.health now }

/-- Records that a component is well. -/
def noteHealthy (g : Manager m) (name : String) : m Unit := g.noteHealth fun h now => h.setHealthy name now

/-- Records that a component works on a fallback. -/
def noteDegraded (g : Manager m) (name reason : String) : m Unit := g.noteHealth fun h now => h.setDegraded name reason now

/-- Records that a component does not work. -/
def noteUnhealthy (g : Manager m) (name reason : String) : m Unit := g.noteHealth fun h now => h.setUnhealthy name reason now

/-- Declares the client ready or not. -/
def noteReady (g : Manager m) (ready : Bool) : m Unit :=
  g.state.modify fun st => { st with health := st.health.setReady ready }

/-- Cancels a pending reconnection and starts the delays over. -/
def cancelReconnection (g : Manager m) : m Unit :=
  g.state.modify fun st => { st with reconnect := st.reconnect.cancel }

/-- Reports that the transport changed. -/
def reportMode (g : Manager m) (mode : SyncMode) (reason : String) : m Unit := do
  g.telemetry.syncMode mode
  g.log (.modeChanged mode reason)

/-- Polls from now on, if that is not so already. -/
def enablePolling (g : Manager m) (reason : String) : m Unit := do
  if !(← g.state.get).polling then
    g.state.modify fun st => { st with polling := true }
    g.synchronizer .startFetching
    g.noteHealthy pollingName
    g.reportMode .polling reason

/-- Gives streaming up for good and polls. -/
def stopStreaming (g : Manager m) (reason : String) : m Unit := do
  g.cancelReconnection
  g.state.modify fun st => { st with streaming := false, streamingStopped := true }
  g.enablePolling reason
  g.tellPush .stop
  g.noteDegraded streamingName reason

/-- Why nothing can be fetched. -/
def tooLongReason : String := "flags fetch URI too long"

/-- Ends both transports: nothing can be fetched before the filter is made narrower. -/
def stopTransports (g : Manager m) : m Unit := do
  g.cancelReconnection
  g.tellPush .stop
  g.synchronizer .stopFetching
  g.state.modify fun st => { st with polling := false, streaming := false, streamingStopped := true }
  g.noteUnhealthy featureFlagsName tooLongReason
  g.noteUnhealthy streamingName tooLongReason
  g.noteUnhealthy pollingName tooLongReason
  g.log (.transportsStopped tooLongReason)

/-- Sets the timer for the next reconnection, if there is something to connect. -/
def scheduleReconnection (g : Manager m) : m Unit := do
  if g.push.isSome then
    let now ← g.clocks.steady
    let delay ← g.state.step fun st =>
      let (delay, reconnect) := st.reconnect.schedule now ()
      (delay, { st with reconnect })
    match delay with
    | some d => g.log (.reconnectScheduled d.secs)
    | none => return ()

/-- A timer has run out: it gives up its slot. Says whether it was still pending. -/
def timerOver (g : Manager m) (id : Nat) : m Bool := do
  let task ← g.state.step fun st =>
    let (task, timers) := st.reconnect.timers.wake id
    (task, { st with reconnect := { st.reconnect with timers } })
  return task.isSome

/-- The time to reconnect has come. -/
def reconnectDue (g : Manager m) : m Unit := do
  let st ← g.state.get
  if !st.stopped && !st.paused then g.tellPush .start

/-- Chooses the transport at the start. -/
def chooseTransport (g : Manager m) : m Unit := do
  let st ← g.state.get
  if !st.syncEnabled then
    g.noteDegraded streamingName "sync disabled, single fetch only"
    g.noteDegraded pollingName "sync disabled, single fetch only"
  else if g.push.isSome && st.streamingEnabled then g.tellPush .start
  else
    g.state.modify fun st => { st with streamingStopped := true }
    g.enablePolling "streaming disabled"

/-- Begins to fetch, once. -/
def startRemote (g : Manager m) : m Unit := do
  if !(← g.state.get).remoteStarted then
    g.state.modify fun st => { st with remoteStarted := true }
    g.noteReady true
    g.synchronizer .synchronizeAll
    g.chooseTransport
    if (← g.consent) = .granted then g.synchronizer .startRecording
    else g.noteDegraded telemetryName "user consent not granted"

/-- The milliseconds of a number of seconds, as far as 64 bits with a sign reach. -/
def millisOfSecs (seconds : Int) : Int := clampSigned (seconds * 1000)

/-- Acts on a status event. -/
def act (g : Manager m) : StatusEvent → m Unit
  | .pushSubsystemUp => do
    g.cancelReconnection
    g.synchronizer .synchronizeAll
    g.synchronizer .stopFetching
    g.state.modify fun st => { st with polling := false, streaming := true }
    g.noteHealthy streamingName
    g.noteHealthy pollingName
    g.reportMode .streaming "push subsystem up"
  | .pushSubsystemDown => do
    g.cancelReconnection
    g.state.modify fun st => { st with streaming := false }
    g.noteDegraded streamingName "push subsystem down"
    g.enablePolling "push subsystem down"
  | .pushSubsystemDisabled => g.stopStreaming "push subsystem disabled"
  | .pushRetryableError => do
    g.state.modify fun st => { st with streaming := false }
    g.noteDegraded streamingName "retryable streaming error"
    g.enablePolling "retryable streaming error"
    g.scheduleReconnection
  | .pushNonRetryableError => g.stopStreaming "non retryable streaming error"
  | .pushReset => do
    g.tellPush .disconnect
    g.state.modify fun st => { st with streaming := false }
    g.scheduleReconnection
  | .pushDelayReceived seconds =>
    g.state.modify fun st => { st with guardian := st.guardian.setPeriod (millisOfSecs seconds) }
  | .syncExecuted => do
    let now ← g.clocks.wallMillis
    g.state.modify fun st => { st with guardian := st.guardian.synced now }
  | .uriTooLongOnSync => g.stopTransports
  | .splitLoadedFromCache => g.startRemote

/-- Handles a status event. A pause drops it, and counts it if it would have been recorded. -/
def handleEvent (g : Manager m) (event : StatusEvent) : m Unit := do
  g.telemetry.streamingEvent event
  let st ← g.state.get
  if st.stopped then return ()
  else if st.paused then
    if event.isBookkeeping then g.state.modify fun st => { st with dropped := st.dropped + 1 }
  else g.act event

/-- Ends the loop; events are lost from now on. -/
def endLoop (g : Manager m) : m Unit := do
  g.state.modify fun st => { st with loop := .ended }
  g.inbox.modify .close

/-- One round of the loop: ends it if that was asked for, or handles the next event; says whether there was anything to do. -/
def serveNext (g : Manager m) : m Bool := do
  let st ← g.state.get
  if st.loop ≠ .running then return false
  else if st.shutdownSent then
    g.endLoop
    return true
  else
    match ← g.inbox.step Channel.receive with
    | none => return false
    | some event =>
      g.handleEvent event
      return true

/-- Starts the loop, once, and has the caches loaded. -/
def start (g : Manager m) : m Unit := do
  let st ← g.state.get
  if st.loop = .waiting then
    if st.stopped then g.endLoop
    else
      g.log (.started st.syncEnabled st.streamingEnabled)
      g.state.modify fun st => { st with loop := .running }
      g.synchronizer .loadFlags
      g.synchronizer (.loadSegments none)
      g.synchronizer (.loadAttributes none)

/-- Lets everything rest and keeps what is known. -/
def pause (g : Manager m) : m Unit := do
  let st ← g.state.get
  if st.stopped || st.paused then return ()
  else
    g.state.modify fun st =>
      let (pending, reconnect) := st.reconnect.suspend
      { st with paused := true, reconnect, reconnectDeferred := st.reconnectDeferred || pending }
    g.tellLivePush .pause
    g.synchronizer .pause
    g.log .paused

/-- Asks again for the reconnection that a pause took away. -/
def takeUpReconnection (g : Manager m) : m Unit := do
  let deferred ← g.state.step fun st => (st.reconnectDeferred, { st with reconnectDeferred := false })
  if deferred then g.scheduleReconnection

/-- Fetches everything if that is allowed, has begun, and was done too long ago. Says whether it did. -/
def catchUp (g : Manager m) : m Bool := do
  let st ← g.state.get
  let now ← g.clocks.wallMillis
  let forced := st.syncEnabled && st.remoteStarted && st.guardian.mustSync now
  if forced then g.synchronizer .synchronizeAll
  return forced

/-- Takes up what a pause suspended, and fetches everything if the last fetch is too long ago. -/
def resume (g : Manager m) : m Unit := do
  let st ← g.state.get
  if st.stopped || !st.paused then return ()
  else
    g.state.modify fun st => { st with paused := false }
    g.synchronizer .resume
    g.tellLivePush .resume
    g.takeUpReconnection
    g.log (.resumed (← g.catchUp))

/-- Ends everything for good. -/
def destroy (g : Manager m) : m Unit := do
  if !(← g.state.get).stopped then
    g.state.modify fun st => { st with stopped := true }
    g.cancelReconnection
    g.tellPush .stop
    g.synchronizer .destroy
    g.noteReady false
    g.state.modify fun st => { st with shutdownSent := true }
    g.log .stopped

/-- Takes the user's answer. -/
def setConsent (g : Manager m) (consent : Consent) : m Unit := do
  if !(← g.state.get).stopped then
    g.synchronizer (.setConsent consent)
    if consent = .granted then g.noteHealthy telemetryName
    else g.noteDegraded telemetryName "user consent not granted"

end Manager

end FlagKeeper
