/-!
# Events of a client's life

Status events drive the manager: the streaming connection and the flag synchronizer report through them. Signals go the other
way, to the host, which derives from them when a client is ready or was updated.
-/

namespace FlagKeeper

/-- What happened to streaming or to a fetch. -/
inductive StatusEvent where
  | pushSubsystemUp
  | pushSubsystemDown
  | pushSubsystemDisabled
  | pushRetryableError
  | pushNonRetryableError
  | pushReset
  /-- The server advises how many seconds of silence to bear. -/
  | pushDelayReceived (seconds : Int)
  | syncExecuted
  | uriTooLongOnSync
  | splitLoadedFromCache
  deriving DecidableEq, Repr

namespace StatusEvent

/-- Whether an event only updates records and leaves the transport alone. -/
def isBookkeeping : StatusEvent → Bool
  | .syncExecuted => true
  | .pushDelayReceived _ => true
  | _ => false

/-- The name that telemetry knows an event by. -/
def name : StatusEvent → String
  | .pushSubsystemUp => "push_subsystem_up"
  | .pushSubsystemDown => "push_subsystem_down"
  | .pushSubsystemDisabled => "push_subsystem_disabled"
  | .pushRetryableError => "push_retryable_error"
  | .pushNonRetryableError => "push_non_retryable_error"
  | .pushReset => "push_reset"
  | .pushDelayReceived _ => "push_delay_received"
  | .syncExecuted => "sync_executed"
  | .uriTooLongOnSync => "uri_too_long_on_sync"
  | .splitLoadedFromCache => "split_loaded_from_cache"

/-- The name that an event is written by. -/
def title : StatusEvent → String
  | .pushSubsystemUp => "PushSubsystemUp"
  | .pushSubsystemDown => "PushSubsystemDown"
  | .pushSubsystemDisabled => "PushSubsystemDisabled"
  | .pushRetryableError => "PushRetryableError"
  | .pushNonRetryableError => "PushNonRetryableError"
  | .pushReset => "PushReset"
  | .pushDelayReceived _ => "PushDelayReceived"
  | .syncExecuted => "SyncExecuted"
  | .uriTooLongOnSync => "UriTooLongOnSync"
  | .splitLoadedFromCache => "SplitLoadedFromCache"

/-- The events that have nothing to tell but their name. -/
def plain : List StatusEvent :=
  [.pushSubsystemUp, .pushSubsystemDown, .pushSubsystemDisabled, .pushRetryableError, .pushNonRetryableError, .pushReset,
    .syncExecuted, .uriTooLongOnSync, .splitLoadedFromCache]

/-- The event of a name, if it has nothing to tell but that. -/
def ofTitle? (title : String) : Option StatusEvent := plain.find? fun e => e.title = title

end StatusEvent

/-- A signal to the host. -/
inductive Signal where
  | mySegmentsUpdated
  | myLargeSegmentsUpdated
  | splitsUpdated
  | mySegmentsLoadedFromCache
  | myLargeSegmentsLoadedFromCache
  | splitsLoadedFromCache
  | attributesLoadedFromCache
  | splitKilled
  | readyTimeoutReached
  | failed
  deriving DecidableEq, Repr

/-- The name that the host knows a signal by. -/
def Signal.name : Signal → String
  | .mySegmentsUpdated => "MySegmentsUpdated"
  | .myLargeSegmentsUpdated => "MyLargeSegmentsUpdated"
  | .splitsUpdated => "SplitsUpdated"
  | .mySegmentsLoadedFromCache => "MySegmentsLoadedFromCache"
  | .myLargeSegmentsLoadedFromCache => "MyLargeSegmentsLoadedFromCache"
  | .splitsLoadedFromCache => "SplitsLoadedFromCache"
  | .attributesLoadedFromCache => "AttributesLoadedFromCache"
  | .splitKilled => "SplitKilledNotification"
  | .readyTimeoutReached => "SdkReadyTimeoutReached"
  | .failed => "SdkError"

end FlagKeeper
