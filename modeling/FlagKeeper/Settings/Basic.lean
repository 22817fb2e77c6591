import FlagKeeper.Duration
import FlagKeeper.Flags.Filter

/-!
# Settings

Everything a host may set, with a default for each. `Settings.validate` refuses the values with which the pipelines would
stall.
-/

namespace FlagKeeper

/-- Which impressions are delivered. -/
inductive ImpressionsMode where
  /-- The first of each identity and hour, and counts. -/
  | optimized
  /-- Every one. -/
  | debug
  /-- None, only counts and unique keys. -/
  | none
  deriving DecidableEq, Repr

namespace ImpressionsMode

/-- The modes by name. -/
def table : List (String × ImpressionsMode) := [("optimized", .optimized), ("debug", .debug), ("none", .none)]

/-- The name of a mode. -/
def name : ImpressionsMode → String
  | .optimized => "optimized"
  | .debug => "debug"
  | .none => "none"

/-- Reads a mode. -/
def decode : Decoder ImpressionsMode := Decoder.variant table

end ImpressionsMode

/-- What the user allows to be recorded. -/
inductive Consent where
  | granted
  | declined
  | unknown
  deriving DecidableEq, Repr

namespace Consent

/-- The answers by name. -/
def table : List (String × Consent) := [("granted", .granted), ("declined", .declined), ("unknown", .unknown)]

/-- The name of an answer. -/
def name : Consent → String
  | .granted => "granted"
  | .declined => "declined"
  | .unknown => "unknown"

/-- Reads an answer. -/
def decode : Decoder Consent := Decoder.variant table

/-- Data is tracked unless the user declined. -/
def allowsTracking (c : Consent) : Bool := c ≠ .declined

/-- Tracked data is kept and sent only once the user agreed. -/
def allowsPersistence (c : Consent) : Bool := c = .granted

end Consent

/-- The periodic workers whose period is a setting. -/
inductive RefreshTarget where
  | flags
  | segments
  | impressions
  | counts
  | uniqueKeys
  | events
  deriving DecidableEq, Repr

/-- The settings of a client. -/
structure Settings where
  /-- Off means a single fetch and nothing after it. -/
  syncEnabled : Bool := true
  /-- Whether streaming is preferred over polling. -/
  streamingEnabled : Bool := true
  impressionsMode : ImpressionsMode := .optimized
  flagsRefreshSecs : Nat := 3600
  segmentsRefreshSecs : Nat := 1800
  impressionsRefreshSecs : Nat := 1800
  countsRefreshSecs : Nat := 1800
  uniqueKeysRefreshSecs : Nat := 900
  eventsPushSecs : Nat := 1800
  /-- So many queued impressions are sent at once. -/
  impressionsQueueSize : Nat := 30000
  impressionsQueueBytes : Nat := 5242880
  /-- So many queued events are sent at once. -/
  eventsQueueSize : Nat := 10000
  eventsQueueBytes : Nat := 5242880
  /-- How many impressions the observer remembers. -/
  observerCapacity : Nat := 500
  backoffBaseSecs : Nat := 1
  backoffMaxSecs : Nat := 1800
  /-- After a silence of this length a resume fetches everything. -/
  maxSyncPeriodMillis : Int := 1800000
  userConsent : Consent := .granted
  filter : FlagFilter := {}

namespace Settings

instance : Inhabited Settings := ⟨{}⟩

/-- The fields of settings. -/
def fields : Fields Settings :=
  let whole (name : String) (value : Nat) : Field Nat := .withDefault name (.nat64 "u64") value
  let size (name : String) (value : Nat) : Field Nat := .withDefault name (.nat64 "usize") value
  (Fields.none Settings.mk)
    |>.also (.withDefault "sync_enabled" .bool true)
    |>.also (.withDefault "streaming_enabled" .bool true)
    |>.also (.withDefault "impressions_mode" ImpressionsMode.decode .optimized)
    |>.also (whole "flags_refresh_rate_secs" 3600)
    |>.also (whole "segments_refresh_rate_secs" 1800)
    |>.also (whole "impressions_refresh_rate_secs" 1800)
    |>.also (whole "impressions_count_refresh_rate_secs" 1800)
    |>.also (whole "unique_keys_refresh_rate_secs" 900)
    |>.also (whole "events_push_rate_secs" 1800)
    |>.also (size "impressions_queue_size" 30000)
    |>.also (size "impressions_queue_size_bytes" 5242880)
    |>.also (size "events_queue_size" 10000)
    |>.also (size "events_queue_size_bytes" 5242880)
    |>.also (size "observer_capacity" 500)
    |>.also (whole "push_reconnect_backoff_base_secs" 1)
    |>.also (whole "push_reconnect_backoff_max_secs" 1800)
    |>.also (.withDefault "max_sync_period_ms" .int64 1800000)
    |>.also (.withDefault "user_consent" Consent.decode .granted)
    |>.also (.withDefault "sync_filter" FlagFilter.decode {})

/-- Reads settings. -/
def decode : Decoder Settings := fields.decoder "SyncConfig"

/-- Writes settings. -/
def encode (s : Settings) : Json :=
  .obj [("events_push_rate_secs", .int s.eventsPushSecs), ("events_queue_size", .int s.eventsQueueSize),
    ("events_queue_size_bytes", .int s.eventsQueueBytes), ("flags_refresh_rate_secs", .int s.flagsRefreshSecs),
    ("impressions_count_refresh_rate_secs", .int s.countsRefreshSecs), ("impressions_mode", .str s.impressionsMode.name),
    ("impressions_queue_size", .int s.impressionsQueueSize), ("impressions_queue_size_bytes", .int s.impressionsQueueBytes),
    ("impressions_refresh_rate_secs", .int s.impressionsRefreshSecs), ("max_sync_period_ms", .int s.maxSyncPeriodMillis),
    ("observer_capacity", .int s.observerCapacity), ("push_reconnect_backoff_base_secs", .int s.backoffBaseSecs),
    ("push_reconnect_backoff_max_secs", .int s.backoffMaxSecs), ("segments_refresh_rate_secs", .int s.segmentsRefreshSecs),
    ("streaming_enabled", .bool s.streamingEnabled), ("sync_enabled", .bool s.syncEnabled), ("sync_filter", s.filter.encode),
    ("unique_keys_refresh_rate_secs", .int s.uniqueKeysRefreshSecs), ("user_consent", .str s.userConsent.name)]

/-- Refuses settings that would stall the pipelines. -/
def validate (s : Settings) : Except SettingsFault Unit :=
  if s.impressionsQueueSize = 0 || s.eventsQueueSize = 0 then .error .emptyQueue
  else if s.observerCapacity = 0 then .error .emptyObserver
  else if s.backoffBaseSecs > s.backoffMaxSecs then .error (.backoffOrder s.backoffBaseSecs s.backoffMaxSecs)
  else s.filter.validate

/-- The period of a periodic worker. -/
def refreshRate (s : Settings) : RefreshTarget → Duration
  | .flags => .ofSecs s.flagsRefreshSecs
  | .segments => .ofSecs s.segmentsRefreshSecs
  | .impressions => .ofSecs s.impressionsRefreshSecs
  | .counts => .ofSecs s.countsRefreshSecs
  | .uniqueKeys => .ofSecs s.uniqueKeysRefreshSecs
  | .events => .ofSecs s.eventsPushSecs

/-- The delay before the first reconnection. -/
def backoffBase (s : Settings) : Duration := .ofSecs s.backoffBaseSecs

/-- The longest delay before a reconnection. -/
def backoffMax (s : Settings) : Duration := .ofSecs s.backoffMaxSecs

end Settings

end FlagKeeper
