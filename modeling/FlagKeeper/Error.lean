import FlagKeeper.Codec.Error
import FlagKeeper.Settings.SourceError

/-!
# Failures

The failures that collaborators report and that reading settings or documents may end in, each by its cause, with one function
for the wording.
-/

namespace FlagKeeper

/-- Why settings are not accepted. -/
inductive SettingsFault where
  | emptyQueue
  | emptyObserver
  | backoffOrder (base max : Nat)
  | tooManyNames (limit count : Nat)
  | tooManyPrefixes (limit count : Nat)
  /-- A reason given by the host. -/
  | other (reason : String)

/-- The wording of a settings fault. -/
def SettingsFault.message : SettingsFault → String
  | .emptyQueue => "queue sizes must be greater than zero"
  | .emptyObserver => "observer capacity must be greater than zero"
  | .backoffOrder base max =>
    "reconnect backoff base (" ++ toString base ++ "s) exceeds max (" ++ toString max ++ "s)"
  | .tooManyNames limit count =>
    "sync filter allows at most " ++ toString limit ++ " names, got " ++ toString count
  | .tooManyPrefixes limit count =>
    "sync filter allows at most " ++ toString limit ++ " prefixes, got " ++ toString count
  | .other reason => reason

/-- A failure. -/
inductive SyncError where
  | storage (text : String)
  | network (text : String)
  /-- The server refuses the address of a fetch as too long, mostly because the filter names too much. -/
  | uriTooLong
  | config (cause : SourceError)
  | invalidConfig (fault : SettingsFault)
  | serialization (cause : DecodeError)
  | destroyed
  | channelClosed

namespace SyncError

/-- The name of the kind of failure. -/
def kind : SyncError → String
  | .storage _ => "Storage"
  | .network _ => "Network"
  | .uriTooLong => "UriTooLong"
  | .config _ => "Config"
  | .invalidConfig _ => "InvalidConfig"
  | .serialization _ => "Serialization"
  | .destroyed => "Destroyed"
  | .channelClosed => "ChannelClosed"

/-- The wording of a failure. A file that cannot be parsed has none of its own. -/
def message? : SyncError → Option String
  | .storage text => some ("storage error: " ++ text)
  | .network text => some ("network error: " ++ text)
  | .uriTooLong => some "request uri too long"
  | .config cause => cause.message?.map ("configuration error: " ++ ·)
  | .invalidConfig fault => some ("invalid configuration: " ++ fault.message)
  | .serialization cause => some ("serialization error: " ++ cause.message)
  | .destroyed => some "component destroyed"
  | .channelClosed => some "channel closed"

/-- Whether the failure is that of an address that is too long. -/
def isUriTooLong : SyncError → Bool
  | .uriTooLong => true
  | _ => false

end SyncError

/-- How a call that returns nothing ends. -/
abbrev Outcome := Except SyncError Unit

end FlagKeeper
