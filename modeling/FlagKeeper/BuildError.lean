import FlagKeeper.Duration

/-!
# What can be missing when something is put together
-/

namespace FlagKeeper

/-- The causes for which a manager or a worker is not built. -/
inductive BuildError where
  | noSynchronizer
  | noEvents
  | backoffOrder (base max : Duration)
  | noTask
  | zeroInterval

/-- The wording of a refusal to build. -/
def BuildError.message : BuildError → String
  | .noSynchronizer => "Synchronizer is required"
  | .noEvents => "Sync event receiver is required"
  | .backoffOrder base max => "Reconnect backoff base " ++ base.text ++ " exceeds max " ++ max.text
  | .noTask => "Sync task is required"
  | .zeroInterval => "Interval must be greater than zero"

end FlagKeeper
