import FlagKeeper.Script.Report
import FlagKeeper.Settings.Source
import FlagKeeper.Proofs.Timing.BackoffTimer
import FlagKeeper.Proofs.Manager.Scene
import FlagKeeper.Proofs.Manager.Calls
import FlagKeeper.Proofs.Manager.History
import FlagKeeper.Proofs.Manager.Reconnection
import FlagKeeper.Proofs.Manager.Transport
import FlagKeeper.Proofs.Manager.Coverage
import FlagKeeper.Proofs.Manager.GivenUp
import FlagKeeper.Proofs.Manager.TooLong
import FlagKeeper.Proofs.Manager.SingleFetch
import FlagKeeper.Proofs.Manager.PauseHides
import FlagKeeper.Proofs.Ensemble.Ground
import FlagKeeper.Proofs.Ensemble.Basic
import FlagKeeper.Proofs.Timing.TimerTable
import FlagKeeper.Proofs.Ensemble.Ledger
import FlagKeeper.Proofs.Ensemble.Keeps
import FlagKeeper.Proofs.Ensemble.Parts
import FlagKeeper.Proofs.Ensemble.Whole
import FlagKeeper.Proofs.Ensemble.Managed
import FlagKeeper.Proofs.Ensemble.Identities
import FlagKeeper.Proofs.Ensemble.Reached
import FlagKeeper.Proofs.Ensemble.Terminal
import FlagKeeper.Proofs.Workshop.Journal
import FlagKeeper.Proofs.Segments.Scene
import FlagKeeper.Proofs.Segments.SingleFlight
import FlagKeeper.Proofs.Segments.Notifications
import FlagKeeper.Proofs.Flags.CatchUp
import FlagKeeper.Proofs.Recording.Consent
import FlagKeeper.Proofs.Recording.Declined
import FlagKeeper.Proofs.Impressions.SeenCache
import FlagKeeper.Proofs.Impressions.HourCounter
import FlagKeeper.Proofs.Tracking.Dedup
import FlagKeeper.Proofs.Tracking.Losses
import FlagKeeper.Proofs.Impressions.RecentList
import FlagKeeper.Proofs.Tracking.Restart
import FlagKeeper.Proofs.Tracking.Thresholds
import FlagKeeper.Proofs.Tracking.Lifecycle
import FlagKeeper.Proofs.Flags.FilterScope
import FlagKeeper.Proofs.Flags.FilterChange
import FlagKeeper.Proofs.Flags.Cache
import FlagKeeper.Proofs.Flags.Reconciliation
import FlagKeeper.Proofs.Ensemble.Staff
import FlagKeeper.Proofs.Ensemble.Opening
import FlagKeeper.Proofs.Ensemble.Preparation
import FlagKeeper.Proofs.Ensemble.Progress
import FlagKeeper.Proofs.Ensemble.Settling
import FlagKeeper.Proofs.Ensemble.StartUp
import FlagKeeper.Proofs.Manager.Health
import FlagKeeper.Proofs.Manager.CatchUp
import FlagKeeper.Proofs.Registry.Scene
import FlagKeeper.Proofs.Registry.Polling
import FlagKeeper.Proofs.Registry.Pausing
import FlagKeeper.Proofs.Registry.Membership
import FlagKeeper.Proofs.Registry.Departures
import FlagKeeper.Proofs.Registry.Attributes
import FlagKeeper.Proofs.Registry.Broadcasts
import FlagKeeper.Proofs.Segments.Periodic
import FlagKeeper.Proofs.Identities.Scene
import FlagKeeper.Proofs.Identities.Pause
import FlagKeeper.Proofs.Recording.Batches
import FlagKeeper.Proofs.Reporting.Scene
import FlagKeeper.Proofs.Reporting.Flushes
import FlagKeeper.Proofs.Recording.QueuedRecords
import FlagKeeper.Proofs.Codec.RoundTrip
import FlagKeeper.Proofs.Settings.Assembly
import FlagKeeper.Proofs.Impressions.Positions
import FlagKeeper.Proofs.Segments.Delays
import FlagKeeper.Proofs.Flags.Loading
import FlagKeeper.Proofs.Flags.Uncovered
import FlagKeeper.Proofs.Impressions.Identity
import FlagKeeper.Proofs.Timing.Slots
import FlagKeeper.Proofs.Timing.TimerHistory
import FlagKeeper.Proofs.Timing.TimerRuns
import FlagKeeper.Proofs.Timing.Rhythms
import FlagKeeper.Proofs.Timing.IntervalRuns
import FlagKeeper.Proofs.Timing.Doubling
import FlagKeeper.Proofs.Impressions.Volume
