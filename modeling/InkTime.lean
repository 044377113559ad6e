import InkTime.Library.WireFormat
import InkTime.Library.FaultProgram
import InkTime.Library.Table
import InkTime.Library.Runs
import InkTime.Firmware.ConfigCodec
import InkTime.Firmware.ConfigRoundTrip
import InkTime.Firmware.ConfigStore
import InkTime.Firmware.ConfigStoreRuns
import InkTime.Firmware.ConfigStoreLoad
import InkTime.Firmware.ConfigStorePowerLoss
import InkTime.Firmware.ConfigStoreFaults
import InkTime.Firmware.ScheduleTransaction
import InkTime.Firmware.ScheduleAtomicity
import InkTime.Firmware.WakeCycle
import InkTime.Firmware.WakeSlots
import InkTime.Jobs.Model
import InkTime.Jobs.Operations
import InkTime.Jobs.Moves
import InkTime.Jobs.Calls
import InkTime.Jobs.Recovery
import InkTime.Jobs.Refinement
import InkTime.Jobs.Counters
import InkTime.Jobs.Fencing
import InkTime.Jobs.Exclusion
import InkTime.Jobs.Cancellation
import InkTime.Jobs.Pause
import InkTime.Jobs.Ownership
import InkTime.Library.Checked
import InkTime.Library.Latest
import InkTime.Queue.Model
import InkTime.Queue.Operations
import InkTime.Queue.Moves
import InkTime.Queue.Terminal
import InkTime.Queue.Pointer
import InkTime.Queue.Depth
import InkTime.Queue.Progress
import InkTime.Batches.Model
import InkTime.Batches.Operations
import InkTime.Batches.Calls
import InkTime.Batches.Moves
import InkTime.Batches.Identity
import InkTime.Batches.Closed
import InkTime.Ledger.Model
import InkTime.Ledger.Spending
import InkTime.Submission.SingleRemote
import InkTime.Submission.Reservation
import InkTime.Submission.PaidOnce
import InkTime.Library.Windows
import InkTime.Quota.Model
import InkTime.Quota.Sharing
import InkTime.Budget.Model
import InkTime.Budget.Cap
import InkTime.Budget.Effects
import InkTime.Budget.Periods
import InkTime.Library.Json
import InkTime.Import.Model
import InkTime.Import.Interleaving
import InkTime.Import.Reading
import InkTime.Import.Execution
import InkTime.Import.Lines
import InkTime.Import.Independence
import InkTime.Library.Related
import InkTime.Schedule.Rules
import InkTime.Devices.Model
import InkTime.Devices.Update
import InkTime.Pairing.Model
import InkTime.Pairing.Moves
import InkTime.Pairing.Requests
import InkTime.Pairing.Credentials
import InkTime.Pairing.Lifecycle
import InkTime.Pairing.Admission
import InkTime.Pairing.Capabilities
import InkTime.Pairing.Settings
import InkTime.Pairing.Repairing
import InkTime.Library.Cells
import InkTime.Panel.Model
import InkTime.Panel.Packing
import InkTime.Panel.Fidelity
import InkTime.Library.Interrupted
import InkTime.Library.Durable
import InkTime.Releases.Model
import InkTime.Releases.Recovery
import InkTime.Releases.Contracts
import InkTime.Releases.Rollback
import InkTime.Cron.Model
import InkTime.Cron.Occurrences
import InkTime.Complementary.Model
import InkTime.Complementary.Pauses
import InkTime.Rollouts.Calls
import InkTime.Rollouts.Sound
import InkTime.Rollouts.Unspoiled
import InkTime.Firmware.RetryPlan
import InkTime.Library.WallClock
import InkTime.Schedule.Slots
import InkTime.Library.Rounding
import InkTime.Schedule.Resolution
import InkTime.Schedule.Sync
import InkTime.Library.Months
import InkTime.Billing.Cycle
import InkTime.Schedule.Preparation
import InkTime.Library.Lockstep
import InkTime.Rendering.Diffusion
import InkTime.Rendering.Protection
import InkTime.Rendering.Nearest
import InkTime.Rendering.SixColor
import InkTime.Rendering.NaturalD
import InkTime.Analysis.Plan
import InkTime.Analysis.Normalization
import InkTime.Analysis.Identity
import InkTime.Library.Keyset
import InkTime.Selection.Model
import InkTime.Selection.Pages
import InkTime.Library.CyclicRedundancy
import InkTime.Firmware.ConfigCorruption
import InkTime.Firmware.QueueClient
import InkTime.Firmware.AckJournal
import InkTime.Firmware.AckRetention
import InkTime.Library.Blocks
import InkTime.Panel.Bitmap
import InkTime.Batches.Shards
import InkTime.Batches.Sharding
import InkTime.Providers.Permits
import InkTime.Providers.OpenAICompatible
import InkTime.Providers.Failover
import InkTime.Schedule.Retry
import InkTime.Library.Fifo
import InkTime.Firmware.KeyJournal
import InkTime.Webhook.Safety
import InkTime.Webhook.Transport
import InkTime.Cron.Text
import InkTime.Cron.Earliest
import InkTime.Cron.Progress
import InkTime.Library.Pruning
import InkTime.Retention.Batching
import InkTime.Library.Tiers
import InkTime.Library.MonthDays
import InkTime.LocalSelection.Stages
import InkTime.Scan.Grouping
import InkTime.Library.Repeats
import InkTime.Scan.Hashes
import InkTime.Scan.Unstored
import InkTime.Scan.Backfill
import InkTime.Scan.Writing
import InkTime.Scan.Groups
import InkTime.Settings.Model
import InkTime.Settings.Updates
import InkTime.Settings.Snapshots
import InkTime.Settings.Rollback
import InkTime.Settings.Defaults
import InkTime.Settings.Starts
import InkTime.Settings.Undo
import InkTime.Settings.Runs
import InkTime.Library.PrefixCode
import InkTime.Requests.Keys
import InkTime.Library.Partition
import InkTime.Requests.Batching
import InkTime.Requests.Model
import InkTime.Requests.Moves
import InkTime.Requests.Invariant
import InkTime.Requests.Progress
import InkTime.Requests.Runs
import InkTime.Requests.Answers
