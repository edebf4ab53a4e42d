import ClusterWatch.Admin.Service
import ClusterWatch.Dotenv
import ClusterWatch.LogRetention
import ClusterWatch.Main
import ClusterWatch.Pipeline
import ClusterWatch.Rehearsal
import ClusterWatch.Scheduler.System
import ClusterWatch.Startup
import ClusterWatch.Proofs.Scheduler.Tasks
import ClusterWatch.Proofs.Scheduler.History
import ClusterWatch.Proofs.Scheduler.Overlap
import ClusterWatch.Proofs.Check.Advance
import ClusterWatch.Proofs.Scheduler.Accounting
import ClusterWatch.Proofs.Settings.Store
import ClusterWatch.Proofs.Scheduler.Generations
import ClusterWatch.Proofs.AnnouncementLog
import ClusterWatch.Proofs.Recommendation.Sifting
import ClusterWatch.Proofs.Check.News
import ClusterWatch.Proofs.Check.Stepwise
import ClusterWatch.Proofs.Check.Sharing
import ClusterWatch.Proofs.Check.Delivery
import ClusterWatch.Proofs.Settings.Operations
import ClusterWatch.Proofs.Check.FanOut
import ClusterWatch.Proofs.Json.Form
import ClusterWatch.Proofs.Scheduler.Lifecycle
import ClusterWatch.Proofs.Settings.Supplied
import ClusterWatch.Proofs.Json.Reading
import ClusterWatch.Proofs.Settings.Form
import ClusterWatch.Proofs.Admin.Requests
import ClusterWatch.Proofs.Admin.Errors
import ClusterWatch.Proofs.Recommendation.RoundTrip
import ClusterWatch.Proofs.Pipeline
import ClusterWatch.Proofs.Check.Tokens
import ClusterWatch.Proofs.Telegram
import ClusterWatch.Proofs.Scheduler.Tokens
import ClusterWatch.Proofs.Admin.Desk
import ClusterWatch.Proofs.Admin.Secrecy
import ClusterWatch.Proofs.Settings.Changes
import ClusterWatch.Proofs.Quantity
import ClusterWatch.Proofs.Scheduler.Shutdown
import ClusterWatch.Proofs.Scheduler.Cadence
import ClusterWatch.Proofs.Number.Overflow
import ClusterWatch.Proofs.Quantity.Range
import ClusterWatch.Proofs.Text.ByteOrder
import ClusterWatch.Proofs.SortedMap
import ClusterWatch.Proofs.Text.Sorting
import ClusterWatch.Proofs.PodSample
import ClusterWatch.Proofs.Recommendation.Wrapping
import ClusterWatch.Proofs.Telegram.Message
import ClusterWatch.Proofs.AnnouncementLog.Independence
import ClusterWatch.Proofs.Calendar
import ClusterWatch.Proofs.Calendar.Spelling
import ClusterWatch.Proofs.Recommendation.Visiting
import ClusterWatch.Proofs.Report.Blocks
import ClusterWatch.Proofs.LogRetention
import ClusterWatch.Proofs.Config.ChatIds
import ClusterWatch.Proofs.Config
import ClusterWatch.Proofs.Config.Acceptance
