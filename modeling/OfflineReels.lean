import OfflineReels.Foundation.Transition
import OfflineReels.Foundation.Interleaving
import OfflineReels.Instagram.Database
import OfflineReels.Collector.Engine
import OfflineReels.Collector.Persistence
import OfflineReels.Management.CollectionRuns
import OfflineReels.Collector.Operator
import OfflineReels.Collector.World
import OfflineReels.Collector.EngineRules
import OfflineReels.Collector.RunTransactions
import OfflineReels.Collector.RunHolds
import OfflineReels.Collector.RunLifecycle
import OfflineReels.Foundation.Join
import OfflineReels.Management.Catalog
import OfflineReels.Instagram.Consistency
import OfflineReels.Management.Ownership
import OfflineReels.Foundation.Slot
import OfflineReels.Media.Contracts
import OfflineReels.Normalizer.Transactions
import OfflineReels.Instagram.StatusMoves
import OfflineReels.Normalizer.JobInvariant
import OfflineReels.Normalizer.JobProgress
import OfflineReels.Normalizer.JobLifecycle
import OfflineReels.Management.Commands
import OfflineReels.Management.Idempotency
import OfflineReels.Management.IdempotentCommands
import OfflineReels.Collector.Transcripts
import OfflineReels.Collector.RecordedRuns
import OfflineReels.Collector.TranscriptAcceptance
import OfflineReels.Collector.CollectRules
import OfflineReels.Collector.FeedGate
import OfflineReels.Collector.RunBounds
import OfflineReels.Collector.RunLedger
import OfflineReels.Collector.RunAccounting
import OfflineReels.Foundation.Latest
import OfflineReels.Management.ReserveReports
import OfflineReels.Management.LoginLifecycle
import OfflineReels.Offline.Browser
import OfflineReels.Offline.MediaCache
import OfflineReels.Offline.Reconciliation
import OfflineReels.Offline.ViewLifecycle
import OfflineReels.Offline.ViewOutbox
import OfflineReels.Dashboard.ManagementControl
import OfflineReels.Dashboard.Polling
import OfflineReels.Gateway.HandoffState
import OfflineReels.Gateway.Relay
import OfflineReels.Gateway.ViewerAccess
import OfflineReels.Normalizer.Stores
import OfflineReels.Normalizer.SourceRows
import OfflineReels.Normalizer.SourceRemoval
import OfflineReels.Normalizer.SourceGate
import OfflineReels.Gateway.HandoffFile
import OfflineReels.Management.LoginMachine
import OfflineReels.Offline.ReserveRepository
import OfflineReels.Collector.Stage3C1
import OfflineReels.Management.ConnectingAccounts
import OfflineReels.Management.StuckAccounts
import OfflineReels.Management.ViewSync
import OfflineReels.Management.ViewSyncMachine
import OfflineReels.Management.ViewedReels
import OfflineReels.Offline.ReserveCancellation
import OfflineReels.Offline.QueueStarts
import OfflineReels.Foundation.Text
import OfflineReels.Media.Ranges
import OfflineReels.Pwa.OfflineMediaRoute
import OfflineReels.Management.CatalogLimit
import OfflineReels.Foundation.Base64
import OfflineReels.Foundation.Calendar
import OfflineReels.Foundation.FlatJson
import OfflineReels.Videos.Cursor
import OfflineReels.Videos.Feed
import OfflineReels.Management.LoginExpiry
import OfflineReels.Offline.DownloadMarks
import OfflineReels.Offline.PumpRounds
import OfflineReels.Offline.QueueAttempts
import OfflineReels.Offline.PumpWork
import OfflineReels.Offline.JoinedStarts
import OfflineReels.Normalizer.Publication
import OfflineReels.Normalizer.FinalObjects
import OfflineReels.Offline.MediaKey
import OfflineReels.Pwa.OfflineMediaResponse
import OfflineReels.Foundation.FixedWindow
import OfflineReels.Management.RateLimit
import OfflineReels.Feed.SwipeCommits
import OfflineReels.Feed.VerticalVideoFeed
import OfflineReels.Collector.FeedJson
import OfflineReels.Collector.CanonicalSpellings
import OfflineReels.Videos.CursorSpellings
import OfflineReels.Offline.ReconciliationRuns
import OfflineReels.Foundation.Obligation
import OfflineReels.Collector.Compensation
import OfflineReels.Foundation.Grouping
import OfflineReels.Collector.TranscriptOrder
import OfflineReels.Foundation.Stateful
import OfflineReels.Collector.BrowserFeed
import OfflineReels.Collector.FeedTransitions
import OfflineReels.Collector.FeedWaiting
import OfflineReels.Collector.FeedAdvances
import OfflineReels.Collector.FeedReservations
import OfflineReels.Collector.FeedRuns
import OfflineReels.Collector.BrowserCollection
import OfflineReels.Collector.FeedCustody
import OfflineReels.Collector.FeedSessions
import OfflineReels.Profile.ProfileLock
import OfflineReels.Profile.Ownership
import OfflineReels.Profile.LoginBrowser
import OfflineReels.Profile.Sharing
import OfflineReels.Media.Normalize
import OfflineReels.Media.Publishing
