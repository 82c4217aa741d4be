import SentinelMesh.Acoustic.ExactWeights
import SentinelMesh.Acoustic.Incident
import SentinelMesh.Acoustic.Lineage
import SentinelMesh.Acoustic.Retention
import SentinelMesh.Auth.Freshness
import SentinelMesh.Auth.Nip98
import SentinelMesh.Auth.Signed
import SentinelMesh.Auth.SingleUse
import SentinelMesh.Basic
import SentinelMesh.Circles.Detail
import SentinelMesh.Circles.Envelopes
import SentinelMesh.Circles.Epoch
import SentinelMesh.Circles.Locations
import SentinelMesh.Circles.Removal
import SentinelMesh.Circles.Replay
import SentinelMesh.Circles.Routes
import SentinelMesh.Circles.Rows
import SentinelMesh.Circles.Safeguards
import SentinelMesh.Circles.Schema
import SentinelMesh.Circles.System
import SentinelMesh.Deploy.Migrations
import SentinelMesh.Ledger.Credit
import SentinelMesh.Ledger.DecayRace
import SentinelMesh.Ledger.Effects
import SentinelMesh.Ledger.Roots
import SentinelMesh.Ledger.Rows
import SentinelMesh.Ledger.Schema
import SentinelMesh.Ledger.System
import SentinelMesh.Ledger.Tally
import SentinelMesh.Ledger.Transitions
import SentinelMesh.Lib.AddressBlock
import SentinelMesh.Lib.Async
import SentinelMesh.Lib.Base64
import SentinelMesh.Lib.Breaker
import SentinelMesh.Lib.Channel
import SentinelMesh.Lib.Chunks
import SentinelMesh.Lib.Decimal
import SentinelMesh.Lib.Double
import SentinelMesh.Lib.Expiring
import SentinelMesh.Lib.Groups
import SentinelMesh.Lib.Journal
import SentinelMesh.Lib.JsonText
import SentinelMesh.Lib.KeyedSort
import SentinelMesh.Lib.Lease
import SentinelMesh.Lib.Linearizable
import SentinelMesh.Lib.MachineInt
import SentinelMesh.Lib.Outbox
import SentinelMesh.Lib.Prog
import SentinelMesh.Lib.Reconnect
import SentinelMesh.Lib.Replica
import SentinelMesh.Lib.Run
import SentinelMesh.Lib.Since
import SentinelMesh.Lib.Table
import SentinelMesh.Lib.Txn
import SentinelMesh.Lib.Varint
import SentinelMesh.Lib.WeightedMean
import SentinelMesh.Lib.Words
import SentinelMesh.Maps.Polyline
import SentinelMesh.Nlp.DeadCluster
import SentinelMesh.Nlp.Independence
import SentinelMesh.Nlp.Ingest
import SentinelMesh.Nlp.Monotone
import SentinelMesh.Nlp.Push
import SentinelMesh.Nlp.Reader
import SentinelMesh.Nlp.Schema
import SentinelMesh.Nlp.Synthesis
import SentinelMesh.Nlp.System
import SentinelMesh.Pwa.ApproximateLocation
import SentinelMesh.Pwa.Backup
import SentinelMesh.Pwa.BackupRestore
import SentinelMesh.Pwa.Badge
import SentinelMesh.Pwa.BunkerStore
import SentinelMesh.Pwa.Chat.Agreement
import SentinelMesh.Pwa.Chat.Blocked
import SentinelMesh.Pwa.Chat.ConversationIds
import SentinelMesh.Pwa.Chat.Inbox
import SentinelMesh.Pwa.Chat.LocalEcho
import SentinelMesh.Pwa.Chat.LocalKey
import SentinelMesh.Pwa.Chat.MessageLists
import SentinelMesh.Pwa.Chat.MessageSizes
import SentinelMesh.Pwa.Chat.Messages
import SentinelMesh.Pwa.Chat.Outbox
import SentinelMesh.Pwa.Chat.Pages
import SentinelMesh.Pwa.Chat.Poison
import SentinelMesh.Pwa.Chat.RelayOutcomes
import SentinelMesh.Pwa.Chat.Replaceable
import SentinelMesh.Pwa.Chat.Rooms
import SentinelMesh.Pwa.Chat.Subscriptions
import SentinelMesh.Pwa.CircleClient
import SentinelMesh.Pwa.CircleKeys
import SentinelMesh.Pwa.CircleLocation
import SentinelMesh.Pwa.CircleStore
import SentinelMesh.Pwa.ClientEpochs
import SentinelMesh.Pwa.Clusters
import SentinelMesh.Pwa.EpochKeys
import SentinelMesh.Pwa.Fingerprint
import SentinelMesh.Pwa.Identity
import SentinelMesh.Pwa.IdentityCache
import SentinelMesh.Pwa.KeyLifecycle
import SentinelMesh.Pwa.KeysAgree
import SentinelMesh.Pwa.Listening
import SentinelMesh.Pwa.LocationRoundTrip
import SentinelMesh.Pwa.NewestLocation
import SentinelMesh.Pwa.Origin
import SentinelMesh.Pwa.ProximityAlerts
import SentinelMesh.Pwa.Published
import SentinelMesh.Pwa.Refresh
import SentinelMesh.Pwa.RemovedMember
import SentinelMesh.Pwa.ReportCap
import SentinelMesh.Pwa.Reports
import SentinelMesh.Pwa.SafeRoutes
import SentinelMesh.Pwa.Sessions
import SentinelMesh.Pwa.Sharing
import SentinelMesh.Pwa.Signer
import SentinelMesh.Pwa.SignerPaths
import SentinelMesh.Pwa.SignerSteps
import SentinelMesh.Pwa.TrustLabel
import SentinelMesh.Pwa.Vault
import SentinelMesh.Pwa.VaultOrder
import SentinelMesh.Pwa.VaultRuns
import SentinelMesh.Pwa.Viewport
import SentinelMesh.Pwa.ViewportLink
import SentinelMesh.Pwa.WrapChecks
import SentinelMesh.Reports.Consensus
import SentinelMesh.Reports.Deadlock
import SentinelMesh.Reports.Service
import SentinelMesh.Routes.Binding
import SentinelMesh.Routes.Guards
import SentinelMesh.Routes.Identity
import SentinelMesh.Routes.KeyCase
import SentinelMesh.Routes.Nip05
import SentinelMesh.Routes.Push
import SentinelMesh.Routes.RateLimiter
import SentinelMesh.Routes.RelayHooks
import SentinelMesh.Routes.Replay
import SentinelMesh.Routes.Reports
import SentinelMesh.Routes.Stored
import SentinelMesh.Routes.SubmissionLimits
import SentinelMesh.Routes.Submit
import SentinelMesh.Routes.Vouches
import SentinelMesh.Signal.Feeds
import SentinelMesh.Signal.Producers
import SentinelMesh.Signal.Queue
import SentinelMesh.Signal.Radio
import SentinelMesh.Signal.Stations
import SentinelMesh.Signal.Suppression
import SentinelMesh.Subscribers.PushOutbox
import SentinelMesh.Subscribers.PushRecipients
import SentinelMesh.Trust.Decay
import SentinelMesh.Trust.DecayLaws
import SentinelMesh.Trust.Observatory
import SentinelMesh.Trust.Personhood
import SentinelMesh.Trust.VouchBudget
import SentinelMesh.Trust.Worker
import SentinelMesh.Ws.CircleSocket
import SentinelMesh.Ws.EventsSocket
import SentinelMesh.Ws.Filters
import SentinelMesh.Ws.Live
import SentinelMesh.Ws.PublicHub
import SentinelMesh.Ws.Removed
import SentinelMesh.Signal.Provenance
