import SurrealSync.Basic.BTree
import SurrealSync.Basic.Chains
import SurrealSync.Basic.Delivery
import SurrealSync.Basic.Sorted
import SurrealSync.Basic.Within
import SurrealSync.Basic.Relabel
import SurrealSync.Basic.Evolves
import SurrealSync.Basic.Machine
import SurrealSync.Basic.Trace
import SurrealSync.Cbor.Value
import SurrealSync.Cbor.Encode
import SurrealSync.Cbor.Decode
import SurrealSync.Cbor.Ciborium
import SurrealSync.Basic.Entries
import SurrealSync.Protocol.Budget
import SurrealSync.Protocol.Canonical
import SurrealSync.Protocol.Preflight
import SurrealSync.Protocol.CanonicalCodec
import SurrealSync.Protocol.Messages
import SurrealSync.Protocol.HttpCodec
import SurrealSync.Protocol.HttpGrammar
import SurrealSync.Protocol.HttpLimits
import SurrealSync.Protocol.Subscription
import SurrealSync.Basic.Sha256
import SurrealSync.Cbor.Serde
import SurrealSync.Protocol.Bootstrap
import SurrealSync.Protocol.BootstrapCodec
import SurrealSync.Protocol.BootstrapStream
import SurrealSync.Protocol.SubscriptionCodec
import SurrealSync.Protocol.SubscriptionWire
import SurrealSync.Protocol.Fingerprint
import SurrealSync.Client.State
import SurrealSync.Client.Validate
import SurrealSync.Client.Remap
import SurrealSync.Client.Runtime
import SurrealSync.Client.Pull
import SurrealSync.Client.PullValidity
import SurrealSync.Client.Subscriptions
import SurrealSync.Client.Admission
import SurrealSync.Client.Read
import SurrealSync.Client.Step
import SurrealSync.Client.Prepare
import SurrealSync.Client.Effect
import SurrealSync.Client.WindowValidity
import SurrealSync.Client.Validity
import SurrealSync.Client.Renaming
import SurrealSync.Client.Intent
import SurrealSync.Client.Session
import SurrealSync.Client.Replay
import SurrealSync.Client.Frontier
import SurrealSync.Client.Visibility
import SurrealSync.Client.Convergence
import SurrealSync.Client.Relabelling
import SurrealSync.Client.Acceptance
import SurrealSync.Client.Redelivery
import SurrealSync.Client.Replacements
import SurrealSync.Client.Decisions
import SurrealSync.Client.RowCache
import SurrealSync.Client.WindowMoves
import SurrealSync.Client.Generations
import SurrealSync.Client.WindowReplace
import SurrealSync.Client.Interference
import SurrealSync.Client.Revocation
import SurrealSync.Client.SnapshotInstall
import SurrealSync.Client.ReadBatches
import SurrealSync.Basic.Async
import SurrealSync.Basic.Conversation
import SurrealSync.Native.Codec
import SurrealSync.Native.Recording
import SurrealSync.Native.Queue
import SurrealSync.Native.Enqueue
import SurrealSync.Basic.Decimal
import SurrealSync.Native.TaggedJson
import SurrealSync.Native.Rows
import SurrealSync.Native.Restore
import SurrealSync.Native.Reading
import SurrealSync.Native.Tables
import SurrealSync.Native.Projection
import SurrealSync.Native.Journal
import SurrealSync.Native.Stored
import SurrealSync.Native.Mirror
import SurrealSync.Package.Scheduler
import SurrealSync.Package.SchedulerWork
import SurrealSync.Package.SchedulerRuns
import SurrealSync.Package.SchedulerStatus
import SurrealSync.Native.Wire
import SurrealSync.Package.Base64
import SurrealSync.Native.WireRoundTrip
import SurrealSync.Package.Wire
import SurrealSync.Package.WireCrossing
import SurrealSync.Native.ReadJournal
import SurrealSync.Native.ReadReplay
import SurrealSync.Package.ReadStore
import SurrealSync.Package.ReadStoreTold
import SurrealSync.Package.ReadStoreRuns
import SurrealSync.Package.WindowStore
import SurrealSync.Package.SyncClient
import SurrealSync.Basic.Withdrawal
import SurrealSync.Package.StoreWithdrawal
import SurrealSync.Package.ScopeBarrier
import SurrealSync.Package.ScopeBarrierRuns
import SurrealSync.Native.BootstrapStore
import SurrealSync.Native.BootstrapFence
import SurrealSync.Native.Revisions
import SurrealSync.Native.BootstrapSteps
import SurrealSync.Native.BootstrapRuns
import SurrealSync.Native.Barrier
import SurrealSync.Native.Bridge
import SurrealSync.Native.JsonText
import SurrealSync.Native.View
import SurrealSync.Native.ViewSpec
import SurrealSync.Native.ViewPages
import SurrealSync.Native.ViewListing
import SurrealSync.Native.ViewOutput
import SurrealSync.Native.ViewWork
import SurrealSync.Native.Reached
import SurrealSync.Basic.Greedy
import SurrealSync.Basic.Shutdown
import SurrealSync.Basic.LiveSet
import SurrealSync.Basic.EventLog
import SurrealSync.Basic.Binary64
import SurrealSync.Basic.BoundedJournal
import SurrealSync.Basic.Faults
import SurrealSync.Cbor.Syntax
import SurrealSync.Native.PendingWindow
import SurrealSync.Protocol.PreflightGrammar
import SurrealSync.Client.PullFrames
import SurrealSync.Client.PullArithmetic
import SurrealSync.Native.Handles
import SurrealSync.Native.HandlesClosed
import SurrealSync.Package.LiveSubscription
import SurrealSync.Package.LiveSubscriptionRuns
import SurrealSync.Package.LiveSubscriptionDelivery
import SurrealSync.Package.LiveSubscriptionClosed
import SurrealSync.Package.Telemetry
import SurrealSync.Package.TelemetryAccounts
import SurrealSync.Package.TelemetryRuns
import SurrealSync.Package.TelemetryConserves
import SurrealSync.Package.Lifecycle
import SurrealSync.Package.LifecycleRuns
import SurrealSync.Package.LifecycleDrives
import SurrealSync.Package.WireReading
import SurrealSync.Package.SyncReadCodec
import SurrealSync.Package.SyncView
import SurrealSync.Package.SyncViewRequests
import SurrealSync.Package.SyncReadAnswers
import SurrealSync.Package.SyncViewRows
import SurrealSync.Package.SyncViewAgreement
import SurrealSync.Native.SubscriptionJournal
import SurrealSync.Native.SubscriptionReplay
import SurrealSync.Native.SubscriptionRuns
import SurrealSync.Package.SyncViewContinuation
import SurrealSync.Native.Owner
import SurrealSync.Native.OwnerBootstrap
import SurrealSync.Native.Contents
import SurrealSync.Native.Journals
import SurrealSync.Native.OwnerSpecs
import SurrealSync.Native.OwnerCalls
import SurrealSync.Native.OwnerOpening
import SurrealSync.Native.OwnerSessions
import SurrealSync.Native.OwnerSystem
import SurrealSync.Native.OwnerAnswers
import SurrealSync.Native.OwnerRuns
import SurrealSync.Native.OwnerHistory
import SurrealSync.Package.SyncHttp
import SurrealSync.Package.SyncHttpExchanges
import SurrealSync.Package.SyncHttpOperations
import SurrealSync.Package.SyncHttpRuns
