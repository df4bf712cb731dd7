import SurrealSync.Protocol.Subscription

open Std
open surrealdb_sync_protocol surrealdb_sync_protocol.subscription

namespace surrealdb_sync_client

inductive ConflictResolution where
  | KeepServer
  | PreferServerPolicyV1
  | KeepLocal (replacement : CommitIdentity)
  | Merge (replacement : CommitIdentity)
deriving DecidableEq

structure ResolvedCommit (V : Type) where
  local_commit : ClientCommit V
  outcome : DurableOutcome V
  resolution : Option ConflictResolution
  covered_by_reset : Bool
deriving DecidableEq

inductive AutomaticConflictPolicy where
  | Manual
  | PreferServerV1
deriving DecidableEq

inductive ConflictResolutionRequest (V : Type) where
  | KeepServer
  | KeepLocal (replacement : ClientCommit V)
  | Merge (replacement : ClientCommit V)
deriving DecidableEq

/-- Persisted proof that a complete authorized reset replaced this scope's
projection. -/
structure ResetCoverage where
  cursor : Cursor
  scope : ScopeSnapshot
deriving DecidableEq

structure SubscriptionSlot where
  generation : UInt64
  plan_fingerprint : String
  scope : ScopeSnapshot
  frontier : Cursor
  view_revision : UInt64
  coverage : WindowCoverage
  ordered_ids : List RecordId
  token : OpaqueCheckpoint
  members : BTreeMap RecordId String
deriving DecidableEq

structure DurableSubscriptions (V : Type) where
  requests : BTreeMap String SubscriptionRequest
  slots : BTreeMap String SubscriptionSlot
  records : BTreeMap String (SubscriptionRow V)
  cancelled : BTreeMap String UInt64
  authorization_scope : Option ScopeSnapshot
deriving DecidableEq

def DurableSubscriptions.default {V : Type} : DurableSubscriptions V where
  requests := ∅
  slots := ∅
  records := ∅
  cancelled := ∅
  authorization_scope := none

/-- Complete durable state owned by one partition, client and scope. -/
structure DurableClientState (V : Type) where
  partition_id : PartitionId
  client_id : ClientId
  requested_scope : ScopeIdentity
  subscription_revision : UInt64
  revision : UInt64
  confirmed : BTreeMap RecordId (RecordState V)
  outbox : List (ClientCommit V)
  outcomes : List (ResolvedCommit V)
  checkpoint : Option Checkpoint
  reset_coverage : Option ResetCoverage
  id_map : BTreeMap RecordId RecordId
  subscriptions : Option (DurableSubscriptions V)
deriving DecidableEq

def DurableClientState.empty {V : Type} (partition_id : PartitionId) (client_id : ClientId)
    (requested_scope : ScopeIdentity) (subscription_revision : UInt64) : DurableClientState V where
  partition_id
  client_id
  requested_scope
  subscription_revision
  revision := 0
  confirmed := ∅
  outbox := []
  outcomes := []
  checkpoint := none
  reset_coverage := none
  id_map := ∅
  subscriptions := none

inductive ClientError where
  | InvalidSubscription
  | SubscriptionCancelled
  | EmptyCommit
  | DuplicateOperation (record_id : RecordId)
  | DuplicateCommitId (commit_id : ClientCommitId)
  | UnknownCommit (commit_id : ClientCommitId)
  | UnknownConflict (commit_id : ClientCommitId)
  | ConflictAlreadyResolved (commit_id : ClientCommitId)
  | InvalidConflictResolution
  | OutcomeIdentityMismatch
  | EnvelopeMismatch
  | InvalidPullFraming
  | CheckpointMismatch
  | ScopeMismatch
  | InvalidReadCoverage
  | NeedsNewScopeJournal
  | PendingQuarantineRequired
  | CursorEpochMismatch
  | CursorWouldMoveBackward
  | CommitSequenceGap
  | DuplicateSnapshotRecord (record_id : RecordId)
  | InvalidSnapshotVersion (record_id : RecordId)
  | AbsentConfirmedRecord (record_id : RecordId)
  | InvalidIdMapping (mapping : IdMapping)
  | IdMappingCollision (record_id : RecordId)
  | MappedLocalIdRemains (record_id : RecordId)
  | RevisionExhausted
  | StaleTransition (expected actual : UInt64)
deriving DecidableEq

/-- Every fallible function of the client reports a `ClientError`. -/
abbrev Result (α : Type) := Except ClientError α

/-- The unresolved-conflict test that four guards of the source share. -/
def ResolvedCommit.IsOpenConflict {V : Type} (resolved : ResolvedCommit V) : Prop :=
  resolved.outcome.IsConflict ∧ resolved.resolution = none

instance {V : Type} (resolved : ResolvedCommit V) : Decidable resolved.IsOpenConflict :=
  inferInstanceAs (Decidable (_ ∧ _))

/-- Local intent that a scope change would strand: queued commits, or conflicts
nobody has decided. -/
def DurableClientState.HasPendingIntent {V : Type} (state : DurableClientState V) : Prop :=
  state.outbox ≠ [] ∨ ∃ outcome ∈ state.outcomes, outcome.IsOpenConflict

instance {V : Type} (state : DurableClientState V) : Decidable state.HasPendingIntent :=
  inferInstanceAs (Decidable (_ ≠ _ ∨ _))

end surrealdb_sync_client
