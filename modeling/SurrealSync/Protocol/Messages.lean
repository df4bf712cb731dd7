import SurrealSync.Basic.BTree

open Std

namespace surrealdb_sync_protocol

inductive SchemaVersion where
  | V1
deriving DecidableEq

structure PartitionId where
  val : String
deriving DecidableEq

structure ClientId where
  val : String
deriving DecidableEq

structure ClientCommitId where
  val : String
deriving DecidableEq

structure Fingerprint where
  val : String
deriving DecidableEq

structure RecordId where
  val : String
deriving DecidableEq

structure ScopeIdentity where
  val : String
deriving DecidableEq

structure OpaqueCheckpoint where
  val : String
deriving DecidableEq

instance : Ord ClientCommitId where
  compare := compareOn ClientCommitId.val

instance : TransOrd ClientCommitId :=
  inferInstanceAs (TransCmp (compareOn ClientCommitId.val))

instance : LawfulEqOrd ClientCommitId where
  eq_of_compare {a b} h := by
    cases a
    cases b
    exact congrArg ClientCommitId.mk (LawfulEqOrd.eq_of_compare h)

instance : Ord RecordId where
  compare := compareOn RecordId.val

instance : TransOrd RecordId :=
  inferInstanceAs (TransCmp (compareOn RecordId.val))

instance : LawfulEqOrd RecordId where
  eq_of_compare {a b} h := by
    cases a
    cases b
    exact congrArg RecordId.mk (LawfulEqOrd.eq_of_compare h)

structure CommitIdentity where
  client_commit_id : ClientCommitId
  fingerprint : Fingerprint
deriving DecidableEq

inductive BaseVersion where
  | Absent
  | Exact (version : UInt64)
deriving DecidableEq

inductive Operation (V : Type) where
  | Upsert (record_id : RecordId) (base_version : BaseVersion) (value : V) (reference : Option RecordId)
  | Delete (record_id : RecordId) (base_version : UInt64)
deriving DecidableEq

def Operation.record_id {V : Type} : Operation V → RecordId
  | .Upsert record_id _ _ _ => record_id
  | .Delete record_id _ => record_id

structure ClientCommit (V : Type) where
  identity : CommitIdentity
  operations : List (Operation V)
deriving DecidableEq

structure PushRequest (V : Type) where
  schema_version : SchemaVersion
  partition_id : PartitionId
  client_id : ClientId
  commit : ClientCommit V
deriving DecidableEq

structure IdMapping where
  local_id : RecordId
  canonical_id : RecordId
deriving DecidableEq

inductive RecordState (V : Type) where
  | Absent
  | Present (value : V) (version : UInt64) (reference : Option RecordId)
  | Tombstone (version : UInt64)
deriving DecidableEq

inductive RejectReason where
  | InvalidOperation
  | CommitIdentityMismatch
  | Unauthorized
  | UnsupportedSchemaVersion
deriving DecidableEq

inductive DurableOutcome (V : Type) where
  | Accepted (identity : CommitIdentity) (sequence : UInt64) (id_mappings : List IdMapping)
  | Conflict (identity : CommitIdentity) (record_id : RecordId) (authoritative : RecordState V)
  | Rejected (identity : CommitIdentity) (reason : RejectReason)
deriving DecidableEq

def DurableOutcome.identity {V : Type} : DurableOutcome V → CommitIdentity
  | .Accepted identity _ _ => identity
  | .Conflict identity _ _ => identity
  | .Rejected identity _ => identity

/-- The pattern `matches!(outcome, DurableOutcome::Accepted { .. })`. -/
def DurableOutcome.IsAccepted {V : Type} : DurableOutcome V → Prop
  | .Accepted .. => True
  | .Conflict .. => False
  | .Rejected .. => False

/-- The pattern `matches!(outcome, DurableOutcome::Conflict { .. })`. -/
def DurableOutcome.IsConflict {V : Type} : DurableOutcome V → Prop
  | .Accepted .. => False
  | .Conflict .. => True
  | .Rejected .. => False

instance {V : Type} : (outcome : DurableOutcome V) → Decidable outcome.IsAccepted
  | .Accepted .. => isTrue trivial
  | .Conflict .. => isFalse id
  | .Rejected .. => isFalse id

instance {V : Type} : (outcome : DurableOutcome V) → Decidable outcome.IsConflict
  | .Accepted .. => isFalse id
  | .Conflict .. => isTrue trivial
  | .Rejected .. => isFalse id

structure PushResponse (V : Type) where
  schema_version : SchemaVersion
  partition_id : PartitionId
  client_id : ClientId
  outcome : DurableOutcome V
deriving DecidableEq

@[ext]
structure Cursor where
  epoch : UInt64
  sequence : UInt64
deriving DecidableEq

structure ScopeSnapshot where
  identity : ScopeIdentity
  authorization_revision : UInt64
  subscription_revision : UInt64
deriving DecidableEq

structure Checkpoint where
  token : OpaqueCheckpoint
  cursor : Cursor
  scope : ScopeSnapshot
deriving DecidableEq

structure PullRequest where
  schema_version : SchemaVersion
  partition_id : PartitionId
  client_id : ClientId
  checkpoint : Option OpaqueCheckpoint
  requested_scope : ScopeIdentity
  subscription_revision : UInt64
deriving DecidableEq

structure AppliedRecord (V : Type) where
  record_id : RecordId
  state : RecordState V
deriving DecidableEq

structure PullCommit (V : Type) where
  sequence : UInt64
  source : Option CommitIdentity
  records : List (AppliedRecord V)
deriving DecidableEq

inductive PullFrame (V : Type) where
  | Start (checkpoint : Checkpoint)
  | Commit (checkpoint : OpaqueCheckpoint) (commit : PullCommit V)
  | End (checkpoint : Checkpoint)
deriving DecidableEq

structure PullBatch (V : Type) where
  frames : List (PullFrame V)
deriving DecidableEq

inductive ResetReason where
  | CheckpointExpired
  | EpochChanged
  | AuthorizationChanged
  | SubscriptionChanged
  | ScopeChanged
  | ExternalWriteQuarantined
deriving DecidableEq

structure SnapshotRecord (V : Type) where
  record_id : RecordId
  state : RecordState V
deriving DecidableEq

structure ResetSnapshot (V : Type) where
  reason : ResetReason
  checkpoint : Checkpoint
  records : List (SnapshotRecord V)
deriving DecidableEq

inductive PullResponse (V : Type) where
  | Batch (batch : PullBatch V)
  | Reset (snapshot : ResetSnapshot V)
deriving DecidableEq

end surrealdb_sync_protocol
