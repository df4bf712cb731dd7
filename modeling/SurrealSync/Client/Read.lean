import SurrealSync.Client.Subscriptions

open Std
open surrealdb_sync_protocol surrealdb_sync_protocol.subscription

namespace surrealdb_sync_client

section Optimistic

variable {V : Type}

inductive OptimisticRecord (V : Type) where
  | Present (value : V) (base_version : BaseVersion) (reference : Option RecordId)
  | Deleted (base_version : UInt64)
deriving DecidableEq

def DurableClientState.applied_sequence (state : DurableClientState V) : UInt64 :=
  match state.checkpoint with
  | some checkpoint => checkpoint.cursor.sequence
  | none => 0

/-- The commit an outcome still overlays: accepted, not covered by a reset and
not yet reached by the installed frontier. -/
def overlaid_commit (applied_sequence : UInt64) (resolved : ResolvedCommit V) :
    Option (ClientCommit V) :=
  match resolved.outcome with
  | .Accepted _ sequence _ =>
    if !resolved.covered_by_reset ∧ sequence > applied_sequence then some resolved.local_commit
    else none
  | .Conflict .. => none
  | .Rejected .. => none

/-- The operations of the optimistic view, in order: accepted commits that no
pull has confirmed, then the outbox. -/
def optimistic_operations (state : DurableClientState V) : List (Operation V) :=
  (state.outcomes.filterMap (overlaid_commit state.applied_sequence) ++ state.outbox).flatMap
    (·.operations)

def confirmed_projection : RecordState V → Option (OptimisticRecord V)
  | .Absent => none
  | .Present value version reference => some (.Present value (.Exact version) reference)
  | .Tombstone version => some (.Deleted version)

def apply_operation (projection : BTreeMap RecordId (OptimisticRecord V)) (operation : Operation V) :
    BTreeMap RecordId (OptimisticRecord V) :=
  match operation with
  | .Upsert record_id base_version value reference =>
    projection.insert record_id (.Present value base_version reference)
  | .Delete record_id base_version => projection.insert record_id (.Deleted base_version)

def optimistic_projection (state : DurableClientState V) : BTreeMap RecordId (OptimisticRecord V) :=
  (optimistic_operations state).foldl apply_operation
    (state.confirmed.filterMap fun _ record => confirmed_projection record)

end Optimistic

section Snapshot

variable {V : Type}

def READ_PROTOCOL_VERSION : UInt8 := 1

structure ReadScopeV1 where
  partition_id : PartitionId
  scope_identity : ScopeIdentity
  subscription_revision : UInt64
  authorization_revision : Option UInt64
deriving DecidableEq

inductive ReadReadinessV1 where
  | LocalAvailableAwaitingCoverage
  | AuthorizedScopeAsOf
deriving DecidableEq

inductive ReadCoverageV1 where
  | Unknown
  | AuthorizedReset (cursor : Cursor)
deriving DecidableEq

structure ReadMetadataV1 where
  revision : UInt64
  scope : ReadScopeV1
  as_of : Option Cursor
  readiness : ReadReadinessV1
  coverage : ReadCoverageV1
deriving DecidableEq

inductive ReadConfirmedAbsenceV1 where
  | NotAbsent
  | Unknown
  | AbsentWithinAuthorizedScope
deriving DecidableEq

structure ReadConflictV1 where
  identity : CommitIdentity
  resolution : Option ConflictResolution
deriving DecidableEq

inductive ReadAcceptedStatusV1 where
  | CoveredByAuthorizedReset
  | AwaitingPullEpochUnknown
deriving DecidableEq

structure ReadAcceptedV1 where
  identity : CommitIdentity
  sequence : UInt64
  status : ReadAcceptedStatusV1
deriving DecidableEq

structure ReadRowV1 (V : Type) where
  record_id : RecordId
  confirmed : RecordState V
  confirmed_absence : ReadConfirmedAbsenceV1
  optimistic : Option (OptimisticRecord V)
  pending : List CommitIdentity
  conflicts : List ReadConflictV1
  accepted : List ReadAcceptedV1
deriving DecidableEq

structure ReadSnapshotV1 (V : Type) where
  protocol_version : UInt8
  metadata : ReadMetadataV1
  rows : BTreeMap RecordId (ReadRowV1 V)
deriving DecidableEq

inductive ReadRowChangeV1 (V : Type) where
  | Upsert (row : ReadRowV1 V)
  | Remove (record_id : RecordId)
deriving DecidableEq

structure CommittedReadBatchV1 (V : Type) where
  protocol_version : UInt8
  before_revision : UInt64
  revision : UInt64
  metadata : ReadMetadataV1
  changes : List (ReadRowChangeV1 V)
deriving DecidableEq

def metadata (state : DurableClientState V) : ReadMetadataV1 where
  revision := state.revision
  scope := {
    partition_id := state.partition_id
    scope_identity := state.requested_scope
    subscription_revision := state.subscription_revision
    authorization_revision := state.checkpoint.map (·.scope.authorization_revision) }
  as_of := state.checkpoint.map (·.cursor)
  readiness := if state.reset_coverage.isSome then .AuthorizedScopeAsOf
    else .LocalAvailableAwaitingCoverage
  coverage := match state.reset_coverage with
    | some coverage => .AuthorizedReset coverage.cursor
    | none => .Unknown

def empty_row (record_id : RecordId) (complete : Bool) : ReadRowV1 V where
  record_id
  confirmed := .Absent
  confirmed_absence := if complete then .AbsentWithinAuthorizedScope else .Unknown
  optimistic := none
  pending := []
  conflicts := []
  accepted := []

/-- `rows.entry(id).or_insert_with(|| empty_row(id, complete))`, then an update of
the entry. -/
def update_row (complete : Bool) (rows : BTreeMap RecordId (ReadRowV1 V)) (id : RecordId)
    (update : ReadRowV1 V → ReadRowV1 V) : BTreeMap RecordId (ReadRowV1 V) :=
  rows.insert id (update (rows[id]?.getD (empty_row id complete)))

def confirmed_row (complete : Bool) (id : RecordId) (confirmed : RecordState V) : ReadRowV1 V :=
  { empty_row id complete with confirmed, confirmed_absence := .NotAbsent }

def add_optimistic (complete : Bool) (rows : BTreeMap RecordId (ReadRowV1 V))
    (entry : RecordId × OptimisticRecord V) : BTreeMap RecordId (ReadRowV1 V) :=
  update_row complete rows entry.1 fun row => { row with optimistic := some entry.2 }

def add_pending (complete : Bool) (rows : BTreeMap RecordId (ReadRowV1 V)) (commit : ClientCommit V) :
    BTreeMap RecordId (ReadRowV1 V) :=
  commit.operations.foldl (fun rows operation =>
    update_row complete rows operation.record_id fun row =>
      { row with pending := row.pending ++ [commit.identity] }) rows

def add_outcome (complete : Bool) (rows : BTreeMap RecordId (ReadRowV1 V))
    (resolved : ResolvedCommit V) : BTreeMap RecordId (ReadRowV1 V) :=
  resolved.local_commit.operations.foldl (fun rows operation =>
    match resolved.outcome with
    | .Accepted _ sequence _ =>
      update_row complete rows operation.record_id fun row =>
        { row with accepted := row.accepted ++ [{
            identity := resolved.local_commit.identity
            sequence
            status := if resolved.covered_by_reset then .CoveredByAuthorizedReset
              else .AwaitingPullEpochUnknown }] }
    | .Conflict .. =>
      update_row complete rows operation.record_id fun row =>
        { row with conflicts := row.conflicts ++ [{
            identity := resolved.local_commit.identity
            resolution := resolved.resolution }] }
    | .Rejected .. => rows) rows

def snapshot (state : DurableClientState V) : ReadSnapshotV1 V :=
  let complete := state.reset_coverage.isSome
  let rows := state.confirmed.map (confirmed_row complete)
  let rows := (optimistic_projection state).toList.foldl (add_optimistic complete) rows
  let rows := state.outbox.foldl (add_pending complete) rows
  let rows := state.outcomes.foldl (add_outcome complete) rows
  { protocol_version := READ_PROTOCOL_VERSION, metadata := metadata state, rows }

variable [DecidableEq V]

/-- The change of one record id between two snapshots, if its row differs. -/
def row_change (before after : BTreeMap RecordId (ReadRowV1 V)) (id : RecordId) :
    Option (ReadRowChangeV1 V) :=
  if before[id]? ≠ after[id]? then
    match after[id]? with
    | some row => some (.Upsert row)
    | none => some (.Remove id)
  else none

/-- The changes between two snapshots, in the order of their record ids. -/
def row_changes (before after : BTreeMap RecordId (ReadRowV1 V)) : List (ReadRowChangeV1 V) :=
  let ids : BTreeSet RecordId := ExtTreeSet.ofList (before.keys ++ after.keys)
  ids.toList.filterMap (row_change before after)

def committed_batch (before after : DurableClientState V) : Option (CommittedReadBatchV1 V) :=
  if before.revision = after.revision then none
  else
    let before := snapshot before
    let after := snapshot after
    some {
      protocol_version := READ_PROTOCOL_VERSION
      before_revision := before.metadata.revision
      revision := after.metadata.revision
      metadata := after.metadata
      changes := row_changes before.rows after.rows }

def ClientRuntime.read_metadata (self : ClientRuntime V) : ReadMetadataV1 := metadata self.state

def ClientRuntime.read_snapshot (self : ClientRuntime V) : ReadSnapshotV1 V := snapshot self.state

def ClientRuntime.install_with_read_batch (self : ClientRuntime V) (prepared : PreparedTransition V) :
    Result (Option (CommittedReadBatchV1 V) × ClientRuntime V) := do
  Except.refuse (prepared.base_revision ≠ self.state.revision)
    (ClientError.StaleTransition prepared.base_revision self.state.revision)
  .ok (committed_batch self.state prepared.state, ⟨prepared.state, prepared.valid⟩)

end Snapshot

end surrealdb_sync_client
