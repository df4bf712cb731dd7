import SurrealSync.Client.Runtime

open Std
open surrealdb_sync_protocol surrealdb_sync_protocol.subscription

namespace surrealdb_sync_client

variable {V : Type}

/-- The commit of one inner frame, which must name the batch's checkpoint token. -/
def frame_commit (token : OpaqueCheckpoint) : PullFrame V → Result (PullCommit V)
  | .Commit checkpoint commit =>
    if checkpoint ≠ token then .error .CheckpointMismatch else .ok commit
  | .Start _ => .error .InvalidPullFraming
  | .End _ => .error .InvalidPullFraming

/-- `commits.windows(2)`: each commit follows its predecessor. -/
def validate_successor (pair : PullCommit V × PullCommit V) : Result Unit :=
  Except.refuse (pair.2.sequence ≠ pair.1.sequence.saturating_add 1) .CommitSequenceGap

/-- The counting loop; `expected += 1` wraps as in a release build. -/
def expect_sequence (expected : UInt64) (commit : PullCommit V) : Result UInt64 := do
  Except.refuse (commit.sequence ≠ expected) ClientError.CommitSequenceGap
  .ok (expected + 1)

/-- A batch continues the installed checkpoint: same scope and epoch, and a
sequence that is not smaller. -/
def validate_continuation (installed : Option Checkpoint) (finish : Checkpoint) : Result Unit :=
  match installed with
  | some current => do
    Except.refuse (finish.scope ≠ current.scope) ClientError.ScopeMismatch
    Except.refuse (finish.cursor.epoch ≠ current.cursor.epoch) ClientError.CursorEpochMismatch
    Except.refuse (finish.cursor.sequence < current.cursor.sequence)
      ClientError.CursorWouldMoveBackward
  | none => .ok ()

/-- A batch that moves the sequence carries every commit in between. -/
def validate_missing_commits (current_sequence end_sequence : UInt64) (commits : List (PullCommit V)) :
    Result Unit :=
  if end_sequence > current_sequence then do
    let expected ← commits.foldlM expect_sequence (current_sequence + 1)
    Except.refuse (expected - 1 ≠ end_sequence) ClientError.CommitSequenceGap
  else .ok ()

def validate_pull_batch (state : DurableClientState V) (batch : PullBatch V) :
    Result (Checkpoint × List (PullCommit V)) :=
  match batch.frames.head?, batch.frames.getLast? with
  | some (.Start start), some (.End finish) => do
    Except.refuse (start ≠ finish) ClientError.CheckpointMismatch
    validate_scope state finish
    validate_continuation state.checkpoint finish
    let commits ← (batch.frames.drop 1).dropLast.mapM (frame_commit finish.token)
    forM (commits.zip commits.tail) validate_successor
    Except.refuse (∃ commit ∈ commits.getLast?, commit.sequence ≠ finish.cursor.sequence)
      ClientError.CommitSequenceGap
    let current_sequence := match state.checkpoint.filter fun current =>
        current.cursor.epoch = finish.cursor.epoch with
      | some current => current.cursor.sequence
      | none => 0
    validate_missing_commits current_sequence finish.cursor.sequence commits
    .ok (finish, commits)
  | _, _ => .error .InvalidPullFraming

/-- Present and tombstone rows overwrite, an absent row removes. -/
def apply_record (confirmed : BTreeMap RecordId (RecordState V)) (record : AppliedRecord V) :
    BTreeMap RecordId (RecordState V) :=
  match record.state with
  | .Absent => confirmed.erase record.record_id
  | state => confirmed.insert record.record_id state

def apply_commit (confirmed : BTreeMap RecordId (RecordState V)) (commit : PullCommit V) :
    BTreeMap RecordId (RecordState V) :=
  commit.records.foldl apply_record confirmed

/-- One iteration of the snapshot loop: ids are distinct and absent rows are
dropped. -/
def snapshot_record [DecidableEq V] (found : BTreeSet RecordId × BTreeMap RecordId (RecordState V))
    (record : SnapshotRecord V) : Result (BTreeSet RecordId × BTreeMap RecordId (RecordState V)) := do
  let record_ids ← BTreeSet.insertFresh found.1 record.record_id
    (ClientError.DuplicateSnapshotRecord record.record_id)
  .ok (record_ids,
    if record.state ≠ .Absent then found.2.insert record.record_id record.state else found.2)

def same_epoch (state : DurableClientState V) (checkpoint : Checkpoint) : Prop :=
  ∃ current ∈ state.checkpoint, current.cursor.epoch = checkpoint.cursor.epoch

instance (state : DurableClientState V) (checkpoint : Checkpoint) :
    Decidable (same_epoch state checkpoint) :=
  inferInstanceAs (Decidable (∃ _ ∈ _, _))

/-- An accepted outcome is covered by a snapshot at or above its sequence, or by
any snapshot of an epoch other than the installed one. -/
def cover_outcome (sameEpoch : Bool) (checkpoint : Checkpoint) (resolved : ResolvedCommit V) :
    ResolvedCommit V :=
  match resolved.outcome with
  | .Accepted _ sequence _ =>
    if !sameEpoch ∨ sequence ≤ checkpoint.cursor.sequence then
      { resolved with covered_by_reset := true }
    else resolved
  | .Conflict .. => resolved
  | .Rejected .. => resolved

/-- The reset monotonicity guards against an installed checkpoint. -/
def guard_frontier (state : DurableClientState V) (incoming : Checkpoint) : Result Unit :=
  match state.checkpoint with
  | some current => do
    Except.refuse (incoming.cursor.epoch < current.cursor.epoch
      ∨ (incoming.cursor.epoch = current.cursor.epoch
        ∧ incoming.cursor.sequence < current.cursor.sequence)) ClientError.CursorWouldMoveBackward
    Except.refuse (incoming.scope.authorization_revision < current.scope.authorization_revision)
      ClientError.ScopeMismatch
    if incoming.scope ≠ current.scope then do
      Except.refuse state.HasPendingIntent ClientError.PendingQuarantineRequired
      Except.refuse (state.outcomes ≠ []) ClientError.NeedsNewScopeJournal
    else .ok ()
  | none => .ok ()

def validate_bootstrap_record (record : SnapshotRecord V) : Result Unit :=
  match record.state with
  | .Absent => .error (.AbsentConfirmedRecord record.record_id)
  | .Present _ version _ =>
    Except.refuse (version = 0) (.InvalidSnapshotVersion record.record_id)
  | .Tombstone version => Except.refuse (version = 0) (.InvalidSnapshotVersion record.record_id)

variable [DecidableEq V]

def ClientRuntime.prepare_pull_batch (self : ClientRuntime V) (batch : PullBatch V) :
    Result (PreparedTransition V) := do
  let (checkpoint, commits) ← validate_pull_batch self.state batch
  guard_subscription_scope self.state checkpoint.scope
  match self.state.checkpoint.filter fun current =>
      checkpoint.cursor.sequence = current.cursor.sequence with
  | some current =>
    if checkpoint = current then self.prepare self.state
    else do
      -- a same-cursor response may only rotate the token
      Except.refuse (commits ≠ []) ClientError.InvalidPullFraming
      self.prepare { self.state with checkpoint := some checkpoint }
  | none =>
    self.prepare { self.state with
      confirmed := commits.foldl apply_commit self.state.confirmed
      checkpoint := some checkpoint }

def ClientRuntime.prepare_snapshot (self : ClientRuntime V) (checkpoint : Checkpoint)
    (records : List (SnapshotRecord V)) : Result (PreparedTransition V) := do
  validate_scope self.state checkpoint
  guard_subscription_scope self.state checkpoint.scope
  guard_frontier self.state checkpoint
  let (_, confirmed) ← records.foldlM snapshot_record (∅, ∅)
  self.prepare { self.state with
    confirmed
    outcomes := self.state.outcomes.map
      (cover_outcome (decide (same_epoch self.state checkpoint)) checkpoint)
    reset_coverage := some { cursor := checkpoint.cursor, scope := checkpoint.scope }
    checkpoint := some checkpoint }

def ClientRuntime.prepare_reset (self : ClientRuntime V) (snapshot : ResetSnapshot V) :
    Result (PreparedTransition V) :=
  self.prepare_snapshot snapshot.checkpoint snapshot.records

def ClientRuntime.prepare_bootstrap_snapshot (self : ClientRuntime V) (checkpoint : Checkpoint)
    (records : List (SnapshotRecord V)) : Result (PreparedTransition V) := do
  Except.refuse (¬ same_epoch self.state checkpoint
    ∧ ∃ resolved ∈ self.state.outcomes, resolved.outcome.IsAccepted) ClientError.NeedsNewScopeJournal
  forM records validate_bootstrap_record
  self.prepare_snapshot checkpoint records

def ClientRuntime.prepare_pull_response (self : ClientRuntime V) :
    PullResponse V → Result (PreparedTransition V)
  | .Batch batch => self.prepare_pull_batch batch
  | .Reset snapshot => self.prepare_reset snapshot

end surrealdb_sync_client
