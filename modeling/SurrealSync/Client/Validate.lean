import SurrealSync.Client.Windows

open Std
open surrealdb_sync_protocol surrealdb_sync_protocol.subscription

namespace surrealdb_sync_client

variable {V : Type}

def validate_commit (commit : ClientCommit V) : Result Unit := do
  Except.refuse (commit.operations = []) .EmptyCommit
  let _ ← commit.operations.foldlM (fun records operation =>
    BTreeSet.insertFresh records operation.record_id (ClientError.DuplicateOperation operation.record_id))
    (∅ : BTreeSet RecordId)

def prefer_server_eligible (commit : ClientCommit V) (outcome : DurableOutcome V) : Bool :=
  match outcome with
  | .Conflict _ record_id (.Present _ version _) =>
    match commit.operations with
    | [.Upsert operation_id (.Exact base) _ _] => operation_id = record_id && base > 0 && version > base
    | _ => false
  | _ => false

/-- One iteration of `validate_conflict_resolutions`. -/
def validate_resolution (state : DurableClientState V) (resolved : ResolvedCommit V) : Result Unit :=
  match resolved.resolution with
  | none => .ok ()
  | some resolution => do
    Except.refuse (¬ resolved.outcome.IsConflict) ClientError.InvalidConflictResolution
    match resolution with
    | .KeepServer => .ok ()
    | .PreferServerPolicyV1 =>
      Except.refuse (¬ prefer_server_eligible resolved.local_commit resolved.outcome)
        .InvalidConflictResolution
    | .KeepLocal replacement | .Merge replacement =>
      Except.refuse (replacement = resolved.local_commit.identity
        ∨ ((¬ ∃ commit ∈ state.outbox, commit.identity = replacement)
          ∧ ¬ ∃ outcome ∈ state.outcomes, outcome.local_commit.identity = replacement))
        .InvalidConflictResolution

def validate_conflict_resolutions (state : DurableClientState V) : Result Unit :=
  forM state.outcomes (validate_resolution state)

def validate_scope (state : DurableClientState V) (checkpoint : Checkpoint) : Result Unit :=
  Except.refuse (checkpoint.scope.identity ≠ state.requested_scope
    ∨ checkpoint.scope.subscription_revision ≠ state.subscription_revision) .ScopeMismatch

def validate_checkpoint [DecidableEq V] (state : DurableClientState V) : Result Unit := do
  forM state.confirmed.toList fun (record_id, record) =>
    Except.refuse (record = .Absent) (ClientError.AbsentConfirmedRecord record_id)
  match state.checkpoint with
  | some checkpoint => do
    Except.refuse (checkpoint.token.val = "" ∨ checkpoint.cursor.epoch = 0)
      ClientError.CheckpointMismatch
    validate_scope state checkpoint
  | none => .ok ()

def validate_coverage (state : DurableClientState V) : Result Unit :=
  match state.reset_coverage with
  | some coverage => do
    let checkpoint ← Except.okOr state.checkpoint ClientError.InvalidReadCoverage
    Except.refuse (coverage.cursor.epoch = 0
      ∨ coverage.cursor.epoch ≠ checkpoint.cursor.epoch
      ∨ coverage.cursor.sequence > checkpoint.cursor.sequence
      ∨ coverage.scope ≠ checkpoint.scope) ClientError.InvalidReadCoverage
  | none => .ok ()

def validate_id_map (id_map : BTreeMap RecordId RecordId) : Result Unit :=
  forM id_map.toList fun (local_id, canonical_id) =>
    Except.refuse (local_id = canonical_id ∨ canonical_id ∈ id_map)
      (ClientError.InvalidIdMapping ⟨local_id, canonical_id⟩)

def operation_contains_id : Operation V → RecordId → Prop
  | .Upsert operation_id _ _ reference, record_id => operation_id = record_id ∨ reference = some record_id
  | .Delete operation_id _, record_id => operation_id = record_id

instance : (operation : Operation V) → (record_id : RecordId) →
    Decidable (operation_contains_id operation record_id)
  | .Upsert .., _ => inferInstanceAs (Decidable (_ ∨ _))
  | .Delete .., _ => inferInstanceAs (Decidable (_ = _))

def commit_contains_id (commit : ClientCommit V) (record_id : RecordId) : Prop :=
  ∃ operation ∈ commit.operations, operation_contains_id operation record_id

instance (commit : ClientCommit V) (record_id : RecordId) :
    Decidable (commit_contains_id commit record_id) :=
  inferInstanceAs (Decidable (∃ _ ∈ _, _))

/-- The pattern `matches!(record, RecordState::Present { reference: Some(r), .. } if r == id)`. -/
def record_references_id : RecordState V → RecordId → Prop
  | .Present _ _ reference, record_id => reference = some record_id
  | .Absent, _ => False
  | .Tombstone _, _ => False

instance : (record : RecordState V) → (record_id : RecordId) →
    Decidable (record_references_id record record_id)
  | .Present .., _ => inferInstanceAs (Decidable (_ = _))
  | .Absent, _ => isFalse id
  | .Tombstone _, _ => isFalse id

def outcome_contains_id : DurableOutcome V → RecordId → Prop
  | .Conflict _ conflict_id authoritative, record_id =>
    conflict_id = record_id ∨ record_references_id authoritative record_id
  | .Accepted .., _ => False
  | .Rejected .., _ => False

instance : (outcome : DurableOutcome V) → (record_id : RecordId) →
    Decidable (outcome_contains_id outcome record_id)
  | .Conflict .., _ => inferInstanceAs (Decidable (_ ∨ _))
  | .Accepted .., _ => isFalse id
  | .Rejected .., _ => isFalse id

def validate_no_mapped_local_ids (state : DurableClientState V) : Result Unit :=
  forM state.id_map.keys fun local_id =>
    Except.refuse ((∃ entry ∈ state.confirmed.toList,
        entry.1 = local_id ∨ record_references_id entry.2 local_id)
      ∨ (∃ commit ∈ state.outbox, commit_contains_id commit local_id)
      ∨ ∃ resolved ∈ state.outcomes,
        commit_contains_id resolved.local_commit local_id
          ∨ outcome_contains_id resolved.outcome local_id)
      (ClientError.MappedLocalIdRemains local_id)

def validate_subscriptions (state : DurableClientState V) : Result Unit :=
  match state.subscriptions with
  | some subscriptions => subscriptions.validate state
  | none => .ok ()

/-- The checks of one recorded outcome, before its identity is compared with the
identities already seen. -/
def validate_outcome (resolved : ResolvedCommit V) : Result Unit := do
  validate_commit resolved.local_commit
  Except.refuse (resolved.covered_by_reset ∧ ¬ resolved.outcome.IsAccepted)
    ClientError.InvalidReadCoverage
  Except.refuse (resolved.outcome.identity ≠ resolved.local_commit.identity)
    ClientError.OutcomeIdentityMismatch

def DurableClientState.validate [DecidableEq V] (self : DurableClientState V) : Result Unit := do
  let identities ← self.outbox.foldlM (fun identities commit => do
    validate_commit commit
    BTreeSet.insertFresh identities commit.identity.client_commit_id
      (ClientError.DuplicateCommitId commit.identity.client_commit_id)) (∅ : BTreeSet ClientCommitId)
  let _ ← self.outcomes.foldlM (fun identities resolved => do
    validate_outcome resolved
    BTreeSet.insertFresh identities resolved.local_commit.identity.client_commit_id
      (ClientError.DuplicateCommitId resolved.local_commit.identity.client_commit_id)) identities
  validate_conflict_resolutions self
  validate_checkpoint self
  validate_coverage self
  validate_subscriptions self
  validate_id_map self.id_map
  validate_no_mapped_local_ids self

end surrealdb_sync_client
