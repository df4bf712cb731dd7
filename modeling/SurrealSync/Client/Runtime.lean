import SurrealSync.Basic.Machine
import SurrealSync.Client.Remap

open Std
open surrealdb_sync_protocol surrealdb_sync_protocol.subscription

namespace surrealdb_sync_client

variable {V : Type}

def identity_exists (state : DurableClientState V) (commit_id : ClientCommitId) : Prop :=
  (∃ commit ∈ state.outbox, commit.identity.client_commit_id = commit_id)
    ∨ ∃ resolved ∈ state.outcomes, resolved.local_commit.identity.client_commit_id = commit_id

instance (state : DurableClientState V) (commit_id : ClientCommitId) :
    Decidable (identity_exists state commit_id) :=
  inferInstanceAs (Decidable (_ ∨ _))

def validate_replacement_identity (state : DurableClientState V) (replacement : ClientCommit V) :
    Result Unit := do
  validate_commit replacement
  Except.refuse (identity_exists state replacement.identity.client_commit_id)
    (ClientError.DuplicateCommitId replacement.identity.client_commit_id)

def commit_matches_authoritative_base (commit : ClientCommit V) (conflict_record_id : RecordId)
    (authoritative : RecordState V) : Bool :=
  match commit.operations.find? fun operation => operation.record_id = conflict_record_id with
  | none => false
  | some operation =>
    match operation, authoritative with
    | .Upsert _ .Absent _ _, .Absent => true
    | .Upsert _ (.Exact base) _ _, .Present _ version _ => base = version
    | .Upsert _ (.Exact base) _ _, .Tombstone version => base = version
    | .Delete _ base_version, .Present _ version _ => base_version = version
    | _, _ => false

/-- The lookup of `prepare_resolve_conflict`: a recorded conflict of this commit id. -/
def conflicted (commit_id : ClientCommitId) (resolved : ResolvedCommit V) : Bool :=
  resolved.local_commit.identity.client_commit_id = commit_id && resolved.outcome.IsConflict

variable [DecidableEq V]

/-- A complete replacement state that passed validation. Its fields are private
in the source, so every value comes from `ClientRuntime.prepare`. -/
structure PreparedTransition (V : Type) [DecidableEq V] where
  base_revision : UInt64
  state : DurableClientState V
  valid : state.validate = .ok ()

/-- A runtime only ever holds a validated state: `open` checks the first one and
`install` takes over prepared ones. -/
structure ClientRuntime (V : Type) [DecidableEq V] where
  state : DurableClientState V
  valid : state.validate = .ok ()

def ClientRuntime.open (state : DurableClientState V) : Result (ClientRuntime V) :=
  match hvalid : state.validate with
  | .ok () => .ok ⟨state, hvalid⟩
  | .error error => .error error

/-- The revision `prepare` gives a candidate state: the next one when the
candidate differs from the current state at all, else the current one. -/
def ClientRuntime.stamp (self : ClientRuntime V) (next : DurableClientState V) :
    Result (DurableClientState V) :=
  if next ≠ self.state then do
    let revision ← Except.okOr (self.state.revision.checked_add 1) ClientError.RevisionExhausted
    .ok { next with revision }
  else .ok next

def ClientRuntime.prepare (self : ClientRuntime V) (next : DurableClientState V) :
    Result (PreparedTransition V) := do
  let next ← self.stamp next
  match hvalid : next.validate with
  | .ok () => .ok ⟨self.state.revision, next, hvalid⟩
  | .error error => .error error

def ClientRuntime.install (self : ClientRuntime V) (prepared : PreparedTransition V) :
    Result (ClientRuntime V) := do
  Except.refuse (prepared.base_revision ≠ self.state.revision)
    (ClientError.StaleTransition prepared.base_revision self.state.revision)
  .ok ⟨prepared.state, prepared.valid⟩

def ClientRuntime.prepare_enqueue (self : ClientRuntime V) (commit : ClientCommit V) :
    Result (PreparedTransition V) := do
  validate_commit commit
  Except.refuse (identity_exists self.state commit.identity.client_commit_id)
    (ClientError.DuplicateCommitId commit.identity.client_commit_id)
  self.prepare { self.state with outbox := self.state.outbox ++ [commit] }

/-- The branch of a first delivery: the commit leaves the outbox, the accepted
mappings rename records throughout the rest of the state and in the commit
itself, and the outcome is recorded. -/
def record_outcome (state : DurableClientState V) (local_commit : ClientCommit V)
    (outcome : DurableOutcome V) (policy : AutomaticConflictPolicy) : Result (DurableClientState V) := do
  let next := { state with
    outbox := state.outbox.eraseP fun commit => commit.identity = outcome.identity }
  let next ← (accepted_mappings outcome).foldlM apply_id_mapping next
  let local_commit := (accepted_mappings outcome).foldl remap_commit local_commit
  let resolution :=
    if policy = .PreferServerV1 ∧ prefer_server_eligible local_commit outcome then
      some ConflictResolution.PreferServerPolicyV1
    else none
  .ok { next with
    outcomes := next.outcomes ++
      [{ local_commit, outcome, resolution, covered_by_reset := false }] }

def ClientRuntime.prepare_push_response_with_policy (self : ClientRuntime V)
    (response : PushResponse V) (policy : AutomaticConflictPolicy) :
    Result (PreparedTransition V) := do
  Except.refuse (response.schema_version ≠ .V1
    ∨ response.partition_id ≠ self.state.partition_id
    ∨ response.client_id ≠ self.state.client_id) ClientError.EnvelopeMismatch
  let identity := response.outcome.identity
  let commit_id := identity.client_commit_id
  match self.state.outcomes.find? fun resolved =>
      resolved.local_commit.identity.client_commit_id = commit_id with
  | some resolved =>
    if resolved.outcome = response.outcome then self.prepare self.state
    else .error .OutcomeIdentityMismatch
  | none =>
    match self.state.outbox.find? fun commit => commit.identity = identity with
    | none => .error (.UnknownCommit commit_id)
    | some local_commit => do
      let next ← record_outcome self.state local_commit response.outcome policy
      self.prepare next

def ClientRuntime.prepare_push_response (self : ClientRuntime V) (response : PushResponse V) :
    Result (PreparedTransition V) :=
  self.prepare_push_response_with_policy response .Manual

/-- A retried decision is the stored one: same strategy, and for a replacement
the same commit, wherever it now is. -/
def resolution_request_matches (state : DurableClientState V) :
    ConflictResolution → ConflictResolutionRequest V → Prop
  | .KeepServer, .KeepServer => True
  | .PreferServerPolicyV1, .KeepServer => True
  | .KeepLocal identity, .KeepLocal replacement =>
    identity = replacement.identity
      ∧ ∃ commit ∈ state.outbox ++ state.outcomes.map (·.local_commit), commit = replacement
  | .Merge identity, .Merge replacement =>
    identity = replacement.identity
      ∧ ∃ commit ∈ state.outbox ++ state.outcomes.map (·.local_commit), commit = replacement
  | _, _ => False

instance (state : DurableClientState V) : (resolution : ConflictResolution) →
    (request : ConflictResolutionRequest V) →
    Decidable (resolution_request_matches state resolution request)
  | .KeepServer, .KeepServer => isTrue trivial
  | .PreferServerPolicyV1, .KeepServer => isTrue trivial
  | .KeepLocal _, .KeepLocal _ => inferInstanceAs (Decidable (_ ∧ _))
  | .Merge _, .Merge _ => inferInstanceAs (Decidable (_ ∧ _))
  | .KeepServer, .KeepLocal _ => isFalse id
  | .KeepServer, .Merge _ => isFalse id
  | .PreferServerPolicyV1, .KeepLocal _ => isFalse id
  | .PreferServerPolicyV1, .Merge _ => isFalse id
  | .KeepLocal _, .KeepServer => isFalse id
  | .KeepLocal _, .Merge _ => isFalse id
  | .Merge _, .KeepServer => isFalse id
  | .Merge _, .KeepLocal _ => isFalse id

def same_operation_intent : Operation V → Operation V → Bool
  | .Upsert original_id _ original_value original_reference,
    .Upsert replacement_id _ replacement_value replacement_reference =>
    original_id = replacement_id && original_value = replacement_value
      && original_reference = replacement_reference
  | .Delete original_id _, .Delete replacement_id _ => original_id = replacement_id
  | .Upsert .., .Delete .. => false
  | .Delete .., .Upsert .. => false

def same_intent (original replacement : ClientCommit V) : Bool :=
  original.operations.length = replacement.operations.length
    && (original.operations.zip replacement.operations).all fun (original, replacement) =>
      same_operation_intent original replacement

/-- The branch of a first decision for the conflict at `index`. -/
def decide_conflict (state : DurableClientState V) (index : Nat) (resolved : ResolvedCommit V)
    (record_id : RecordId) (authoritative : RecordState V) (request : ConflictResolutionRequest V) :
    Result (DurableClientState V) :=
  let resolve (resolution : ConflictResolution) :=
    state.outcomes.modify index fun resolved => { resolved with resolution := some resolution }
  match request with
  | .KeepServer => .ok { state with outcomes := resolve .KeepServer }
  | .KeepLocal replacement => do
    validate_replacement_identity state replacement
    Except.refuse (¬ same_intent resolved.local_commit replacement
      ∨ ¬ commit_matches_authoritative_base replacement record_id authoritative)
      ClientError.InvalidConflictResolution
    .ok { state with
      outcomes := resolve (.KeepLocal replacement.identity)
      outbox := state.outbox ++ [replacement] }
  | .Merge replacement => do
    validate_replacement_identity state replacement
    Except.refuse (¬ commit_matches_authoritative_base replacement record_id authoritative)
      ClientError.InvalidConflictResolution
    .ok { state with
      outcomes := resolve (.Merge replacement.identity)
      outbox := state.outbox ++ [replacement] }

def ClientRuntime.prepare_resolve_conflict (self : ClientRuntime V)
    (conflicted_commit_id : ClientCommitId) (request : ConflictResolutionRequest V) :
    Result (PreparedTransition V) :=
  match self.state.outcomes.find? (conflicted conflicted_commit_id) with
  | none => .error (.UnknownConflict conflicted_commit_id)
  | some resolved =>
    match resolved.resolution with
    | some resolution =>
      if resolution_request_matches self.state resolution request then self.prepare self.state
      else .error (.ConflictAlreadyResolved conflicted_commit_id)
    | none =>
      match resolved.outcome with
      | .Conflict _ record_id authoritative => do
        let next ← decide_conflict self.state
          (self.state.outcomes.findIdx (conflicted conflicted_commit_id)) resolved record_id
          authoritative request
        self.prepare next
      -- unreachable: the lookup matched only conflict outcomes
      | .Accepted .. => .error (.UnknownConflict conflicted_commit_id)
      | .Rejected .. => .error (.UnknownConflict conflicted_commit_id)

end surrealdb_sync_client
