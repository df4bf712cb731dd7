import SurrealSync.Client.Step
import SurrealSync.Protocol.Fingerprint
import SurrealSync.Protocol.SubscriptionCodec

open Std Except
open surrealdb_sync_protocol surrealdb_sync_protocol.subscription surrealdb_sync_protocol.canonical
open surrealdb_sync_client

namespace surrealdb_rn_core

inductive NativeSyncError where
  | Closed
  | InvalidInput
  | Protocol
  | Persistence
  | RecoveryRequired
  | RequiresEmbeddedDatabase
  | ReadOutputTooLarge
  | NeedsNewScopeJournal
  | PendingQuarantineRequired
  | SubscriptionCancelled
  | InvalidSubscription
  | Internal
  | QueueCapacity
deriving DecidableEq

abbrev NativeResult := Except NativeSyncError

/-- `result.map_err(|_| error)`. -/
def map_err {ε α : Type} (result : Except ε α) (error : ε → NativeSyncError) : NativeResult α :=
  match result with
  | .ok a => .ok a
  | .error e => .error (error e)

theorem map_err_eq_ok_iff {ε α : Type} {result : Except ε α} {error : ε → NativeSyncError} {a : α} :
    map_err result error = .ok a ↔ result = .ok a := by
  cases result <;> simp [map_err]

end surrealdb_rn_core

namespace surrealdb_rn_core.sync_codec

/-- What the codec is built on: the CBOR library, SHA-256, and the bridge from the
values of the wire to canonical ones. -/
structure Codec (V : Type) where
  ciborium : Ciborium
  sha256 : List UInt8 → BootstrapDigest
  canonical_json : V → NativeResult CanonicalValue

variable {V : Type} (codec : Codec V)

def canonical_operation : Operation V → NativeResult (Operation CanonicalValue)
  | .Upsert record_id base_version value reference => do
    return .Upsert record_id base_version (← codec.canonical_json value) reference
  | .Delete record_id base_version => .ok (.Delete record_id base_version)

def canonical_fingerprint (state : DurableClientState V) (commit : ClientCommit V) : NativeResult Fingerprint := do
  let operations ← commit.operations.mapM (canonical_operation codec)
  map_err (fingerprint_commit codec.ciborium codec.sha256 state.partition_id state.client_id
    commit.identity.client_commit_id operations) fun _ => .InvalidInput

def validate_record_state : RecordState V → NativeResult Unit
  | .Present value _ _ => do
    let canonical ← codec.canonical_json value
    let _ ← map_err (canonical_cbor codec.ciborium canonical) fun _ => .InvalidInput
  | .Absent | .Tombstone _ => .ok ()

def validate_commit_identity (state : DurableClientState V) (commit : ClientCommit V) : NativeResult Unit := do
  let fingerprint ← canonical_fingerprint codec state commit
  refuse (fingerprint ≠ commit.identity.fingerprint) .Protocol

/-- The check of a push response, and of a stored outcome. -/
def validate_push_response_values : DurableOutcome V → NativeResult Unit
  | .Conflict _ _ authoritative => validate_record_state codec authoritative
  | .Accepted .. | .Rejected .. => .ok ()

/-- The first loop of `validate_state_codec`. -/
def validate_subscription_values : Option (DurableSubscriptions V) → NativeResult Unit
  | some subscriptions => forM subscriptions.records.vals fun row => do
    let _ ← codec.canonical_json row.value
  | none => .ok ()

/-- The identity of a stored outcome stays bound to the commit that was sent, so only
the bounds of its renamed content are checked again. -/
def validate_state_codec (state : DurableClientState V) : NativeResult Unit := do
  validate_subscription_values codec state.subscriptions
  forM state.confirmed.vals (validate_record_state codec)
  forM state.outbox (validate_commit_identity codec state)
  forM state.outcomes fun resolved => do
    let _ ← canonical_fingerprint codec state resolved.local_commit
    validate_push_response_values codec resolved.outcome

def validate_pull_response_values : PullResponse V → NativeResult Unit
  | .Batch batch => forM batch.frames fun
    | .Commit _ commit => forM commit.records fun record => validate_record_state codec record.state
    | .Start _ | .End _ => .ok ()
  | .Reset reset => forM reset.records fun record => validate_record_state codec record.state

end surrealdb_rn_core.sync_codec

namespace surrealdb_rn_core.sync_subscription

open sync_codec

variable {V : Type} (codec : Codec V)

def map_change {A B : Type} (convert : A → NativeResult B) : MembershipChange A → NativeResult (MembershipChange B)
  | .Upsert row => do return .Upsert ⟨row.record_id, ← convert row.value, row.version, row.sort_key⟩
  | .Leave record_id => .ok (.Leave record_id)
  | .Delete record_id version => .ok (.Delete record_id version)

def map_response {A B : Type} (response : SubscriptionResponse A) (convert : A → NativeResult B) :
    NativeResult (SubscriptionResponse B) := do
  let changes ← response.changes.mapM (map_change convert)
  return {
    partition_id := response.partition_id
    client_id := response.client_id
    subscription_id := response.subscription_id
    generation := response.generation
    plan_fingerprint := response.plan_fingerprint
    scope := response.scope
    frontier := response.frontier
    view_revision := response.view_revision
    coverage := response.coverage
    response := response.response
    token := response.token
    ordered_ids := response.ordered_ids
    changes }

/-- `parse_response`, from the response that serde reads on. -/
def parse_response (response : SubscriptionResponse V) : NativeResult (SubscriptionResponse V) := do
  let canonical ← map_response response codec.canonical_json
  let _ ← map_err (subscription_codec.encode_subscription_response codec.ciborium canonical) fun _ => .InvalidInput
  return response

end surrealdb_rn_core.sync_subscription

namespace surrealdb_rn_core.sync_client

open sync_codec sync_subscription

variable {V : Type} [DecidableEq V] (codec : Codec V)

def map_protocol_error : ClientError → NativeSyncError
  | .SubscriptionCancelled => .SubscriptionCancelled
  | .InvalidSubscription => .InvalidSubscription
  | .NeedsNewScopeJournal => .NeedsNewScopeJournal
  | .PendingQuarantineRequired => .PendingQuarantineRequired
  | _ => .Protocol

def conflict_context (runtime : ClientRuntime V) (conflicted_commit_id : ClientCommitId) :
    NativeResult (ClientCommit V × RecordId × RecordState V) :=
  okOr (runtime.state.outcomes.findSome? fun resolved =>
    if resolved.local_commit.identity.client_commit_id ≠ conflicted_commit_id then none
    else match resolved.outcome with
      | .Conflict _ record_id authoritative => some (resolved.local_commit, record_id, authoritative)
      | .Accepted .. | .Rejected .. => none) .Protocol

def rebase_operation : Operation V → RecordState V → NativeResult (Operation V)
  | .Upsert record_id _ value reference, .Absent => .ok (.Upsert record_id .Absent value reference)
  | .Upsert record_id _ value reference, .Present _ version _ =>
    .ok (.Upsert record_id (.Exact version) value reference)
  | .Upsert record_id _ value reference, .Tombstone version =>
    .ok (.Upsert record_id (.Exact version) value reference)
  | .Delete record_id _, .Present _ version _ => .ok (.Delete record_id version)
  | .Delete _ _, .Absent => .error .Protocol
  | .Delete _ _, .Tombstone _ => .error .Protocol

/-- The first operation of the record takes the version of the authoritative state. -/
def rebase_conflict_operation (operations : List (Operation V)) (conflict_record_id : RecordId)
    (authoritative : RecordState V) : NativeResult (List (Operation V)) :=
  match operations with
  | [] => .error .Protocol
  | operation :: operations =>
    if operation.record_id = conflict_record_id then do
      return (← rebase_operation operation authoritative) :: operations
    else do
      return operation :: (← rebase_conflict_operation operations conflict_record_id authoritative)

/-- The commit under the fingerprint of its content. -/
def fingerprinted (state : DurableClientState V) (commit : ClientCommit V) : NativeResult (ClientCommit V) := do
  let fingerprint ← canonical_fingerprint codec state commit
  return { commit with identity := { commit.identity with fingerprint } }

/-- The calls of the facade that replace the state, with their decoded arguments. -/
inductive NativeCall (V : Type) where
  | enqueue (commit : ClientCommit V)
  | record_push_response (response : PushResponse V) (policy : AutomaticConflictPolicy)
  | apply_pull_response (response : PullResponse V)
  | resolve_conflict_keep_server (conflicted_commit_id : ClientCommitId)
  | resolve_conflict_keep_local (conflicted_commit_id replacement_commit_id : ClientCommitId)
  | resolve_conflict_merge (conflicted_commit_id : ClientCommitId) (replacement : ClientCommit V)
  | start_subscription (request : SubscriptionRequest)
  | cancel_subscription (subscription_id : String) (generation : UInt64)
  | apply_subscription_response (response : SubscriptionResponse V)

/-- The part of a call before `persist_and_install`. -/
def prepare (runtime : ClientRuntime V) : NativeCall V → NativeResult (PreparedTransition V)
  | .enqueue commit => do
    let commit ← fingerprinted codec runtime.state commit
    map_err (runtime.prepare_enqueue commit) map_protocol_error
  | .record_push_response response policy => do
    validate_push_response_values codec response.outcome
    map_err (runtime.prepare_push_response_with_policy response policy) map_protocol_error
  | .apply_pull_response response => do
    validate_pull_response_values codec response
    map_err (runtime.prepare_pull_response response) map_protocol_error
  | .resolve_conflict_keep_server conflicted_commit_id =>
    map_err (runtime.prepare_resolve_conflict conflicted_commit_id .KeepServer) map_protocol_error
  | .resolve_conflict_keep_local conflicted_commit_id replacement_commit_id => do
    let (commit, record_id, authoritative) ← conflict_context runtime conflicted_commit_id
    let operations ← rebase_conflict_operation commit.operations record_id authoritative
    let replacement ← fingerprinted codec runtime.state
      { identity := ⟨replacement_commit_id, ⟨""⟩⟩, operations }
    map_err (runtime.prepare_resolve_conflict conflicted_commit_id (.KeepLocal replacement)) map_protocol_error
  | .resolve_conflict_merge conflicted_commit_id replacement => do
    let replacement ← fingerprinted codec runtime.state replacement
    map_err (runtime.prepare_resolve_conflict conflicted_commit_id (.Merge replacement)) map_protocol_error
  | .start_subscription request => map_err (runtime.prepare_start_subscription request) map_protocol_error
  | .cancel_subscription subscription_id generation =>
    map_err (runtime.prepare_cancel_subscription subscription_id generation) map_protocol_error
  | .apply_subscription_response response => do
    let response ← parse_response codec response
    map_err (runtime.prepare_subscription_response response) map_protocol_error

end surrealdb_rn_core.sync_client
