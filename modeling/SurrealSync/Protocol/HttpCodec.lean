import SurrealSync.Protocol.CanonicalCodec
import SurrealSync.Protocol.Messages

open Except

namespace surrealdb_sync_protocol.http_codec

open canonical

def MAX_IDENTITY_BYTES : Nat := 1024

def MAX_CHECKPOINT_BYTES : Nat := 4096

def SCHEMA_V1 : UInt64 := 0

def PUSH_REQUEST : UInt64 := 0

def PUSH_RESPONSE : UInt64 := 1

def PULL_REQUEST : UInt64 := 2

def PULL_RESPONSE : UInt64 := 3

def integer (value : UInt64) : Cbor := .Integer (.ofUInt64 value)

/-- `byte.is_ascii_digit() || (b'a'..=b'f').contains(&byte)`. -/
def is_lower_hex (byte : UInt8) : Bool :=
  (0x30 ≤ byte && byte ≤ 0x39) || (0x61 ≤ byte && byte ≤ 0x66)

def validate_fingerprint (value : String) : Result Unit := do
  let hex ← okOr ("sha256:".as_bytes.isPrefixOf? value.as_bytes) .InvalidFingerprint
  refuse (hex.length ≠ 64 ∨ hex.all is_lower_hex = false) .InvalidFingerprint

def ensure_v1 : SchemaVersion → Result Unit
  | .V1 => .ok ()

def encode_base_version : BaseVersion → Cbor
  | .Absent => .Array [integer 0]
  | .Exact version => .Array [integer 1, integer version]

def reject_reason : RejectReason → UInt64
  | .InvalidOperation => 0
  | .CommitIdentityMismatch => 1
  | .Unauthorized => 2
  | .UnsupportedSchemaVersion => 3

def reset_reason : ResetReason → UInt64
  | .CheckpointExpired => 0
  | .EpochChanged => 1
  | .AuthorizationChanged => 2
  | .SubscriptionChanged => 3
  | .ScopeChanged => 4
  | .ExternalWriteQuarantined => 5

/-! ### Encoder -/

namespace Encoder

def new : Budget := ⟨MAX_TOTAL_ITEMS, MAX_ENCODED_BYTES⟩

def item (count : Nat) : Budgeted Unit := take_items count

/-- The charge of the envelope, which `Encoder::family` makes on a new encoder. -/
def family (family : String) : Budgeted Unit := do
  item 4
  take_bytes family.utf8ByteSize

def vec (length : Nat) : Budgeted Unit := do
  refuse (length > MAX_CONTAINER_ITEMS) CodecError.ContainerLimit
  item (length + 1)

/-- A text of at most `limit` bytes: the body shared by the identity and the
checkpoint texts. -/
def bounded_text (limit : Nat) (value : String) : Budgeted Cbor := do
  refuse (value = "" ∨ value.utf8ByteSize > limit) CodecError.InvalidIdentifier
  take_bytes value.utf8ByteSize
  item 1
  return .Text value

def identity_text (value : String) : Budgeted Cbor := bounded_text MAX_IDENTITY_BYTES value

def checkpoint_text (value : String) : Budgeted Cbor := bounded_text MAX_CHECKPOINT_BYTES value

def fingerprint (value : Fingerprint) : Budgeted Cbor := do
  validate_fingerprint value.val
  take_bytes value.val.utf8ByteSize
  item 1
  return .Text value.val

def canonical_value (value : CanonicalValue) : Budgeted Cbor := do
  validate_with_budget value.tree 0
  return to_cbor value.tree

def preflight_identity (value : String) : Budgeted Unit := do
  refuse (value = "" ∨ value.utf8ByteSize > MAX_IDENTITY_BYTES) CodecError.InvalidIdentifier
  take_bytes value.utf8ByteSize
  item 1

def preflight_digest : Budgeted Unit := do
  take_bytes 32
  item 1

def digest (value : List UInt8) : Budgeted Cbor := do
  preflight_digest
  return .Bytes value

def preflight_record_state (value_depth : Nat) : RecordState CanonicalValue → Budgeted Unit
  | .Absent => item 2
  | .Tombstone _ => item 3
  | .Present value _ reference => do
    item 5
    validate_with_budget value.tree value_depth
    match reference with
    | some id => preflight_identity id.val
    | none => item 1

/-- The budget pass over the records of a later encoding. -/
def preflight_snapshot_records (records : List (SnapshotRecord CanonicalValue)) (value_depth : Nat) :
    Budgeted Unit := do
  vec records.length
  records.forM fun record => do
    item 3
    preflight_identity record.record_id.val
    preflight_record_state value_depth record.state

def optional_record_id : Option RecordId → Budgeted Cbor
  | some value => identity_text value.val
  | none => do
    item 1
    return .Null

def operation : Operation CanonicalValue → Budgeted Cbor
  | .Upsert record_id base_version value reference => do
    item 6
    let record_id ← identity_text record_id.val
    let value ← canonical_value value
    let reference ← optional_record_id reference
    return .Array [integer 0, record_id, encode_base_version base_version, value, reference]
  | .Delete record_id base_version => do
    item 4
    let record_id ← identity_text record_id.val
    return .Array [integer 1, record_id, integer base_version]

def commit (commit : ClientCommit CanonicalValue) : Budgeted Cbor := do
  item 4
  vec commit.operations.length
  let operations ← commit.operations.mapM operation
  let client_commit_id ← identity_text commit.identity.client_commit_id.val
  let fingerprint ← fingerprint commit.identity.fingerprint
  return .Array [client_commit_id, fingerprint, .Array operations]

def push_request (request : PushRequest CanonicalValue) : Budgeted Cbor := do
  ensure_v1 request.schema_version
  item 5
  let partition_id ← identity_text request.partition_id.val
  let client_id ← identity_text request.client_id.val
  let commit ← commit request.commit
  return .Array [partition_id, client_id, commit]

def identity (identity : CommitIdentity) : Budgeted Cbor := do
  item 3
  let client_commit_id ← identity_text identity.client_commit_id.val
  let fingerprint ← fingerprint identity.fingerprint
  return .Array [client_commit_id, fingerprint]

def record_state : RecordState CanonicalValue → Budgeted Cbor
  | .Absent => do
    item 2
    return .Array [integer 0]
  | .Present value version reference => do
    item 5
    let value ← canonical_value value
    let reference ← optional_record_id reference
    return .Array [integer 1, value, integer version, reference]
  | .Tombstone version => do
    item 3
    return .Array [integer 2, integer version]

def id_mapping (mapping : IdMapping) : Budgeted Cbor := do
  item 3
  let local_id ← identity_text mapping.local_id.val
  let canonical_id ← identity_text mapping.canonical_id.val
  return .Array [local_id, canonical_id]

def outcome : DurableOutcome CanonicalValue → Budgeted Cbor
  | .Accepted identity' sequence id_mappings => do
    item 5
    vec id_mappings.length
    let mappings ← id_mappings.mapM id_mapping
    let identity ← identity identity'
    return .Array [integer 0, identity, integer sequence, .Array mappings]
  | .Conflict identity' record_id authoritative => do
    item 5
    let identity ← identity identity'
    let record_id ← identity_text record_id.val
    let authoritative ← record_state authoritative
    return .Array [integer 1, identity, record_id, authoritative]
  | .Rejected identity' reason => do
    item 4
    let identity ← identity identity'
    return .Array [integer 2, identity, integer (reject_reason reason)]

def push_response (response : PushResponse CanonicalValue) : Budgeted Cbor := do
  ensure_v1 response.schema_version
  item 5
  let partition_id ← identity_text response.partition_id.val
  let client_id ← identity_text response.client_id.val
  let outcome ← outcome response.outcome
  return .Array [partition_id, client_id, outcome]

def optional_checkpoint : Option OpaqueCheckpoint → Budgeted Cbor
  | some checkpoint => checkpoint_text checkpoint.val
  | none => return .Null

def pull_request (request : PullRequest) : Budgeted Cbor := do
  ensure_v1 request.schema_version
  item 8
  let checkpoint ← optional_checkpoint request.checkpoint
  let partition_id ← identity_text request.partition_id.val
  let client_id ← identity_text request.client_id.val
  let requested_scope ← identity_text request.requested_scope.val
  return .Array [partition_id, client_id, checkpoint, requested_scope, integer request.subscription_revision]

def checkpoint (checkpoint : Checkpoint) : Budgeted Cbor := do
  item 4
  let token ← checkpoint_text checkpoint.token.val
  let identity ← identity_text checkpoint.scope.identity.val
  return .Array [token, .Array [integer checkpoint.cursor.epoch, integer checkpoint.cursor.sequence],
    .Array [identity, integer checkpoint.scope.authorization_revision,
      integer checkpoint.scope.subscription_revision]]

/-- The body shared by applied and snapshot records. -/
def record (record_id : RecordId) (state : RecordState CanonicalValue) : Budgeted Cbor := do
  item 3
  let record_id ← identity_text record_id.val
  let state ← record_state state
  return .Array [record_id, state]

def applied_record (applied : AppliedRecord CanonicalValue) : Budgeted Cbor :=
  record applied.record_id applied.state

def snapshot_record (snapshot : SnapshotRecord CanonicalValue) : Budgeted Cbor :=
  record snapshot.record_id snapshot.state

/-- The source identity is private to the authority and is not encoded. -/
def pull_commit (commit : PullCommit CanonicalValue) : Budgeted Cbor := do
  item 3
  vec commit.records.length
  let records ← commit.records.mapM applied_record
  return .Array [integer commit.sequence, .Array records]

def pull_frame : PullFrame CanonicalValue → Budgeted Cbor
  | .Start checkpoint' => do
    item 3
    let checkpoint ← checkpoint checkpoint'
    return .Array [integer 0, checkpoint]
  | .Commit checkpoint commit => do
    item 4
    let checkpoint ← checkpoint_text checkpoint.val
    let commit ← pull_commit commit
    return .Array [integer 1, checkpoint, commit]
  | .End checkpoint' => do
    item 3
    let checkpoint ← checkpoint checkpoint'
    return .Array [integer 2, checkpoint]

def pull_response : PullResponse CanonicalValue → Budgeted Cbor
  | .Batch batch => do
    item 3
    vec batch.frames.length
    let frames ← batch.frames.mapM pull_frame
    return .Array [integer 0, .Array frames]
  | .Reset reset => do
    item 5
    vec reset.records.length
    let records ← reset.records.mapM snapshot_record
    let checkpoint ← checkpoint reset.checkpoint
    return .Array [integer 1, integer (reset_reason reset.reason), checkpoint, .Array records]

end Encoder

/-! ### Decoder

A call `array::<N>(value)?` is the pattern of an array of `N` elements. -/

def array_vec : Cbor → Result (List Cbor)
  | .Array values => do
    refuse (values.length > MAX_CONTAINER_ITEMS) .ContainerLimit
    return values
  | _ => .error .InvalidEnvelope

def vec_decode {α : Type} (value : Cbor) (decode : Cbor → Result α) : Result (List α) := do
  let values ← array_vec value
  values.mapM decode

def unsigned : Cbor → Result UInt64
  | .Integer value => okOr value.toUInt64? .InvalidEnvelope
  | _ => .error .InvalidEnvelope

def text : Cbor → Result String
  | .Text value => .ok value
  | _ => .error .InvalidEnvelope

/-- The check shared by the identity and the checkpoint texts. -/
def decode_bounded_text (limit : Nat) (value : Cbor) : Result String := do
  let value ← text value
  refuse (value = "" ∨ value.utf8ByteSize > limit) .InvalidIdentifier
  return value

def identity (value : Cbor) : Result String := decode_bounded_text MAX_IDENTITY_BYTES value

def checkpoint_text (value : Cbor) : Result String := decode_bounded_text MAX_CHECKPOINT_BYTES value

def fingerprint_text (value : Cbor) : Result String := do
  let value ← text value
  validate_fingerprint value
  return value

def decode_base_version (value : Cbor) : Result BaseVersion := do
  match ← array_vec value with
  | [kind] => do
    refuse ((← unsigned kind) ≠ 0) .InvalidEnvelope
    return .Absent
  | [kind, version] => do
    refuse ((← unsigned kind) ≠ 1) .InvalidEnvelope
    return .Exact (← unsigned version)
  | _ => throw .InvalidEnvelope

def optional_record_id : Cbor → Result (Option RecordId)
  | .Null => .ok none
  | value => do return some ⟨← identity value⟩

def optional_checkpoint : Cbor → Result (Option OpaqueCheckpoint)
  | .Null => .ok none
  | value => do return some ⟨← checkpoint_text value⟩

def decode_identity : Cbor → Result CommitIdentity
  | .Array [commit_id, fingerprint] => do
    return ⟨⟨← identity commit_id⟩, ⟨← fingerprint_text fingerprint⟩⟩
  | _ => .error .InvalidEnvelope

def decode_checkpoint : Cbor → Result Checkpoint
  | .Array [token, .Array [epoch, sequence],
      .Array [scope_identity, authorization_revision, subscription_revision]] => do
    return {
      token := ⟨← checkpoint_text token⟩
      cursor := ⟨← unsigned epoch, ← unsigned sequence⟩
      scope := ⟨⟨← identity scope_identity⟩, ← unsigned authorization_revision, ← unsigned subscription_revision⟩ }
  | _ => .error .InvalidEnvelope

def decode_reject_reason (value : UInt64) : Result RejectReason :=
  if value = 0 then .ok .InvalidOperation
  else if value = 1 then .ok .CommitIdentityMismatch
  else if value = 2 then .ok .Unauthorized
  else if value = 3 then .ok .UnsupportedSchemaVersion
  else .error .InvalidEnvelope

def decode_reset_reason (value : UInt64) : Result ResetReason :=
  if value = 0 then .ok .CheckpointExpired
  else if value = 1 then .ok .EpochChanged
  else if value = 2 then .ok .AuthorizationChanged
  else if value = 3 then .ok .SubscriptionChanged
  else if value = 4 then .ok .ScopeChanged
  else if value = 5 then .ok .ExternalWriteQuarantined
  else .error .InvalidEnvelope

/-- `values.first()` and the number it must be, with the remaining elements. -/
def array_kind (value : Cbor) : Result (Nat × List Cbor) := do
  let kind :: values ← array_vec value | throw .InvalidEnvelope
  return ((← unsigned kind).toNat, values)

namespace Decoder

def operation (value : Cbor) : Result (Operation CanonicalValue) := do
  match ← array_kind value with
  | (0, [record_id, base_version, value, reference]) =>
    return .Upsert ⟨← identity record_id⟩ (← decode_base_version base_version) (← from_cbor value)
      (← optional_record_id reference)
  | (1, [record_id, base_version]) => return .Delete ⟨← identity record_id⟩ (← unsigned base_version)
  | _ => throw .InvalidEnvelope

def commit : Cbor → Result (ClientCommit CanonicalValue)
  | .Array [commit_id, fingerprint, operations] => do
    return {
      identity := ⟨⟨← identity commit_id⟩, ⟨← fingerprint_text fingerprint⟩⟩
      operations := ← vec_decode operations operation }
  | _ => .error .InvalidEnvelope

def push_request : Cbor → Result (PushRequest CanonicalValue)
  | .Array [partition, client, commit'] => do
    return {
      schema_version := .V1
      partition_id := ⟨← identity partition⟩
      client_id := ⟨← identity client⟩
      commit := ← commit commit' }
  | _ => .error .InvalidEnvelope

def record_state (value : Cbor) : Result (RecordState CanonicalValue) := do
  match ← array_kind value with
  | (0, []) => return .Absent
  | (1, [value, version, reference]) =>
    return .Present (← from_cbor value) (← unsigned version) (← optional_record_id reference)
  | (2, [version]) => return .Tombstone (← unsigned version)
  | _ => throw .InvalidEnvelope

def id_mapping : Cbor → Result IdMapping
  | .Array [local_id, canonical] => do return ⟨⟨← identity local_id⟩, ⟨← identity canonical⟩⟩
  | _ => .error .InvalidEnvelope

def outcome (value : Cbor) : Result (DurableOutcome CanonicalValue) := do
  match ← array_kind value with
  | (0, [identity, sequence, id_mappings]) =>
    return .Accepted (← decode_identity identity) (← unsigned sequence) (← vec_decode id_mappings id_mapping)
  | (1, [identity', record_id, authoritative]) =>
    return .Conflict (← decode_identity identity') ⟨← identity record_id⟩ (← record_state authoritative)
  | (2, [identity, reason]) =>
    return .Rejected (← decode_identity identity) (← decode_reject_reason (← unsigned reason))
  | _ => throw .InvalidEnvelope

def push_response : Cbor → Result (PushResponse CanonicalValue)
  | .Array [partition, client, outcome'] => do
    return {
      schema_version := .V1
      partition_id := ⟨← identity partition⟩
      client_id := ⟨← identity client⟩
      outcome := ← outcome outcome' }
  | _ => .error .InvalidEnvelope

def snapshot_record : Cbor → Result (SnapshotRecord CanonicalValue)
  | .Array [record_id, state] => do return ⟨⟨← identity record_id⟩, ← record_state state⟩
  | _ => .error .InvalidEnvelope

def applied_record : Cbor → Result (AppliedRecord CanonicalValue)
  | .Array [record_id, state] => do return ⟨⟨← identity record_id⟩, ← record_state state⟩
  | _ => .error .InvalidEnvelope

def pull_request : Cbor → Result PullRequest
  | .Array [partition, client, checkpoint, scope, subscription] => do
    return {
      schema_version := .V1
      partition_id := ⟨← identity partition⟩
      client_id := ⟨← identity client⟩
      checkpoint := ← optional_checkpoint checkpoint
      requested_scope := ⟨← identity scope⟩
      subscription_revision := ← unsigned subscription }
  | _ => .error .InvalidEnvelope

def pull_commit : Cbor → Result (PullCommit CanonicalValue)
  | .Array [sequence, records] => do
    return {
      sequence := ← unsigned sequence
      source := none
      records := ← vec_decode records applied_record }
  | _ => .error .InvalidEnvelope

def pull_frame (value : Cbor) : Result (PullFrame CanonicalValue) := do
  match ← array_kind value with
  | (0, [checkpoint]) => return .Start (← decode_checkpoint checkpoint)
  | (1, [checkpoint, commit]) => return .Commit ⟨← checkpoint_text checkpoint⟩ (← pull_commit commit)
  | (2, [checkpoint]) => return .End (← decode_checkpoint checkpoint)
  | _ => throw .InvalidEnvelope

def pull_response (value : Cbor) : Result (PullResponse CanonicalValue) := do
  match ← array_kind value with
  | (0, [frames]) => return .Batch ⟨← vec_decode frames pull_frame⟩
  | (1, [reason, checkpoint, records]) =>
    return .Reset {
      reason := ← decode_reset_reason (← unsigned reason)
      checkpoint := ← decode_checkpoint checkpoint
      records := ← vec_decode records snapshot_record }
  | _ => throw .InvalidEnvelope

end Decoder

/-! ### Messages -/

variable (ciborium : Ciborium)

def encode_family_message (family : String) (kind : UInt64) (payload : Budgeted Cbor) : Result (List UInt8) := do
  let ((), encoder) ← (Encoder.family family).run Encoder.new
  let (payload, _) ← payload.run encoder
  encode_cbor_value ciborium (.Array [.Text family, integer SCHEMA_V1, integer kind, payload])

def decode_family_message (bytes : List UInt8) (family : String) (expected_kind : UInt64) : Result Cbor := do
  let decoded ← read_cbor_value ciborium MAX_ENCODED_BYTES bytes
  let .Array [name, schema, kind, payload] := decoded | throw .InvalidEnvelope
  refuse ((← text name) ≠ family) .InvalidEnvelope
  refuse ((← unsigned schema) ≠ SCHEMA_V1) .InvalidEnvelope
  refuse ((← unsigned kind) ≠ expected_kind) .InvalidEnvelope
  return payload

def require_typed_canonical (input encoded : List UInt8) : Result Unit :=
  refuse (input ≠ encoded) .NonCanonical

def encode_message (kind : UInt64) (payload : Budgeted Cbor) : Result (List UInt8) :=
  encode_family_message ciborium V1_NAME kind payload

def decode_message (bytes : List UInt8) (expected_kind : UInt64) : Result Cbor :=
  decode_family_message ciborium bytes V1_NAME expected_kind

/-- The four decoders: the payload of the expected kind, its grammar, and the
comparison with the bytes of the decoded message. -/
def decode_typed {α : Type} (kind : UInt64) (decode : Cbor → Result α) (encode : α → Result (List UInt8))
    (bytes : List UInt8) : Result α := do
  let payload ← decode_message ciborium bytes kind
  let message ← decode payload
  require_typed_canonical bytes (← encode message)
  return message

def encode_push_request (request : PushRequest CanonicalValue) : Result (List UInt8) :=
  encode_message ciborium PUSH_REQUEST (Encoder.push_request request)

def decode_push_request : List UInt8 → Result (PushRequest CanonicalValue) :=
  decode_typed ciborium PUSH_REQUEST Decoder.push_request (encode_push_request ciborium)

def encode_push_response (response : PushResponse CanonicalValue) : Result (List UInt8) :=
  encode_message ciborium PUSH_RESPONSE (Encoder.push_response response)

def decode_push_response : List UInt8 → Result (PushResponse CanonicalValue) :=
  decode_typed ciborium PUSH_RESPONSE Decoder.push_response (encode_push_response ciborium)

def encode_pull_request (request : PullRequest) : Result (List UInt8) :=
  encode_message ciborium PULL_REQUEST (Encoder.pull_request request)

def decode_pull_request : List UInt8 → Result PullRequest :=
  decode_typed ciborium PULL_REQUEST Decoder.pull_request (encode_pull_request ciborium)

def encode_pull_response (response : PullResponse CanonicalValue) : Result (List UInt8) :=
  encode_message ciborium PULL_RESPONSE (Encoder.pull_response response)

def decode_pull_response : List UInt8 → Result (PullResponse CanonicalValue) :=
  decode_typed ciborium PULL_RESPONSE Decoder.pull_response (encode_pull_response ciborium)

end surrealdb_sync_protocol.http_codec
