import SurrealSync.Basic.Machine
import SurrealSync.Protocol.HttpCodec

open Except

namespace surrealdb_sync_protocol

def BOOTSTRAP_NAME : String := "surrealdb-sync-bootstrap/1"

def MAX_BOOTSTRAP_RECORDS : UInt64 := 16384

def MAX_BOOTSTRAP_PAGES : UInt64 := 16384

def MAX_BOOTSTRAP_CONTENT_BYTES : UInt64 := 67108864

/-- The output of SHA-256. -/
@[ext]
structure BootstrapDigest where
  bytes : List UInt8
  length : bytes.length = 32
deriving DecidableEq

structure BootstrapStartRequest where
  partition_id : PartitionId
  client_id : ClientId
  request_id : String
  requested_scope : ScopeIdentity
  subscription_revision : UInt64
  journal_generation : String
deriving DecidableEq

structure BootstrapContext where
  authority_id : String
  principal_id : String
  partition_id : PartitionId
  client_id : ClientId
  journal_generation : String
  scope : ScopeSnapshot
deriving DecidableEq

structure BootstrapLimits where
  max_records : UInt64
  max_pages : UInt64
  max_content_bytes : UInt64
deriving DecidableEq

structure BootstrapManifest where
  session_id : String
  start_request_id : String
  start_fingerprint : BootstrapDigest
  context : BootstrapContext
  cursor : Cursor
  limits : BootstrapLimits
  page_count : UInt64
  record_count : UInt64
  content_bytes : UInt64
  root : BootstrapDigest
  expires_at : UInt64
deriving DecidableEq

structure BootstrapPageRequest where
  partition_id : PartitionId
  client_id : ClientId
  session_id : String
  index : UInt64
deriving DecidableEq

structure BootstrapPage where
  session_id : String
  manifest_digest : BootstrapDigest
  index : UInt64
  records : List (SnapshotRecord canonical.CanonicalValue)

structure BootstrapCompleteRequest where
  partition_id : PartitionId
  client_id : ClientId
  session_id : String
  manifest_digest : BootstrapDigest
deriving DecidableEq

structure BootstrapReceipt where
  session_id : String
  manifest_digest : BootstrapDigest
  checkpoint : Checkpoint
  expires_at : UInt64
deriving DecidableEq

structure BootstrapContentSummary where
  page_count : UInt64
  record_count : UInt64
  content_bytes : UInt64
  root : BootstrapDigest
deriving DecidableEq

end surrealdb_sync_protocol

namespace surrealdb_sync_protocol.bootstrap_codec

open canonical http_codec

/-! ### Checks -/

def bounded_index (index : UInt64) : Result Unit :=
  refuse (¬ index < MAX_BOOTSTRAP_PAGES) .ContainerLimit

def valid_limits (l : BootstrapLimits) : Prop :=
  0 < l.max_records ∧ l.max_records ≤ MAX_BOOTSTRAP_RECORDS ∧ 0 < l.max_pages ∧ l.max_pages ≤ MAX_BOOTSTRAP_PAGES ∧
    0 < l.max_content_bytes ∧ l.max_content_bytes ≤ MAX_BOOTSTRAP_CONTENT_BYTES

instance (l : BootstrapLimits) : Decidable (valid_limits l) :=
  inferInstanceAs (Decidable (_ ∧ _ ∧ _ ∧ _ ∧ _ ∧ _))

def valid_manifest (m : BootstrapManifest) : Result Unit := do
  refuse (¬ valid_limits m.limits ∨ m.page_count > m.limits.max_pages ∨ m.record_count > m.limits.max_records ∨
    m.content_bytes > m.limits.max_content_bytes) CodecError.ContainerLimit
  refuse ((m.page_count = 0 ∧ (m.record_count ≠ 0 ∨ m.content_bytes ≠ 0)) ∨
    (m.page_count > 0 ∧ (m.record_count < m.page_count ∨ m.content_bytes = 0))) CodecError.InvalidEnvelope

/-- The states that a snapshot record may have: `Present` or `Tombstone` with a positive version. -/
def has_version : RecordState CanonicalValue → Bool
  | .Absent => false
  | .Present _ version _ => version ≠ 0
  | .Tombstone version => version ≠ 0

/-- The loop of `validate_records`, from the identity of the previous record on. -/
def validate_records_from (previous : Option RecordId) :
    List (SnapshotRecord CanonicalValue) → Result Unit
  | [] => .ok ()
  | record :: records => do
    refuse (previous.any fun id => (compare id record.record_id).isGE) .InvalidEnvelope
    refuse (has_version record.state = false) .InvalidEnvelope
    validate_records_from (some record.record_id) records

def validate_records (records : List (SnapshotRecord CanonicalValue)) : Result Unit := do
  refuse (records = [] ∨ records.length > MAX_CONTAINER_ITEMS) .ContainerLimit
  validate_records_from none records

def preflight_page (p : BootstrapPage) : Result Unit := do
  bounded_index p.index
  validate_records p.records
  let ((), e) ← (Encoder.family BOOTSTRAP_NAME).run Encoder.new
  let pass : Budgeted Unit := do
    Encoder.item 5
    Encoder.preflight_identity p.session_id
    Encoder.preflight_digest
    Encoder.preflight_snapshot_records p.records 5
  pass.run' e

/-! ### Payloads -/

namespace encode_payload

def scope (s : ScopeSnapshot) : Budgeted Cbor := do
  Encoder.item 3
  let identity ← Encoder.identity_text s.identity.val
  return .Array [identity, integer s.authorization_revision, integer s.subscription_revision]

def context (c : BootstrapContext) : Budgeted Cbor := do
  Encoder.item 7
  let authority_id ← Encoder.identity_text c.authority_id
  let principal_id ← Encoder.identity_text c.principal_id
  let partition_id ← Encoder.identity_text c.partition_id.val
  let client_id ← Encoder.identity_text c.client_id.val
  let journal_generation ← Encoder.identity_text c.journal_generation
  let scope ← scope c.scope
  return .Array [authority_id, principal_id, partition_id, client_id, journal_generation, scope]

def start (r : BootstrapStartRequest) : Budgeted Cbor := do
  Encoder.item 7
  let partition_id ← Encoder.identity_text r.partition_id.val
  let client_id ← Encoder.identity_text r.client_id.val
  let request_id ← Encoder.identity_text r.request_id
  let requested_scope ← Encoder.identity_text r.requested_scope.val
  let journal_generation ← Encoder.identity_text r.journal_generation
  return .Array [partition_id, client_id, request_id, requested_scope, integer r.subscription_revision,
    journal_generation]

def manifest (m : BootstrapManifest) : Budgeted Cbor := do
  Encoder.item 12
  let c ← context m.context
  let session_id ← Encoder.identity_text m.session_id
  let start_request_id ← Encoder.identity_text m.start_request_id
  let start_fingerprint ← Encoder.digest m.start_fingerprint.bytes
  let root ← Encoder.digest m.root.bytes
  return .Array [session_id, start_request_id, start_fingerprint, c,
    .Array [integer m.cursor.epoch, integer m.cursor.sequence],
    .Array [integer m.limits.max_records, integer m.limits.max_pages, integer m.limits.max_content_bytes],
    integer m.page_count, integer m.record_count, integer m.content_bytes, root, integer m.expires_at]

def page_request (r : BootstrapPageRequest) : Budgeted Cbor := do
  Encoder.item 5
  let partition_id ← Encoder.identity_text r.partition_id.val
  let client_id ← Encoder.identity_text r.client_id.val
  let session_id ← Encoder.identity_text r.session_id
  return .Array [partition_id, client_id, session_id, integer r.index]

def page (p : BootstrapPage) : Budgeted Cbor := do
  Encoder.item 5
  let id ← Encoder.identity_text p.session_id
  let hash ← Encoder.digest p.manifest_digest.bytes
  Encoder.vec p.records.length
  let records ← p.records.mapM Encoder.snapshot_record
  return .Array [id, hash, integer p.index, .Array records]

def complete (r : BootstrapCompleteRequest) : Budgeted Cbor := do
  Encoder.item 5
  let partition_id ← Encoder.identity_text r.partition_id.val
  let client_id ← Encoder.identity_text r.client_id.val
  let session_id ← Encoder.identity_text r.session_id
  let manifest_digest ← Encoder.digest r.manifest_digest.bytes
  return .Array [partition_id, client_id, session_id, manifest_digest]

def receipt (r : BootstrapReceipt) : Budgeted Cbor := do
  Encoder.item 5
  let session_id ← Encoder.identity_text r.session_id
  let manifest_digest ← Encoder.digest r.manifest_digest.bytes
  let checkpoint ← Encoder.checkpoint r.checkpoint
  return .Array [session_id, manifest_digest, checkpoint, integer r.expires_at]

end encode_payload

def decoded_digest : Cbor → Result BootstrapDigest
  | .Bytes bytes => if h : bytes.length = 32 then .ok ⟨bytes, h⟩ else .error .InvalidEnvelope
  | _ => .error .InvalidEnvelope

def decode_scope : Cbor → Result ScopeSnapshot
  | .Array [id, auth, sub] => do return ⟨⟨← identity id⟩, ← unsigned auth, ← unsigned sub⟩
  | _ => .error .InvalidEnvelope

def decode_context : Cbor → Result BootstrapContext
  | .Array [a, p, partition, client, g, s] => do
    return {
      authority_id := ← identity a
      principal_id := ← identity p
      partition_id := ⟨← identity partition⟩
      client_id := ⟨← identity client⟩
      journal_generation := ← identity g
      scope := ← decode_scope s }
  | _ => .error .InvalidEnvelope

/-! ### The grammar of the six payloads -/

namespace decode_payload

def start : Cbor → Result BootstrapStartRequest
  | .Array [p, c, id, s, rev, g] => do
    return {
      partition_id := ⟨← identity p⟩
      client_id := ⟨← identity c⟩
      request_id := ← identity id
      requested_scope := ⟨← identity s⟩
      subscription_revision := ← unsigned rev
      journal_generation := ← identity g }
  | _ => .error .InvalidEnvelope

def manifest : Cbor → Result BootstrapManifest
  | .Array [id, start, fp, ctx, .Array [epoch, sequence], .Array [max_records, max_pages, max_content_bytes], pages,
      records, size, root, expiry] => do
    return {
      session_id := ← identity id
      start_request_id := ← identity start
      start_fingerprint := ← decoded_digest fp
      context := ← decode_context ctx
      cursor := ⟨← unsigned epoch, ← unsigned sequence⟩
      limits := ⟨← unsigned max_records, ← unsigned max_pages, ← unsigned max_content_bytes⟩
      page_count := ← unsigned pages
      record_count := ← unsigned records
      content_bytes := ← unsigned size
      root := ← decoded_digest root
      expires_at := ← unsigned expiry }
  | _ => .error .InvalidEnvelope

def page_request : Cbor → Result BootstrapPageRequest
  | .Array [p, c, s, i] => do return ⟨⟨← identity p⟩, ⟨← identity c⟩, ← identity s, ← unsigned i⟩
  | _ => .error .InvalidEnvelope

def page : Cbor → Result BootstrapPage
  | .Array [id, hash, index, records] => do
    let records ← vec_decode records Decoder.snapshot_record
    return ⟨← identity id, ← decoded_digest hash, ← unsigned index, records⟩
  | _ => .error .InvalidEnvelope

def complete : Cbor → Result BootstrapCompleteRequest
  | .Array [p, c, s, h] => do return ⟨⟨← identity p⟩, ⟨← identity c⟩, ← identity s, ← decoded_digest h⟩
  | _ => .error .InvalidEnvelope

def receipt : Cbor → Result BootstrapReceipt
  | .Array [s, h, c, t] => do return ⟨← identity s, ← decoded_digest h, ← decode_checkpoint c, ← unsigned t⟩
  | _ => .error .InvalidEnvelope

end decode_payload

/-! ### Messages -/

variable (ciborium : Ciborium)

def encode_message (kind : UInt64) (payload : Budgeted Cbor) : Result (List UInt8) := do
  let bytes ← encode_family_message ciborium BOOTSTRAP_NAME kind payload
  preflight_canonical_cbor bytes
  return bytes

def canonical (input encoded : List UInt8) : Result Unit :=
  refuse (input ≠ encoded) .NonCanonical

/-- The six decoders: the payload of the kind, its grammar, and the comparison with the
bytes of the decoded message. -/
def decode_typed {α : Type} (kind : UInt64) (decode : Cbor → Result α) (encode : α → Result (List UInt8))
    (bytes : List UInt8) : Result α := do
  let payload ← decode_family_message ciborium bytes BOOTSTRAP_NAME kind
  let message ← decode payload
  canonical bytes (← encode message)
  return message

def encode_bootstrap_start (r : BootstrapStartRequest) : Result (List UInt8) :=
  encode_message ciborium 0 (encode_payload.start r)

def decode_bootstrap_start : List UInt8 → Result BootstrapStartRequest :=
  decode_typed ciborium 0 decode_payload.start (encode_bootstrap_start ciborium)

def encode_bootstrap_manifest (m : BootstrapManifest) : Result (List UInt8) := do
  valid_manifest m
  encode_message ciborium 1 (encode_payload.manifest m)

def decode_bootstrap_manifest : List UInt8 → Result BootstrapManifest :=
  decode_typed ciborium 1 decode_payload.manifest (encode_bootstrap_manifest ciborium)

def encode_bootstrap_page_request (r : BootstrapPageRequest) : Result (List UInt8) := do
  bounded_index r.index
  encode_message ciborium 2 (encode_payload.page_request r)

def decode_bootstrap_page_request : List UInt8 → Result BootstrapPageRequest :=
  decode_typed ciborium 2 decode_payload.page_request (encode_bootstrap_page_request ciborium)

def encode_bootstrap_page (p : BootstrapPage) : Result (List UInt8) := do
  preflight_page p
  encode_message ciborium 3 (encode_payload.page p)

def decode_bootstrap_page : List UInt8 → Result BootstrapPage :=
  decode_typed ciborium 3 decode_payload.page (encode_bootstrap_page ciborium)

def encode_bootstrap_complete (r : BootstrapCompleteRequest) : Result (List UInt8) :=
  encode_message ciborium 4 (encode_payload.complete r)

def decode_bootstrap_complete : List UInt8 → Result BootstrapCompleteRequest :=
  decode_typed ciborium 4 decode_payload.complete (encode_bootstrap_complete ciborium)

def encode_bootstrap_receipt (r : BootstrapReceipt) : Result (List UInt8) :=
  encode_message ciborium 5 (encode_payload.receipt r)

def decode_bootstrap_receipt : List UInt8 → Result BootstrapReceipt :=
  decode_typed ciborium 5 decode_payload.receipt (encode_bootstrap_receipt ciborium)

/-! ### Digests -/

def START_DOMAIN : List UInt8 := "surrealdb-sync-bootstrap/1/start/sha256".as_bytes

def PAGE_DOMAIN : List UInt8 := "surrealdb-sync-bootstrap/1/page-content/sha256".as_bytes

def ROOT_DOMAIN : List UInt8 := "surrealdb-sync-bootstrap/1/ordered-root/sha256".as_bytes

def MANIFEST_DOMAIN : List UInt8 := "surrealdb-sync-bootstrap/1/manifest/sha256".as_bytes

/-- What `frame` feeds to the hasher: eight bytes of length and the bytes. -/
def frame (bytes : List UInt8) : List UInt8 := Cbor.bigEndian 8 bytes.length ++ bytes

/-- `u64::to_be_bytes`. -/
def to_be_bytes (value : UInt64) : List UInt8 := Cbor.bigEndian 8 value.toNat

variable (sha256 : List UInt8 → BootstrapDigest)

/-- A hasher is the bytes fed to it so far; `finalize` hashes them all. -/
def digest (domain bytes : List UInt8) : BootstrapDigest := sha256 (frame domain ++ frame bytes)

def bootstrap_start_fingerprint (r : BootstrapStartRequest) : Result BootstrapDigest := do
  return digest sha256 START_DOMAIN (← encode_bootstrap_start ciborium r)

def bootstrap_manifest_digest (m : BootstrapManifest) : Result BootstrapDigest := do
  return digest sha256 MANIFEST_DOMAIN (← encode_bootstrap_manifest ciborium m)

def validate_bootstrap_manifest_context (m : BootstrapManifest) (r : BootstrapStartRequest)
    (expected : BootstrapContext) : Result Unit := do
  let _ ← encode_bootstrap_manifest ciborium m
  let _ ← encode_bootstrap_start ciborium r
  refuse (m.context ≠ expected ∨ m.start_request_id ≠ r.request_id) CodecError.InvalidEnvelope
  let fingerprint ← bootstrap_start_fingerprint ciborium sha256 r
  refuse (m.start_fingerprint ≠ fingerprint ∨ r.partition_id ≠ expected.partition_id ∨
    r.client_id ≠ expected.client_id ∨ r.journal_generation ≠ expected.journal_generation ∨
    r.requested_scope ≠ expected.scope.identity ∨ r.subscription_revision ≠ expected.scope.subscription_revision)
    CodecError.InvalidEnvelope

def validate_bootstrap_receipt (m : BootstrapManifest) (r : BootstrapReceipt) : Result Unit := do
  let _ ← encode_bootstrap_receipt ciborium r
  refuse (r.session_id ≠ m.session_id) CodecError.InvalidEnvelope
  let digest ← bootstrap_manifest_digest ciborium sha256 m
  refuse (r.manifest_digest ≠ digest ∨ r.checkpoint.cursor ≠ m.cursor ∨ r.checkpoint.scope ≠ m.context.scope ∨
    r.expires_at ≠ m.expires_at) CodecError.InvalidEnvelope

/-- The rows that `encode_content` takes from a new encoder. -/
def content_rows (records : List (SnapshotRecord CanonicalValue)) : Budgeted (List Cbor) := do
  Encoder.item 3
  Encoder.vec records.length
  records.mapM Encoder.snapshot_record

def encode_content (index : UInt64) (records : List (SnapshotRecord CanonicalValue)) : Result (List UInt8) := do
  let rows ← (content_rows records).run' Encoder.new
  encode_cbor_value ciborium (.Array [integer index, .Array rows])

def bootstrap_page_content_digest (p : BootstrapPage) : Result BootstrapDigest := do
  let _ ← encode_bootstrap_page ciborium p
  return digest sha256 PAGE_DOMAIN (← encode_content ciborium p.index p.records)

/-! ### Streaming verification -/

structure BootstrapContentHasher where
  session_id : String
  next_index : UInt64
  records : UInt64
  bytes : UInt64
  last_id : Option RecordId
  root : List UInt8

namespace BootstrapContentHasher

def new (session_id : String) : Result BootstrapContentHasher := do
  refuse (session_id = "" ∨ session_id.utf8ByteSize > MAX_IDENTITY_BYTES) .InvalidIdentifier
  return { session_id, next_index := 0, records := 0, bytes := 0, last_id := none, root := frame ROOT_DOMAIN }

/-- The hasher after a page, or the first check that the page fails. The page that
passed its own encoding has a first record. -/
def advance (self : BootstrapContentHasher) (p : BootstrapPage) : Result BootstrapContentHasher := do
  refuse (p.session_id ≠ self.session_id ∨ p.index ≠ self.next_index) .InvalidEnvelope
  let _ ← encode_bootstrap_page ciborium p
  refuse (self.last_id.any fun id => p.records.head?.any fun first => (compare id first.record_id).isGE)
    .InvalidEnvelope
  let content ← encode_content ciborium p.index p.records
  let records ← okOr (self.records.checked_add (UInt64.ofNat p.records.length)) .ContainerLimit
  let bytes ← okOr (self.bytes.checked_add (UInt64.ofNat content.length)) .EncodedLimit
  let next ← okOr (self.next_index.checked_add 1) .ContainerLimit
  refuse (records > MAX_BOOTSTRAP_RECORDS ∨ next > MAX_BOOTSTRAP_PAGES ∨ bytes > MAX_BOOTSTRAP_CONTENT_BYTES)
    .ContainerLimit
  let hash := digest sha256 PAGE_DOMAIN content
  return {
    session_id := self.session_id
    next_index := next
    records := records
    bytes := bytes
    last_id := p.records.getLast?.map SnapshotRecord.record_id
    root := self.root ++ frame (to_be_bytes p.index) ++ frame hash.bytes }

/-- Every check comes before the first assignment. -/
def push (self : BootstrapContentHasher) (p : BootstrapPage) : Result Unit × BootstrapContentHasher :=
  match self.advance ciborium sha256 p with
  | .ok next => (.ok (), next)
  | .error e => (.error e, self)

def summary (self : BootstrapContentHasher) : BootstrapContentSummary where
  page_count := self.next_index
  record_count := self.records
  content_bytes := self.bytes
  root := sha256 self.root

end BootstrapContentHasher

structure BootstrapVerifier where
  manifest : BootstrapManifest
  manifest_digest : BootstrapDigest
  content : BootstrapContentHasher

namespace BootstrapVerifier

def new (manifest : BootstrapManifest) : Result BootstrapVerifier := do
  let manifest_digest ← bootstrap_manifest_digest ciborium sha256 manifest
  let content ← BootstrapContentHasher.new manifest.session_id
  return { manifest, manifest_digest, content }

def push (self : BootstrapVerifier) (page : BootstrapPage) : Result Unit × BootstrapVerifier :=
  if page.manifest_digest ≠ self.manifest_digest then (.error .InvalidEnvelope, self)
  else
    match self.content.push ciborium sha256 page with
    | (.error e, _) => (.error e, self)
    | (.ok (), candidate) =>
      let s := candidate.summary sha256
      if s.page_count > self.manifest.page_count ∨ s.record_count > self.manifest.record_count ∨
          s.content_bytes > self.manifest.content_bytes then (.error .InvalidEnvelope, self)
      else (.ok (), { self with content := candidate })

def finish (self : BootstrapVerifier) : Result BootstrapContentSummary := do
  let s := self.content.summary sha256
  refuse (s.page_count ≠ self.manifest.page_count ∨ s.record_count ≠ self.manifest.record_count ∨
    s.content_bytes ≠ self.manifest.content_bytes ∨ s.root ≠ self.manifest.root) .InvalidEnvelope
  return s

end BootstrapVerifier

end surrealdb_sync_protocol.bootstrap_codec
