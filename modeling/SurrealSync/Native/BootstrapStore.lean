import SurrealSync.Native.Codec
import SurrealSync.Native.Tables
import SurrealSync.Protocol.Bootstrap

open Std Except
open surrealdb_sync_protocol surrealdb_sync_protocol.canonical surrealdb_sync_protocol.bootstrap_codec
open surrealdb_sync_client
open surrealdb_rn_core.sync_state

namespace surrealdb_rn_core.sync_bootstrap_store

def PAGE : String := "_sync_bootstrap_page"

def FINAL_OVERHEAD : Nat := 3 * MAX_SYNC_STATE_BYTES

structure Header where
  format_version : Int
  cancelled : Bool
  incarnation : String
  start : Bytes
  manifest : Bytes
  consumed_receipt : Option Bytes
  consumed_revision : Option String
deriving DecidableEq

structure PageRow where
  format_version : Int
  partition_id : String
  client_id : String
  index : String
  payload : Bytes
deriving DecidableEq

/-- The two tables of the stages, and whether the schema has them. -/
structure StageTables where
  defined : Bool
  headers : BTreeMap (List String) Header
  pages : BTreeMap (List String) PageRow

structure Stage where
  header : Header
  manifest : BootstrapManifest
  pages : BTreeMap UInt64 Bytes

structure InspectedStage where
  current_budget : Nat × Nat
  stage : Option Stage

/-- What the store is built on. -/
structure Store (F V C : Type) where
  serde : Serde F V
  native : NativeRecords V C
  codec : sync_codec.Codec V
  canonical_to_json : CanonicalValue → Option V
  /-- Serde's derive for a tuple of texts. -/
  identity : serde_json.Derive F (String × String × String)
  /-- The page that a projected record makes, in the table of the pages. -/
  page_row : C → Option PageRow
  /-- `bytes::len(<bytes>encoding::json::encode(text))`. -/
  json_len : String → Nat
  /-- The same for an array of texts. -/
  json_array_len : List String → Nat

/-- The `n`-th check of the clock during one completion, against an expiry. -/
abbrev CompletionClock := Nat → UInt64 → SyncResult Unit

variable {F V C : Type} (store : Store F V C)

/-- An error of the protocol codec, which is not told apart. -/
def corrupt {ε α : Type} (result : Except ε α) : SyncResult α :=
  result.mapError fun _ => .CorruptState

def header_id (key : SyncStateKey) : List String := [key.partition_id.val, key.client_id.val]

def page_id (key : SyncStateKey) (index : UInt64) : List String :=
  [key.partition_id.val, key.client_id.val, index.to_string]

def BootstrapContext.key (context : BootstrapContext) : SyncStateKey := ⟨context.partition_id, context.client_id⟩

/-! ### Checks -/

def parse_fence (raw : String) : SyncResult UInt64 := parse_revision raw

def same_owner (a b : BootstrapContext) : Prop :=
  a.authority_id = b.authority_id ∧ a.principal_id = b.principal_id ∧ a.partition_id = b.partition_id ∧
    a.client_id = b.client_id ∧ a.journal_generation = b.journal_generation ∧ a.scope.identity = b.scope.identity ∧
    a.scope.subscription_revision = b.scope.subscription_revision

instance (a b : BootstrapContext) : Decidable (same_owner a b) :=
  inferInstanceAs (Decidable (_ ∧ _ ∧ _ ∧ _ ∧ _ ∧ _ ∧ _))

def admit_context (previous incoming : BootstrapContext) (terminal : Bool) : SyncResult Unit :=
  refuse (¬ same_owner previous incoming
    ∨ incoming.scope.authorization_revision < previous.scope.authorization_revision
    ∨ (¬ terminal ∧ previous ≠ incoming)) .RevisionConflict

def validate_header (start : Bytes) (manifest : BootstrapManifest) (expected : BootstrapContext) : SyncResult Unit := do
  let start ← corrupt (decode_bootstrap_start store.codec.ciborium start)
  corrupt (validate_bootstrap_manifest_context store.codec.ciborium store.codec.sha256 manifest start expected)

def validate_page (manifest : BootstrapManifest) (page : BootstrapPage) : SyncResult Unit := do
  refuse (page.session_id ≠ manifest.session_id) SyncStateError.CorruptState
  let digest ← corrupt (bootstrap_manifest_digest store.codec.ciborium store.codec.sha256 manifest)
  refuse (page.manifest_digest ≠ digest ∨ page.index ≥ manifest.page_count) SyncStateError.CorruptState

def check_barrier (db : Database C StageTables) (key : SyncStateKey) : SyncResult Unit :=
  refuse (db.barriers[record_id key]?.isSome) .RevisionConflict

/-! ### Budgets -/

/-- The state of a snapshot record with a native value. -/
def native_state : RecordState CanonicalValue → SyncResult (RecordState V)
  | .Present value version reference => do
    let value ← okOr (store.canonical_to_json value) SyncStateError.CorruptState
    return .Present value version reference
  | .Tombstone version => .ok (.Tombstone version)
  | .Absent => .error .CorruptState

/-- The checks of a record that will be projected. -/
def admit_value : RecordState CanonicalValue → SyncResult Unit
  | .Present value _ _ =>
    match value.tree with
    | .Object _ => do
      let value ← okOr (store.canonical_to_json value) SyncStateError.CorruptState
      let _ ← store.native.content value
    | _ => .error .RecordValueMustBeObject
  | .Tombstone _ | .Absent => .ok ()

/-- What one record of a page reserves: its tagged payload and its key. -/
def record_reservation (record : SnapshotRecord CanonicalValue) : SyncResult Nat := do
  let native_id ← native_record_id store.native record.record_id
  refuse (native_id.1.startsWith "_sync_") SyncStateError.UnsupportedRecordId
  admit_value store record.state
  let state ← native_state store record.state
  let payload ← encode_tagged store.serde.text store.serde.record_state state
  let key ← encode_tagged store.serde.text store.serde.record_id record.record_id
  return payload.length + key.length

def page_reservation (page : BootstrapPage) : SyncResult Nat :=
  page.records.foldlM (fun sum record => do return sum + (← record_reservation store record)) 0

/-- The accumulators of `check_budget`. -/
structure Reserved where
  bytes : Nat
  count : Nat
  records : Nat
  ids : List RecordId
  last_id : Option RecordId

/-- The loop over the records of a page in `check_budget`. -/
def reserve_ids (reserved : Reserved) (record : SnapshotRecord CanonicalValue) : SyncResult Reserved := do
  refuse (record.record_id ∈ reserved.ids ∨ reserved.last_id.any fun last => (compare last record.record_id).isGE)
    SyncStateError.CorruptState
  return { reserved with ids := reserved.ids ++ [record.record_id], last_id := some record.record_id }

/-- The framing of the key of a page. -/
def page_key_bytes (key : SyncStateKey) (index : UInt64) : SyncResult Nat := do
  let identity ← encode_tagged store.serde.text store.identity
    (key.partition_id.val, key.client_id.val, index.to_string)
  return identity.length * 2 + 128

/-- One iteration of the loop over the pages in `check_budget`. -/
def reserve_page (key : SyncStateKey) (manifest : BootstrapManifest) (reserved : Reserved) (entry : UInt64 × Bytes) :
    SyncResult Reserved := do
  let page ← corrupt (decode_bootstrap_page store.codec.ciborium entry.2)
  validate_page store manifest page
  refuse (page.index ≠ entry.1) SyncStateError.CorruptState
  let reserved ← page.records.foldlM reserve_ids reserved
  let key_bytes ← page_key_bytes store key entry.1
  let reservation ← page_reservation store page
  return { reserved with
    bytes := reserved.bytes + entry.2.length + reservation + key_bytes
    count := reserved.count + page.records.length + 1
    records := reserved.records + page.records.length }

/-- Lengths are natural numbers here; the checked sums of the source can only fail beyond the limit they are
compared with. -/
def check_budget (key : SyncStateKey) (current : Nat × Nat) (stage : Stage) : SyncResult Unit := do
  if stage.header.cancelled then do
    refuse (¬ stage.pages.isEmpty) SyncStateError.CorruptState
    check_inactive_budget current
  else do
    let reserved ← stage.pages.toList.foldlM (reserve_page store key stage.manifest) {
      bytes := current.1 * 2 + FINAL_OVERHEAD + (stage.header.start.length + stage.header.manifest.length)
      count := current.2 * 2 + 4
      records := 0
      ids := []
      last_id := none }
    let fence ← encode_tagged store.serde.text store.identity
      (key.partition_id.val, key.client_id.val, (UInt64.ofNat (2 ^ 64 - 1)).to_string)
    refuse (reserved.bytes + fence.length > MAX_AGGREGATE_STATE_BYTES ∨ reserved.count > MAX_COMPONENT_ITEMS
      ∨ reserved.records > stage.manifest.record_count.toNat) SyncStateError.StateTooLarge

def state_budget (state : DurableClientState V) : SyncResult (Nat × Nat) := do
  return normalized_budget (← normalize_state store.serde state)

def final_budget (key : SyncStateKey) (current next : DurableClientState V) (stage : Stage) (receipt : Bytes) :
    SyncResult Unit := do
  let current ← state_budget store current
  let next ← state_budget store next
  let header := stage.header.start.length + stage.header.manifest.length + receipt.length
  refuse (header > MAX_SYNC_STATE_BYTES) SyncStateError.StateTooLarge
  let framed ← stage.pages.toList.foldlM (fun (total : Nat × Nat) entry => do
      let key_bytes ← (page_key_bytes store key entry.1).mapError fun _ => SyncStateError.StateTooLarge
      return (total.1 + entry.2.length + key_bytes, total.2 + 1))
    (current.1 + next.1 + FINAL_OVERHEAD + header, current.2 + next.2 + 4)
  refuse (framed.1 > MAX_AGGREGATE_STATE_BYTES ∨ framed.2 > MAX_COMPONENT_ITEMS) SyncStateError.StateTooLarge

/-! ### Inspection -/

/-- The lengths of one row, as `preflight_inspection` selects them. -/
structure InspectionLengths where
  payload_bytes : Nat
  partition_bytes : Nat
  client_bytes : Nat
  key_bytes : Nat

/-- `total` is the aggregate of the bytes and the count of the components. -/
def inspection_length_budget (row : InspectionLengths) (component : Bool) (total : Nat × Nat) :
    SyncResult (Nat × Nat) := do
  refuse (row.payload_bytes > MAX_SYNC_STATE_BYTES ∨ row.partition_bytes > 6 * MAX_IDENTITY_BYTES + 2
    ∨ row.client_bytes > 6 * MAX_IDENTITY_BYTES + 2 ∨ row.key_bytes > 6 * MAX_COMPONENT_KEY_BYTES + 2)
    SyncStateError.StateTooLarge
  let total := (total.1 + row.payload_bytes, total.2 + component.toNat)
  refuse (total.1 > MAX_AGGREGATE_STATE_BYTES ∨ total.2 > MAX_COMPONENT_ITEMS) SyncStateError.StateTooLarge
  return total

def meta_lengths (row : StoredMetaRow) : InspectionLengths :=
  ⟨row.payload.length, store.json_len row.partition_id, store.json_len row.client_id, 0⟩

def state_lengths (row : StoredRecord) : InspectionLengths :=
  ⟨row.payload.length, store.json_len row.partition_id, store.json_len row.client_id, store.json_len row.revision⟩

def component_lengths (row : StoredComponentRow) : InspectionLengths :=
  ⟨row.payload.length, store.json_len row.partition_id, store.json_len row.client_id, store.json_len row.component_key⟩

/-- The tables of the journal are all defined. -/
def preflight_inspection (db : Database C StageTables) (key : SyncStateKey) : SyncResult (Nat × Nat) := do
  let total ← db.metas[record_id key]?.toList.foldlM
    (fun total row => inspection_length_budget (meta_lengths store row) false total) (0, 0)
  forM db.states[record_id key]?.toList fun row => do
    refuse (store.json_len row.revision > 6 * 20 + 2) SyncStateError.StateTooLarge
    let _ ← inspection_length_budget (state_lengths store row) false (0, 0)
  let total ← ComponentTable.all.foldlM (fun total table => (db.select store.native table key).foldlM
    (fun total row => inspection_length_budget (component_lengths store row) true total) total) total
  forM db.barriers[record_id key]?.toList fun barrier =>
    refuse (store.json_len barrier.reason > 6 * 32 + 2
      ∨ store.json_len barrier.required_scope > 6 * MAX_IDENTITY_BYTES + 2
      ∨ store.json_len barrier.required_subscription_revision > 6 * 20 + 2
      ∨ store.json_len barrier.required_authorization_revision > 6 * 20 + 2) SyncStateError.StateTooLarge
  return (total.1, total.2 + 1)

/-- The lengths of one row of a stage. -/
structure Lengths where
  bytes : Nat
  key_bytes : Nat
  canonical : Bool

/-- `bytes::len` of a column that may be missing. -/
def optional_length (value : Option Bytes) : Nat := (value.map List.length).getD 0

def header_lengths (header : Header) : Lengths where
  bytes := header.start.length + header.manifest.length + optional_length header.consumed_receipt
  key_bytes := header.incarnation.utf8ByteSize + (header.consumed_revision.map String.utf8ByteSize).getD 0
  canonical := header.format_version = 1 ∧ ((header.consumed_receipt = none ∧ header.consumed_revision = none)
    ∨ (header.consumed_receipt.isSome ∧ header.consumed_revision.isSome ∧ header.cancelled))

/-- `SELECT * FROM _sync_bootstrap_page WHERE partition_id = $partition AND client_id = $client LIMIT 16385`, with
the ids of the rows. A projected record has no structured one. -/
def select_pages (db : Database C StageTables) (key : SyncStateKey) : List (Option (List String) × PageRow) :=
  let rows := db.stages.pages.toList.map (fun entry => (some entry.1, entry.2))
    ++ ((db.projected PAGE).filterMap store.page_row).map (fun row => (none, row))
  (rows.filter fun row => row.2.partition_id = key.partition_id.val ∧ row.2.client_id = key.client_id.val).take 16385

def page_lengths (row : Option (List String) × PageRow) : Lengths where
  bytes := row.2.payload.length
  key_bytes := store.json_array_len [row.2.partition_id, row.2.client_id, row.2.index]
  canonical := row.2.format_version = 1 ∧ row.1 = some [row.2.partition_id, row.2.client_id, row.2.index]

/-- One iteration of the loop over the lengths. -/
def admit_lengths (aggregate : Nat) (row : Lengths) : SyncResult Nat := do
  refuse (¬ row.canonical) SyncStateError.CorruptState
  refuse (row.bytes > MAX_SYNC_STATE_BYTES ∨ row.key_bytes > 12 * 512 + 128) SyncStateError.StateTooLarge
  return aggregate + row.bytes + row.key_bytes

/-- One iteration of the loop over the rows of the pages, which were selected by partition and client. -/
def admit_page (pages : BTreeMap UInt64 Bytes) (row : PageRow) : SyncResult (BTreeMap UInt64 Bytes) := do
  let index ← parse_fence row.index
  refuse (index ∈ pages) SyncStateError.CorruptState
  return pages.insert index row.payload

/-- The checks of a header against the fence. -/
def admit_header (db : Database C StageTables) (key : SyncStateKey) (header : Header) : SyncResult Unit := do
  refuse (header.consumed_receipt.isSome ≠ header.consumed_revision.isSome) SyncStateError.CorruptState
  match header.consumed_revision with
  | some revision => do
    refuse ((← parse_fence revision) = 0) SyncStateError.CorruptState
    refuse (¬ header.cancelled) SyncStateError.CorruptState
  | none => .ok ()
  let incarnation ← parse_fence header.incarnation
  let fence ← okOr (← read_fence db key) SyncStateError.CorruptState
  let (counter, active) ← parse_metadata_fence fence
  refuse (header.cancelled = active ∨ incarnation > counter) SyncStateError.CorruptState

/-- The checks of a header on its own. -/
def admit_manifest (key : SyncStateKey) (header : Header) (has_pages : Bool) : SyncResult BootstrapManifest := do
  let manifest ← corrupt (decode_bootstrap_manifest store.codec.ciborium header.manifest)
  validate_header store header.start manifest manifest.context
  match header.consumed_receipt with
  | some bytes => do
    let receipt ← corrupt (decode_bootstrap_receipt store.codec.ciborium bytes)
    corrupt (validate_bootstrap_receipt store.codec.ciborium store.codec.sha256 manifest receipt)
  | none => .ok ()
  refuse (manifest.context.partition_id ≠ key.partition_id ∨ manifest.context.client_id ≠ key.client_id
    ∨ (header.cancelled ∧ has_pages)) SyncStateError.CorruptState
  return manifest

def inspect_stage (db : Database C StageTables) (key : SyncStateKey) : SyncResult InspectedStage := do
  refuse (¬ db.stages.defined) SyncStateError.CorruptState
  let header := db.stages.headers[header_id key]?
  let pages := select_pages store db key
  let current ← preflight_inspection store db key
  let aggregate ← (header.toList.map header_lengths ++ pages.map (page_lengths store)).foldlM admit_lengths 0
  refuse (aggregate + current.1 > MAX_AGGREGATE_STATE_BYTES
    ∨ pages.length + header.toList.length + current.2 > MAX_COMPONENT_ITEMS) SyncStateError.StateTooLarge
  match header with
  | none => do
    refuse (pages ≠ []) SyncStateError.CorruptState
    return ⟨current, none⟩
  | some header => do
    admit_header db key header
    let manifest ← admit_manifest store key header (pages ≠ [])
    let pages ← (pages.map Prod.snd).foldlM admit_page ∅
    return ⟨current, some ⟨header, manifest, pages⟩⟩

/-- The journal with its stages, as the rest of the store reads them. -/
def Store.platform : Platform F V C StageTables where
  serde := store.serde
  native := store.native
  load_stage db key := do
    let inspected ← inspect_stage store db key
    return inspected.stage.map fun stage =>
      { cancelled := stage.header.cancelled, check_budget := fun budget => check_budget store key budget stage }

variable [DecidableEq V]

/-- `transaction_state_after_preflight`. -/
def current_state (db : Database C StageTables) (key : SyncStateKey) : SyncResult (DurableClientState V) := do
  okOr (← load_v2 store.platform db key) SyncStateError.CorruptState

/-! ### Operations, each inside its transaction -/

/-- Room for a stage, when there is none yet. -/
def check_new_stage (inspection : InspectedStage) (incoming : Nat) : SyncResult Unit :=
  match inspection.stage with
  | none =>
    refuse (inspection.current_budget.1 * 2 + FINAL_OVERHEAD + incoming > MAX_AGGREGATE_STATE_BYTES
      ∨ inspection.current_budget.2 * 2 + 4 > MAX_COMPONENT_ITEMS) .StateTooLarge
  | some _ => .ok ()

/-- What `begin` does with the stage it finds: the incarnation of the same stage, or nothing when a new one may
replace it. -/
def admit_existing (key : SyncStateKey) (state : DurableClientState V) (start manifest : Bytes)
    (expected : BootstrapContext) (existing : Stage) : SyncResult (Option UInt64) := do
  admit_context existing.manifest.context expected existing.header.cancelled
  validate_header store existing.header.start existing.manifest existing.manifest.context
  check_budget store key (← state_budget store state) existing
  if existing.header.cancelled then do
    refuse (existing.header.manifest = manifest) SyncStateError.RevisionConflict
    return none
  else do
    validate_header store existing.header.start existing.manifest expected
    refuse (¬ (existing.header.start = start ∧ existing.header.manifest = manifest)) SyncStateError.RevisionConflict
    return some (← parse_fence existing.header.incarnation)

/-- A new stage, and the fence that makes it the active one. -/
def create_stage (key : SyncStateKey) (state : DurableClientState V) (start manifest : Bytes)
    (decoded : BootstrapManifest) (db : Database C StageTables) : SyncResult (UInt64 × Database C StageTables) := do
  let next ← next_fence (← read_fence db key)
  let (incarnation, _) ← parse_metadata_fence next
  let header : Header := {
    format_version := 1
    cancelled := false
    incarnation := incarnation.to_string
    start
    manifest
    consumed_receipt := none
    consumed_revision := none }
  check_budget store key (← state_budget store state) ⟨header, decoded, ∅⟩
  let db := { db with stages := { db.stages with headers := db.stages.headers.insert (header_id key) header } }
  return (incarnation, write_fence db key (incarnation.to_string ++ ":a"))

/-- `fence_first_barrier` creates the row of a barrier and deletes it again, and so leaves nothing behind. -/
def begin_in_transaction (key : SyncStateKey) (start manifest : Bytes) (decoded : BootstrapManifest)
    (expected : BootstrapContext) (db : Database C StageTables) : SyncResult (UInt64 × Database C StageTables) := do
  let inspection ← inspect_stage store db key
  check_new_stage inspection (start.length + manifest.length)
  let state ← current_state store db key
  check_barrier db key
  let _ ← read_fence db key
  refuse (state.requested_scope ≠ expected.scope.identity
    ∨ state.subscription_revision ≠ expected.scope.subscription_revision) SyncStateError.CorruptState
  refuse (state.checkpoint.any fun checkpoint =>
    expected.scope.authorization_revision < checkpoint.scope.authorization_revision) SyncStateError.RevisionConflict
  match inspection.stage with
  | none => create_stage store key state start manifest decoded db
  | some existing => do
    match ← admit_existing store key state start manifest expected existing with
    | some incarnation => return (incarnation, db)
    | none => create_stage store key state start manifest decoded db

/-- The schema of the stages is part of the transaction. -/
def begin (start manifest : Bytes) (expected : BootstrapContext) (db : Database C StageTables) :
    SyncResult (UInt64 × Database C StageTables) := do
  let key := BootstrapContext.key expected
  validate_key key
  let decoded ← corrupt (decode_bootstrap_manifest store.codec.ciborium manifest)
  validate_header store start decoded expected
  refuse (start.length + manifest.length > MAX_SYNC_STATE_BYTES) SyncStateError.StateTooLarge
  begin_in_transaction store key start manifest decoded expected
    { db with stages := { db.stages with defined := true } }

def stage_page (raw : Bytes) (expected : BootstrapContext) (incarnation : UInt64) (db : Database C StageTables) :
    SyncResult (Unit × Database C StageTables) := do
  let key := BootstrapContext.key expected
  validate_key key
  let page ← corrupt (decode_bootstrap_page store.codec.ciborium raw)
  let _ ← page_reservation store page
  let fence ← okOr (← read_fence db key) SyncStateError.CorruptState
  let inspection ← inspect_stage store db key
  let stage ← okOr inspection.stage SyncStateError.CorruptState
  validate_header store stage.header.start stage.manifest expected
  refuse ((← parse_fence stage.header.incarnation) ≠ incarnation) SyncStateError.RevisionConflict
  refuse stage.header.cancelled SyncStateError.RevisionConflict
  check_barrier db key
  validate_page store stage.manifest page
  match stage.pages[page.index]? with
  | some old => do
    refuse (old ≠ raw) SyncStateError.RevisionConflict
    return ((), db)
  | none => do
    let state ← current_state store db key
    check_budget store key (← state_budget store state) { stage with pages := stage.pages.insert page.index raw }
    let row : PageRow := {
      format_version := 1
      partition_id := key.partition_id.val
      client_id := key.client_id.val
      index := page.index.to_string
      payload := raw }
    let db := { db with stages := { db.stages with pages := db.stages.pages.insert (page_id key page.index) row } }
    return ((), write_fence db key (← next_fence (some fence)))

inductive Completion (V : Type) where
  | Applied (next : DurableClientState V)
  | HistoricalSuccess

/-- One iteration of the loop over the pages: the checks made so far, the verifier and the records. -/
def collect_page (clock : CompletionClock) (expires_at : UInt64)
    (state : Nat × BootstrapVerifier × List (SnapshotRecord V)) (raw : Bytes) :
    SyncResult (Nat × BootstrapVerifier × List (SnapshotRecord V)) := do
  clock state.1 expires_at
  let page ← corrupt (decode_bootstrap_page store.codec.ciborium raw)
  let (pushed, verifier) := state.2.1.push store.codec.ciborium store.codec.sha256 page
  corrupt pushed
  let _ ← page_reservation store page
  let records ← page.records.mapM fun record => do return ⟨record.record_id, ← native_state store record.state⟩
  return (state.1 + 1, verifier, state.2.2 ++ records)

def delete_pages (key : SyncStateKey) (stage : Stage) (pages : BTreeMap (List String) PageRow) :
    BTreeMap (List String) PageRow :=
  stage.pages.keys.foldl (fun pages index => pages.erase (page_id key index)) pages

/-- The next state, verified from the pages of a stage. -/
def prepare_completion (clock : CompletionClock) (receipt : BootstrapReceipt) (stage : Stage)
    (current : DurableClientState V) : SyncResult (Nat × DurableClientState V) := do
  let verifier ← corrupt (BootstrapVerifier.new store.codec.ciborium store.codec.sha256 stage.manifest)
  let (checks, verifier, records) ← stage.pages.vals.foldlM (collect_page store clock stage.manifest.expires_at)
    (1, verifier, [])
  let _ ← corrupt (verifier.finish store.codec.sha256)
  clock checks stage.manifest.expires_at
  let runtime ← (ClientRuntime.open current).mapError SyncStateError.InvalidState
  let prepared ← (runtime.prepare_bootstrap_snapshot receipt.checkpoint records).mapError SyncStateError.InvalidState
  return (checks + 1, prepared.state)

/-- A consumed stage answers its own receipt again. -/
def repeat_completion (key : SyncStateKey) (header : Header) (consumed receipt_bytes : Bytes)
    (db : Database C StageTables) : SyncResult (Completion V × Database C StageTables) := do
  refuse (consumed ≠ receipt_bytes) SyncStateError.RevisionConflict
  let current ← current_state store db key
  let revision ← okOr header.consumed_revision SyncStateError.CorruptState
  refuse (current.revision < (← parse_fence revision)) SyncStateError.CorruptState
  return (.HistoricalSuccess, db)

/-- The row that the database returns for the marker is the one that it was given. -/
def apply_completion (clock : CompletionClock) (key : SyncStateKey) (receipt_bytes : Bytes) (stage : Stage) (checks : Nat)
    (current next : DurableClientState V) (db : Database C StageTables) :
    SyncResult (Completion V × Database C StageTables) := do
  let rows ← prepare_state_write store.platform (some current.revision) next
  let (_, db) ← apply_transition_in_transaction store.platform current next rows db
  let marker := { stage.header with
    cancelled := true
    consumed_receipt := some receipt_bytes
    consumed_revision := some next.revision.to_string }
  let db := { db with stages := { db.stages with
    pages := delete_pages key stage db.stages.pages
    headers := db.stages.headers.insert (header_id key) marker } }
  let fence ← next_fence (← read_fence db key)
  let (counter, _) ← parse_metadata_fence fence
  let db := write_fence db key (counter.to_string ++ ":i")
  clock checks stage.manifest.expires_at
  return (.Applied next, db)

def complete_in_transaction (receipt_bytes : Bytes) (receipt : BootstrapReceipt) (expected : BootstrapContext)
    (incarnation : UInt64) (clock : CompletionClock) (db : Database C StageTables) :
    SyncResult (Completion V × Database C StageTables) := do
  let key := BootstrapContext.key expected
  let inspection ← inspect_stage store db key
  let stage ← okOr inspection.stage SyncStateError.CorruptState
  validate_header store stage.header.start stage.manifest expected
  refuse ((← parse_fence stage.header.incarnation) ≠ incarnation) SyncStateError.RevisionConflict
  corrupt (validate_bootstrap_receipt store.codec.ciborium store.codec.sha256 stage.manifest receipt)
  match stage.header.consumed_receipt with
  | some consumed => repeat_completion store key stage.header consumed receipt_bytes db
  | none => do
    refuse stage.header.cancelled SyncStateError.RevisionConflict
    check_barrier db key
    clock 0 stage.manifest.expires_at
    let current ← current_state store db key
    check_budget store key (← state_budget store current) stage
    let (checks, next) ← prepare_completion store clock receipt stage current
    let _ ← corrupt (sync_codec.validate_state_codec store.codec next)
    final_budget store key current next stage receipt_bytes
    apply_completion store clock key receipt_bytes stage checks current next db

def complete (receipt_bytes : Bytes) (expected : BootstrapContext) (incarnation : UInt64) (clock : CompletionClock)
    (db : Database C StageTables) : SyncResult (Completion V × Database C StageTables) := do
  validate_key (BootstrapContext.key expected)
  refuse (receipt_bytes.length > MAX_SYNC_STATE_BYTES) SyncStateError.StateTooLarge
  let receipt ← corrupt (decode_bootstrap_receipt store.codec.ciborium receipt_bytes)
  complete_in_transaction store receipt_bytes receipt expected incarnation clock db

/-- The writes of a cancellation. -/
def close_stage (key : SyncStateKey) (stage : Stage) (fence : String) (db : Database C StageTables) :
    SyncResult (Database C StageTables) := do
  let db := { db with stages := { db.stages with
    pages := delete_pages key stage db.stages.pages
    headers := db.stages.headers.insert (header_id key) { stage.header with cancelled := true } } }
  let (counter, _) ← parse_metadata_fence (← next_fence (some fence))
  return write_fence db key (counter.to_string ++ ":i")

def cancel (manifest : Bytes) (expected : BootstrapContext) (incarnation : UInt64) (db : Database C StageTables) :
    SyncResult (Unit × Database C StageTables) := do
  let key := BootstrapContext.key expected
  validate_key key
  match ← read_fence db key with
  | none => return ((), db)
  | some fence =>
    match (← inspect_stage store db key).stage with
    | none => return ((), db)
    | some stage => do
      validate_header store stage.header.start stage.manifest expected
      refuse ((← parse_fence stage.header.incarnation) ≠ incarnation) SyncStateError.RevisionConflict
      refuse (stage.header.manifest ≠ manifest) SyncStateError.RevisionConflict
      if stage.header.consumed_receipt.isSome then return ((), db)
      else return ((), ← close_stage key stage fence db)

def guard_barrier_write (key : SyncStateKey) (db : Database C StageTables) : SyncResult (Database C StageTables) := do
  match ← read_fence db key with
  | none => .ok db
  | some fence => do
    let inspection ← inspect_stage store db key
    let stage ← okOr inspection.stage SyncStateError.CorruptState
    let budget ← state_budget store (← current_state store db key)
    let (_, active) ← parse_metadata_fence fence
    if active then check_budget store key budget stage
    else do
      refuse (¬ stage.header.cancelled) SyncStateError.CorruptState
      check_inactive_budget budget
    return write_fence db key (← next_fence (some fence))

/-- The text of a number, without a sign and leading zeros. -/
def canonical_revision (text : String) : Bool := (UInt64.from_str text).any fun value => value.to_string = text

def validate_scope_barrier (barrier : ScopeBarrier) : SyncResult Unit :=
  refuse (¬ (barrier.reason = "pending_quarantine_required" ∨ barrier.reason = "needs_new_scope_journal")
    ∨ barrier.required_scope.utf8ByteSize > MAX_IDENTITY_BYTES
    ∨ ¬ canonical_revision barrier.required_subscription_revision
    ∨ ¬ canonical_revision barrier.required_authorization_revision) .CorruptState

/-- The reason of a barrier is never weakened. -/
def merge_barrier (old : Option ScopeBarrier) (barrier : ScopeBarrier) : ScopeBarrier :=
  let quarantine := old.any (·.reason = "pending_quarantine_required") ∨ barrier.reason = "pending_quarantine_required"
  { barrier with reason := if quarantine then "pending_quarantine_required" else "needs_new_scope_journal" }

def save_scope_barrier (key : SyncStateKey) (barrier : ScopeBarrier) (db : Database C StageTables) :
    SyncResult (Unit × Database C StageTables) := do
  validate_key key
  validate_scope_barrier barrier
  let db ← guard_barrier_write store key db
  return ((), { db with
    barriers := db.barriers.insert (record_id key) (merge_barrier db.barriers[record_id key]? barrier) })

end surrealdb_rn_core.sync_bootstrap_store
