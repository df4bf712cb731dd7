import SurrealSync.Client.Read
import SurrealSync.Native.Rows

open Std Except
open surrealdb_sync_protocol surrealdb_sync_protocol.subscription surrealdb_sync_client

namespace surrealdb_rn_core.sync_state

structure StoredComponentRow where
  format_version : Int
  partition_id : String
  client_id : String
  component_key : String
  payload : Bytes
deriving DecidableEq

/-- A row of the first format, or the sentinel that its migration leaves. -/
structure StoredRecord where
  format_version : Int
  partition_id : String
  client_id : String
  revision : String
  payload : Bytes
deriving DecidableEq

structure ScopeBarrier where
  reason : String
  required_scope : String
  required_subscription_revision : String
  required_authorization_revision : String
deriving DecidableEq

/-- The tables of the database. The rows of the journals lie under structured ids, lists of
strings; the projected records lie under simple ids, by table and key, whatever the table.
`C` is the content of a record and `S` the tables of the bootstrap stages. -/
structure Database (C S : Type) where
  metas : BTreeMap (List String) StoredMetaRow
  states : BTreeMap (List String) StoredRecord
  barriers : BTreeMap (List String) ScopeBarrier
  components : ComponentTable → BTreeMap (List String) StoredComponentRow
  records : BTreeMap (List String) C
  stages : S

/-- What a write of the journal reads of a bootstrap stage. -/
structure Stage where
  cancelled : Bool
  check_budget : Nat × Nat → SyncResult Unit

/-- The native record ids and values of the database. -/
structure NativeRecords (V C : Type) where
  /-- `NativeRecordId::parse_simple`: the table and the key. -/
  parse_simple : String → Option (String × String)
  /-- `from_wire_value`, for a value that must be an object. -/
  content : V → SyncResult C
  /-- Whether the schema of a table takes this content. -/
  schema : String → C → Bool
  /-- The row of a component that a content makes, in the tables whose schema asks for one. -/
  component_row : C → Option StoredComponentRow

/-- What the store is built on: the JSON library, the records of the database and the bootstrap stages. -/
structure Platform (F V C S : Type) where
  serde : Serde F V
  native : NativeRecords V C
  load_stage : Database C S → SyncStateKey → SyncResult (Option Stage)

def record_id (key : SyncStateKey) : List String := [key.partition_id.val, key.client_id.val]

def component_record_id (key : SyncStateKey) (item : String) : List String :=
  [key.partition_id.val, key.client_id.val, item]

variable {F V C S : Type} (native : NativeRecords V C)

/-! ### Loading -/

/-- The records that lie in this table, under simple ids. -/
def Database.projected (db : Database C S) (table : String) : List C :=
  (db.records.toList.filter fun entry => entry.1.head? = some table).map Prod.snd

/-- `SELECT * FROM table WHERE partition_id = $partition_id AND client_id = $client_id LIMIT 16385`. -/
def Database.select (db : Database C S) (table : ComponentTable) (key : SyncStateKey) : List StoredComponentRow :=
  let rows := (db.components table).vals ++ (db.projected table.name).filterMap native.component_row
  (rows.filter fun row => row.partition_id = key.partition_id.val ∧ row.client_id = key.client_id.val).take 16385

/-- One iteration of the inner loop of `load_inventory`. -/
def admit_row (key : SyncStateKey) (table : ComponentTable) (inventory : Inventory) (row : StoredComponentRow) :
    SyncResult Inventory := do
  refuse (¬ (row.format_version = FORMAT_VERSION ∨ row.format_version = SUBSCRIPTION_FORMAT_VERSION)
    ∨ row.partition_id ≠ key.partition_id.val ∨ row.client_id ≠ key.client_id.val
    ∨ row.payload.length > MAX_SYNC_STATE_BYTES) SyncStateError.CorruptState
  validate_component_key row.component_key
  refuse (row.component_key ∈ inventory table) SyncStateError.CorruptState
  let inventory := inventory.insert table row.component_key row.payload
  refuse (inventory.len > MAX_COMPONENT_ITEMS) SyncStateError.StateTooLarge
  return inventory

def load_table (db : Database C S) (key : SyncStateKey) (inventory : Inventory) (table : ComponentTable) :
    SyncResult Inventory := do
  let rows := db.select native table key
  refuse (rows.length > MAX_COMPONENT_ITEMS) SyncStateError.StateTooLarge
  rows.foldlM (admit_row key table) inventory

def load_inventory (db : Database C S) (key : SyncStateKey) : SyncResult Inventory :=
  ComponentTable.all.foldlM (load_table native db key) .empty

variable [DecidableEq V] (platform : Platform F V C S)

def load_v2 (db : Database C S) (key : SyncStateKey) : SyncResult (Option (DurableClientState V)) := do
  let inventory ← load_inventory platform.native db key
  match db.metas[record_id key]? with
  | none => if inventory.is_empty then .ok none else .error .CorruptState
  | some row => do
    let state_meta ← read_meta platform.serde key row inventory
    return some (← restore platform.serde state_meta inventory)

def decode_record (key : SyncStateKey) (stored : StoredRecord) : SyncResult (DurableClientState V) := do
  refuse (stored.format_version ≠ LEGACY_FORMAT_VERSION ∨ stored.partition_id ≠ key.partition_id.val
    ∨ stored.client_id ≠ key.client_id.val) SyncStateError.CorruptState
  refuse (stored.payload.length > MAX_SYNC_STATE_BYTES) SyncStateError.StateTooLarge
  let revision ← parse_revision stored.revision
  let state ← okOr (platform.serde.state_from_slice stored.payload) SyncStateError.Decode
  refuse (state.partition_id ≠ key.partition_id ∨ state.client_id ≠ key.client_id ∨ state.revision ≠ revision)
    SyncStateError.CorruptState
  match state.validate with
  | .ok () => .ok state
  | .error invalid => .error (.InvalidState invalid)

/-! ### The fence of a bootstrap stage -/

def parse_metadata_fence (raw : String) : SyncResult (UInt64 × Bool) :=
  match raw.toList.span (· ≠ ':') with
  | (counter, [':', 'a']) => do return (← parse_revision (String.ofList counter), true)
  | (counter, [':', 'i']) => do return (← parse_revision (String.ofList counter), false)
  | _ => .error .CorruptState

def next_fence (raw : Option String) : SyncResult String := do
  let (counter, active) ← match raw with
    | some raw => parse_metadata_fence raw
    | none => .ok (0, true)
  let next ← okOr (counter.checked_add 1) SyncStateError.StateTooLarge
  return next.to_string ++ (if active then ":a" else ":i")

def check_inactive_budget (budget : Nat × Nat) : SyncResult Unit :=
  refuse (budget.1 + (MAX_SYNC_STATE_BYTES + 65536) > MAX_AGGREGATE_STATE_BYTES ∨ budget.2 + 4 > MAX_COMPONENT_ITEMS)
    .StateTooLarge

def read_fence (db : Database C S) (key : SyncStateKey) : SyncResult (Option String) :=
  match db.metas[record_id key]?.bind (·.bootstrap_fence) with
  | none => .ok none
  | some fence => do
    let fence := String.ofList (fence.toList.take 24)
    let _ ← parse_metadata_fence fence
    return some fence

/-- `UPDATE $id SET bootstrap_fence = $fence`. -/
def write_fence (db : Database C S) (key : SyncStateKey) (fence : String) : Database C S :=
  match db.metas[record_id key]? with
  | some row => { db with metas := db.metas.insert (record_id key) { row with bootstrap_fence := some fence } }
  | none => db

def guard_state_write (db : Database C S) (key : SyncStateKey) (budget : Nat × Nat) : SyncResult (Option String) := do
  match ← read_fence db key with
  | none => .ok none
  | some fence => do
    let (_, active) ← parse_metadata_fence fence
    let stage ← okOr (← platform.load_stage db key) SyncStateError.CorruptState
    if active then do
      refuse stage.cancelled SyncStateError.CorruptState
      stage.check_budget budget
    else do
      refuse (¬ stage.cancelled) SyncStateError.CorruptState
      check_inactive_budget budget
    return some (← next_fence (some fence))

/-! ### Writing -/

inductive SyncStateWrite where
  | Applied
  | AlreadyCurrent
deriving DecidableEq

/-- The components of the current rows, when there are any. -/
def current_components : Option NormalizedRows → Inventory
  | some rows => rows.components
  | none => .empty

/-- The keys of one table that the next rows no longer have. -/
def stale_keys (current next : Inventory) (table : ComponentTable) : List String :=
  (current table).keys.filter fun item => item ∉ next table

/-- The components of one table that differ from the current ones. -/
def changed_entries (current next : Inventory) (table : ComponentTable) : List (String × Bytes) :=
  (next table).toList.filter fun entry => (current table)[entry.1]? ≠ some entry.2

def delete_rows (key : SyncStateKey) (items : List String) (rows : BTreeMap (List String) StoredComponentRow) :
    BTreeMap (List String) StoredComponentRow :=
  items.foldl (fun rows item => rows.erase (component_record_id key item)) rows

def upsert_rows (key : SyncStateKey) (format_version : Int) (entries : List (String × Bytes))
    (rows : BTreeMap (List String) StoredComponentRow) : BTreeMap (List String) StoredComponentRow :=
  entries.foldl (fun rows entry => rows.insert (component_record_id key entry.1) {
    format_version
    partition_id := key.partition_id.val
    client_id := key.client_id.val
    component_key := entry.1
    payload := entry.2 }) rows

def write_row_diff (key : SyncStateKey) (current : Option NormalizedRows) (next : NormalizedRows) (db : Database C S) :
    SyncResult (Database C S) := do
  let bootstrap_fence ← guard_state_write platform db key (normalized_budget next)
  let current := current_components current
  let db := { db with
    components := fun table => upsert_rows key next.format_version (changed_entries current next.components table)
      (delete_rows key (stale_keys current next.components table) (db.components table))
    metas := db.metas.insert (record_id key) {
      format_version := next.format_version
      partition_id := key.partition_id.val
      client_id := key.client_id.val
      payload := next.meta_bytes
      bootstrap_fence := none } }
  match bootstrap_fence with
  | some fence => .ok (write_fence db key fence)
  | none => .ok db

/-- The decision of `replace_v2_in_transaction` between the stored state and the one to write: whether
rows have to be written. -/
def admit_replacement (expected_revision : Option UInt64) (current : Option (DurableClientState V))
    (state : DurableClientState V) : SyncResult SyncStateWrite :=
  match current with
  | some current =>
    if current.revision = state.revision then
      if current = state then .ok .AlreadyCurrent else .error .RevisionConflict
    else if some current.revision ≠ expected_revision then .error .RevisionConflict
    -- a normal save must never erase the durable cancellation and authorization barriers
    else if current.subscriptions.isSome ∧ state.subscriptions.isNone then .error .CorruptState
    else .ok .Applied
  | none => if expected_revision.isSome then .error .RevisionConflict else .ok .Applied

def replace_v2_in_transaction (key : SyncStateKey) (expected_revision : Option UInt64)
    (expected_state : Option (DurableClientState V)) (state : DurableClientState V) (rows : NormalizedRows)
    (db : Database C S) : SyncResult (SyncStateWrite × Database C S) := do
  let current ← load_v2 platform db key
  refuse (expected_state.isSome ∧ current ≠ expected_state) SyncStateError.RevisionConflict
  match ← admit_replacement expected_revision current state with
  | .AlreadyCurrent => .ok (.AlreadyCurrent, db)
  | .Applied => do
    let current_rows ← current.mapM (normalize_state platform.serde)
    let db ← write_row_diff platform key current_rows rows db
    return (.Applied, db)

def prepare_state_write (expected_revision : Option UInt64) (state : DurableClientState V) :
    SyncResult NormalizedRows := do
  validate_key (.of state)
  validate_next_revision expected_revision state.revision
  match state.validate with
  | .ok () => normalize_state platform.serde state
  | .error invalid => .error (.InvalidState invalid)

/-! ### The projected records -/

def JOURNAL_TABLES : List String :=
  ["_sync_client_state", "_sync_client_meta", ComponentTable.Confirmed.name, ComponentTable.Outbox.name,
    ComponentTable.Outcome.name, ComponentTable.IdMap.name, ComponentTable.SubscriptionRecord.name,
    "_sync_client_scope_barrier"]

def native_record_id (record_id : RecordId) : SyncResult (String × String) := do
  refuse (record_id.val.utf8ByteSize > MAX_RECORD_ID_BYTES) SyncStateError.UnsupportedRecordId
  let native_id ← okOr (native.parse_simple record_id.val) SyncStateError.UnsupportedRecordId
  refuse (native_id.1 ∈ ["_sync_client_state", "_sync_client_meta", ComponentTable.Confirmed.name,
    ComponentTable.Outbox.name, ComponentTable.Outcome.name, ComponentTable.IdMap.name])
    SyncStateError.UnsupportedRecordId
  return native_id

/-- A statement of `apply_projection_diff`. -/
inductive Write (C : Type) where
  | upsert (native_id : String × String) (content : C)
  | delete (native_id : String × String)

def Write.native_id : Write C → String × String
  | .upsert native_id _ => native_id
  | .delete native_id => native_id

/-- The database refuses an upsert that the schema of its table does not allow. -/
def Write.perform (write : Write C) (db : Database C S) : SyncResult (Database C S) :=
  match write with
  | .upsert native_id content => do
    refuse (¬ native.schema native_id.1 content) SyncStateError.Database
    return { db with records := db.records.insert [native_id.1, native_id.2] content }
  | .delete native_id => .ok { db with records := db.records.erase [native_id.1, native_id.2] }

abbrev Projection (V : Type) := BTreeMap RecordId (OptimisticRecord V)

/-- The statement for one record of `apply_projection_diff`, if it needs one. -/
def projection_write (current next : Projection V) (record_id : RecordId) : SyncResult (Option (Write C)) :=
  if current[record_id]? = next[record_id]? then .ok none
  else do
    let native_id ← native_record_id native record_id
    match next[record_id]? with
    | some (.Present value _ _) => do
      let content ← native.content value
      return some (.upsert native_id content)
    | some (.Deleted _) => .ok (some (.delete native_id))
    | none => .ok (some (.delete native_id))

/-- One iteration of `apply_projection_diff`. -/
def apply_projection_record (current next : Projection V) (db : Database C S) (record_id : RecordId) :
    SyncResult (Database C S) := do
  match ← projection_write native current next record_id with
  | some write => write.perform native db
  | none => .ok db

def projected_ids (current next : Projection V) : List RecordId :=
  (ExtTreeSet.ofList (current.keys ++ next.keys) compare).toList

def apply_projection_diff (current next : Projection V) (db : Database C S) : SyncResult (Database C S) :=
  (projected_ids current next).foldlM (apply_projection_record native current next) db

/-! ### Transactions -/

/-- Why an operation ends before its transaction can commit. -/
inductive Interruption where
  | Statement
  | Handle
  | SessionChanged
deriving DecidableEq

def Interruption.error : Interruption → SyncStateError
  | .Statement => .Database
  | .Handle => .Core
  | .SessionChanged => .RevisionConflict

/-- What the database does with an operation and its transaction. -/
inductive Outcome where
  | Settled
  | Interrupted (cause : Interruption)
  | CommitUnknown (applied : Bool)
  | RollbackFailed
deriving DecidableEq

/-- `finish_transaction`: a transaction is atomic, so a failed one leaves no write, and one whose
commit is not acknowledged leaves all of them or none. -/
def finish {α : Type} (outcome : Outcome) (db : Database C S) (operation : SyncResult (α × Database C S)) :
    SyncResult α × Database C S :=
  match outcome, operation with
  | .Settled, .ok (value, next) => (.ok value, next)
  | .Settled, .error operation => (.error operation, db)
  | .Interrupted cause, _ => (.error cause.error, db)
  | .CommitUnknown applied, .ok (_, next) => (.error .CommitUnknown, if applied then next else db)
  | .CommitUnknown _, .error operation => (.error operation, db)
  | .RollbackFailed, .ok _ => (.error (.RollbackFailed .Database), db)
  | .RollbackFailed, .error operation => (.error (.RollbackFailed operation), db)

def MIGRATED_SENTINEL : Bytes := "migrated-to-v2".toUTF8.data.toList

/-- The transaction of `migrate_v1`. -/
def migrate_v1 (key : SyncStateKey) (state : DurableClientState V) (rows : NormalizedRows) (db : Database C S) :
    SyncResult (SyncStateWrite × Database C S) := do
  match ← load_v2 platform db key with
  | some existing => if existing = state then .ok (.AlreadyCurrent, db) else .error .RevisionConflict
  | none => do
    let legacy ← okOr db.states[record_id key]? SyncStateError.RevisionConflict
    let decoded ← decode_record platform key legacy
    refuse (decoded ≠ state) SyncStateError.RevisionConflict
    let db ← write_row_diff platform key none rows db
    let db ← apply_projection_diff platform.native ∅ (optimistic_projection state) db
    return (.Applied, { db with states := db.states.insert (record_id key) {
      format_version := FORMAT_VERSION
      partition_id := key.partition_id.val
      client_id := key.client_id.val
      revision := state.revision.to_string
      payload := MIGRATED_SENTINEL } })

/-- The part of `load` after a row of the first format is found. -/
def load_legacy (outcome : Outcome) (key : SyncStateKey) (stored : StoredRecord) (db : Database C S) :
    SyncResult (Option (DurableClientState V)) × Database C S :=
  if stored.format_version = FORMAT_VERSION then (.error .CorruptState, db)
  else match decode_record platform key stored with
    | .error corrupt => (.error corrupt, db)
    | .ok state =>
      match normalize_state platform.serde state with
      | .error large => (.error large, db)
      | .ok rows =>
        let (migrated, db) := finish outcome db (migrate_v1 platform key state rows db)
        (migrated.map fun _ => some state, db)

def load (outcome : Outcome) (key : SyncStateKey) (db : Database C S) :
    SyncResult (Option (DurableClientState V)) × Database C S :=
  match outcome with
  | .Interrupted cause => (.error cause.error, db)
  | outcome =>
    match validate_key key, load_v2 platform db key with
    | .error large, _ => (.error large, db)
    | .ok (), .error corrupt => (.error corrupt, db)
    | .ok (), .ok (some state) => (.ok (some state), db)
    | .ok (), .ok none =>
      match db.states[record_id key]? with
      | none => (.ok none, db)
      | some stored => load_legacy platform outcome key stored db

/-- The two outcomes are those of the migration inside `load` and of the write itself. -/
def save_atomic (migration outcome : Outcome) (expected_revision : Option UInt64) (state : DurableClientState V)
    (db : Database C S) : SyncResult SyncStateWrite × Database C S :=
  match prepare_state_write platform expected_revision state with
  | .error refused => (.error refused, db)
  | .ok rows =>
    match load platform migration (.of state) db with
    | (.error failed, db) => (.error failed, db)
    | (.ok _, db) =>
      finish outcome db (replace_v2_in_transaction platform (.of state) expected_revision none state rows db)

/-- The transaction of `apply_transition_atomic`, and of a bootstrap completion. -/
def apply_transition_in_transaction (current next : DurableClientState V) (rows : NormalizedRows) (db : Database C S) :
    SyncResult (SyncStateWrite × Database C S) := do
  let (disposition, db) ← replace_v2_in_transaction platform (.of next) (some current.revision) (some current) next rows
    db
  match disposition with
  | .Applied => do
    let db ← apply_projection_diff platform.native (optimistic_projection current) (optimistic_projection next) db
    return (.Applied, db)
  | .AlreadyCurrent => .ok (.AlreadyCurrent, db)

def apply_transition_atomic (outcome : Outcome) (current next : DurableClientState V) (db : Database C S) :
    SyncResult SyncStateWrite × Database C S :=
  if current.partition_id ≠ next.partition_id ∨ current.client_id ≠ next.client_id then (.error .CorruptState, db)
  else match current.validate with
    | .error invalid => (.error (.InvalidState invalid), db)
    | .ok () =>
      if current = next then
        match load platform outcome (.of current) db with
        | (.error failed, db) => (.error failed, db)
        | (.ok stored, db) => (if stored = some current then .ok .AlreadyCurrent else .error .RevisionConflict, db)
      else match prepare_state_write platform (some current.revision) next with
        | .error refused => (.error refused, db)
        | .ok rows => finish outcome db (apply_transition_in_transaction platform current next rows db)

end surrealdb_rn_core.sync_state
