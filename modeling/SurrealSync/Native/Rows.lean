import Mathlib.Logic.Function.Basic
import SurrealSync.Basic.Machine
import SurrealSync.Client.Validate
import SurrealSync.Native.TaggedJson

open Std Except
open surrealdb_sync_protocol surrealdb_sync_protocol.subscription surrealdb_sync_client

namespace surrealdb_rn_core.sync_state

def LEGACY_FORMAT_VERSION : Int := 1

def FORMAT_VERSION : Int := 2

def SUBSCRIPTION_FORMAT_VERSION : Int := 3

def MAX_IDENTITY_BYTES : Nat := 512

def MAX_RECORD_ID_BYTES : Nat := 1024

def MAX_COMPONENT_KEY_BYTES : Nat := 1024

def MAX_COMPONENT_ITEMS : Nat := 16384

def MAX_AGGREGATE_STATE_BYTES : Nat := 64 * 1024 * 1024

structure SyncStateKey where
  partition_id : PartitionId
  client_id : ClientId
deriving DecidableEq

def SyncStateKey.of {V : Type} (state : DurableClientState V) : SyncStateKey :=
  ⟨state.partition_id, state.client_id⟩

def validate_key (key : SyncStateKey) : SyncResult Unit :=
  refuse (key.partition_id.val.utf8ByteSize > MAX_IDENTITY_BYTES
    ∨ key.client_id.val.utf8ByteSize > MAX_IDENTITY_BYTES) .IdentityTooLarge

def validate_component_key (value : String) : SyncResult Unit :=
  refuse (value = "" ∨ value.utf8ByteSize > MAX_COMPONENT_KEY_BYTES) .IdentityTooLarge

def validate_next_revision (expected_revision : Option UInt64) (revision : UInt64) : SyncResult Unit := do
  let expected_next ← match expected_revision with
    | some expected => okOr (expected.checked_add 1) SyncStateError.RevisionMismatch
    | none => .ok 0
  refuse (revision ≠ expected_next) .RevisionMismatch

def parse_revision (revision : String) : SyncResult UInt64 := do
  let parsed ← okOr (UInt64.from_str revision) SyncStateError.CorruptState
  refuse (parsed.to_string ≠ revision) SyncStateError.CorruptState
  return parsed

/-- `strictly_sorted`: every element is below the next one. -/
def strictly_sorted {K : Type} [Ord K] : List K → Bool
  | first :: second :: rest => compare first second = .lt && strictly_sorted (second :: rest)
  | [_] => true
  | [] => true

/-- The tables of the components, in the order in which they are loaded. -/
inductive ComponentTable where
  | Confirmed
  | Outbox
  | Outcome
  | IdMap
  | SubscriptionRecord
deriving DecidableEq

def ComponentTable.all : List ComponentTable := [.Confirmed, .Outbox, .Outcome, .IdMap, .SubscriptionRecord]

def ComponentTable.name : ComponentTable → String
  | .Confirmed => "_sync_client_confirmed"
  | .Outbox => "_sync_client_outbox"
  | .Outcome => "_sync_client_outcome"
  | .IdMap => "_sync_client_id_map"
  | .SubscriptionRecord => "_sync_client_subscription_record"

/-- The payloads by component address: `BTreeMap<ComponentAddress, Bytes>`, table by table. -/
abbrev Inventory := ComponentTable → BTreeMap String Bytes

namespace Inventory

def empty : Inventory := fun _ => ∅

def insert (inventory : Inventory) (table : ComponentTable) (key : String) (payload : Bytes) : Inventory :=
  Function.update inventory table ((inventory table).insert key payload)

def remove (inventory : Inventory) (table : ComponentTable) (key : String) : Inventory :=
  Function.update inventory table ((inventory table).erase key)

def is_empty (inventory : Inventory) : Bool := ComponentTable.all.all fun table => (inventory table).isEmpty

def len (inventory : Inventory) : Nat := (ComponentTable.all.map fun table => (inventory table).size).sum

def bytes (inventory : Inventory) : Nat :=
  (ComponentTable.all.map fun table => ((inventory table).vals.map List.length).sum).sum

end Inventory

structure StateMeta (V : Type) where
  partition_id : String
  client_id : String
  requested_scope : String
  subscription_revision : String
  revision : String
  checkpoint : Option Checkpoint
  reset_coverage : Option ResetCoverage
  subscriptions : Option (DurableSubscriptions V)
  subscription_record_keys : List String
  confirmed_keys : List RecordId
  outbox_keys : List String
  outcome_keys : List String
  id_map_keys : List RecordId

/-- The JSON library, with what serde derives for each type that is stored. -/
structure Serde (F V : Type) where
  text : JsonText F
  state_meta : serde_json.Derive F (StateMeta V)
  subscription_row : serde_json.Derive F (SubscriptionRow V)
  record_state : serde_json.Derive F (RecordState V)
  commit : serde_json.Derive F (ClientCommit V)
  resolved : serde_json.Derive F (ResolvedCommit V)
  record_id : serde_json.Derive F RecordId
  state_from_slice : Bytes → Option (DurableClientState V)

/-- Serde's derives and the texts of tagged values are inverse. -/
structure Serde.Inverse {F V : Type} (serde : Serde F V) : Prop where
  text : serde.text.Inverse
  state_meta : serde.state_meta.Inverse
  subscription_row : serde.subscription_row.Inverse
  record_state : serde.record_state.Inverse
  commit : serde.commit.Inverse
  resolved : serde.resolved.Inverse
  record_id : serde.record_id.Inverse

structure NormalizedRows where
  format_version : Int
  meta_bytes : Bytes
  components : Inventory

structure StoredMetaRow where
  format_version : Int
  partition_id : String
  client_id : String
  payload : Bytes
  bootstrap_fence : Option String
deriving DecidableEq

variable {F V : Type} (serde : Serde F V)

/-! ### Splitting a state -/

/-- The records of the subscriptions, which are stored apart from the rest of them. -/
def subscription_records (state : DurableClientState V) : BTreeMap String (SubscriptionRow V) :=
  match state.subscriptions with
  | some subscriptions => subscriptions.records
  | none => ∅

def meta_of (state : DurableClientState V) : StateMeta V where
  partition_id := state.partition_id.val
  client_id := state.client_id.val
  requested_scope := state.requested_scope.val
  subscription_revision := state.subscription_revision.to_string
  revision := state.revision.to_string
  checkpoint := state.checkpoint
  reset_coverage := state.reset_coverage
  subscriptions := state.subscriptions.map fun subscriptions => { subscriptions with records := ∅ }
  subscription_record_keys := (subscription_records state).keys
  confirmed_keys := state.confirmed.keys
  outbox_keys := state.outbox.map (·.identity.client_commit_id.val)
  outcome_keys := state.outcomes.map (·.local_commit.identity.client_commit_id.val)
  id_map_keys := state.id_map.keys

def component_count (state : DurableClientState V) : Nat :=
  state.confirmed.size + (subscription_records state).size + state.outbox.length + state.outcomes.length
    + state.id_map.size

def validate_component_keys (state : DurableClientState V) : SyncResult Unit := do
  forM state.confirmed.keys fun record_id => validate_component_key record_id.val
  forM state.outbox fun commit => validate_component_key commit.identity.client_commit_id.val
  forM state.outcomes fun outcome => validate_component_key outcome.local_commit.identity.client_commit_id.val
  forM state.id_map.toList fun (local_id, canonical_id) => do
    validate_component_key local_id.val
    validate_component_key canonical_id.val
  forM (subscription_records state).keys validate_component_key

/-- One of the loops that put encoded components under their keys. -/
def encode_table {T : Type} (derive : serde_json.Derive F T) (entries : List (String × T)) :
    SyncResult (BTreeMap String Bytes) :=
  entries.foldlM (fun rows entry => do
    let payload ← encode_tagged serde.text derive entry.2
    .ok (rows.insert entry.1 payload)) ∅

def confirmed_entries (state : DurableClientState V) : List (String × RecordState V) :=
  state.confirmed.toList.map fun entry => (entry.1.val, entry.2)

def outbox_entries (state : DurableClientState V) : List (String × ClientCommit V) :=
  state.outbox.map fun commit => (commit.identity.client_commit_id.val, commit)

def outcome_entries (state : DurableClientState V) : List (String × ResolvedCommit V) :=
  state.outcomes.map fun outcome => (outcome.local_commit.identity.client_commit_id.val, outcome)

def id_map_entries (state : DurableClientState V) : List (String × RecordId) :=
  state.id_map.toList.map fun entry => (entry.1.val, entry.2)

def encode_components (state : DurableClientState V) : SyncResult Inventory := do
  let subscription_rows ← encode_table serde serde.subscription_row (subscription_records state).toList
  let confirmed ← encode_table serde serde.record_state (confirmed_entries state)
  let outbox ← encode_table serde serde.commit (outbox_entries state)
  let outcomes ← encode_table serde serde.resolved (outcome_entries state)
  let id_map ← encode_table serde serde.record_id (id_map_entries state)
  return fun
    | .Confirmed => confirmed
    | .Outbox => outbox
    | .Outcome => outcomes
    | .IdMap => id_map
    | .SubscriptionRecord => subscription_rows

def normalize_state (state : DurableClientState V) : SyncResult NormalizedRows := do
  refuse (component_count state > MAX_COMPONENT_ITEMS) SyncStateError.StateTooLarge
  validate_component_keys state
  let meta_bytes ← encode_tagged serde.text serde.state_meta (meta_of state)
  let components ← encode_components serde state
  refuse (meta_bytes.length + components.bytes > MAX_AGGREGATE_STATE_BYTES) SyncStateError.StateTooLarge
  return {
    format_version := if state.subscriptions.isSome then SUBSCRIPTION_FORMAT_VERSION else FORMAT_VERSION
    meta_bytes
    components }

def normalized_budget (rows : NormalizedRows) : Nat × Nat :=
  (rows.meta_bytes.length + rows.components.bytes, rows.components.len + 1)

/-! ### Putting it together again -/

def validate_meta_row (key : SyncStateKey) (row : StoredMetaRow) : SyncResult Unit := do
  refuse (row.payload.length > MAX_SYNC_STATE_BYTES) SyncStateError.StateTooLarge
  refuse (¬ (FORMAT_VERSION ≤ row.format_version ∧ row.format_version ≤ SUBSCRIPTION_FORMAT_VERSION)
    ∨ row.partition_id ≠ key.partition_id.val ∨ row.client_id ≠ key.client_id.val) SyncStateError.CorruptState

def meta_count (state_meta : StateMeta V) : Nat :=
  state_meta.confirmed_keys.length + state_meta.subscription_record_keys.length + state_meta.outbox_keys.length
    + state_meta.outcome_keys.length + state_meta.id_map_keys.length

/-- The part of `load_v2` up to the components. -/
def read_meta (key : SyncStateKey) (row : StoredMetaRow) (inventory : Inventory) : SyncResult (StateMeta V) := do
  validate_meta_row key row
  let state_meta ← decode_tagged serde.text serde.state_meta row.payload
  refuse (decide (row.format_version = SUBSCRIPTION_FORMAT_VERSION) ≠ state_meta.subscriptions.isSome)
    SyncStateError.CorruptState
  refuse (state_meta.partition_id ≠ key.partition_id.val ∨ state_meta.client_id ≠ key.client_id.val
    ∨ ¬ strictly_sorted state_meta.confirmed_keys ∨ ¬ strictly_sorted state_meta.subscription_record_keys
    ∨ ¬ strictly_sorted state_meta.id_map_keys) SyncStateError.CorruptState
  refuse (meta_count state_meta > MAX_COMPONENT_ITEMS ∨ row.payload.length + inventory.bytes > MAX_AGGREGATE_STATE_BYTES)
    SyncStateError.StateTooLarge
  return state_meta

/-- One of the loops over the keys of a table: takes each component out of the inventory and reads it. -/
def take_components {T : Type} (table : ComponentTable) (read : String → Bytes → SyncResult T) :
    List String → Inventory → SyncResult (List T × Inventory)
  | [], inventory => .ok ([], inventory)
  | key :: keys, inventory => do
    let bytes ← okOr (inventory table)[key]? SyncStateError.CorruptState
    let value ← read key bytes
    let (values, inventory) ← take_components table read keys (inventory.remove table key)
    .ok (value :: values, inventory)

def read_commit (key : String) (bytes : Bytes) : SyncResult (ClientCommit V) := do
  let commit ← decode_tagged serde.text serde.commit bytes
  refuse (commit.identity.client_commit_id.val ≠ key) SyncStateError.CorruptState
  return commit

def read_outcome (key : String) (bytes : Bytes) : SyncResult (ResolvedCommit V) := do
  let outcome ← decode_tagged serde.text serde.resolved bytes
  refuse (outcome.local_commit.identity.client_commit_id.val ≠ key) SyncStateError.CorruptState
  return outcome

/-- The loop over the subscription records, which also needs the subscriptions they belong to. -/
def restore_subscriptions (state_meta : StateMeta V) (inventory : Inventory) :
    SyncResult (Option (DurableSubscriptions V) × Inventory) :=
  match state_meta.subscriptions with
  | some subscriptions => do
    refuse (¬ subscriptions.records.isEmpty) SyncStateError.CorruptState
    let (rows, inventory) ← take_components .SubscriptionRecord
      (fun _ => decode_tagged serde.text serde.subscription_row) state_meta.subscription_record_keys inventory
    let records := ExtTreeMap.ofList (state_meta.subscription_record_keys.zip rows) compare
    .ok (some { subscriptions with records }, inventory)
  | none => do
    refuse (state_meta.subscription_record_keys ≠ []) SyncStateError.CorruptState
    .ok (none, inventory)

/-- The part of `load_v2` from the components on. -/
def restore [DecidableEq V] (state_meta : StateMeta V) (inventory : Inventory) : SyncResult (DurableClientState V) := do
  let (records, inventory) ← take_components .Confirmed (fun _ => decode_tagged serde.text serde.record_state)
    (state_meta.confirmed_keys.map (·.val)) inventory
  let (outbox, inventory) ← take_components .Outbox (read_commit serde) state_meta.outbox_keys inventory
  let (outcomes, inventory) ← take_components .Outcome (read_outcome serde) state_meta.outcome_keys inventory
  let (canonical_ids, inventory) ← take_components .IdMap (fun _ => decode_tagged serde.text serde.record_id)
    (state_meta.id_map_keys.map (·.val)) inventory
  let (subscriptions, inventory) ← restore_subscriptions serde state_meta inventory
  refuse (¬ inventory.is_empty) SyncStateError.CorruptState
  let subscription_revision ← parse_revision state_meta.subscription_revision
  let revision ← parse_revision state_meta.revision
  let state : DurableClientState V := {
    partition_id := ⟨state_meta.partition_id⟩
    client_id := ⟨state_meta.client_id⟩
    requested_scope := ⟨state_meta.requested_scope⟩
    subscription_revision
    revision
    confirmed := ExtTreeMap.ofList (state_meta.confirmed_keys.zip records) compare
    outbox
    outcomes
    checkpoint := state_meta.checkpoint
    reset_coverage := state_meta.reset_coverage
    id_map := ExtTreeMap.ofList (state_meta.id_map_keys.zip canonical_ids) compare
    subscriptions }
  match state.validate with
  | .ok () => .ok state
  | .error invalid => .error (.InvalidState invalid)

end surrealdb_rn_core.sync_state
