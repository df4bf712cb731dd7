import SurrealSync.Client.Validate

open Std
open surrealdb_sync_protocol surrealdb_sync_protocol.subscription

namespace surrealdb_sync_client

variable {V : Type}

def accepted_mappings : DurableOutcome V → List IdMapping
  | .Accepted _ _ id_mappings => id_mappings
  | .Conflict .. => []
  | .Rejected .. => []

def remap_record_id (record_id : RecordId) (mapping : IdMapping) : RecordId :=
  if record_id = mapping.local_id then mapping.canonical_id else record_id

def remap_operation (operation : Operation V) (mapping : IdMapping) : Operation V :=
  match operation with
  | .Upsert record_id base_version value reference =>
    .Upsert (remap_record_id record_id mapping) base_version value
      (reference.map (remap_record_id · mapping))
  | .Delete record_id base_version => .Delete (remap_record_id record_id mapping) base_version

def remap_commit (commit : ClientCommit V) (mapping : IdMapping) : ClientCommit V :=
  { commit with operations := commit.operations.map (remap_operation · mapping) }

/-- The reference of a present record follows the mapping. -/
def remap_record (record : RecordState V) (mapping : IdMapping) : RecordState V :=
  match record with
  | .Present value version reference =>
    .Present value version (reference.map (remap_record_id · mapping))
  | .Absent => .Absent
  | .Tombstone version => .Tombstone version

def remap_outcome (outcome : DurableOutcome V) (mapping : IdMapping) : DurableOutcome V :=
  match outcome with
  | .Conflict identity record_id authoritative =>
    .Conflict identity (remap_record_id record_id mapping) (remap_record authoritative mapping)
  | .Accepted identity sequence id_mappings => .Accepted identity sequence id_mappings
  | .Rejected identity reason => .Rejected identity reason

def remap_resolved (resolved : ResolvedCommit V) (mapping : IdMapping) : ResolvedCommit V :=
  { resolved with
    local_commit := remap_commit resolved.local_commit mapping
    outcome := remap_outcome resolved.outcome mapping }

def remap_state_references (state : DurableClientState V) (mapping : IdMapping) :
    DurableClientState V :=
  { state with confirmed := state.confirmed.map fun _ record => remap_record record mapping }

/-- Moves a confirmed row from the local to the canonical id; a different row
already confirmed under the canonical id is a collision. -/
def rename_confirmed [DecidableEq V] (confirmed : BTreeMap RecordId (RecordState V))
    (mapping : IdMapping) : Result (BTreeMap RecordId (RecordState V)) :=
  match confirmed[mapping.local_id]? with
  | none => .ok confirmed
  | some local_state =>
    let confirmed := confirmed.erase mapping.local_id
    match confirmed[mapping.canonical_id]? with
    | some canonical_state =>
      if canonical_state ≠ local_state then .error (.IdMappingCollision mapping.canonical_id)
      else .ok confirmed
    | none => .ok (confirmed.insert mapping.canonical_id local_state)

def apply_id_mapping [DecidableEq V] (state : DurableClientState V) (mapping : IdMapping) :
    Result (DurableClientState V) := do
  Except.refuse (mapping.local_id = mapping.canonical_id ∨ mapping.canonical_id ∈ state.id_map)
    (ClientError.InvalidIdMapping mapping)
  match state.id_map[mapping.local_id]? with
  | some existing =>
    if existing = mapping.canonical_id then .ok state
    else .error (.InvalidIdMapping mapping)
  | none => do
    let confirmed ← rename_confirmed state.confirmed mapping
    let state := remap_state_references { state with confirmed } mapping
    .ok { state with
      outbox := state.outbox.map (remap_commit · mapping)
      outcomes := state.outcomes.map (remap_resolved · mapping)
      id_map := (state.id_map.map fun _ canonical_id => remap_record_id canonical_id mapping).insert
        mapping.local_id mapping.canonical_id }

end surrealdb_sync_client
