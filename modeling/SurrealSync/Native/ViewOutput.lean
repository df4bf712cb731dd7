import SurrealSync.Native.ViewSpec

open Std
open surrealdb_sync_protocol surrealdb_sync_client
open surrealdb_rn_core.sync_read (NativeSyncError)

namespace surrealdb_rn_core.sync_view

def MAX_OUTPUT : Nat := 256 * 1024

variable {F : Type}

/-! ### The JSON of an answer

The entries of an object stand in key order, as its map holds them. -/

def cursor_wire (cursor : surrealdb_sync_protocol.Cursor) : serde_json.Value F :=
  .Object [("epoch", .String cursor.epoch.to_string), ("sequence", .String cursor.sequence.to_string)]

def identity_wire (identity : CommitIdentity) : serde_json.Value F :=
  .Object [("clientCommitId", .String identity.client_commit_id.val),
    ("fingerprint", .String identity.fingerprint.val)]

def readiness_wire : ReadReadinessV1 → String
  | .LocalAvailableAwaitingCoverage => "local_available_awaiting_coverage"
  | .AuthorizedScopeAsOf => "authorized_scope_as_of"

def coverage_wire : ReadCoverageV1 → serde_json.Value F
  | .Unknown => .Object [("kind", .String "unknown")]
  | .AuthorizedReset cursor => .Object [("cursor", cursor_wire cursor), ("kind", .String "authorized_reset")]

/-- The metadata as `metadata_wire` leaves them. -/
def metadata_wire (metadata : ReadMetadataV1) : serde_json.Value F :=
  .Object [
    ("asOf", match metadata.as_of with
      | some cursor => cursor_wire cursor
      | none => .Null),
    ("coverage", coverage_wire metadata.coverage),
    ("readiness", .String (readiness_wire metadata.readiness)),
    ("revision", .String metadata.revision.to_string),
    ("scope", scope_wire metadata.scope)]

def resolution_wire : Option ConflictResolution → serde_json.Value F
  | none => .Null
  | some .KeepServer => .Object [("strategy", .String "keep_server")]
  | some .PreferServerPolicyV1 => .Object [("strategy", .String "prefer_server_policy_v1")]
  | some (.KeepLocal replacement) =>
    .Object [("replacement", identity_wire replacement), ("strategy", .String "keep_local")]
  | some (.Merge replacement) => .Object [("replacement", identity_wire replacement), ("strategy", .String "merge")]

def conflict_wire (conflict : ReadConflictV1) : serde_json.Value F :=
  .Object [("identity", identity_wire conflict.identity), ("resolution", resolution_wire conflict.resolution)]

def status_wire : ReadAcceptedStatusV1 → String
  | .CoveredByAuthorizedReset => "covered_by_authorized_reset"
  | .AwaitingPullEpochUnknown => "awaiting_pull_epoch_unknown"

def accepted_wire (accepted : ReadAcceptedV1) : serde_json.Value F :=
  .Object [("identity", identity_wire accepted.identity), ("sequence", .String accepted.sequence.to_string),
    ("status", .String (status_wire accepted.status))]

def path_wire (path : List String) : serde_json.Value F := .Array (path.map .String)

def Field.to_value (field : Field F) : serde_json.Value F :=
  .Object [("path", path_wire field.path), ("present", .Bool field.value.isSome), ("value", field.value.getD .Null)]

def Row.to_value (row : Row F) : serde_json.Value F :=
  .Object [
    ("accepted", .Array (row.accepted.map accepted_wire)),
    ("conflicts", .Array (row.conflicts.map conflict_wire)),
    ("fields", .Array (row.fields.map Field.to_value)),
    ("pending", .Array (row.pending.map identity_wire)),
    ("recordId", .String row.record_id.val)]

def Work.to_value (work : Work) : serde_json.Value F :=
  .Object [
    ("operationsVisited", .Number (.PosInt (.ofNat work.operations_visited))),
    ("recordsVisited", .Number (.PosInt (.ofNat work.records_visited))),
    ("valueBytesVisited", .Number (.PosInt (.ofNat work.value_bytes_visited))),
    ("valueNodesVisited", .Number (.PosInt (.ofNat work.value_nodes_visited)))]

def Response.to_value : Response F → serde_json.Value F
  | .stale_cursor metadata => .Object [
      ("kind", .String "stale_cursor"),
      ("metadata", metadata_wire metadata),
      ("protocolVersion", .Number (.PosInt 1))]
  | .count observed_count metadata work => .Object [
      ("kind", .String "count"),
      ("metadata", metadata_wire metadata),
      ("observedCount", .String observed_count.repr),
      ("protocolVersion", .Number (.PosInt 1)),
      ("work", work.to_value)]
  | .page rows next_cursor metadata work => .Object [
      ("kind", .String "page"),
      ("metadata", metadata_wire metadata),
      ("nextCursor", next_cursor.elim .Null .String),
      ("protocolVersion", .Number (.PosInt 1)),
      ("rows", .Array (rows.map Row.to_value)),
      ("work", work.to_value)]

/-- The text of the answer, when the bounded writer takes all of it. -/
def output (serde : Serde F) (value : serde_json.Value F) : Except NativeSyncError String := do
  Except.refuse ((serde_json.to_string serde.number value).utf8ByteSize > MAX_OUTPUT) .ReadOutputTooLarge
  .ok (serde_json.to_string serde.number value)

end surrealdb_rn_core.sync_view
