import SurrealSync.Cbor.Serde
import SurrealSync.Protocol.CanonicalCodec
import SurrealSync.Protocol.Subscription

open Std Except

namespace surrealdb_sync_protocol.subscription

def SUBSCRIPTION_PROTOCOL : String := "surrealdb-subscription/1"

def MAX_SUBSCRIPTION_BYTES : Nat := 262144

structure EqualityPredicate where
  field : String
  parameter : String
  kind : ScalarKind
deriving DecidableEq

structure TrustedQueryDefinition where
  definition_id : String
  predicates : List EqualityPredicate
  order_field : String
  order_kind : ScalarKind
  direction : SortDirection
  max_limit : UInt16
deriving DecidableEq

end surrealdb_sync_protocol.subscription

namespace surrealdb_sync_protocol.subscription_codec

open canonical subscription Serde

def integer (value : UInt64) : Cbor := .Integer (.ofUInt64 value)

/-! ### The derived writers -/

namespace serialize

def scalar_kind : ScalarKind → Cbor
  | .Bool => .Text "bool"
  | .Int => .Text "int"
  | .Text => .Text "text"

def scalar : QueryScalar → Cbor
  | .Bool value => struct [("kind", .Text "bool"), ("value", .Bool value)]
  | .Int value => struct [("kind", .Text "int"), ("value", .Integer (.ofInt64 value))]
  | .Text value => struct [("kind", .Text "text"), ("value", .Text value)]

def direction : SortDirection → Cbor
  | .Ascending => .Text "ascending"
  | .Descending => .Text "descending"

def parameters (parameters : BTreeMap String QueryScalar) : Cbor :=
  struct (parameters.toList.map fun entry => (entry.1, scalar entry.2))

def command : SubscriptionCommand → Cbor
  | .Start subscription_id generation definition_id parameters' limit =>
    struct [("kind", .Text "start"), ("subscriptionId", .Text subscription_id), ("generation", integer generation),
      ("definitionId", .Text definition_id), ("parameters", parameters parameters'), ("limit", integer limit.toUInt64)]
  | .Resume subscription_id generation token =>
    struct [("kind", .Text "resume"), ("subscriptionId", .Text subscription_id), ("generation", integer generation),
      ("token", .Text token.val)]
  | .Cancel subscription_id generation =>
    struct [("kind", .Text "cancel"), ("subscriptionId", .Text subscription_id), ("generation", integer generation)]

def request (request : SubscriptionRequest) : Cbor :=
  struct [("partitionId", .Text request.partition_id.val), ("clientId", .Text request.client_id.val),
    ("requestedScope", .Text request.requested_scope.val),
    ("subscriptionRevision", integer request.subscription_revision), ("command", command request.command)]

def predicate (predicate : EqualityPredicate) : Cbor :=
  struct [("field", .Text predicate.field), ("parameter", .Text predicate.parameter),
    ("kind", scalar_kind predicate.kind)]

def definition (definition : TrustedQueryDefinition) : Cbor :=
  struct [("definitionId", .Text definition.definition_id), ("predicates", .Array (definition.predicates.map predicate)),
    ("orderField", .Text definition.order_field), ("orderKind", scalar_kind definition.order_kind),
    ("direction", direction definition.direction), ("maxLimit", integer definition.max_limit.toUInt64)]

def scope (scope : ScopeSnapshot) : Cbor :=
  struct [("identity", .Text scope.identity.val), ("authorizationRevision", integer scope.authorization_revision),
    ("subscriptionRevision", integer scope.subscription_revision)]

def cursor (cursor : Cursor) : Cbor :=
  struct [("epoch", integer cursor.epoch), ("sequence", integer cursor.sequence)]

def coverage (coverage : WindowCoverage) : Cbor :=
  struct [("definitionId", .Text coverage.definition_id), ("limit", integer coverage.limit.toUInt64),
    ("orderField", .Text coverage.order_field), ("orderKind", scalar_kind coverage.order_kind),
    ("direction", direction coverage.direction)]

def reset_reason : WindowResetReason → Cbor
  | .Initial => .Text "initial"
  | .Expired => .Text "expired"
  | .Stale => .Text "stale"
  | .EpochChanged => .Text "epoch_changed"
  | .PlanChanged => .Text "plan_changed"

def response_kind : WindowResponseKind → Cbor
  | .Snapshot reason => struct [("kind", .Text "snapshot"), ("reason", reset_reason reason)]
  | .Delta before_revision => struct [("kind", .Text "delta"), ("beforeRevision", integer before_revision)]
  | .Cancelled => struct [("kind", .Text "cancelled")]

def row (row : SubscriptionRow Cbor) : Cbor :=
  struct [("recordId", .Text row.record_id.val), ("value", row.value), ("version", integer row.version),
    ("sortKey", scalar row.sort_key)]

def change : MembershipChange Cbor → Cbor
  | .Upsert row' => struct [("kind", .Text "upsert"), ("row", row row')]
  | .Leave record_id => struct [("kind", .Text "leave"), ("recordId", .Text record_id.val)]
  | .Delete record_id version =>
    struct [("kind", .Text "delete"), ("recordId", .Text record_id.val), ("version", integer version)]

def token : Option OpaqueCheckpoint → Cbor
  | some token => .Text token.val
  | none => .Null

def response (response : SubscriptionResponse Cbor) : Cbor :=
  struct [("partitionId", .Text response.partition_id.val), ("clientId", .Text response.client_id.val),
    ("subscriptionId", .Text response.subscription_id), ("generation", integer response.generation),
    ("planFingerprint", .Text response.plan_fingerprint), ("scope", scope response.scope),
    ("frontier", cursor response.frontier), ("viewRevision", integer response.view_revision),
    ("coverage", coverage response.coverage), ("response", response_kind response.response),
    ("token", token response.token),
    ("orderedIds", .Array (response.ordered_ids.map fun id => .Text id.val)),
    ("changes", .Array (response.changes.map change))]

end serialize

/-! ### The derived readers -/

namespace deserialize

def scalar_kind (item : Cbor) : Option ScalarKind := do
  match ← text item with
  | "bool" => some .Bool
  | "int" => some .Int
  | "text" => some .Text
  | _ => none

def scalar (item : Cbor) : Option QueryScalar := do
  let fields ← fields ["kind", "value"] item
  match ← required fields "kind" text with
  | "bool" => (required fields "value" bool).map .Bool
  | "int" => (required fields "value" i64).map .Int
  | "text" => (required fields "value" text).map .Text
  | _ => none

def direction (item : Cbor) : Option SortDirection := do
  match ← text item with
  | "ascending" => some .Ascending
  | "descending" => some .Descending
  | _ => none

/-- A later entry of the map replaces an earlier one with its key. -/
def parameters (item : Cbor) : Option (BTreeMap String QueryScalar) :=
  (map scalar item).map fun entries => ExtTreeMap.ofList entries compare

def record_id (item : Cbor) : Option RecordId := (text item).map RecordId.mk

def opaque_checkpoint (item : Cbor) : Option OpaqueCheckpoint := (text item).map OpaqueCheckpoint.mk

def command (item : Cbor) : Option SubscriptionCommand := do
  let (kind, content) ← internally_tagged "kind" item
  match kind with
  | "start" => do
    let fields ← fields ["subscriptionId", "generation", "definitionId", "parameters", "limit"] content
    return .Start (← required fields "subscriptionId" text) (← required fields "generation" u64)
      (← required fields "definitionId" text) (← required fields "parameters" parameters)
      (← required fields "limit" u16)
  | "resume" => do
    let fields ← fields ["subscriptionId", "generation", "token"] content
    return .Resume (← required fields "subscriptionId" text) (← required fields "generation" u64)
      (← required fields "token" opaque_checkpoint)
  | "cancel" => do
    let fields ← fields ["subscriptionId", "generation"] content
    return .Cancel (← required fields "subscriptionId" text) (← required fields "generation" u64)
  | _ => none

def request (item : Cbor) : Option SubscriptionRequest := do
  let fields ← fields ["partitionId", "clientId", "requestedScope", "subscriptionRevision", "command"] item
  return {
    partition_id := ⟨← required fields "partitionId" text⟩
    client_id := ⟨← required fields "clientId" text⟩
    requested_scope := ⟨← required fields "requestedScope" text⟩
    subscription_revision := ← required fields "subscriptionRevision" u64
    command := ← required fields "command" command }

def scope (item : Cbor) : Option ScopeSnapshot := do
  let fields ← fields ["identity", "authorizationRevision", "subscriptionRevision"] item
  return ⟨⟨← required fields "identity" text⟩, ← required fields "authorizationRevision" u64,
    ← required fields "subscriptionRevision" u64⟩

def cursor (item : Cbor) : Option Cursor := do
  let fields ← fields ["epoch", "sequence"] item
  return ⟨← required fields "epoch" u64, ← required fields "sequence" u64⟩

def coverage (item : Cbor) : Option WindowCoverage := do
  let fields ← fields ["definitionId", "limit", "orderField", "orderKind", "direction"] item
  return {
    definition_id := ← required fields "definitionId" text
    limit := ← required fields "limit" u16
    order_field := ← required fields "orderField" text
    order_kind := ← required fields "orderKind" scalar_kind
    direction := ← required fields "direction" direction }

def reset_reason (item : Cbor) : Option WindowResetReason := do
  match ← text item with
  | "initial" => some .Initial
  | "expired" => some .Expired
  | "stale" => some .Stale
  | "epoch_changed" => some .EpochChanged
  | "plan_changed" => some .PlanChanged
  | _ => none

def response_kind (item : Cbor) : Option WindowResponseKind := do
  let (kind, content) ← internally_tagged "kind" item
  match kind with
  | "snapshot" => do
    let fields ← fields ["reason"] content
    return .Snapshot (← required fields "reason" reset_reason)
  | "delta" => do
    let fields ← fields ["beforeRevision"] content
    return .Delta (← required fields "beforeRevision" u64)
  | "cancelled" => some .Cancelled
  | _ => none

def row (item : Cbor) : Option (SubscriptionRow Cbor) := do
  let fields ← fields ["recordId", "value", "version", "sortKey"] item
  return {
    record_id := ← required fields "recordId" record_id
    value := ← required fields "value" some
    version := ← required fields "version" u64
    sort_key := ← required fields "sortKey" scalar }

def change (item : Cbor) : Option (MembershipChange Cbor) := do
  let (kind, content) ← internally_tagged "kind" item
  match kind with
  | "upsert" => do
    let fields ← fields ["row"] content
    return .Upsert (← required fields "row" row)
  | "leave" => do
    let fields ← fields ["recordId"] content
    return .Leave (← required fields "recordId" record_id)
  | "delete" => do
    let fields ← fields ["recordId", "version"] content
    return .Delete (← required fields "recordId" record_id) (← required fields "version" u64)
  | _ => none

/-- A missing `token` would read as none, like a null. -/
def token (fields : List (String × Cbor)) : Option (Option OpaqueCheckpoint) :=
  match fields.lookup "token" with
  | some item => option opaque_checkpoint item
  | none => some none

def response (item : Cbor) : Option (SubscriptionResponse Cbor) := do
  let fields ← fields ["partitionId", "clientId", "subscriptionId", "generation", "planFingerprint", "scope", "frontier",
    "viewRevision", "coverage", "response", "token", "orderedIds", "changes"] item
  return {
    partition_id := ⟨← required fields "partitionId" text⟩
    client_id := ⟨← required fields "clientId" text⟩
    subscription_id := ← required fields "subscriptionId" text
    generation := ← required fields "generation" u64
    plan_fingerprint := ← required fields "planFingerprint" text
    scope := ← required fields "scope" scope
    frontier := ← required fields "frontier" cursor
    view_revision := ← required fields "viewRevision" u64
    coverage := ← required fields "coverage" coverage
    response := ← required fields "response" response_kind
    token := ← token fields
    ordered_ids := ← required fields "orderedIds" (seq record_id)
    changes := ← required fields "changes" (seq change) }

end deserialize

/-! ### The codec -/

variable (ciborium : Ciborium)

/-- The order of map entries: the length of the encoded key, then its bytes. -/
def entry_cmp (a b : List UInt8 × Cbor × Cbor) : Ordering :=
  (compare a.1.length b.1.length).then (compare a.1 b.1)

mutual

def sorted : Cbor → Result Cbor
  | .Array values => (sorted_list values).map .Array
  | .Map entries => do
    let entries ← sorted_entries entries
    return .Map ((entries.insertionSort fun a b => (entry_cmp a b).isLE).map Prod.snd)
  | .Integer value => .ok (.Integer value)
  | .Bytes value => .ok (.Bytes value)
  | .Float bits => .ok (.Float bits)
  | .Text value => .ok (.Text value)
  | .Bool value => .ok (.Bool value)
  | .Null => .ok .Null
  | .Tag tag value => .ok (.Tag tag value)

def sorted_list : List Cbor → Result (List Cbor)
  | [] => .ok []
  | value :: values => do
    let value ← sorted value
    let values ← sorted_list values
    return value :: values

/-- The entries with their encoded keys. -/
def sorted_entries : List (Cbor × Cbor) → Result (List (List UInt8 × Cbor × Cbor))
  | [] => .ok []
  | (key, value) :: entries => do
    let encoded ← encode_cbor_value ciborium key
    let value ← sorted value
    let entries ← sorted_entries entries
    return (encoded, key, value) :: entries

end

/-- `encode`, from the item that serde makes of the value on. -/
def encode (kind : String) (value : Cbor) : Result (List UInt8) := do
  let item ← sorted ciborium (.Array [.Text SUBSCRIPTION_PROTOCOL, .Text kind, value])
  let bytes ← encode_cbor_value ciborium item
  refuse (bytes.length > MAX_SUBSCRIPTION_BYTES) .EncodedLimit
  preflight_canonical_cbor bytes
  return bytes

def decode {α : Type} (kind : String) (deserialize : Cbor → Option α) (bytes : List UInt8) : Result α := do
  let item ← read_cbor_value ciborium MAX_SUBSCRIPTION_BYTES bytes
  let .Array [.Text protocol, .Text kind', value] := item | throw .InvalidEnvelope
  refuse (protocol ≠ SUBSCRIPTION_PROTOCOL ∨ kind' ≠ kind) .InvalidEnvelope
  okOr (deserialize value) .InvalidEnvelope

def encode_subscription_request (request : SubscriptionRequest) : Result (List UInt8) := do
  refuse (validate_subscription_request request = false) .InvalidEnvelope
  encode ciborium "request" (serialize.request request)

def decode_subscription_request (bytes : List UInt8) : Result SubscriptionRequest := do
  let request ← decode ciborium "request" deserialize.request bytes
  let encoded ← encode_subscription_request ciborium request
  refuse (encoded ≠ bytes) .NonCanonical
  return request

def map_row {A B : Type} (map : A → Result B) (row : SubscriptionRow A) : Result (SubscriptionRow B) := do
  return ⟨row.record_id, ← map row.value, row.version, row.sort_key⟩

def map_change {A B : Type} (map : A → Result B) : MembershipChange A → Result (MembershipChange B)
  | .Upsert row => do return .Upsert (← map_row map row)
  | .Leave record_id => .ok (.Leave record_id)
  | .Delete record_id version => .ok (.Delete record_id version)

def map_response {A B : Type} (map : A → Result B) (response : SubscriptionResponse A) :
    Result (SubscriptionResponse B) := do
  let changes ← response.changes.mapM (map_change map)
  return {
    partition_id := response.partition_id
    client_id := response.client_id
    subscription_id := response.subscription_id
    generation := response.generation
    plan_fingerprint := response.plan_fingerprint
    scope := response.scope
    frontier := response.frontier
    view_revision := response.view_revision
    coverage := response.coverage
    response := response.response
    token := response.token
    ordered_ids := response.ordered_ids
    changes }

def encode_subscription_response (response : SubscriptionResponse CanonicalValue) : Result (List UInt8) := do
  refuse (validate_subscription_response response = false) .ContainerLimit
  let response ← map_response (fun value => .ok (to_cbor value.tree)) response
  encode ciborium "response" (serialize.response response)

def decode_subscription_response (bytes : List UInt8) : Result (SubscriptionResponse CanonicalValue) := do
  let response ← decode ciborium "response" deserialize.response bytes
  let response ← map_response from_cbor response
  let encoded ← encode_subscription_response ciborium response
  refuse (encoded ≠ bytes) .NonCanonical
  return response

end surrealdb_sync_protocol.subscription_codec
