import SurrealSync.Protocol.Messages

open Std

namespace surrealdb_sync_protocol.subscription

def MAX_SUBSCRIPTIONS : Nat := 32

def MAX_WINDOW_ROWS : Nat := 32

def MAX_PARAMETERS : Nat := 8

def MAX_SUBSCRIPTION_TEXT : Nat := 256

inductive QueryScalar where
  | Bool (value : Bool)
  | Int (value : Int64)
  | Text (value : String)
deriving DecidableEq

inductive ScalarKind where
  | Bool
  | Int
  | Text
deriving DecidableEq

def QueryScalar.kind : QueryScalar → ScalarKind
  | .Bool _ => .Bool
  | .Int _ => .Int
  | .Text _ => .Text

/-- The derived order of the source: constructors in declaration order, then
their contents. -/
def QueryScalar.cmp : QueryScalar → QueryScalar → Ordering
  | .Bool a, .Bool b => compare a b
  | .Bool _, .Int _ => .lt
  | .Bool _, .Text _ => .lt
  | .Int _, .Bool _ => .gt
  | .Int a, .Int b => compare a b
  | .Int _, .Text _ => .lt
  | .Text _, .Bool _ => .gt
  | .Text _, .Int _ => .gt
  | .Text a, .Text b => compare a b

inductive SortDirection where
  | Ascending
  | Descending
deriving DecidableEq

inductive SubscriptionCommand where
  | Start (subscription_id : String) (generation : UInt64) (definition_id : String)
      (parameters : BTreeMap String QueryScalar) (limit : UInt16)
  | Resume (subscription_id : String) (generation : UInt64) (token : OpaqueCheckpoint)
  | Cancel (subscription_id : String) (generation : UInt64)
deriving DecidableEq

def SubscriptionCommand.identity : SubscriptionCommand → String × UInt64
  | .Start subscription_id generation _ _ _ => (subscription_id, generation)
  | .Resume subscription_id generation _ => (subscription_id, generation)
  | .Cancel subscription_id generation => (subscription_id, generation)

/-- The pattern `matches!(command, SubscriptionCommand::Start { .. })`. -/
def SubscriptionCommand.IsStart : SubscriptionCommand → Prop
  | .Start .. => True
  | .Resume .. => False
  | .Cancel .. => False

instance : (command : SubscriptionCommand) → Decidable command.IsStart
  | .Start .. => isTrue trivial
  | .Resume .. => isFalse id
  | .Cancel .. => isFalse id

structure SubscriptionRequest where
  partition_id : PartitionId
  client_id : ClientId
  requested_scope : ScopeIdentity
  subscription_revision : UInt64
  command : SubscriptionCommand
deriving DecidableEq

structure WindowCoverage where
  definition_id : String
  limit : UInt16
  order_field : String
  order_kind : ScalarKind
  direction : SortDirection
deriving DecidableEq

@[ext]
structure SubscriptionRow (V : Type) where
  record_id : RecordId
  value : V
  version : UInt64
  sort_key : QueryScalar
deriving DecidableEq

inductive MembershipChange (V : Type) where
  | Upsert (row : SubscriptionRow V)
  | Leave (record_id : RecordId)
  | Delete (record_id : RecordId) (version : UInt64)
deriving DecidableEq

/-- The record a change is about, the match both validators repeat. -/
def MembershipChange.record_id {V : Type} : MembershipChange V → RecordId
  | .Upsert row => row.record_id
  | .Leave record_id => record_id
  | .Delete record_id _ => record_id

/-- The row a change leaves for its record. -/
def MembershipChange.row {V : Type} : MembershipChange V → Option (SubscriptionRow V)
  | .Upsert row => some row
  | .Leave _ => none
  | .Delete _ _ => none

inductive WindowResetReason where
  | Initial
  | Expired
  | Stale
  | EpochChanged
  | PlanChanged
deriving DecidableEq

inductive WindowResponseKind where
  | Snapshot (reason : WindowResetReason)
  | Delta (before_revision : UInt64)
  | Cancelled
deriving DecidableEq

/-- The pattern `matches!(response, WindowResponseKind::Delta { .. })`. -/
def WindowResponseKind.IsDelta : WindowResponseKind → Prop
  | .Snapshot _ => False
  | .Delta _ => True
  | .Cancelled => False

instance : (response : WindowResponseKind) → Decidable response.IsDelta
  | .Snapshot _ => isFalse id
  | .Delta _ => isTrue trivial
  | .Cancelled => isFalse id

structure SubscriptionResponse (V : Type) where
  partition_id : PartitionId
  client_id : ClientId
  subscription_id : String
  generation : UInt64
  plan_fingerprint : String
  scope : ScopeSnapshot
  frontier : Cursor
  view_revision : UInt64
  coverage : WindowCoverage
  response : WindowResponseKind
  token : Option OpaqueCheckpoint
  ordered_ids : List RecordId
  changes : List (MembershipChange V)
deriving DecidableEq

def valid_subscription_text (value : String) : Bool :=
  value ≠ "" && value.utf8ByteSize ≤ MAX_SUBSCRIPTION_TEXT

/-- A scalar's text is bounded but, unlike other texts, may be empty. -/
def bounded_scalar_text : QueryScalar → Bool
  | .Text value => value.utf8ByteSize ≤ MAX_SUBSCRIPTION_TEXT
  | .Bool _ => true
  | .Int _ => true

def validate_subscription_request (request : SubscriptionRequest) : Bool :=
  let (id, generation) := request.command.identity
  if !valid_subscription_text request.partition_id.val
      || !valid_subscription_text request.client_id.val
      || !valid_subscription_text request.requested_scope.val
      || !valid_subscription_text id
      || generation == 0 then
    false
  else
    match request.command with
    | .Start _ _ definition_id parameters limit =>
      valid_subscription_text definition_id
        && limit > 0
        && limit.toNat ≤ MAX_WINDOW_ROWS
        && parameters.size ≤ MAX_PARAMETERS
        && parameters.toList.all fun (key, value) =>
          valid_subscription_text key && bounded_scalar_text value
    | .Resume _ _ token => valid_subscription_text token.val
    | .Cancel _ _ => true

def validate_subscription_response {V : Type} (response : SubscriptionResponse V) : Bool :=
  let change_ids : BTreeSet RecordId := ExtTreeSet.ofList (response.changes.map (·.record_id))
  let shape := match response.response with
    | .Cancelled => response.token.isNone && response.ordered_ids.isEmpty && response.changes.isEmpty
    | .Snapshot _ => response.token.isSome && response.changes.all fun
      | .Upsert _ => true
      | .Leave _ => false
      | .Delete _ _ => false
    | .Delta _ => response.token.isSome
  let ordered_ids : BTreeSet RecordId := ExtTreeSet.ofList response.ordered_ids
  shape
    && change_ids.size == response.changes.length
    && ordered_ids.size == response.ordered_ids.length
    && valid_subscription_text response.partition_id.val
    && valid_subscription_text response.client_id.val
    && valid_subscription_text response.subscription_id
    && response.generation > 0
    && valid_subscription_text response.plan_fingerprint
    && response.frontier.epoch > 0
    && response.view_revision > 0
    && valid_subscription_text response.scope.identity.val
    && valid_subscription_text response.coverage.definition_id
    && valid_subscription_text response.coverage.order_field
    && response.coverage.limit > 0
    && response.coverage.limit.toNat ≤ MAX_WINDOW_ROWS
    && response.ordered_ids.length ≤ response.coverage.limit.toNat
    && response.ordered_ids.all (fun id => valid_subscription_text id.val)
    && response.changes.length ≤ MAX_WINDOW_ROWS * 2
    && response.token.all (fun token => valid_subscription_text token.val)
    && response.changes.all fun
      | .Upsert row =>
        valid_subscription_text row.record_id.val
          && row.version > 0
          && row.sort_key.kind = response.coverage.order_kind
          && bounded_scalar_text row.sort_key
      | .Leave record_id => valid_subscription_text record_id.val
      | .Delete record_id version => valid_subscription_text record_id.val && version > 0

end surrealdb_sync_protocol.subscription
