import Mathlib.Data.List.Sort
import SurrealSync.Client.State

open Std
open surrealdb_sync_protocol surrealdb_sync_protocol.subscription

namespace surrealdb_sync_client

variable {V : Type}

def invalid : ClientError := .InvalidSubscription

def cache_key (epoch : UInt64) (row : SubscriptionRow V) : String :=
  toString epoch ++ ":" ++ toString row.version ++ ":" ++
    toString row.record_id.val.utf8ByteSize ++ ":" ++ row.record_id.val

/-- Drops every cached row that no slot references. -/
def collect_records (state : DurableSubscriptions V) : DurableSubscriptions V :=
  let used : BTreeSet String :=
    ExtTreeSet.ofList (state.slots.vals.flatMap fun slot => slot.members.vals)
  { state with records := state.records.filter fun key _ => key ∈ used }

/-- The order of one window: its sort key in the window's direction, ties broken
by record id. -/
def window_cmp (direction : SortDirection) (a b : SubscriptionRow V) : Ordering :=
  let comparison := a.sort_key.cmp b.sort_key
  let comparison := match direction with
    | .Ascending => comparison
    | .Descending => comparison.swap
  comparison.then (compare a.record_id b.record_id)

def ordered (rows : BTreeMap RecordId (SubscriptionRow V)) (coverage : WindowCoverage) :
    List RecordId :=
  (rows.vals.insertionSort fun a b => window_cmp coverage.direction a b ≠ .gt).map (·.record_id)

def guard_subscription_scope (state : DurableClientState V) (scope : ScopeSnapshot) : Result Unit :=
  if ∃ subscriptions ∈ state.subscriptions, ∃ previous ∈ subscriptions.authorization_scope,
      previous ≠ scope then
    if state.HasPendingIntent then .error .PendingQuarantineRequired
    else .error .NeedsNewScopeJournal
  else .ok ()

/-- The pattern `matches!(sort_key, QueryScalar::Text(text) if !valid_subscription_text(text))`. -/
def unusable_sort_text : QueryScalar → Bool
  | .Text text => !valid_subscription_text text
  | .Bool _ => false
  | .Int _ => false

def validate_request (owner : DurableClientState V) (id : String) (request : SubscriptionRequest) :
    Result Unit :=
  Except.refuse (¬ validate_subscription_request request
    ∨ ¬ request.command.IsStart
    ∨ request.command.identity.1 ≠ id
    ∨ request.partition_id ≠ owner.partition_id
    ∨ request.client_id ≠ owner.client_id
    ∨ request.requested_scope ≠ owner.requested_scope
    ∨ request.subscription_revision ≠ owner.subscription_revision) invalid

/-- The cached row of one member, checked against its slot. -/
def validate_member (records : BTreeMap String (SubscriptionRow V)) (slot : SubscriptionSlot)
    (record_id : RecordId) (key : String) : Result (SubscriptionRow V) := do
  let row ← Except.okOr records[key]? invalid
  Except.refuse (¬ valid_subscription_text record_id.val
    ∨ unusable_sort_text row.sort_key
    ∨ row.record_id ≠ record_id
    ∨ cache_key slot.frontier.epoch row ≠ key
    ∨ row.sort_key.kind ≠ slot.coverage.order_kind
    ∨ row.version = 0) invalid
  .ok row

/-- Two neighbouring ids of a window must be strictly increasing. -/
def validate_neighbours (rows : BTreeMap RecordId (SubscriptionRow V)) (direction : SortDirection)
    (ids : RecordId × RecordId) : Result Unit := do
  let a ← Except.okOr rows[ids.1]? invalid
  let b ← Except.okOr rows[ids.2]? invalid
  Except.refuse (window_cmp direction a b).isGE invalid

/-- A slot covers the definition and limit its start asked for. -/
def validate_slot_command (command : SubscriptionCommand) (slot : SubscriptionSlot) : Result Unit :=
  match command with
  | .Start _ _ definition_id _ limit =>
    Except.refuse (definition_id ≠ slot.coverage.definition_id ∨ limit ≠ slot.coverage.limit) invalid
  | .Resume .. => .ok ()
  | .Cancel .. => .ok ()

def validate_slot (self : DurableSubscriptions V) (owner : DurableClientState V)
    (used : BTreeSet String) (id : String) (slot : SubscriptionSlot) : Result (BTreeSet String) := do
  let request ← Except.okOr self.requests[id]? invalid
  Except.refuse (self.authorization_scope ≠ some slot.scope) invalid
  Except.refuse (request.command.identity.2 ≠ slot.generation
    ∨ (∃ barrier ∈ self.cancelled[id]?, barrier ≥ slot.generation)
    ∨ slot.frontier.epoch = 0
    ∨ slot.view_revision = 0
    ∨ slot.scope.identity ≠ owner.requested_scope
    ∨ slot.scope.subscription_revision ≠ owner.subscription_revision
    ∨ ¬ valid_subscription_text slot.plan_fingerprint
    ∨ ¬ valid_subscription_text slot.token.val
    ∨ slot.coverage.limit = 0
    ∨ slot.coverage.limit.toNat > MAX_WINDOW_ROWS
    ∨ slot.members.size > slot.coverage.limit.toNat) invalid
  validate_slot_command request.command slot
  Except.refuse (¬ valid_subscription_text slot.coverage.order_field) invalid
  let rows ← slot.members.toList.foldlM (fun rows member => do
    let row ← validate_member self.records slot member.1 member.2
    .ok (rows.insert member.1 row)) (∅ : BTreeMap RecordId (SubscriptionRow V))
  let ids : BTreeSet RecordId := ExtTreeSet.ofList slot.ordered_ids
  Except.refuse (rows.size ≠ slot.ordered_ids.length
    ∨ ids.size ≠ rows.size
    ∨ ∃ id ∈ slot.ordered_ids, id ∉ rows) invalid
  forM (slot.ordered_ids.zip slot.ordered_ids.tail)
    (validate_neighbours rows slot.coverage.direction)
  .ok (slot.members.vals.foldl (fun used key => used.insert key) used)

def validate_authorization (self : DurableSubscriptions V) (owner : DurableClientState V) :
    Result Unit :=
  match self.authorization_scope with
  | some scope =>
    Except.refuse (scope.identity ≠ owner.requested_scope
      ∨ scope.subscription_revision ≠ owner.subscription_revision
      ∨ ∃ checkpoint ∈ owner.checkpoint, checkpoint.scope ≠ scope) invalid
  | none => Except.refuse (self.slots.isEmpty = false) invalid

def DurableSubscriptions.validate (self : DurableSubscriptions V) (owner : DurableClientState V) :
    Result Unit := do
  Except.refuse (self.requests.size > MAX_SUBSCRIPTIONS
    ∨ self.cancelled.size > MAX_SUBSCRIPTIONS
    ∨ self.slots.size > MAX_SUBSCRIPTIONS
    ∨ self.records.size > MAX_SUBSCRIPTIONS * MAX_WINDOW_ROWS) invalid
  forM self.requests.toList fun (id, request) => validate_request owner id request
  forM self.cancelled.toList fun (id, barrier) =>
    Except.refuse (¬ valid_subscription_text id ∨ barrier = 0) invalid
  let distinct_ids : BTreeSet String := ExtTreeSet.ofList (self.requests.keys ++ self.cancelled.keys)
  Except.refuse (distinct_ids.size > MAX_SUBSCRIPTIONS) invalid
  validate_authorization self owner
  let used ← self.slots.toList.foldlM
    (fun used slot => validate_slot self owner used slot.1 slot.2) (∅ : BTreeSet String)
  Except.refuse (∃ key ∈ self.records.keys, key ∉ used) invalid

end surrealdb_sync_client
