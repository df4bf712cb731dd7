import SurrealSync.Client.Pull

open Std
open surrealdb_sync_protocol surrealdb_sync_protocol.subscription

namespace surrealdb_sync_client

section Windows

variable {V : Type}

/-- `get_or_insert_with(DurableSubscriptions::default)`. -/
def DurableClientState.windows (state : DurableClientState V) : DurableSubscriptions V :=
  state.subscriptions.getD .default

/-- A durable cancellation of this generation or a later one. -/
def DurableSubscriptions.Barred (self : DurableSubscriptions V) (id : String) (generation : UInt64) :
    Prop :=
  ∃ barrier ∈ self.cancelled[id]?, barrier ≥ generation

instance (self : DurableSubscriptions V) (id : String) (generation : UInt64) :
    Decidable (self.Barred id generation) :=
  inferInstanceAs (Decidable (∃ _ ∈ _, _))

/-- The replacement table of a start: the previous window of the id is dropped. -/
def DurableSubscriptions.start (self : DurableSubscriptions V) (id : String)
    (request : SubscriptionRequest) : DurableSubscriptions V :=
  collect_records { self with
    slots := self.slots.erase id
    requests := self.requests.insert id request }

/-- The replacement table of a cancellation: the barrier never goes down. -/
def DurableSubscriptions.cancel (self : DurableSubscriptions V) (id : String) (generation : UInt64) :
    DurableSubscriptions V :=
  collect_records { self with
    cancelled := self.cancelled.insert id (max (self.cancelled[id]?.getD generation) generation)
    slots := self.slots.erase id
    requests := self.requests.erase id }

/-- A response whose scope is not the one already in force is refused, with the
quarantine error when it would strand local intent. -/
def refuse_scope_change (state : DurableClientState V) (changed : Prop) [Decidable changed] :
    Result Unit :=
  if changed then
    if state.HasPendingIntent then .error .PendingQuarantineRequired
    else .error .NeedsNewScopeJournal
  else .ok ()

/-- The checks of a response against the installed slot of its subscription. -/
def guard_previous_slot (state : DurableClientState V) (previous : Option SubscriptionSlot)
    (response : SubscriptionResponse V) : Result Unit :=
  match previous with
  | some previous => do
    refuse_scope_change state (response.scope ≠ previous.scope)
    Except.refuse (response.frontier.epoch < previous.frontier.epoch
      ∨ (response.frontier.epoch = previous.frontier.epoch
        ∧ response.frontier.sequence < previous.frontier.sequence)
      ∨ response.view_revision < previous.view_revision) invalid
  | none => .ok ()

/-- The rows a response starts from: those of the slot for a delta, none for a
snapshot. -/
def initial_rows (current : DurableSubscriptions V) (previous : Option SubscriptionSlot)
    (response : SubscriptionResponse V) : Result (BTreeMap RecordId (SubscriptionRow V)) :=
  match response.response with
  | .Delta before_revision => do
    let previous ← Except.okOr previous invalid
    let next_revision ← Except.okOr (before_revision.checked_add 1) invalid
    Except.refuse (before_revision ≠ previous.view_revision
      ∨ response.view_revision ≠ next_revision
      ∨ response.plan_fingerprint ≠ previous.plan_fingerprint
      ∨ response.frontier.epoch ≠ previous.frontier.epoch
      ∨ response.coverage ≠ previous.coverage) invalid
    previous.members.toList.foldlM (fun rows member => do
      let row ← Except.okOr current.records[member.2]? invalid
      .ok (rows.insert member.1 row)) (∅ : BTreeMap RecordId (SubscriptionRow V))
  | .Snapshot _ => .ok ∅
  | .Cancelled => .error invalid

/-- One membership change; the accumulator holds the ids already touched. -/
def apply_change (response : SubscriptionResponse V)
    (found : BTreeSet RecordId × BTreeMap RecordId (SubscriptionRow V)) (change : MembershipChange V) :
    Result (BTreeSet RecordId × BTreeMap RecordId (SubscriptionRow V)) := do
  let (touched, rows) := found
  let id := change.record_id
  Except.refuse (¬ valid_subscription_text id.val) invalid
  let touched ← BTreeSet.insertFresh touched id invalid
  match change with
  | .Upsert row => do
    Except.refuse (row.version = 0 ∨ row.sort_key.kind ≠ response.coverage.order_kind) invalid
    Except.refuse (∃ previous ∈ rows[id]?, row.version < previous.version) invalid
    .ok (touched, rows.insert id row)
  | .Leave _ => do
    Except.refuse (¬ response.response.IsDelta ∨ id ∉ rows) invalid
    .ok (touched, rows.erase id)
  | .Delete _ version => do
    Except.refuse (∃ previous ∈ rows[id]?, version ≤ previous.version) invalid
    Except.refuse (¬ response.response.IsDelta ∨ id ∉ rows) invalid
    .ok (touched, rows.erase id)

end Windows

section Responses

variable {V : Type} [DecidableEq V]

/-- Whether a response repeats what the slot already shows, row by row. -/
def repeats_slot (current : DurableSubscriptions V) (previous : SubscriptionSlot)
    (response : SubscriptionResponse V) : Prop :=
  response.scope = previous.scope
    ∧ response.frontier = previous.frontier
    ∧ response.plan_fingerprint = previous.plan_fingerprint
    ∧ response.coverage = previous.coverage
    ∧ response.ordered_ids = previous.ordered_ids
    ∧ response.token = some previous.token
    ∧ ∀ change ∈ response.changes, match change with
      | .Upsert row =>
        previous.members[row.record_id]?.bind (fun key => current.records[key]?) = some row
      | .Leave record_id => record_id ∉ previous.members
      | .Delete record_id _ => record_id ∉ previous.members

instance (current : DurableSubscriptions V) (previous : SubscriptionSlot)
    (response : SubscriptionResponse V) : Decidable (repeats_slot current previous response) :=
  have (change : MembershipChange V) : Decidable (match change with
      | .Upsert row =>
        previous.members[row.record_id]?.bind (fun key => current.records[key]?) = some row
      | .Leave record_id => record_id ∉ previous.members
      | .Delete record_id _ => record_id ∉ previous.members) :=
    match change with
    | .Upsert _ => inferInstanceAs (Decidable (_ = _))
    | .Leave _ => inferInstanceAs (Decidable (¬ _))
    | .Delete _ _ => inferInstanceAs (Decidable (¬ _))
  inferInstanceAs (Decidable (_ ∧ _))

/-- What an admissible window response asks for. -/
inductive Admission (V : Type) where
  | Cancelled
  | Repeated
  | Window (token : OpaqueCheckpoint) (rows : BTreeMap RecordId (SubscriptionRow V))

/-- Every check of a response that precedes its installation, with the rows it
produces. -/
def admit_response (state : DurableClientState V) (response : SubscriptionResponse V) :
    Result (Admission V) := do
  Except.refuse (¬ validate_subscription_response response) invalid
  let id := response.subscription_id
  let current ← Except.okOr state.subscriptions invalid
  Except.refuse (current.Barred id response.generation) ClientError.SubscriptionCancelled
  let request ← Except.okOr current.requests[id]? invalid
  match request.command with
  | .Start _ _ definition_id _ limit => do
    Except.refuse (response.partition_id ≠ state.partition_id
      ∨ response.client_id ≠ state.client_id
      ∨ response.generation ≠ request.command.identity.2
      ∨ response.scope.identity ≠ state.requested_scope
      ∨ response.scope.subscription_revision ≠ state.subscription_revision
      ∨ response.coverage.definition_id ≠ definition_id
      ∨ response.coverage.limit ≠ limit
      ∨ response.frontier.epoch = 0
      ∨ response.view_revision = 0
      ∨ response.changes.length > MAX_WINDOW_ROWS * 2
      ∨ response.ordered_ids.length > limit.toNat
      ∨ ¬ valid_subscription_text response.plan_fingerprint) invalid
    if response.response = .Cancelled then .ok .Cancelled
    else do
      let token ← Except.okOr
        (response.token.filter fun token => valid_subscription_text token.val) invalid
      guard_subscription_scope state response.scope
      refuse_scope_change state (∃ checkpoint ∈ state.checkpoint, checkpoint.scope ≠ response.scope)
      let previous := current.slots[id]?
      guard_previous_slot state previous response
      match previous.filter fun previous => response.view_revision = previous.view_revision with
      | some previous =>
        if repeats_slot current previous response then .ok .Repeated else .error invalid
      | none => do
        let rows ← initial_rows current previous response
        let (_, rows) ← response.changes.foldlM (apply_change response) (∅, rows)
        Except.refuse (rows.size > limit.toNat
          ∨ ordered rows response.coverage ≠ response.ordered_ids) invalid
        .ok (.Window token rows)
  | .Resume .. => .error invalid
  | .Cancel .. => .error invalid

/-- One row enters the shared cache: a different row already stored under the
same key is refused. -/
def cache_row (epoch : UInt64) (records : BTreeMap String (SubscriptionRow V))
    (row : SubscriptionRow V) : Result (BTreeMap String (SubscriptionRow V)) := do
  let key := cache_key epoch row
  Except.refuse (∃ stored ∈ records[key]?, stored ≠ row) invalid
  .ok (records.insert key row)

/-- The replacement table of an admitted window. -/
def install_window (current : DurableSubscriptions V) (response : SubscriptionResponse V)
    (token : OpaqueCheckpoint) (rows : BTreeMap RecordId (SubscriptionRow V)) :
    Result (DurableSubscriptions V) := do
  let records ← rows.vals.foldlM (cache_row response.frontier.epoch) current.records
  let members := rows.map fun _ row => cache_key response.frontier.epoch row
  .ok (collect_records { current with
    authorization_scope := some response.scope
    records
    slots := current.slots.insert response.subscription_id {
      generation := response.generation
      plan_fingerprint := response.plan_fingerprint
      scope := response.scope
      frontier := response.frontier
      view_revision := response.view_revision
      coverage := response.coverage
      ordered_ids := response.ordered_ids
      token
      members } })

def ClientRuntime.prepare_start_subscription (self : ClientRuntime V) (request : SubscriptionRequest) :
    Result (PreparedTransition V) := do
  Except.refuse (¬ validate_subscription_request request
    ∨ ¬ request.command.IsStart
    ∨ request.partition_id ≠ self.state.partition_id
    ∨ request.client_id ≠ self.state.client_id
    ∨ request.requested_scope ≠ self.state.requested_scope
    ∨ request.subscription_revision ≠ self.state.subscription_revision) invalid
  let (id, generation) := request.command.identity
  let subscriptions := self.state.windows
  Except.refuse (subscriptions.Barred id generation) ClientError.SubscriptionCancelled
  if subscriptions.requests[id]? = some request then
    self.prepare { self.state with subscriptions := some subscriptions }
  else do
    Except.refuse (∃ previous ∈ subscriptions.requests[id]?, previous.command.identity.2 ≥ generation)
      invalid
    let distinct_ids : BTreeSet String :=
      ExtTreeSet.ofList (subscriptions.requests.keys ++ subscriptions.cancelled.keys)
    Except.refuse (id ∉ subscriptions.requests ∧ id ∉ subscriptions.cancelled
      ∧ distinct_ids.size ≥ MAX_SUBSCRIPTIONS) invalid
    self.prepare { self.state with subscriptions := some (subscriptions.start id request) }

def ClientRuntime.prepare_cancel_subscription (self : ClientRuntime V) (id : String)
    (generation : UInt64) : Result (PreparedTransition V) := do
  Except.refuse (¬ valid_subscription_text id ∨ generation = 0) invalid
  let subscriptions := self.state.windows
  Except.refuse (id ∉ subscriptions.cancelled ∧ subscriptions.cancelled.size ≥ MAX_SUBSCRIPTIONS) invalid
  Except.refuse (∃ request ∈ subscriptions.requests[id]?, request.command.identity.2 > generation)
    invalid
  self.prepare { self.state with subscriptions := some (subscriptions.cancel id generation) }

def ClientRuntime.prepare_subscription_response (self : ClientRuntime V)
    (response : SubscriptionResponse V) : Result (PreparedTransition V) := do
  match ← admit_response self.state response with
  | .Cancelled => self.prepare_cancel_subscription response.subscription_id response.generation
  | .Repeated => self.prepare self.state
  | .Window token rows => do
    let current ← Except.okOr self.state.subscriptions invalid
    let windows ← install_window current response token rows
    self.prepare { self.state with subscriptions := some windows }

end Responses

section View

variable {V : Type} [DecidableEq V]

structure SubscriptionViewMetadata where
  revision : UInt64
  subscription_id : String
  generation : UInt64
  plan_fingerprint : String
  scope : ScopeSnapshot
  frontier : Cursor
  view_revision : UInt64
  coverage : WindowCoverage
deriving DecidableEq

structure InstalledSubscription (V : Type) where
  metadata : SubscriptionViewMetadata
  rows : List (SubscriptionRow V)
  pending_outside_window : Option (List RecordId)
deriving DecidableEq

/-- The currently installed resume request. -/
def ClientRuntime.subscription_request (self : ClientRuntime V) (id : String) :
    Option SubscriptionRequest := do
  let state ← self.state.subscriptions
  match state.requests[id]? with
  | none =>
    let generation ← state.cancelled[id]?
    some {
      partition_id := self.state.partition_id
      client_id := self.state.client_id
      requested_scope := self.state.requested_scope
      subscription_revision := self.state.subscription_revision
      command := .Cancel id generation }
  | some request =>
    match state.slots[id]? with
    | some slot => some { request with command := .Resume id slot.generation slot.token }
    | none => some request

/-- The rows of a slot, in window order, as the shared cache holds them. -/
def DurableSubscriptions.slot_rows (self : DurableSubscriptions V) (slot : SubscriptionSlot) :
    List (SubscriptionRow V) :=
  slot.ordered_ids.filterMap fun id => slot.members[id]?.bind fun key => self.records[key]?

def ClientRuntime.subscription_snapshot (self : ClientRuntime V) (id : String) :
    Option (InstalledSubscription V) := do
  let subscriptions ← self.state.subscriptions
  let slot ← subscriptions.slots[id]?
  let pending_outside_window : BTreeSet RecordId := ExtTreeSet.ofList
    ((self.state.outbox.flatMap fun commit => commit.operations.map (·.record_id)).filter
      fun id => id ∉ slot.members)
  let authorized := (validate_coverage self.state).isOk
    ∧ (∃ coverage ∈ self.state.reset_coverage, coverage.scope = slot.scope)
    ∧ ∃ checkpoint ∈ self.state.checkpoint, checkpoint.scope = slot.scope
  some {
    metadata := {
      revision := self.state.revision
      subscription_id := id
      generation := slot.generation
      plan_fingerprint := slot.plan_fingerprint
      scope := slot.scope
      frontier := slot.frontier
      view_revision := slot.view_revision
      coverage := slot.coverage }
    rows := subscriptions.slot_rows slot
    pending_outside_window := if authorized then some pending_outside_window.toList else none }

end View

end surrealdb_sync_client
