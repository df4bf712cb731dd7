import SurrealSync.Basic.Async
import SurrealSync.Native.Barrier

open Std Except
open surrealdb_sync_protocol surrealdb_sync_protocol.subscription surrealdb_sync_protocol.bootstrap_codec
open surrealdb_sync_client
open surrealdb_rn_core.sync_state surrealdb_rn_core.sync_bootstrap_store

namespace surrealdb_rn_core.sync_bootstrap_store

inductive StageState where
  | Staging
  | Cancelled
  | Consumed (revision : UInt64)
deriving DecidableEq

structure StageInventory where
  incarnation : UInt64
  state : StageState
  indices : List UInt64
  expected_pages : UInt64

variable {F V C : Type} [DecidableEq V] (store : Store F V C)

def stage_state (header : Header) : SyncResult StageState :=
  match header.consumed_revision with
  | some revision => do return .Consumed (← parse_fence revision)
  | none => .ok (if header.cancelled then .Cancelled else .Staging)

/-- The part of `resume` after the stage is found. -/
def inventory (manifest : Option Bytes) (expected : BootstrapContext) (incarnation : Option UInt64) (stage : Stage)
    (db : Database C StageTables) : SyncResult StageInventory := do
  let persisted := stage.manifest.context
  admit_context persisted expected (manifest.isNone ∧ stage.header.cancelled)
  validate_header store stage.header.start stage.manifest persisted
  let current_incarnation ← parse_fence stage.header.incarnation
  refuse ((∃ expected ∈ manifest, stage.header.manifest ≠ expected) ∨ ∃ n ∈ incarnation, n ≠ current_incarnation)
    SyncStateError.RevisionConflict
  let key := BootstrapContext.key expected
  let current ← current_state store db key
  check_budget store key (← state_budget store current) stage
  return {
    incarnation := current_incarnation
    state := ← stage_state stage.header
    indices := stage.pages.keys
    expected_pages := stage.manifest.page_count }

/-- The manifest that a session presents. -/
def check_presented (expected : BootstrapContext) (manifest : Bytes) : SyncResult Unit := do
  refuse (manifest.length > MAX_SYNC_STATE_BYTES) SyncStateError.StateTooLarge
  let incoming ← corrupt (decode_bootstrap_manifest store.codec.ciborium manifest)
  refuse (incoming.context ≠ expected) SyncStateError.CorruptState

def resume (outcome : Outcome) (manifest : Option Bytes) (expected : BootstrapContext) (incarnation : Option UInt64)
    (db : Database C StageTables) : SyncResult (Option StageInventory) := do
  let key := BootstrapContext.key expected
  validate_key key
  forM manifest.toList (check_presented store expected)
  match outcome with
  | .Interrupted cause => .error cause.error
  | _ =>
    if ¬ db.stages.defined then do
      refuse (← read_fence db key).isSome SyncStateError.CorruptState
      return none
    else match (← inspect_stage store db key).stage with
      | none => do
        refuse (← read_fence db key).isSome SyncStateError.CorruptState
        return none
      | some stage => do return some (← inventory store manifest expected incarnation stage db)

end surrealdb_rn_core.sync_bootstrap_store

namespace surrealdb_rn_core.sync_state

variable {F V C : Type} [DecidableEq V] (store : Store F V C)

/-- What `inspect_known_tables` makes of the two formats of a journal. -/
def inspected_state (key : SyncStateKey) (state : Option (DurableClientState V)) (legacy : Option StoredRecord) :
    SyncResult (Option (DurableClientState V)) :=
  match state, legacy with
  | some state, some sentinel => do
    refuse (sentinel.format_version ≠ FORMAT_VERSION ∨ sentinel.partition_id ≠ key.partition_id.val
      ∨ sentinel.client_id ≠ key.client_id.val ∨ sentinel.payload ≠ MIGRATED_SENTINEL) SyncStateError.CorruptState
    refuse ((← parse_revision sentinel.revision) > state.revision) SyncStateError.CorruptState
    return some state
  | some state, none => .ok (some state)
  | none, some legacy => do return some (← decode_record store.platform key legacy)
  | none, none => .ok none

/-- `inspect`: a coherent read in a transaction that is cancelled. -/
def inspect (outcome : Outcome) (key : SyncStateKey) (db : Database C StageTables) :
    SyncResult (Option (DurableClientState V) × Option ScopeBarrier) := do
  validate_key key
  match outcome with
  | .Interrupted cause => .error cause.error
  | _ => do
    let _ ← preflight_inspection store db key
    let state ← inspected_state store key (← load_v2 store.platform db key) db.states[record_id key]?
    let barrier := db.barriers[record_id key]?
    forM barrier.toList validate_scope_barrier
    refuse (state.isNone ∧ barrier.isSome) SyncStateError.CorruptState
    return (state, barrier)

end surrealdb_rn_core.sync_state

namespace surrealdb_rn_core.sync_client

open sync_codec sync_subscription

/-! ### What a guard holds -/

/-- The state behind the lock of a key. Its two journals do not decide any of these calls. -/
structure Cell (V : Type) [DecidableEq V] extends RuntimeState V where
  bootstrap_binding : Option BootstrapContext
  bootstrap_binding_ticket : UInt64

/-- The next client of a cell, and its status. -/
def Cell.installed {V : Type} [DecidableEq V] (cell : Cell V) (prepared : PreparedTransition V) :
    Option (ClientRuntime V × NativeSyncStatus) := do
  let runtime ← (← cell.runtime).install prepared |>.toOption
  return (runtime, ← (status runtime).toOption)

inductive MutationPhase where
  | Clean
  | InFlight
  | Settled
deriving DecidableEq

/-- What a call reads and writes while it holds the lock: its cell, and the flags of its handle, its database and its
session, which others may set meanwhile. -/
structure RuntimeGuard (V : Type) [DecidableEq V] where
  cell : Cell V
  mutation_phase : MutationPhase
  poison_all : Bool
  local_closed : Bool
  session_ended : Bool

variable {F V C : Type} [DecidableEq V]

/-- The engine does not say that the transaction is over. -/
def unsettled {α : Type} : SyncResult α → Bool
  | .error .CommitUnknown | .error (.RollbackFailed _) => true
  | .error _ | .ok _ => false

namespace RuntimeGuard

variable (guard : RuntimeGuard V)

def ensure_session : NativeResult Unit := do
  refuse guard.poison_all .RecoveryRequired
  refuse guard.local_closed .Closed
  refuse guard.session_ended .RecoveryRequired

def client : NativeResult (ClientRuntime V) := do
  guard.ensure_session
  guard.cell.client

def read_client : NativeResult (ClientRuntime V) := do
  guard.ensure_session
  guard.cell.read_client

def with_slot (update : RuntimeState V → RuntimeState V) : RuntimeGuard V :=
  { guard with cell := { guard.cell with toRuntimeState := update guard.cell.toRuntimeState } }

def poison : RuntimeGuard V := { guard with poison_all := true }

def arm_mutation : RuntimeGuard V := { guard with mutation_phase := .InFlight }

def settled_mutation {α : Type} (result : SyncResult α) : RuntimeGuard V :=
  { guard with poison_all := guard.poison_all || unsettled result, mutation_phase := .Settled }

def disarm_mutation : RuntimeGuard V := { guard with mutation_phase := .Clean }

def invalidate_runtime : RuntimeGuard V := guard.with_slot sync_client.invalidate_runtime

def block (scope_blocked : ScopeBlock) : RuntimeGuard V :=
  guard.with_slot fun slot => { slot with scope_blocked := some scope_blocked }

def install (runtime : ClientRuntime V) : RuntimeGuard V :=
  guard.with_slot fun slot => { slot with runtime := some runtime }

/-- `Drop`. -/
def drop : RuntimeGuard V :=
  match guard.mutation_phase with
  | .Clean => guard
  | .InFlight => guard.poison.invalidate_runtime
  | .Settled => guard.invalidate_runtime

end RuntimeGuard

structure NativeSyncOpenOptions where
  partition_id : PartitionId
  client_id : ClientId
  requested_scope : ScopeIdentity
  subscription_revision : UInt64

inductive OpenMode where
  | CreateIfMissing
  | ExistingOnly

def NativeSyncOpenOptions.key (options : NativeSyncOpenOptions) : SyncStateKey :=
  ⟨options.partition_id, options.client_id⟩

/-- The state that a missing journal begins with. -/
def NativeSyncOpenOptions.initial (options : NativeSyncOpenOptions) : DurableClientState V :=
  .empty options.partition_id options.client_id options.requested_scope options.subscription_revision

/-- The check of a state that was found under the key. -/
def NativeSyncOpenOptions.check (options : NativeSyncOpenOptions) (state : DurableClientState V) : NativeResult Unit :=
  refuse (state.partition_id ≠ options.partition_id ∨ state.client_id ≠ options.client_id
    ∨ state.requested_scope ≠ options.requested_scope
    ∨ state.subscription_revision ≠ options.subscription_revision) .Protocol

/-! ### What a guard waits for -/

/-- The database calls of a guard. -/
inductive DatabaseCall (V : Type) where
  | define_schema
  | load (key : SyncStateKey)
  | inspect (key : SyncStateKey)
  | load_scope_barrier (key : SyncStateKey)
  | resume (manifest : Option Bytes) (expected : BootstrapContext) (incarnation : Option UInt64)
  | act (act : Act V)

def DatabaseCall.Reply : DatabaseCall V → Type
  | .define_schema => SyncResult Unit
  | .load _ => SyncResult (Option (DurableClientState V))
  | .inspect _ => SyncResult (Option (DurableClientState V) × Option ScopeBarrier)
  | .load_scope_barrier _ => SyncResult (Option ScopeBarrier)
  | .resume .. => SyncResult (Option StageInventory)
  | .act _ => SyncResult (sync_bootstrap_store.Reply V)

def DatabaseCall.unsettles : (request : DatabaseCall V) → request.Reply → Bool
  | .act _, reply => unsettled reply
  | .define_schema, _ | .load _, _ | .inspect _, _ | .load_scope_barrier _, _ | .resume .., _ => false

/-- The statements of `DEFINE_SCHEMA` leave the rows alone. -/
def define_schema : Outcome → SyncResult Unit
  | .Interrupted cause => .error cause.error
  | _ => .ok ()

def serve (store : Store F V C) (outcome : Outcome) (db : Database C StageTables) :
    (request : DatabaseCall V) → request.Reply × Database C StageTables
  | .define_schema => (define_schema outcome, db)
  | .load key => load store.platform outcome key db
  | .inspect key => (inspect store outcome key db, db)
  | .load_scope_barrier key => (load_scope_barrier outcome key db, db)
  | .resume manifest expected incarnation => (resume store outcome manifest expected incarnation db, db)
  | .act act => perform store outcome db act

/-- The code of a call, from the lock to its return. -/
abbrev Guarded (ε V : Type) [DecidableEq V] : Type → Type := Async ε (RuntimeGuard V) (@DatabaseCall.Reply V)

namespace Guarded

variable {ε : Type}

def define_schema : Guarded ε V (SyncResult Unit) := Async.call DatabaseCall.define_schema

def load (key : SyncStateKey) : Guarded ε V (SyncResult (Option (DurableClientState V))) :=
  Async.call (DatabaseCall.load key)

def inspect (key : SyncStateKey) : Guarded ε V (SyncResult (Option (DurableClientState V) × Option ScopeBarrier)) :=
  Async.call (DatabaseCall.inspect key)

def load_scope_barrier (key : SyncStateKey) : Guarded ε V (SyncResult (Option ScopeBarrier)) :=
  Async.call (DatabaseCall.load_scope_barrier key)

def resume (manifest : Option Bytes) (expected : BootstrapContext) (incarnation : Option UInt64) :
    Guarded ε V (SyncResult (Option StageInventory)) :=
  Async.call (DatabaseCall.resume manifest expected incarnation)

def transact (act : Act V) : Guarded ε V (SyncResult (sync_bootstrap_store.Reply V)) := Async.call (DatabaseCall.act act)

end Guarded

end surrealdb_rn_core.sync_client

namespace surrealdb_rn_core.sync_client.NativeSyncClient

open sync_codec sync_subscription

variable {F V C : Type} [DecidableEq V] (store : Store F V C)

/-! ### Persisting -/

/-- The exits that leave the client to recovery. -/
def abandon {α : Type} : Guarded NativeSyncError V α := do
  Async.modify RuntimeGuard.invalidate_runtime
  Async.throw .RecoveryRequired

def install (prepared : PreparedTransition V) : Guarded NativeSyncError V NativeSyncStatus := do
  let guard ← Async.get
  match guard.cell.installed prepared with
  | some (runtime, status) => do
    Async.modify fun guard => (guard.install runtime).disarm_mutation
    return status
  | none => abandon

/-- The part of `persist_and_install` after the transaction. -/
def settle_persisted {α : Type} (prepared : PreparedTransition V) (persisted : SyncResult α) :
    Guarded NativeSyncError V NativeSyncStatus := do
  Async.modify fun guard => guard.settled_mutation persisted
  let guard ← Async.get
  if unsettled persisted ∨ ¬ guard.ensure_session.isOk then abandon
  else match persisted with
    | .error failed => do
      Async.modify RuntimeGuard.disarm_mutation
      Async.throw (map_persistence_error failed)
    | .ok _ => install prepared

def persist_and_install (prepared : PreparedTransition V) : Guarded NativeSyncError V NativeSyncStatus := do
  let current ← Async.read RuntimeGuard.client
  Async.lift (validate_state_codec store.codec prepared.state)
  Async.modify RuntimeGuard.arm_mutation
  let persisted ← Guarded.transact (.apply_transition current.state prepared.state)
  settle_persisted prepared persisted

/-- The calls whose transition needs nothing but the client: `enqueue`, `record_push_response_with_policy` and the
three resolutions. Their texts are decoded before the lock is taken. -/
def mutate (call : NativeCall V) : Guarded NativeSyncError V NativeSyncStatus := do
  let runtime ← Async.read RuntimeGuard.client
  let prepared ← Async.lift (prepare store.codec runtime call)
  persist_and_install store prepared

def enqueue_bounded_owned (json : sync_queue.JsonWriter (ClientCommit V)) (commit : ClientCommit V)
    (count bytes : UInt32) : Guarded NativeSyncError V NativeSyncStatus := do
  Async.lift (sync_queue.limits count bytes)
  let runtime ← Async.read RuntimeGuard.client
  let commit ← Async.lift (fingerprinted store.codec runtime.state commit)
  match prior_commit runtime.state commit.identity.client_commit_id with
  | some prior => Async.lift (if prior ≠ commit then .error .Protocol else status runtime)
  | none => do
    Async.lift (sync_queue.admits json runtime.state.outbox commit count bytes)
    let prepared ← Async.lift (map_err (runtime.prepare_enqueue commit) map_protocol_error)
    persist_and_install store prepared

/-! ### Scope barriers -/

def refresh_scope_barrier : Guarded NativeSyncError V Unit := do
  let runtime ← Async.read RuntimeGuard.client
  match ← Guarded.load_scope_barrier (.of runtime.state) with
  | .ok (some barrier) => Async.modify fun guard => guard.block (.from_reason barrier.reason)
  | .ok none => return ()
  | .error _ => abandon

/-- Writes the row that a scope asks for. -/
def save_scope_barrier (runtime : ClientRuntime V) (block : ScopeBlock) (scope : ScopeSnapshot) :
    Guarded NativeSyncError V Unit := do
  Async.modify RuntimeGuard.arm_mutation
  let result ← Guarded.transact (.save_scope_barrier (.of runtime.state) (scope_barrier block scope))
  Async.modify fun guard => guard.settled_mutation result
  match result with
  | .error _ => abandon
  | .ok _ => return ()

def apply_pull_response_owned (response : PullResponse V) : Guarded NativeSyncError V NativeSyncStatus := do
  Async.lift (validate_pull_response_values store.codec response)
  let runtime ← Async.read RuntimeGuard.client
  match runtime.prepare_pull_response response with
  | .ok prepared => persist_and_install store prepared
  | .error refused => do
    Async.modify fun guard => guard.with_slot fun slot =>
      { slot with scope_blocked := (ScopeBlock.of_error refused).or slot.scope_blocked }
    let guard ← Async.get
    match guard.cell.scope_blocked, required_scope response with
    | some block, some scope => do
      let runtime ← Async.read RuntimeGuard.client
      save_scope_barrier runtime block scope
      Async.modify RuntimeGuard.disarm_mutation
      Async.throw (map_protocol_error refused)
    | _, _ => Async.throw (map_protocol_error refused)

def start_subscription_owned (request : SubscriptionRequest) : Guarded NativeSyncError V NativeSyncStatus := do
  refresh_scope_barrier
  let runtime ← Async.read RuntimeGuard.read_client
  let prepared ← Async.lift (map_err (runtime.prepare_start_subscription request) map_protocol_error)
  persist_and_install store prepared

/-- Cancellation stays available after quarantine. -/
def cancel_subscription_owned (subscription_id : String) (generation : UInt64) :
    Guarded NativeSyncError V NativeSyncStatus := do
  refresh_scope_barrier
  let runtime ← Async.read RuntimeGuard.client
  let prepared ← Async.lift (map_err (runtime.prepare_cancel_subscription subscription_id generation)
    map_protocol_error)
  persist_and_install store prepared

/-- A response for another scope blocks the client and cancels its subscription. -/
def withdraw_subscription (response : SubscriptionResponse V) (block : ScopeBlock) (refused : ClientError) :
    Guarded NativeSyncError V NativeSyncStatus := do
  Async.modify fun guard => guard.block block
  let runtime ← Async.read RuntimeGuard.client
  save_scope_barrier runtime block response.scope
  let runtime ← Async.read RuntimeGuard.client
  let cancel ← Async.lift (map_err
    (runtime.prepare_cancel_subscription response.subscription_id response.generation) map_protocol_error)
  let _ ← persist_and_install store cancel
  Async.throw (map_protocol_error refused)

def apply_subscription_response_owned (response : SubscriptionResponse V) :
    Guarded NativeSyncError V NativeSyncStatus := do
  let response ← Async.lift (parse_response store.codec response)
  refresh_scope_barrier
  let runtime ← Async.read RuntimeGuard.read_client
  match runtime.prepare_subscription_response response with
  | .ok prepared => persist_and_install store prepared
  | .error refused =>
    match ScopeBlock.of_error refused with
    | some block => withdraw_subscription store response block refused
    | none => Async.throw (map_protocol_error refused)

/-! ### Opening -/

def inspect_existing (options : NativeSyncOpenOptions) :
    Guarded NativeSyncError V (DurableClientState V × Option ScopeBlock) := do
  let (state, barrier) ← Async.lift (map_err (← Guarded.inspect options.key) map_persistence_error)
  let state ← Async.lift (okOr state NativeSyncError.RecoveryRequired)
  Async.lift (options.check state)
  Async.lift (validate_state_codec store.codec state)
  let blocked := barrier.map fun barrier => ScopeBlock.from_reason barrier.reason
  let guard ← Async.get
  Async.lift (refuse (∃ runtime ∈ guard.cell.runtime, runtime.state ≠ state ∨ guard.cell.scope_blocked ≠ blocked)
    NativeSyncError.RecoveryRequired)
  return (state, blocked)

/-- `save_atomic`, whose `load` may migrate. -/
def save_atomic (state : DurableClientState V) : Guarded NativeSyncError V (SyncResult Unit) := do
  match prepare_state_write store.platform none state with
  | .error refused => return .error refused
  | .ok _ =>
    match ← Guarded.load (.of state) with
    | .error failed => return .error failed
    | .ok _ =>
      let saved ← Guarded.transact (.save none state)
      return saved.map fun _ => ()

/-- A journal that is not there is begun; one that another owner has begun meanwhile is loaded. -/
def begin_journal (options : NativeSyncOpenOptions) : Guarded NativeSyncError V (DurableClientState V) := do
  Async.modify RuntimeGuard.arm_mutation
  let saved ← save_atomic store options.initial
  Async.modify fun guard => guard.settled_mutation saved
  let guard ← Async.get
  if guard.poison_all then Async.throw .RecoveryRequired
  else match saved with
    | .ok _ => return options.initial
    | .error .RevisionConflict => do
      let loaded ← Async.lift (map_err (← Guarded.load options.key) map_persistence_error)
      Async.lift (okOr loaded .Persistence)
    | .error failed => Async.throw (map_persistence_error failed)

def load_or_begin (options : NativeSyncOpenOptions) : Guarded NativeSyncError V (DurableClientState V) := do
  match ← Async.lift (map_err (← Guarded.load options.key) map_persistence_error) with
  | some state => return state
  | none => begin_journal store options

/-- The statements of the schema run outside of a transaction, so an error of the database may leave them unsettled. -/
def install_schema : Guarded NativeSyncError V Unit := do
  Async.modify RuntimeGuard.arm_mutation
  let defined ← Guarded.define_schema
  Async.modify fun guard => (if defined = .error .Database then guard.poison else guard).settled_mutation defined
  if defined = .error .Database then Async.throw .RecoveryRequired
  else Async.lift (map_err defined map_persistence_error)

def open_journal (options : NativeSyncOpenOptions) :
    Guarded NativeSyncError V (DurableClientState V × Option ScopeBlock) := do
  install_schema
  let state ← load_or_begin store options
  Async.lift (options.check state)
  Async.lift (validate_state_codec store.codec state)
  let barrier ← Async.lift (map_err (← Guarded.load_scope_barrier options.key) fun _ => .RecoveryRequired)
  return (state, barrier.map fun barrier => ScopeBlock.from_reason barrier.reason)

/-- `rotates` says whether the two journals of the cell can be rotated. -/
def adopt (rotates : Bool) (opened : DurableClientState V × Option ScopeBlock) : Guarded NativeSyncError V Unit := do
  let runtime ← Async.lift (map_err (ClientRuntime.open opened.1) map_protocol_error)
  let guard ← Async.get
  if guard.cell.recovery_required ∧ ¬ rotates then abandon
  else Async.modify fun guard => guard.with_slot fun _ => ⟨some runtime, false, opened.2⟩

/-- The end of `initialize_runtime`. -/
def finish_opening (options : NativeSyncOpenOptions) : Guarded NativeSyncError V Unit := do
  let runtime ← Async.read RuntimeGuard.client
  Async.lift (refuse (runtime.state.requested_scope ≠ options.requested_scope
    ∨ runtime.state.subscription_revision ≠ options.subscription_revision) NativeSyncError.Protocol)
  let guard ← Async.get
  if guard.session_ended then abandon
  else Async.modify RuntimeGuard.disarm_mutation

/-- Takes over the journal when the cell has no client yet. -/
def attach (rotates : Bool) (options : NativeSyncOpenOptions)
    (existing : Option (DurableClientState V × Option ScopeBlock)) : Guarded NativeSyncError V Unit := do
  let guard ← Async.get
  if guard.cell.runtime.isSome then return ()
  else match existing with
    | some existing => adopt rotates existing
    | none => do
      let opened ← open_journal store options
      adopt rotates opened

def initialize_runtime (rotates : Bool) (options : NativeSyncOpenOptions) :
    OpenMode → Guarded NativeSyncError V Unit
  | .ExistingOnly => do
    Async.read RuntimeGuard.ensure_session
    let existing ← inspect_existing store options
    attach store rotates options (some existing)
    finish_opening options
  | .CreateIfMissing => do
    Async.read RuntimeGuard.ensure_session
    attach store rotates options none
    finish_opening options

/-! ### Reads -/

/-- The reads that a scope barrier does not block answer from this client. -/
def observe : Guarded NativeSyncError V (ClientRuntime V) := Async.read RuntimeGuard.client

/-- All other reads answer from this one. -/
def observe_authorized : Guarded NativeSyncError V (ClientRuntime V) := do
  refresh_scope_barrier
  Async.read RuntimeGuard.read_client

end surrealdb_rn_core.sync_client.NativeSyncClient
