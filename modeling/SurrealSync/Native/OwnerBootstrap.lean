import SurrealSync.Native.Owner

open Std Except
open surrealdb_sync_protocol surrealdb_sync_protocol.bootstrap_codec
open surrealdb_sync_client
open surrealdb_rn_core.sync_state surrealdb_rn_core.sync_bootstrap_store surrealdb_rn_core.sync_client

namespace surrealdb_rn_core.sync_bootstrap

inductive NativeBootstrapError where
  | InvalidInput
  | InvalidFrame
  | ContextMismatch
  | StageMismatch
  | CapacityExceeded
  | CorruptStage
  | Expired
  | ClockUnavailable
  | Closed
  | NeedsNewScopeJournal
  | PendingQuarantineRequired
  | RecoveryRequired
  | Storage
deriving DecidableEq

def NativeBootstrapError.from_native : NativeSyncError → NativeBootstrapError
  | .Closed => .Closed
  | .RecoveryRequired => .RecoveryRequired
  | .NeedsNewScopeJournal => .NeedsNewScopeJournal
  | .PendingQuarantineRequired => .PendingQuarantineRequired
  | .InvalidInput | .ReadOutputTooLarge => .InvalidInput
  | .Protocol | .InvalidSubscription => .InvalidFrame
  | _ => .Storage

def NativeBootstrapError.from_store : SyncStateError → NativeBootstrapError
  | .IdentityTooLarge => .InvalidInput
  | .StateTooLarge => .CapacityExceeded
  | .RevisionConflict | .RevisionMismatch => .StageMismatch
  | .CommitUnknown | .RollbackFailed _ => .RecoveryRequired
  | .CorruptState | .Decode => .CorruptStage
  | .InvalidState .NeedsNewScopeJournal => .NeedsNewScopeJournal
  | .InvalidState .PendingQuarantineRequired => .PendingQuarantineRequired
  | .UnsupportedRecordId | .RecordValueMustBeObject | .ValueCodec | .InvalidState _ => .InvalidFrame
  | _ => .Storage

abbrev BootstrapResult := Except NativeBootstrapError

/-- A session: what its application bound it to, its own identity, and the ticket of its binding. -/
structure NativeBootstrapSession where
  expected : BootstrapContext
  binding : Nat
  ticket : UInt64

/-- A handle to a stage, of the session that made it. -/
structure NativeBootstrapStage where
  binding : Nat
  manifest : Bytes
  incarnation : UInt64

structure NativeBootstrapProgress where
  state : Option StageState
  stage : Option NativeBootstrapStage
  received_indices : Option (List UInt64)
  expected_pages : Option UInt64

inductive NativeBootstrapCompletion where
  | Applied
  | HistoricalSuccess
deriving DecidableEq

variable {F V C : Type} [DecidableEq V] (store : Store F V C)

/-- A refusal that is told as `error`. -/
def told {ε α : Type} (result : Except ε α) (error : NativeBootstrapError) : BootstrapResult α :=
  result.mapError fun _ => error

/-- The bounds of `NativeBootstrapContext::validated`. -/
def validated (context : BootstrapContext) : BootstrapResult BootstrapContext := do
  refuse (∃ key ∈ [context.partition_id.val, context.client_id.val, context.scope.identity.val],
    key.isEmpty ∨ key.utf8ByteSize > sync_state.MAX_IDENTITY_BYTES) .InvalidInput
  refuse (∃ key ∈ [context.authority_id, context.principal_id, context.journal_generation],
    key.isEmpty ∨ key.utf8ByteSize > http_codec.MAX_IDENTITY_BYTES) .InvalidInput
  return context

def bounded (raw : Bytes) : BootstrapResult Unit := refuse (raw.length > MAX_SYNC_STATE_BYTES) .InvalidInput

namespace NativeBootstrapSession

variable (self : NativeBootstrapSession)

def stage (manifest : Bytes) (incarnation : UInt64) : NativeBootstrapStage := ⟨self.binding, manifest, incarnation⟩

def validate_stage (stage : NativeBootstrapStage) : BootstrapResult Unit :=
  refuse (self.binding ≠ stage.binding) .StageMismatch

def manifest (raw : Bytes) : BootstrapResult BootstrapManifest := do
  bounded raw
  let manifest ← told (decode_bootstrap_manifest store.codec.ciborium raw) .InvalidFrame
  refuse (manifest.context ≠ self.expected) .ContextMismatch
  return manifest

/-- The checks of `page_owned` before it takes the lock. -/
def check_page (stage : NativeBootstrapStage) (bytes : Bytes) : BootstrapResult Unit := do
  self.validate_stage stage
  bounded bytes
  let page ← told (decode_bootstrap_page store.codec.ciborium bytes) .InvalidFrame
  let manifest ← self.manifest store stage.manifest
  let digest ← told (bootstrap_manifest_digest store.codec.ciborium store.codec.sha256 manifest) .InvalidFrame
  refuse (page.session_id ≠ manifest.session_id ∨ page.manifest_digest ≠ digest) .StageMismatch

/-- The checks of `begin_owned`. -/
def check_begin (start manifest : Bytes) : BootstrapResult Unit := do
  bounded start
  let decoded ← self.manifest store manifest
  let request ← told (decode_bootstrap_start store.codec.ciborium start) .InvalidFrame
  told (validate_bootstrap_manifest_context store.codec.ciborium store.codec.sha256 decoded request self.expected)
    .InvalidFrame

/-- The checks of `complete_owned`. -/
def check_receipt (stage : NativeBootstrapStage) (receipt : Bytes) : BootstrapResult Unit := do
  self.validate_stage stage
  bounded receipt
  let decoded ← told (decode_bootstrap_receipt store.codec.ciborium receipt) .InvalidFrame
  let manifest ← self.manifest store stage.manifest
  told (validate_bootstrap_receipt store.codec.ciborium store.codec.sha256 manifest decoded) .StageMismatch

end NativeBootstrapSession

end surrealdb_rn_core.sync_bootstrap

namespace surrealdb_rn_core.sync_client

open sync_bootstrap

variable {V : Type} [DecidableEq V]

/-- What a session expects of the client of its cell. -/
def check_context (expected : BootstrapContext) (state : DurableClientState V) : Prop :=
  state.partition_id = expected.partition_id ∧ state.client_id = expected.client_id ∧
    state.requested_scope = expected.scope.identity ∧ state.subscription_revision = expected.scope.subscription_revision

instance (expected : BootstrapContext) (state : DurableClientState V) : Decidable (check_context expected state) :=
  inferInstanceAs (Decidable (_ ∧ _ ∧ _ ∧ _))

/-- The ticket is that of the present binding, and the binding is that of the session. -/
def Cell.bound (cell : Cell V) (ticket : Option UInt64) (expected : BootstrapContext) : Prop :=
  ∀ number ∈ ticket, number = cell.bootstrap_binding_ticket ∧ cell.bootstrap_binding = some expected

instance (cell : Cell V) (ticket : Option UInt64) (expected : BootstrapContext) :
    Decidable (cell.bound ticket expected) :=
  match ticket with
  | none => isTrue nofun
  | some number =>
    decidable_of_iff (number = cell.bootstrap_binding_ticket ∧ cell.bootstrap_binding = some expected)
      ⟨fun hbound _ hnumber => Option.some.inj hnumber ▸ hbound, fun hbound => hbound number rfl⟩

/-- `same_owner` with the binding of the cell, and no lower authorization revision than it and the checkpoint have. -/
def Cell.admits (cell : Cell V) (expected : BootstrapContext) (state : DurableClientState V) : Prop :=
  (∀ checkpoint ∈ state.checkpoint,
      ¬ expected.scope.authorization_revision < checkpoint.scope.authorization_revision) ∧
    ∀ context ∈ cell.bootstrap_binding, same_owner context expected ∧
      ¬ expected.scope.authorization_revision < context.scope.authorization_revision

instance (cell : Cell V) (expected : BootstrapContext) (state : DurableClientState V) :
    Decidable (cell.admits expected state) :=
  inferInstanceAs (Decidable ((∀ _ ∈ _, _) ∧ ∀ _ ∈ _, _))

/-- The checks of `bootstrap_access` under the lock. -/
def RuntimeGuard.bootstrap_access (expected : BootstrapContext) (ticket : Option UInt64) (guard : RuntimeGuard V) :
    BootstrapResult Unit := do
  let runtime ← guard.client.mapError NativeBootstrapError.from_native
  refuse (¬ check_context expected runtime.state) .ContextMismatch
  refuse (¬ guard.cell.admits expected runtime.state ∨ ¬ guard.cell.bound ticket expected) .ContextMismatch

/-- `bind`: the same context keeps its ticket, another one takes the next. -/
def Cell.bind (cell : Cell V) (expected : BootstrapContext) : BootstrapResult (Cell V) :=
  if cell.bootstrap_binding = some expected then .ok cell
  else do
    let next ← okOr (cell.bootstrap_binding_ticket.checked_add 1) NativeBootstrapError.RecoveryRequired
    return { cell with bootstrap_binding := some expected, bootstrap_binding_ticket := next }

end surrealdb_rn_core.sync_client

namespace surrealdb_rn_core.sync_client.BootstrapAccess

open sync_bootstrap

variable {V : Type} [DecidableEq V]

def check_writable : Guarded NativeBootstrapError V Unit := do
  Async.mapError .from_native NativeSyncClient.refresh_scope_barrier
  let _ ← Async.read fun guard => guard.read_client.mapError NativeBootstrapError.from_native
  return ()

/-- The part of `finish` after a mutation is marked as settled. -/
def conclude {α : Type} (result : SyncResult α) : Guarded NativeBootstrapError V α := do
  let guard ← Async.get
  if unsettled result ∨ ¬ guard.ensure_session.isOk then do
    Async.modify RuntimeGuard.invalidate_runtime
    Async.throw .RecoveryRequired
  else do
    Async.modify RuntimeGuard.disarm_mutation
    Async.lift (result.mapError .from_store)

/-- `finish` of a mutation. -/
def finish_mutation {α : Type} (result : SyncResult α) : Guarded NativeBootstrapError V α := do
  Async.modify fun guard => guard.settled_mutation result
  conclude result

/-- A mutation of the stage: armed, sent and finished. -/
def mutate (act : Act V) : Guarded NativeBootstrapError V (sync_bootstrap_store.Reply V) := do
  Async.modify RuntimeGuard.arm_mutation
  let result ← Guarded.transact act
  finish_mutation result

def bind (expected : BootstrapContext) : Guarded NativeBootstrapError V UInt64 := do
  let cell ← Async.read fun guard => guard.cell.bind expected
  Async.modify fun guard => { guard with cell }
  return cell.bootstrap_binding_ticket

end surrealdb_rn_core.sync_client.BootstrapAccess

namespace surrealdb_rn_core.sync_client.NativeSyncClient

open sync_bootstrap

variable {F V C : Type} [DecidableEq V]

def completion_error : SyncStateError → NativeSyncError
  | .InvalidState invalid => map_protocol_error invalid
  | failed => map_persistence_error failed

/-- A completion that is refused tells the barrier, when there is one. -/
def refuse_completion {α : Type} (failed : SyncStateError) : Guarded NativeSyncError V α := do
  Async.modify RuntimeGuard.disarm_mutation
  refresh_scope_barrier
  let guard ← Async.get
  match guard.cell.scope_blocked with
  | some .NewJournal => Async.throw .NeedsNewScopeJournal
  | some .PendingQuarantine => Async.throw .PendingQuarantineRequired
  | none => Async.throw (completion_error failed)

/-- The rest of a completion, after what it has left is inspected. -/
def publish_completion (rotates : Bool) (completion : Completion V) (latest : DurableClientState V)
    (barrier : Option ScopeBarrier) : Guarded NativeSyncError V Bool := do
  let guard ← Async.get
  match completion with
  | .HistoricalSuccess =>
    if ¬ ∃ runtime ∈ guard.cell.runtime, runtime.state = latest then abandon
    else do
      Async.modify fun guard => (guard.with_slot fun slot => { slot with
        scope_blocked := (barrier.map fun barrier => ScopeBlock.from_reason barrier.reason).or slot.scope_blocked
        }).disarm_mutation
      return false
  | .Applied applied =>
    if latest ≠ applied ∨ barrier.isSome then abandon
    else match ClientRuntime.open latest with
      | .error _ => abandon
      | .ok runtime =>
        if ¬ rotates then abandon
        else do
          Async.modify fun guard => (guard.with_slot fun slot => { slot with
            runtime := some runtime, recovery_required := false }).disarm_mutation
          return true

/-- The part of `complete_bootstrap_bound` after the transaction went through. -/
def inspect_completion (rotates : Bool) (expected : BootstrapContext) (completion : Completion V) :
    Guarded NativeSyncError V Bool := do
  let inspected ← Guarded.inspect (BootstrapContext.key expected)
  match inspected with
  | .ok (some latest, barrier) => do
    let guard ← Async.get
    if ¬ guard.ensure_session.isOk then abandon
    else publish_completion rotates completion latest barrier
  | .ok (none, _) | .error _ => abandon

def complete_bootstrap_bound (rotates : Bool) (receipt : Bytes) (expected : BootstrapContext) (incarnation : UInt64)
    (clock : CompletionClock) (ticket : Option UInt64) : Guarded NativeSyncError V Bool := do
  Async.read fun guard => refuse (¬ guard.cell.bound ticket expected) NativeSyncError.Protocol
  let runtime ← Async.read RuntimeGuard.client
  Async.lift (refuse (¬ check_context expected runtime.state) NativeSyncError.Protocol)
  Async.modify RuntimeGuard.arm_mutation
  let result ← Guarded.transact (.complete receipt expected incarnation clock)
  Async.modify fun guard => guard.settled_mutation result
  let guard ← Async.get
  if unsettled result ∨ ¬ guard.ensure_session.isOk then abandon
  else match result with
    | .error failed => refuse_completion failed
    | .ok (.completed completion) => inspect_completion rotates expected completion
    | .ok (.begun _) | .ok .done => abandon

end surrealdb_rn_core.sync_client.NativeSyncClient

namespace surrealdb_rn_core.sync_bootstrap

variable {F V C : Type} [DecidableEq V] (store : Store F V C)

/-- What a refused binding is told. -/
def rename_mismatch (error : NativeBootstrapError) : NativeBootstrapError :=
  if error = .StageMismatch then .ContextMismatch else error

def bind_bootstrap_session (context : BootstrapContext) : Guarded NativeBootstrapError V UInt64 := do
  let expected ← Async.lift (validated context)
  Async.read fun guard => guard.bootstrap_access expected none
  let result ← Guarded.resume none expected none
  let _ ← Async.mapError rename_mismatch (BootstrapAccess.conclude result)
  BootstrapAccess.bind expected

namespace NativeBootstrapSession

variable (self : NativeBootstrapSession)

/-- Whether the session may still ask for a start. -/
def request_start : Guarded NativeBootstrapError V Unit := do
  Async.read fun guard => guard.bootstrap_access self.expected (some self.ticket)
  BootstrapAccess.conclude (.ok ())

def request_manifest (stage : NativeBootstrapStage) : Guarded NativeBootstrapError V BootstrapManifest := do
  Async.lift (self.validate_stage stage)
  let manifest ← Async.lift (self.manifest store stage.manifest)
  Async.read fun guard => guard.bootstrap_access self.expected (some self.ticket)
  let result ← Guarded.resume (some stage.manifest) self.expected (some stage.incarnation)
  let inventory ← BootstrapAccess.conclude result
  let inventory ← Async.lift (okOr inventory NativeBootstrapError.StageMismatch)
  Async.lift (refuse (inventory.state = .Cancelled) NativeBootstrapError.StageMismatch)
  return manifest

/-- What `progress` tells of a stage. -/
def progress_of (manifest : Bytes) : Option StageInventory → NativeBootstrapProgress
  | none => ⟨none, none, none, none⟩
  | some inventory =>
    ⟨some inventory.state, some (self.stage manifest inventory.incarnation), some inventory.indices,
      some inventory.expected_pages⟩

def progress (manifest : Bytes) : Guarded NativeBootstrapError V NativeBootstrapProgress := do
  let _ ← Async.lift (self.manifest store manifest)
  Async.read fun guard => guard.bootstrap_access self.expected (some self.ticket)
  let result ← Guarded.resume (some manifest) self.expected none
  let inventory ← BootstrapAccess.conclude result
  return self.progress_of manifest inventory

def begin_owned (start manifest : Bytes) : Guarded NativeBootstrapError V NativeBootstrapStage := do
  Async.lift (self.check_begin store start manifest)
  Async.read fun guard => guard.bootstrap_access self.expected (some self.ticket)
  BootstrapAccess.check_writable
  match ← BootstrapAccess.mutate (.begin start manifest self.expected) with
  | .begun incarnation => return self.stage manifest incarnation
  | .completed _ | .done => Async.throw .Storage

def page_owned (stage : NativeBootstrapStage) (bytes : Bytes) : Guarded NativeBootstrapError V Unit := do
  Async.lift (self.check_page store stage bytes)
  Async.read fun guard => guard.bootstrap_access self.expected (some self.ticket)
  BootstrapAccess.check_writable
  let _ ← BootstrapAccess.mutate (.stage_page bytes self.expected stage.incarnation)
  return ()

def cancel_owned (stage : NativeBootstrapStage) : Guarded NativeBootstrapError V Unit := do
  Async.lift (self.validate_stage stage)
  Async.read fun guard => guard.bootstrap_access self.expected (some self.ticket)
  let _ ← BootstrapAccess.mutate (.cancel stage.manifest self.expected stage.incarnation)
  return ()

/-- `reason` is what the clock had found when the completion was refused. -/
def complete_owned (rotates : Bool) (clock : CompletionClock) (reason : Option NativeBootstrapError)
    (stage : NativeBootstrapStage) (receipt : Bytes) : Guarded NativeBootstrapError V NativeBootstrapCompletion := do
  Async.lift (self.check_receipt store stage receipt)
  let applied ← Async.mapError (fun error => if error = .RecoveryRequired then .RecoveryRequired
      else reason.getD (.from_native error))
    (NativeSyncClient.complete_bootstrap_bound rotates receipt self.expected stage.incarnation clock (some self.ticket))
  return if applied then .Applied else .HistoricalSuccess

end NativeBootstrapSession

end surrealdb_rn_core.sync_bootstrap
