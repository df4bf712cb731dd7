import SurrealSync.Native.BootstrapRuns
import SurrealSync.Native.Enqueue

open Std Except
open surrealdb_sync_protocol surrealdb_sync_protocol.subscription surrealdb_sync_client
open surrealdb_rn_core.sync_state surrealdb_rn_core.sync_bootstrap_store

namespace surrealdb_rn_core.sync_client

open sync_codec sync_subscription

inductive ScopeBlock where
  | PendingQuarantine
  | NewJournal
deriving DecidableEq

def ScopeBlock.reason : ScopeBlock → String
  | .PendingQuarantine => "pending_quarantine_required"
  | .NewJournal => "needs_new_scope_journal"

def ScopeBlock.from_reason (reason : String) : ScopeBlock :=
  if reason = "pending_quarantine_required" then .PendingQuarantine else .NewJournal

/-- The state behind the lock of a client. Its two journals do not decide any of these calls. -/
structure RuntimeState (V : Type) [DecidableEq V] where
  runtime : Option (ClientRuntime V)
  recovery_required : Bool
  scope_blocked : Option ScopeBlock

/-- What the database does with each transaction of one call, and what `ensure_session` says when the call starts and
after its state is persisted. -/
structure Environment where
  session : NativeResult Unit
  refresh : Outcome
  barrier : Outcome
  persist : Outcome
  session_after : NativeResult Unit

/-- What a call answers and leaves. -/
structure Settlement (V C : Type) [DecidableEq V] where
  answer : NativeResult NativeSyncStatus
  slot : RuntimeState V
  db : Database C StageTables

variable {F V C : Type} [DecidableEq V]

def RuntimeState.client (slot : RuntimeState V) : NativeResult (ClientRuntime V) :=
  okOr slot.runtime (if slot.recovery_required then .RecoveryRequired else .Closed)

def RuntimeState.read_client (slot : RuntimeState V) : NativeResult (ClientRuntime V) := do
  let client ← slot.client
  match slot.scope_blocked with
  | some .PendingQuarantine => .error .PendingQuarantineRequired
  | some .NewJournal => .error .NeedsNewScopeJournal
  | none => .ok client

def invalidate_runtime (slot : RuntimeState V) : RuntimeState V :=
  { slot with runtime := none, recovery_required := true }

/-- `drop` of the guard, after a mutation that was armed and not disarmed. -/
def RuntimeState.drop (armed : Bool) (slot : RuntimeState V) : RuntimeState V :=
  if armed then invalidate_runtime slot else slot

def map_persistence_error : SyncStateError → NativeSyncError
  | .IdentityTooLarge | .StateTooLarge | .UnsupportedRecordId | .RecordValueMustBeObject | .ValueCodec => .InvalidInput
  | .InvalidState _ => .Protocol
  | .RevisionMismatch | .RevisionConflict | .CorruptState | .Encode | .Decode | .Database | .Core | .RollbackFailed _ =>
    .Persistence
  | .CommitUnknown => .RecoveryRequired

variable (store : Store F V C)

def load_scope_barrier (outcome : Outcome) (key : SyncStateKey) (db : Database C StageTables) :
    SyncResult (Option ScopeBarrier) := do
  validate_key key
  match outcome with
  | .Interrupted cause => .error cause.error
  | _ => do
    forM db.barriers[record_id key]?.toList validate_scope_barrier
    return db.barriers[record_id key]?

/-- The end of `persist_and_install`, after the transaction went through. -/
def RuntimeState.install (runtime : ClientRuntime V) (prepared : PreparedTransition V) (slot : RuntimeState V)
    (db : Database C StageTables) : Settlement V C :=
  match runtime.install prepared with
  | .error _ => ⟨.error .RecoveryRequired, invalidate_runtime slot, db⟩
  | .ok runtime =>
    match status runtime with
    | .error _ => ⟨.error .RecoveryRequired, invalidate_runtime slot, db⟩
    | .ok status => ⟨.ok status, { slot with runtime := some runtime }, db⟩

/-- `persist_and_install` over the store. -/
def RuntimeState.persist_and_install (environment : Environment) (armed : Bool) (prepared : PreparedTransition V)
    (slot : RuntimeState V) (db : Database C StageTables) : Settlement V C :=
  match slot.client, validate_state_codec store.codec prepared.state with
  | .error closed, _ => ⟨.error closed, slot.drop armed, db⟩
  | .ok _, .error invalid => ⟨.error invalid, slot.drop armed, db⟩
  | .ok runtime, .ok () =>
    match apply_transition_atomic store.platform environment.persist runtime.state prepared.state db with
    | (.error .CommitUnknown, db) => ⟨.error .RecoveryRequired, invalidate_runtime slot, db⟩
    | (.error (.RollbackFailed _), db) => ⟨.error .RecoveryRequired, invalidate_runtime slot, db⟩
    | (persisted, db) =>
      match environment.session_after, persisted with
      | .error _, _ => ⟨.error .RecoveryRequired, invalidate_runtime slot, db⟩
      | .ok (), .error failed => ⟨.error (map_persistence_error failed), slot, db⟩
      | .ok (), .ok _ => slot.install runtime prepared db

/-- The row that a scope asks for. -/
def scope_barrier (block : ScopeBlock) (scope : ScopeSnapshot) : ScopeBarrier where
  reason := block.reason
  required_scope := scope.identity.val
  required_subscription_revision := scope.subscription_revision.to_string
  required_authorization_revision := scope.authorization_revision.to_string

/-- The block that an error of the transition sets. -/
def ScopeBlock.of_error : ClientError → Option ScopeBlock
  | .PendingQuarantineRequired => some .PendingQuarantine
  | .NeedsNewScopeJournal => some .NewJournal
  | _ => none

/-! ### Pull responses -/

/-- The scope that a pull response was written for, when it has one. -/
def required_scope : PullResponse V → Option ScopeSnapshot
  | .Reset snapshot => some snapshot.checkpoint.scope
  | .Batch batch => batch.frames.findSome? fun
    | .End checkpoint => some checkpoint.scope
    | .Start _ | .Commit .. => none

/-- The path of a pull response that the transition refuses. -/
def refuse_pull_response (environment : Environment) (runtime : ClientRuntime V) (response : PullResponse V)
    (refused : ClientError) (slot : RuntimeState V) (db : Database C StageTables) : Settlement V C :=
  let slot := { slot with scope_blocked := (ScopeBlock.of_error refused).or slot.scope_blocked }
  match slot.scope_blocked, required_scope response with
  | some block, some scope =>
    match finish environment.barrier db (save_scope_barrier store (.of runtime.state) (scope_barrier block scope) db) with
    | (.error _, db) => ⟨.error .RecoveryRequired, invalidate_runtime slot, db⟩
    | (.ok (), db) => ⟨.error (map_protocol_error refused), slot, db⟩
  | _, _ => ⟨.error (map_protocol_error refused), slot, db⟩

/-- `decoded` is what `decode_input` makes of the text. -/
def apply_pull_response (environment : Environment) (decoded : NativeResult (PullResponse V)) (slot : RuntimeState V)
    (db : Database C StageTables) : Settlement V C :=
  match decoded with
  | .error invalid => ⟨.error invalid, slot, db⟩
  | .ok response =>
    match validate_pull_response_values store.codec response, environment.session, slot.client with
    | .error invalid, _, _ => ⟨.error invalid, slot, db⟩
    | .ok (), .error changed, _ => ⟨.error changed, slot, db⟩
    | .ok (), .ok (), .error closed => ⟨.error closed, slot, db⟩
    | .ok (), .ok (), .ok runtime =>
      match runtime.prepare_pull_response response with
      | .error refused => refuse_pull_response store environment runtime response refused slot db
      | .ok prepared => slot.persist_and_install store environment false prepared db

/-! ### Subscription responses -/

/-- The path of a subscription response that asks for another scope. -/
def refuse_subscription_response (environment : Environment) (runtime : ClientRuntime V)
    (response : SubscriptionResponse V) (block : ScopeBlock) (refused : ClientError) (slot : RuntimeState V)
    (db : Database C StageTables) : Settlement V C :=
  let slot := { slot with scope_blocked := some block }
  match finish environment.barrier db
    (save_scope_barrier store (.of runtime.state) (scope_barrier block response.scope) db) with
  | (.error _, db) => ⟨.error .RecoveryRequired, invalidate_runtime slot, db⟩
  | (.ok (), db) =>
    match runtime.prepare_cancel_subscription response.subscription_id response.generation with
    | .error unknown => ⟨.error (map_protocol_error unknown), slot.drop true, db⟩
    | .ok cancel =>
      let settled := slot.persist_and_install store environment true cancel db
      { settled with answer := settled.answer.bind fun _ => .error (map_protocol_error refused) }

/-- The part after `refresh_scope_barrier`. -/
def apply_refreshed_response (environment : Environment) (response : SubscriptionResponse V) (slot : RuntimeState V)
    (db : Database C StageTables) : Settlement V C :=
  match slot.read_client with
  | .error blocked => ⟨.error blocked, slot, db⟩
  | .ok runtime =>
    match runtime.prepare_subscription_response response with
    | .ok prepared => slot.persist_and_install store environment false prepared db
    | .error refused =>
      match ScopeBlock.of_error refused with
      | some block => refuse_subscription_response store environment runtime response block refused slot db
      | none => ⟨.error (map_protocol_error refused), slot, db⟩

def apply_subscription_response (environment : Environment) (decoded : NativeResult (SubscriptionResponse V))
    (slot : RuntimeState V) (db : Database C StageTables) : Settlement V C :=
  match decoded >>= parse_response store.codec with
  | .error invalid => ⟨.error invalid, slot, db⟩
  | .ok response =>
    match environment.session, slot.client with
    | .error changed, _ => ⟨.error changed, slot, db⟩
    | .ok (), .error closed => ⟨.error closed, slot, db⟩
    | .ok (), .ok runtime =>
      match load_scope_barrier environment.refresh (.of runtime.state) db with
      | .error _ => ⟨.error .RecoveryRequired, invalidate_runtime slot, db⟩
      | .ok (some barrier) => apply_refreshed_response store environment response
          { slot with scope_blocked := some (.from_reason barrier.reason) } db
      | .ok none => apply_refreshed_response store environment response slot db

/-! ### Runs -/

inductive ResponseCall (V : Type) where
  | apply_pull_response (decoded : NativeResult (PullResponse V))
  | apply_subscription_response (decoded : NativeResult (SubscriptionResponse V))

def respond (environment : Environment) (slot : RuntimeState V) (db : Database C StageTables) :
    ResponseCall V → Settlement V C
  | .apply_pull_response decoded => apply_pull_response store environment decoded slot db
  | .apply_subscription_response decoded => apply_subscription_response store environment decoded slot db

/-- A call, what happens to it and what it answers. -/
structure ResponseLabel (V : Type) where
  call : ResponseCall V
  environment : Environment
  answer : NativeResult NativeSyncStatus

/-- A client and its database. -/
structure Held (V C : Type) [DecidableEq V] where
  slot : RuntimeState V
  db : Database C StageTables

def ResponseStep (before : Held V C) (label : ResponseLabel V) (after : Held V C) : Prop :=
  respond store label.environment before.slot before.db label.call = ⟨label.answer, after.slot, after.db⟩

/-- The authorization revision that a row asks for. -/
def authorization_revision (barrier : ScopeBarrier) : Option UInt64 :=
  UInt64.from_str barrier.required_authorization_revision

/-- The later row is not weaker than the earlier one. -/
structure Upholds (earlier later : ScopeBarrier) : Prop where
  reason : earlier.reason = "pending_quarantine_required" → later.reason = "pending_quarantine_required"
  revision : ∀ required, authorization_revision earlier = some required →
    ∃ next, authorization_revision later = some next ∧ required ≤ next

/-- A pull response that the transition refuses under a block does not ask for a lower authorization revision than
the row of its client. -/
def RaisesBarrier (before : Held V C) : ResponseCall V → Prop
  | .apply_pull_response (.ok response) => ∀ runtime refused scope row required, before.slot.runtime = some runtime →
      validate_pull_response_values store.codec response = .ok () →
      runtime.prepare_pull_response response = .error refused →
      ((ScopeBlock.of_error refused).or before.slot.scope_blocked).isSome → required_scope response = some scope →
      before.db.barriers[record_id (.of runtime.state)]? = some row → authorization_revision row = some required →
      required ≤ scope.authorization_revision
  | .apply_pull_response (.error _) | .apply_subscription_response _ => True

variable {store} {db after : Database C StageTables}

/-! ### What a call does to the rows -/

theorem barriers_finish {α : Type} {outcome : Outcome} {operation : SyncResult (α × Database C StageTables)}
    (hsame : ∀ value next, operation = .ok (value, next) → next.barriers = db.barriers) :
    (finish outcome db operation).2.barriers = db.barriers := by
  rcases finish_cases outcome db operation with ⟨_, hfinish⟩ | ⟨value, next, hok, ⟨_, hfinish⟩ | ⟨_, hfinish⟩⟩
  · rw [hfinish]
  · rw [hfinish]
    exact hsame value next hok
  · rw [hfinish]
    exact hsame value next hok

omit [DecidableEq V] in
theorem barriers_write_row_diff {platform : Platform F V C StageTables} {key : SyncStateKey}
    {current : Option NormalizedRows} {next : NormalizedRows}
    (hwrite : write_row_diff platform key current next db = .ok after) : after.barriers = db.barriers := by
  obtain ⟨_, _, rfl⟩ := write_row_diff_eq_ok_iff.mp hwrite
  rfl

theorem barriers_apply_projection_diff {native : NativeRecords V C} {current next : Projection V}
    (happly : apply_projection_diff native current next db = .ok after) : after.barriers = db.barriers := by
  have hsame := sameJournal_apply_projection_diff happly
  rw [hsame]

theorem barriers_migrate_v1 {platform : Platform F V C StageTables} {key : SyncStateKey} {state : DurableClientState V}
    {rows : NormalizedRows} {disposition : SyncStateWrite}
    (hmigrate : migrate_v1 platform key state rows db = .ok (disposition, after)) : after.barriers = db.barriers := by
  unfold migrate_v1 at hmigrate
  obtain ⟨loaded, _, hmigrate⟩ := bind_eq_ok_iff.mp hmigrate
  cases loaded with
  | some existing =>
    dsimp only at hmigrate
    split at hmigrate
    · cases hmigrate
      rfl
    · cases hmigrate
  | none =>
    obtain ⟨_, _, hmigrate⟩ := bind_eq_ok_iff.mp hmigrate
    obtain ⟨_, _, hmigrate⟩ := bind_eq_ok_iff.mp hmigrate
    obtain ⟨_, _, hmigrate⟩ := bind_eq_ok_iff.mp hmigrate
    obtain ⟨between, hwrite, hmigrate⟩ := bind_eq_ok_iff.mp hmigrate
    obtain ⟨projected, hproject, hmigrate⟩ := bind_eq_ok_iff.mp hmigrate
    cases hmigrate
    exact (barriers_apply_projection_diff hproject).trans (barriers_write_row_diff hwrite)

theorem barriers_load (platform : Platform F V C StageTables) (outcome : Outcome) (key : SyncStateKey) :
    (load platform outcome key db).2.barriers = db.barriers := by
  unfold load
  split
  · rfl
  · split
    · rfl
    · rfl
    · rfl
    · split
      · rfl
      · unfold load_legacy
        split
        · rfl
        · split
          · rfl
          · split
            · rfl
            · exact barriers_finish fun _ _ hmigrate => barriers_migrate_v1 hmigrate

theorem barriers_apply_transition_in_transaction {platform : Platform F V C StageTables}
    {current next : DurableClientState V} {rows : NormalizedRows} {disposition : SyncStateWrite}
    (happly : apply_transition_in_transaction platform current next rows db = .ok (disposition, after)) :
    after.barriers = db.barriers := by
  unfold apply_transition_in_transaction at happly
  obtain ⟨⟨decided, between⟩, hreplace, happly⟩ := bind_eq_ok_iff.mp happly
  obtain ⟨_, _, _, _, hwritten⟩ := replace_v2_in_transaction_eq_ok hreplace
  have hbetween : between.barriers = db.barriers := by
    rcases hwritten with ⟨_, rfl⟩ | ⟨_, _, _, hwrite⟩
    · rfl
    · exact barriers_write_row_diff hwrite
  cases decided with
  | AlreadyCurrent =>
    cases happly
    exact hbetween
  | Applied =>
    obtain ⟨projected, hproject, happly⟩ := bind_eq_ok_iff.mp happly
    cases happly
    exact (barriers_apply_projection_diff hproject).trans hbetween

/-- Ordinary journal saves do not touch a barrier. -/
theorem barriers_apply_transition_atomic (platform : Platform F V C StageTables) (outcome : Outcome)
    (current next : DurableClientState V) :
    (apply_transition_atomic platform outcome current next db).2.barriers = db.barriers := by
  unfold apply_transition_atomic
  split
  · rfl
  · split
    · rfl
    · split
      · have hload := @barriers_load F V C _ db platform outcome (.of current)
        split
        · rename_i hloaded
          rw [hloaded] at hload
          exact hload
        · rename_i hloaded
          rw [hloaded] at hload
          exact hload
      · split
        · rfl
        · exact barriers_finish fun _ _ happly => barriers_apply_transition_in_transaction happly

theorem barriers_persist_and_install (environment : Environment) (armed : Bool) (prepared : PreparedTransition V)
    (slot : RuntimeState V) (db : Database C StageTables) :
    (slot.persist_and_install store environment armed prepared db).db.barriers = db.barriers := by
  unfold RuntimeState.persist_and_install
  split
  · rfl
  · rfl
  · rename_i runtime _ _
    have hpersist := @barriers_apply_transition_atomic F V C _ db store.platform environment.persist runtime.state
      prepared.state
    split
    · rename_i hdone
      rw [hdone] at hpersist
      exact hpersist
    · rename_i hdone
      rw [hdone] at hpersist
      exact hpersist
    · rename_i hdone
      rw [hdone] at hpersist
      split
      · exact hpersist
      · exact hpersist
      · unfold RuntimeState.install
        split
        · exact hpersist
        · split
          · exact hpersist
          · exact hpersist

theorem barriers_guard_barrier_write {key : SyncStateKey} (hguard : guard_barrier_write store key db = .ok after) :
    after.barriers = db.barriers := by
  have hfence : ∀ next, (write_fence db key next).barriers = db.barriers := by
    intro next
    unfold write_fence
    split
    · rfl
    · rfl
  unfold guard_barrier_write at hguard
  obtain ⟨fence, _, hguard⟩ := bind_eq_ok_iff.mp hguard
  cases fence with
  | none =>
    cases hguard
    rfl
  | some fence =>
    obtain ⟨_, _, hguard⟩ := bind_eq_ok_iff.mp hguard
    obtain ⟨_, _, hguard⟩ := bind_eq_ok_iff.mp hguard
    obtain ⟨_, _, hguard⟩ := bind_eq_ok_iff.mp hguard
    obtain ⟨_, _, hguard⟩ := bind_eq_ok_iff.mp hguard
    obtain ⟨_, _, hguard⟩ := bind_eq_ok_iff.mp hguard
    dsimp only at hguard
    split at hguard
    · obtain ⟨_, _, hguard⟩ := bind_eq_ok_iff.mp hguard
      obtain ⟨next, _, hguard⟩ := bind_eq_ok_iff.mp hguard
      cases hguard
      exact hfence next
    · obtain ⟨_, _, hguard⟩ := bind_eq_ok_iff.mp hguard
      obtain ⟨_, _, hguard⟩ := bind_eq_ok_iff.mp hguard
      obtain ⟨next, _, hguard⟩ := bind_eq_ok_iff.mp hguard
      cases hguard
      exact hfence next

/-- The rows after one row was saved. -/
def saved_barriers (key : SyncStateKey) (barrier : ScopeBarrier) (db : Database C StageTables) :
    BTreeMap (List String) ScopeBarrier :=
  db.barriers.insert (record_id key) (merge_barrier db.barriers[record_id key]? barrier)

theorem barriers_save_scope_barrier {key : SyncStateKey} {barrier : ScopeBarrier} {answer : Unit}
    (hsave : save_scope_barrier store key barrier db = .ok (answer, after)) :
    after.barriers = saved_barriers key barrier db := by
  obtain ⟨_, _, hsave⟩ := bind_eq_ok_iff.mp hsave
  obtain ⟨_, _, hsave⟩ := bind_eq_ok_iff.mp hsave
  obtain ⟨guarded, hguard, hsave⟩ := bind_eq_ok_iff.mp hsave
  cases hsave
  unfold saved_barriers
  rw [← barriers_guard_barrier_write hguard]

/-- A save leaves the rows alone, or writes its own. -/
theorem barriers_finish_save (outcome : Outcome) (key : SyncStateKey) (barrier : ScopeBarrier)
    (db : Database C StageTables) :
    (finish outcome db (save_scope_barrier store key barrier db)).2.barriers = db.barriers ∨
      (finish outcome db (save_scope_barrier store key barrier db)).2.barriers = saved_barriers key barrier db := by
  rcases finish_cases outcome db (save_scope_barrier store key barrier db) with
    ⟨_, hfinish⟩ | ⟨value, next, hok, ⟨_, hfinish⟩ | ⟨_, hfinish⟩⟩
  · rw [hfinish]
    exact .inl rfl
  · rw [hfinish]
    exact .inr (barriers_save_scope_barrier hok)
  · rw [hfinish]
    exact .inr (barriers_save_scope_barrier hok)

theorem barriers_refuse_pull_response (environment : Environment) (runtime : ClientRuntime V)
    (response : PullResponse V) (refused : ClientError) (slot : RuntimeState V) (db : Database C StageTables) :
    (refuse_pull_response store environment runtime response refused slot db).db.barriers = db.barriers ∨
      ∃ block scope, (ScopeBlock.of_error refused).or slot.scope_blocked = some block ∧
        required_scope response = some scope ∧
        (refuse_pull_response store environment runtime response refused slot db).db.barriers =
          saved_barriers (.of runtime.state) (scope_barrier block scope) db := by
  unfold refuse_pull_response
  dsimp only
  split
  · rename_i block scope hblock hscope
    have hsaved := @barriers_finish_save F V C _ store environment.barrier (.of runtime.state)
      (scope_barrier block scope) db
    split
    · rename_i hfinish
      rw [hfinish] at hsaved
      exact hsaved.imp_right fun hsaved => ⟨block, scope, hblock, hscope, hsaved⟩
    · rename_i hfinish
      rw [hfinish] at hsaved
      exact hsaved.imp_right fun hsaved => ⟨block, scope, hblock, hscope, hsaved⟩
  · exact .inl rfl

theorem barriers_refuse_subscription_response (environment : Environment) (runtime : ClientRuntime V)
    (response : SubscriptionResponse V) (block : ScopeBlock) (refused : ClientError) (slot : RuntimeState V)
    (db : Database C StageTables) :
    (refuse_subscription_response store environment runtime response block refused slot db).db.barriers = db.barriers ∨
      (refuse_subscription_response store environment runtime response block refused slot db).db.barriers =
        saved_barriers (.of runtime.state) (scope_barrier block response.scope) db := by
  have hsaved := @barriers_finish_save F V C _ store environment.barrier (.of runtime.state)
    (scope_barrier block response.scope) db
  unfold refuse_subscription_response
  dsimp only
  split
  · rename_i hfinish
    rw [hfinish] at hsaved
    exact hsaved
  · rename_i hfinish
    rw [hfinish] at hsaved
    split
    · exact hsaved
    · dsimp only
      rw [barriers_persist_and_install]
      exact hsaved

/-- Everything that a call can do to the rows. A subscription response never writes over a row, since it is blocked
by the row it finds. -/
inductive BarrierEffect (store : Store F V C) (slot : RuntimeState V) (db : Database C StageTables) :
    ResponseCall V → BTreeMap (List String) ScopeBarrier → Prop where
  | untouched (call : ResponseCall V) : BarrierEffect store slot db call db.barriers
  | pull {response : PullResponse V} {runtime : ClientRuntime V} {refused : ClientError} {block : ScopeBlock}
      {scope : ScopeSnapshot} (hruntime : slot.runtime = some runtime)
      (hvalues : validate_pull_response_values store.codec response = .ok ())
      (hrefused : runtime.prepare_pull_response response = .error refused)
      (hblock : (ScopeBlock.of_error refused).or slot.scope_blocked = some block)
      (hscope : required_scope response = some scope) :
      BarrierEffect store slot db (.apply_pull_response (.ok response))
        (saved_barriers (.of runtime.state) (scope_barrier block scope) db)
  | subscription {decoded : NativeResult (SubscriptionResponse V)} {key : SyncStateKey} (block : ScopeBlock)
      (scope : ScopeSnapshot) (hnone : db.barriers[record_id key]? = none) :
      BarrierEffect store slot db (.apply_subscription_response decoded)
        (saved_barriers key (scope_barrier block scope) db)

theorem BarrierEffect.of_eq {slot : RuntimeState V} {call : ResponseCall V}
    {rows : BTreeMap (List String) ScopeBarrier} (hsame : rows = db.barriers) : BarrierEffect store slot db call rows :=
  hsame ▸ .untouched call

theorem RuntimeState.client_eq_ok_iff {slot : RuntimeState V} {runtime : ClientRuntime V} :
    slot.client = .ok runtime ↔ slot.runtime = some runtime :=
  okOr_eq_ok_iff

theorem barrierEffect_apply_pull_response (environment : Environment) (decoded : NativeResult (PullResponse V))
    (slot : RuntimeState V) (db : Database C StageTables) :
    BarrierEffect store slot db (.apply_pull_response decoded)
      (apply_pull_response store environment decoded slot db).db.barriers := by
  unfold apply_pull_response
  split
  · exact .untouched _
  · split
    · exact .untouched _
    · exact .untouched _
    · exact .untouched _
    · rename_i response _ _ _ runtime hvalues _ hclient
      split
      · rename_i refused hrefused
        rcases barriers_refuse_pull_response environment runtime response refused slot db with
          hsame | ⟨block, scope, hblock, hscope, hsaved⟩
        · exact .of_eq hsame
        · rw [hsaved]
          exact .pull (RuntimeState.client_eq_ok_iff.mp hclient) hvalues hrefused hblock hscope
      · exact .of_eq (barriers_persist_and_install ..)

/-- A client that is not blocked writes its row only over none. -/
theorem barrierEffect_apply_refreshed_response {decoded : NativeResult (SubscriptionResponse V)}
    (environment : Environment) (response : SubscriptionResponse V) {slot : RuntimeState V} {runtime : ClientRuntime V}
    (hruntime : slot.runtime = some runtime) (hnone : db.barriers[record_id (.of runtime.state)]? = none) :
    BarrierEffect store slot db (.apply_subscription_response decoded)
      (apply_refreshed_response store environment response slot db).db.barriers := by
  unfold apply_refreshed_response
  split
  · exact .untouched _
  · rename_i client hread
    have hclient : client = runtime := by
      unfold RuntimeState.read_client at hread
      obtain ⟨found, hfound, hread⟩ := bind_eq_ok_iff.mp hread
      rw [RuntimeState.client_eq_ok_iff, hruntime, Option.some.injEq] at hfound
      split at hread
      · cases hread
      · cases hread
      · exact (ok.inj hread).symm.trans hfound.symm
    subst hclient
    split
    · exact .of_eq (barriers_persist_and_install ..)
    · split
      · rename_i block _
        rcases barriers_refuse_subscription_response environment client response block _ slot db with hsame | hsaved
        · exact .of_eq hsame
        · rw [hsaved]
          exact .subscription block response.scope hnone
      · exact .untouched _

/-- The row that `refresh_scope_barrier` finds keeps the client from reading. -/
theorem apply_refreshed_response_blocked (environment : Environment) (response : SubscriptionResponse V)
    (slot : RuntimeState V) (block : ScopeBlock) (db : Database C StageTables) :
    (apply_refreshed_response store environment response { slot with scope_blocked := some block } db).db = db := by
  have hread : ∃ blocked, RuntimeState.read_client { slot with scope_blocked := some block } = .error blocked := by
    unfold RuntimeState.read_client
    cases hclient : RuntimeState.client { slot with scope_blocked := some block } with
    | error closed => exact ⟨closed, rfl⟩
    | ok runtime => cases block <;> exact ⟨_, rfl⟩
  obtain ⟨blocked, hread⟩ := hread
  unfold apply_refreshed_response
  rw [hread]

theorem load_scope_barrier_eq_ok {outcome : Outcome} {key : SyncStateKey} {found : Option ScopeBarrier}
    (hload : load_scope_barrier outcome key db = .ok found) : db.barriers[record_id key]? = found := by
  unfold load_scope_barrier at hload
  obtain ⟨_, _, hload⟩ := bind_eq_ok_iff.mp hload
  split at hload
  · cases hload
  · obtain ⟨_, _, hload⟩ := bind_eq_ok_iff.mp hload
    exact ok.inj hload

theorem barrierEffect_apply_subscription_response (environment : Environment)
    (decoded : NativeResult (SubscriptionResponse V)) (slot : RuntimeState V) (db : Database C StageTables) :
    BarrierEffect store slot db (.apply_subscription_response decoded)
      (apply_subscription_response store environment decoded slot db).db.barriers := by
  unfold apply_subscription_response
  split
  · exact .untouched _
  · split
    · exact .untouched _
    · exact .untouched _
    · rename_i response _ _ _ runtime _ hclient
      split
      · exact .untouched _
      · exact .of_eq (congrArg Database.barriers (apply_refreshed_response_blocked environment response slot _ db))
      · rename_i hload
        exact barrierEffect_apply_refreshed_response environment response (RuntimeState.client_eq_ok_iff.mp hclient)
          (load_scope_barrier_eq_ok hload)

theorem barrierEffect_respond (environment : Environment) (slot : RuntimeState V) (db : Database C StageTables)
    (call : ResponseCall V) : BarrierEffect store slot db call (respond store environment slot db call).db.barriers := by
  cases call with
  | apply_pull_response decoded => exact barrierEffect_apply_pull_response environment decoded slot db
  | apply_subscription_response decoded => exact barrierEffect_apply_subscription_response environment decoded slot db

/-! ### The row along a run -/

theorem Upholds.refl (row : ScopeBarrier) : Upholds row row :=
  ⟨fun hreason => hreason, fun required hrequired => ⟨required, hrequired, UInt64.le_refl required⟩⟩

theorem Upholds.trans {first second third : ScopeBarrier} (hfirst : Upholds first second)
    (hsecond : Upholds second third) : Upholds first third := by
  refine ⟨fun hreason => hsecond.reason (hfirst.reason hreason), fun required hrequired => ?_⟩
  obtain ⟨between, hbetween, hle⟩ := hfirst.revision required hrequired
  obtain ⟨next, hnext, hle'⟩ := hsecond.revision between hbetween
  exact ⟨next, hnext, UInt64.le_trans hle hle'⟩

theorem merge_barrier_reason {row : ScopeBarrier} (barrier : ScopeBarrier)
    (hreason : row.reason = "pending_quarantine_required") :
    (merge_barrier (some row) barrier).reason = "pending_quarantine_required" := by
  unfold merge_barrier
  have hquarantine : (some row).any (·.reason = "pending_quarantine_required") ∨
      barrier.reason = "pending_quarantine_required" := .inl (by simpa using hreason)
  exact if_pos hquarantine

/-- A saved row asks for the revision of the scope it was saved with, whatever was there. -/
theorem authorization_revision_merge (old : Option ScopeBarrier) (block : ScopeBlock) (scope : ScopeSnapshot) :
    authorization_revision (merge_barrier old (scope_barrier block scope)) = some scope.authorization_revision :=
  UInt64.from_str_to_string scope.authorization_revision

theorem getElem?_saved_barriers (key other : SyncStateKey) (barrier : ScopeBarrier) (db : Database C StageTables) :
    (saved_barriers key barrier db)[record_id other]? = db.barriers[record_id other]? ∨
      record_id key = record_id other ∧
      (saved_barriers key barrier db)[record_id other]? =
        some (merge_barrier db.barriers[record_id other]? barrier) := by
  unfold saved_barriers
  by_cases hsame : record_id key = record_id other
  · rw [hsame]
    exact .inr ⟨rfl, ExtTreeMap.getElem?_insert_self⟩
  · left
    rw [ExtTreeMap.getElem?_insert, if_neg (by simpa using hsame)]

/-- What one call leaves of a row: it stays with its reason, and it is not weakened by a response that raises it. -/
theorem BarrierEffect.row {slot : RuntimeState V} {call : ResponseCall V}
    {rows : BTreeMap (List String) ScopeBarrier} (heffect : BarrierEffect store slot db call rows) {key : SyncStateKey}
    {row : ScopeBarrier} (hrow : db.barriers[record_id key]? = some row) :
    ∃ later, rows[record_id key]? = some later ∧
      (row.reason = "pending_quarantine_required" → later.reason = "pending_quarantine_required") ∧
      (RaisesBarrier store ⟨slot, db⟩ call → Upholds row later) := by
  cases heffect with
  | untouched => exact ⟨row, hrow, id, fun _ => .refl row⟩
  | @pull response runtime refused block scope hruntime hvalues hrefused hblock hscope =>
    rcases getElem?_saved_barriers (.of runtime.state) key (scope_barrier block scope) db with hsame | ⟨hkey, hsaved⟩
    · exact ⟨row, hsame.trans hrow, id, fun _ => .refl row⟩
    · rw [hrow] at hsaved
      refine ⟨_, hsaved, merge_barrier_reason _, fun hraises => ⟨merge_barrier_reason _, fun required hrequired => ?_⟩⟩
      have hle := hraises runtime refused scope row required hruntime hvalues hrefused
        (Option.isSome_iff_exists.mpr ⟨block, hblock⟩) hscope (hkey ▸ hrow) hrequired
      exact ⟨_, authorization_revision_merge _ _ _, hle⟩
  | @subscription decoded owner block scope hnone =>
    rcases getElem?_saved_barriers owner key (scope_barrier block scope) db with hsame | ⟨hkey, _⟩
    · exact ⟨row, hsame.trans hrow, id, fun _ => .refl row⟩
    · rw [hkey, hrow] at hnone
      cases hnone

theorem ResponseStep.row {before after : Held V C} {label : ResponseLabel V}
    (hstep : ResponseStep store before label after) {key : SyncStateKey} {row : ScopeBarrier}
    (hrow : before.db.barriers[record_id key]? = some row) :
    ∃ later, after.db.barriers[record_id key]? = some later ∧
      (row.reason = "pending_quarantine_required" → later.reason = "pending_quarantine_required") ∧
      (RaisesBarrier store before label.call → Upholds row later) := by
  have heffect := @barrierEffect_respond F V C _ store label.environment before.slot before.db label.call
  rw [show respond store label.environment before.slot before.db label.call = _ from hstep] at heffect
  exact heffect.row hrow

/-- The row of a client stays, and keeps its reason, whatever responses arrive. It is upheld by every call, and over
the whole run, when no refused pull response asks for a lower revision than the row. -/
theorem scope_barrier_upheld {first last : Held V C} {edges : List (Trace.Edge (Held V C) (ResponseLabel V))}
    (hrun : Trace.Run (ResponseStep store) first edges last) {key : SyncStateKey} {row : ScopeBarrier}
    (hrow : first.db.barriers[record_id key]? = some row) :
    (∃ final, last.db.barriers[record_id key]? = some final ∧
      (row.reason = "pending_quarantine_required" → final.reason = "pending_quarantine_required")) ∧
    ((∀ edge ∈ edges, RaisesBarrier store edge.source edge.label.call) →
      (∃ final, last.db.barriers[record_id key]? = some final ∧ Upholds row final) ∧
      ∀ edge ∈ edges, ∃ before after, edge.source.db.barriers[record_id key]? = some before ∧
        edge.target.db.barriers[record_id key]? = some after ∧ Upholds before after) := by
  induction hrun generalizing row with
  | nil first => exact ⟨⟨row, hrow, id⟩, fun _ => ⟨⟨row, hrow, .refl row⟩, by simp⟩⟩
  | @cons first next last label edges hstep hrest ih =>
    obtain ⟨later, hlater, hreason, hupholds⟩ := hstep.row hrow
    obtain ⟨⟨final, hfinal, hkept⟩, hraised⟩ := ih hlater
    refine ⟨⟨final, hfinal, fun hquarantine => hkept (hreason hquarantine)⟩, fun hraises => ?_⟩
    obtain ⟨hhead, hrestRaises⟩ := List.forall_mem_cons.mp hraises
    obtain ⟨⟨final, hfinal, hfinally⟩, hedges⟩ := hraised hrestRaises
    refine ⟨⟨final, hfinal, (hupholds hhead).trans hfinally⟩, fun edge hedge => ?_⟩
    rcases List.mem_cons.mp hedge with rfl | hedge
    · exact ⟨row, later, hrow, hlater, hupholds hhead⟩
    · exact hedges edge hedge

section Sample

/-- A client that pulled up to the second sequence, with a pending commit. -/
def pending_client : ClientRuntime Plain where
  state := { empty_state with
    revision := 2
    checkpoint := some ⟨⟨"t2"⟩, ⟨1, 2⟩, ⟨⟨"all"⟩, 1, 0⟩⟩
    outbox := [⟨⟨⟨"c1"⟩, ⟨"f1"⟩⟩, [.Delete ⟨"person:1"⟩ 1]⟩] }
  valid := by decide

def open_slot (block : Option ScopeBlock) : RuntimeState Plain := ⟨some pending_client, false, block⟩

def undisturbed : Environment := ⟨.ok (), .Settled, .Settled, .Settled, .ok ()⟩

def reset_at (sequence authorization_revision : UInt64) : ResponseCall Plain :=
  .apply_pull_response (.ok (.Reset ⟨.ScopeChanged, ⟨⟨"t"⟩, ⟨1, sequence⟩, ⟨⟨"all"⟩, authorization_revision, 0⟩⟩, []⟩))

def quarantine_row (authorization_revision : UInt64) : ScopeBarrier :=
  ⟨"pending_quarantine_required", "all", "0", authorization_revision.to_string⟩

/-- Of the journal, the calls read only that it has no fence. -/
def barred (authorization_revision : UInt64) : Database Plain StageTables :=
  { saved with barriers := saved.barriers.insert ["p", "phone"] (quarantine_row authorization_revision) }

theorem authorization_revision_quarantine_row (authorization_revision : UInt64) :
    sync_client.authorization_revision (quarantine_row authorization_revision) = some authorization_revision :=
  UInt64.from_str_to_string authorization_revision

/-- A reset under the third authorization raises the barrier. A delayed reset from before the pulled sequence is
refused for its cursor, and lowers the barrier to its own, the first authorization. -/
theorem delayed_reset_lowers_barrier :
    Trace.Run (ResponseStep first_store) ⟨open_slot none, saved⟩
      [⟨⟨open_slot none, saved⟩, ⟨reset_at 5 3, undisturbed, .error .PendingQuarantineRequired⟩,
        ⟨open_slot (some .PendingQuarantine), barred 3⟩⟩,
        ⟨⟨open_slot (some .PendingQuarantine), barred 3⟩, ⟨reset_at 1 1, undisturbed, .error .Protocol⟩,
        ⟨open_slot (some .PendingQuarantine), barred 1⟩⟩]
      ⟨open_slot (some .PendingQuarantine), barred 1⟩ ∧
    (barred 3).barriers[record_id ⟨⟨"p"⟩, ⟨"phone"⟩⟩]? = some (quarantine_row 3) ∧
    (barred 1).barriers[record_id ⟨⟨"p"⟩, ⟨"phone"⟩⟩]? = some (quarantine_row 1) ∧
    ¬ Upholds (quarantine_row 3) (quarantine_row 1) := by
  refine ⟨.cons rfl (.cons rfl (.nil _)), rfl, rfl, fun hupholds => ?_⟩
  obtain ⟨next, hnext, hle⟩ := hupholds.revision 3 (authorization_revision_quarantine_row 3)
  rw [authorization_revision_quarantine_row, Option.some.injEq] at hnext
  subst hnext
  exact absurd hle (by decide)

/-- The same reset arrives twice. -/
theorem scope_barrier_upheld_duplicate :
    ∃ final, (barred 3).barriers[record_id ⟨⟨"p"⟩, ⟨"phone"⟩⟩]? = some final ∧ Upholds (quarantine_row 3) final := by
  have hrun : Trace.Run (ResponseStep first_store) ⟨open_slot (some .PendingQuarantine), barred 3⟩
      [⟨⟨open_slot (some .PendingQuarantine), barred 3⟩, ⟨reset_at 5 3, undisturbed, .error .PendingQuarantineRequired⟩,
        ⟨open_slot (some .PendingQuarantine), barred 3⟩⟩]
      ⟨open_slot (some .PendingQuarantine), barred 3⟩ := .cons rfl (.nil _)
  have hrow : (barred 3).barriers[record_id ⟨⟨"p"⟩, ⟨"phone"⟩⟩]? = some (quarantine_row 3) := rfl
  refine ((scope_barrier_upheld hrun hrow).2 fun edge hedge => ?_).1
  rw [List.mem_singleton] at hedge
  subst hedge
  intro runtime refused scope row required hruntime _ _ _ hscope hfound hrequired
  cases hscope
  cases hruntime
  cases hfound
  rw [authorization_revision_quarantine_row] at hrequired
  cases hrequired
  exact UInt64.le_refl 3

end Sample

end surrealdb_rn_core.sync_client
