import SurrealSync.Native.ReadJournal

open surrealdb_sync_client

namespace react_native_surrealdb.sync_read

open surrealdb_rn_core.sync_read (Cursor Bootstrap Changes)

inductive SyncReadScopeError where
  | needs_new_scope_journal
  | pending_quarantine_required
deriving DecidableEq

/-- What a source call rejects with, or the code throws: an error that `syncReadScopeError` takes for a withdrawn
scope, or another one with its message. -/
inductive Failure where
  | scope (error : SyncReadScopeError)
  | other (message : String)
deriving DecidableEq

variable {V : Type} [DecidableEq V]

def validateReadBatch (metadata : ReadMetadataV1) (batch : CommittedReadBatchV1 V) : Except Failure Unit := do
  Except.refuse (batch.protocol_version ≠ 1 ∨ batch.before_revision ≠ metadata.revision ∨
      batch.revision ≠ batch.metadata.revision ∨ batch.revision.toNat ≠ batch.before_revision.toNat + 1 ∨
      batch.metadata.scope.partition_id ≠ metadata.scope.partition_id ∨
      batch.metadata.scope.scope_identity ≠ metadata.scope.scope_identity ∨
      batch.metadata.scope.subscription_revision ≠ metadata.scope.subscription_revision)
    (Failure.other "Sync read batch requires a fresh consistent snapshot")
  Except.refuse (¬ (batch.changes.map (·.record_id)).Nodup) (Failure.other "Sync read batch repeats a record")

def applySyncReadBatch (snapshot : ReadSnapshotV1 V) (batch : CommittedReadBatchV1 V) :
    Except Failure (ReadSnapshotV1 V) := do
  validateReadBatch snapshot.metadata batch
  return { protocol_version := 1, metadata := batch.metadata, rows := apply_read_batch snapshot.rows batch }

inductive SyncReadEvent (V : Type) where
  | snapshot (snapshot : ReadSnapshotV1 V)
  | batch (snapshot : ReadSnapshotV1 V) (batch : CommittedReadBatchV1 V)
  | error (error : Failure) (invalidated : Bool)
  | closed

/-- The snapshot an event shows. -/
def SyncReadEvent.shown : SyncReadEvent V → Option (ReadSnapshotV1 V)
  | .snapshot shown => some shown
  | .batch shown _ => some shown
  | .error .. => none
  | .closed => none

/-- Listeners and controllers are numbered in the order they are made, and `log` is what the listeners were
told. `maxBatches` is within the bounds that the constructor checks. -/
structure ExperimentalSyncReadStore (V : Type) where
  maxBatches : Nat
  bounded : 1 ≤ maxBatches ∧ maxBatches ≤ 128
  listeners : List Nat
  snapshot : Option (ReadSnapshotV1 V)
  controller : Option Nat
  aborted : List Nat
  closed : Bool
  scopeBlocked : Option SyncReadScopeError
  watched : Nat
  controllers : Nat
  log : List (Nat × SyncReadEvent V)

/-- Where a pump waits next. -/
inductive Await where
  | readSnapshot
  | readChanges (cursor : Cursor)
  | readPollDelay (cursor : Cursor)
  | finished

namespace ExperimentalSyncReadStore

def new (maxBatches : Nat) (bounded : 1 ≤ maxBatches ∧ maxBatches ≤ 128) : ExperimentalSyncReadStore V where
  maxBatches
  bounded
  listeners := []
  snapshot := none
  controller := none
  aborted := []
  closed := false
  scopeBlocked := none
  watched := 0
  controllers := 0
  log := []

def getSnapshot (store : ExperimentalSyncReadStore V) : Option (ReadSnapshotV1 V) := store.snapshot

def notify (store : ExperimentalSyncReadStore V) (listener : Nat) (event : SyncReadEvent V) :
    ExperimentalSyncReadStore V :=
  { store with log := store.log ++ [(listener, event)] }

/-- No listener calls the store, so that the checks before each of them have one outcome. -/
def emit (store : ExperimentalSyncReadStore V) (event : SyncReadEvent V) : ExperimentalSyncReadStore V :=
  if event.shown.isSome ∧ (store.closed ∨ store.scopeBlocked.isSome ∨ store.snapshot ≠ event.shown) then store
  else { store with log := store.log ++ store.listeners.map (·, event) }

def stop (store : ExperimentalSyncReadStore V) : ExperimentalSyncReadStore V :=
  { store with aborted := store.controller.toList ++ store.aborted, controller := none }

/-- A new controller, whose pump then waits for `readSnapshot`. -/
def start (store : ExperimentalSyncReadStore V) : ExperimentalSyncReadStore V :=
  { store with controller := some store.controllers, controllers := store.controllers + 1 }

def current (store : ExperimentalSyncReadStore V) (controller : Nat) : Prop :=
  controller ∉ store.aborted ∧ store.controller = some controller ∧ store.closed = false

instance (store : ExperimentalSyncReadStore V) (controller : Nat) : Decidable (store.current controller) :=
  inferInstanceAs (Decidable (_ ∧ _ ∧ _))

/-- The result is the store and the number of the new listener. -/
def watchCollection (store : ExperimentalSyncReadStore V) : Except Failure (ExperimentalSyncReadStore V × Nat) :=
  if store.closed then .error (.other "Sync read store is closed")
  else match store.scopeBlocked with
    | some error => .error (.scope error)
    | none =>
      let listener := store.watched
      let store := { store with listeners := store.listeners ++ [listener], watched := store.watched + 1 }
      match store.controller, store.snapshot with
      | some _, some snapshot => .ok (store.notify listener (.snapshot snapshot), listener)
      | some _, none => .ok (store, listener)
      | none, _ => .ok (store.start, listener)

/-- What `watchCollection` returns for a listener. -/
def unsubscribe (store : ExperimentalSyncReadStore V) (listener : Nat) : ExperimentalSyncReadStore V :=
  let store := { store with listeners := store.listeners.filter (· ≠ listener) }
  if store.listeners = [] then store.stop else store

def refresh (store : ExperimentalSyncReadStore V) : Except Failure (ExperimentalSyncReadStore V) :=
  if store.closed then .error (.other "Sync read store is closed")
  else match store.scopeBlocked with
    | some error => .error (.scope error)
    | none =>
      let store := store.stop
      .ok (if store.listeners = [] then store else store.start)

/-- The lines that `close` and `invalidateScope` share. -/
def withdraw (store : ExperimentalSyncReadStore V) : ExperimentalSyncReadStore V :=
  { store.stop with snapshot := none }

def close (store : ExperimentalSyncReadStore V) : ExperimentalSyncReadStore V :=
  if store.closed then store
  else { (({ store with closed := true } : ExperimentalSyncReadStore V).withdraw.emit .closed) with listeners := [] }

def invalidateScope (store : ExperimentalSyncReadStore V) (error : SyncReadScopeError) : ExperimentalSyncReadStore V :=
  if store.closed ∨ store.scopeBlocked.isSome then store
  else ({ store with scopeBlocked := some error } : ExperimentalSyncReadStore V).withdraw.emit (.error (.scope error) true)

/-! ### The pump, between its awaits -/

/-- The end of the pump. -/
def finish (store : ExperimentalSyncReadStore V) (controller : Nat) : ExperimentalSyncReadStore V :=
  if store.controller = some controller then { store with controller := none } else store

/-- The handler of what is thrown in the pump. -/
def caught (store : ExperimentalSyncReadStore V) (controller : Nat) (error : Failure) : ExperimentalSyncReadStore V :=
  if store.current controller then
    match error with
    | .scope blocked => store.invalidateScope blocked
    | .other message => store.emit (.error (.other message) false)
  else store

def fail (store : ExperimentalSyncReadStore V) (controller : Nat) (error : Failure) :
    ExperimentalSyncReadStore V × Await :=
  ((store.caught controller error).finish controller, .finished)

/-- The head of the loop. -/
def again (store : ExperimentalSyncReadStore V) (controller : Nat) (cursor : Cursor) :
    ExperimentalSyncReadStore V × Await :=
  if store.current controller then (store, .readChanges cursor) else (store.finish controller, .finished)

/-- A new snapshot, and the event for it. -/
def install (store : ExperimentalSyncReadStore V) (snapshot : ReadSnapshotV1 V) (event : SyncReadEvent V) :
    ExperimentalSyncReadStore V :=
  ({ store with snapshot := some snapshot } : ExperimentalSyncReadStore V).emit event

def afterReadSnapshot (store : ExperimentalSyncReadStore V) (controller : Nat)
    (initial : Except Failure (Bootstrap V)) : ExperimentalSyncReadStore V × Await :=
  match initial with
  | .error error => store.fail controller error
  | .ok initial =>
    if ¬ store.current controller then (store.finish controller, .finished)
    else if initial.cursor.revision ≠ initial.snapshot.metadata.revision then
      store.fail controller (.other "Sync read bootstrap cursor does not match its snapshot")
    else (store.install initial.snapshot (.snapshot initial.snapshot)).again controller initial.cursor

/-- The first loop over the batches. -/
def validateBatches (metadata : ReadMetadataV1) : List (CommittedReadBatchV1 V) → Except Failure ReadMetadataV1
  | [] => .ok metadata
  | batch :: batches => do
    validateReadBatch metadata batch
    validateBatches batch.metadata batches

/-- The second loop over the batches. It returns early, with `false`, when the pump is no longer the current
one. -/
def installBatches (store : ExperimentalSyncReadStore V) (controller : Nat) :
    List (CommittedReadBatchV1 V) → ExperimentalSyncReadStore V × Except Failure Bool
  | [] => (store, .ok true)
  | batch :: batches =>
    if ¬ store.current controller then (store, .ok false)
    else match store.snapshot with
      | none => (store, .error (.other "Sync read snapshot is unavailable"))
      | some current =>
        match applySyncReadBatch current batch with
        | .error error => (store, .error error)
        | .ok next => (store.install next (.batch next batch)).installBatches controller batches

def afterReadChanges (store : ExperimentalSyncReadStore V) (controller : Nat) (cursor : Cursor)
    (result : Except Failure (Changes V)) : ExperimentalSyncReadStore V × Await :=
  match result with
  | .error error => store.fail controller error
  | .ok result =>
    if ¬ store.current controller then (store.finish controller, .finished)
    else match result with
      | .reset_required snapshot next =>
        if next.revision ≠ snapshot.metadata.revision then
          store.fail controller (.other "Sync read reset cursor does not match its snapshot")
        else (store.install snapshot (.snapshot snapshot), .readPollDelay next)
      | .batches batches next =>
        if next.process_epoch ≠ cursor.process_epoch then
          store.fail controller (.other "Sync read process changed without a fresh snapshot")
        else if batches.length > store.maxBatches then
          store.fail controller (.other "Sync read response exceeds its batch limit")
        else match store.snapshot with
          | none => store.fail controller (.other "Sync read snapshot is unavailable")
          | some snapshot =>
            match validateBatches snapshot.metadata batches with
            | .error error => store.fail controller error
            | .ok metadata =>
              if next.revision ≠ metadata.revision then
                store.fail controller (.other "Sync read change cursor does not match committed batches")
              else match store.installBatches controller batches with
                | (store, .error error) => store.fail controller error
                | (store, .ok false) => (store.finish controller, .finished)
                | (store, .ok true) =>
                  if some next.revision ≠ store.snapshot.map (·.metadata.revision) then
                    store.fail controller (.other "Sync read change cursor does not match committed batches")
                  else if batches = [] then (store, .readPollDelay next)
                  else store.again controller next

end ExperimentalSyncReadStore

end react_native_surrealdb.sync_read
