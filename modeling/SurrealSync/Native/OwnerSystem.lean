import SurrealSync.Basic.Trace
import SurrealSync.Native.OwnerBootstrap

open Std Except
open surrealdb_sync_protocol surrealdb_sync_protocol.subscription surrealdb_sync_protocol.bootstrap_codec
open surrealdb_sync_client
open surrealdb_rn_core.sync_state surrealdb_rn_core.sync_bootstrap_store surrealdb_rn_core.sync_bootstrap

namespace surrealdb_rn_core.sync_client

open sync_codec sync_subscription

variable {F V C : Type} [DecidableEq V] (store : Store F V C) (json : sync_queue.JsonWriter (ClientCommit V))

/-! ### Calls -/

/-- The calls of a bootstrap session. -/
inductive SessionCall where
  | request_start
  | request_manifest (stage : NativeBootstrapStage)
  | progress (manifest : Bytes)
  | begin (start manifest : Bytes)
  | page (stage : NativeBootstrapStage) (bytes : Bytes)
  | cancel (stage : NativeBootstrapStage)
  | complete (rotates : Bool) (clock : CompletionClock) (reason : Option NativeBootstrapError)
      (stage : NativeBootstrapStage) (receipt : Bytes)

/-- The calls that take the lock of a key. -/
inductive Call (V : Type) where
  | initialize_runtime (rotates : Bool) (options : NativeSyncOpenOptions) (mode : OpenMode)
  | native (call : NativeCall V)
  | enqueue_bounded (commit : ClientCommit V) (count bytes : UInt32)
  | observe
  | observe_authorized
  | bind_bootstrap_session (context : BootstrapContext)
  | session (self : NativeBootstrapSession) (call : SessionCall)

inductive Answer (V : Type) [DecidableEq V] where
  | done
  | status (status : NativeSyncStatus)
  | client (runtime : ClientRuntime V)
  | ticket (ticket : UInt64)
  | manifest (manifest : BootstrapManifest)
  | progress (progress : NativeBootstrapProgress)
  | stage (stage : NativeBootstrapStage)
  | completion (completion : NativeBootstrapCompletion)

inductive Failure where
  | native (error : NativeSyncError)
  | bootstrap (error : NativeBootstrapError)

/-- A result as its caller sees it. -/
def Guarded.told {ε α : Type} (failure : ε → Failure) (answer : α → Answer V) (part : Guarded ε V α) :
    Guarded Failure V (Answer V) := do
  return answer (← Async.mapError failure part)

def NativeSyncClient.run : NativeCall V → Guarded NativeSyncError V NativeSyncStatus
  | .apply_pull_response response => apply_pull_response_owned store response
  | .start_subscription request => start_subscription_owned store request
  | .cancel_subscription subscription_id generation => cancel_subscription_owned store subscription_id generation
  | .apply_subscription_response response => apply_subscription_response_owned store response
  | .enqueue commit => mutate store (.enqueue commit)
  | .record_push_response response policy => mutate store (.record_push_response response policy)
  | .resolve_conflict_keep_server commit_id => mutate store (.resolve_conflict_keep_server commit_id)
  | .resolve_conflict_keep_local commit_id replacement => mutate store (.resolve_conflict_keep_local commit_id replacement)
  | .resolve_conflict_merge commit_id replacement => mutate store (.resolve_conflict_merge commit_id replacement)

def SessionCall.run (self : NativeBootstrapSession) : SessionCall → Guarded Failure V (Answer V)
  | .request_start => self.request_start.told .bootstrap fun _ => .done
  | .request_manifest stage => (self.request_manifest store stage).told .bootstrap .manifest
  | .progress manifest => (self.progress store manifest).told .bootstrap .progress
  | .begin start manifest => (self.begin_owned store start manifest).told .bootstrap .stage
  | .page stage bytes => (self.page_owned store stage bytes).told .bootstrap fun _ => .done
  | .cancel stage => (self.cancel_owned stage).told .bootstrap fun _ => .done
  | .complete rotates clock reason stage receipt =>
    (self.complete_owned store rotates clock reason stage receipt).told .bootstrap .completion

def Call.run : Call V → Guarded Failure V (Answer V)
  | .initialize_runtime rotates options mode =>
    (NativeSyncClient.initialize_runtime store rotates options mode).told .native fun _ => .done
  | .native call => (NativeSyncClient.run store call).told .native .status
  | .enqueue_bounded commit count bytes =>
    (NativeSyncClient.enqueue_bounded_owned store json commit count bytes).told .native .status
  | .observe => NativeSyncClient.observe.told .native .client
  | .observe_authorized => NativeSyncClient.observe_authorized.told .native .client
  | .bind_bootstrap_session context => (sync_bootstrap.bind_bootstrap_session context).told .bootstrap .ticket
  | .session self call => call.run store self

/-- An opening is about the journal that its options name. -/
def Call.about (key : SyncStateKey) : Call V → Prop
  | .initialize_runtime _ options _ => options.key = key
  | _ => True

/-! ### The owner of a database -/

structure RuntimeKey where
  session_generation : UInt64
  key : SyncStateKey
deriving DecidableEq

/-- What `acquire` makes for a key that has no cell. -/
def Cell.fresh : Cell V := ⟨⟨none, false, none⟩, none, 0⟩

/-- A call under the lock of a cell, at an await. -/
structure Waiting (V : Type) [DecidableEq V] where
  handle : Nat
  call : Call V
  guard : RuntimeGuard V
  request : DatabaseCall V
  resume : request.Reply → Guarded Failure V (Answer V)

/-- The owner of a database with its cells. `changing` counts the session changes that wait for `journal_lifecycle`,
which the guards share and a change takes alone. -/
structure DatabaseOwner (V C : Type) [DecidableEq V] where
  poison_all : Bool
  closed : Bool
  session_generation : UInt64
  changing : Nat
  db : Database C StageTables
  local_closed : Nat → Bool
  cells : RuntimeKey → Cell V
  waiting : RuntimeKey → Option (Waiting V)

namespace DatabaseOwner

def connect (db : Database C StageTables) : DatabaseOwner V C :=
  ⟨false, false, 0, 0, db, fun _ => false, fun _ => .fresh, fun _ => none⟩

variable (self : DatabaseOwner V C)

def session_ended (cell : RuntimeKey) : Bool := self.closed || self.session_generation ≠ cell.session_generation

/-- `lock_runtime`. -/
def lock_runtime (cell : RuntimeKey) (handle : Nat) : RuntimeGuard V :=
  ⟨self.cells cell, .Clean, self.poison_all, self.local_closed handle, self.session_ended cell⟩

/-- The guard of a call that waits, with the flags that were set meanwhile. -/
def held (cell : RuntimeKey) (waiting : Waiting V) : RuntimeGuard V :=
  { waiting.guard with
    poison_all := waiting.guard.poison_all || self.poison_all
    local_closed := waiting.guard.local_closed || self.local_closed waiting.handle
    session_ended := waiting.guard.session_ended || self.session_ended cell }

/-- A guard is dropped. -/
def release (cell : RuntimeKey) (guard : RuntimeGuard V) : DatabaseOwner V C :=
  { self with
    poison_all := self.poison_all || guard.drop.poison_all
    cells := Function.update self.cells cell guard.drop.cell
    waiting := Function.update self.waiting cell none }

/-- A call is left at an await. -/
def suspend (cell : RuntimeKey) (waiting : Waiting V) : DatabaseOwner V C :=
  { self with
    poison_all := self.poison_all || waiting.guard.poison_all
    waiting := Function.update self.waiting cell (some waiting) }

/-- The code of a call runs until it returns or waits again. -/
def work (cell : RuntimeKey) (handle : Nat) (call : Call V) (part : Guarded Failure V (Answer V))
    (guard : RuntimeGuard V) : DatabaseOwner V C × Option (Except Failure (Answer V)) :=
  match part.settle guard with
  | (guard, .returned result) => (self.release cell guard, some result)
  | (guard, .waiting request resume) => (self.suspend cell ⟨handle, call, guard, request, resume⟩, none)

def serve_request (request : DatabaseCall V) (outcome : Outcome) : request.Reply × DatabaseOwner V C :=
  let (reply, db) := serve store outcome self.db request
  (reply, { self with db })

/-- The rows after a request whose call is dropped: it may have been carried out. -/
def abandoned (request : DatabaseCall V) : Option Outcome → DatabaseOwner V C
  | some outcome => (self.serve_request store request outcome).2
  | none => self

/-- Whether there was a generation left. -/
def reserve_session_change : DatabaseOwner V C × Bool :=
  match self.session_generation.checked_add 1 with
  | some session_generation => ({ self with session_generation }, true)
  | none => ({ self with closed := true }, false)

end DatabaseOwner

/-! ### Steps -/

inductive Event (V : Type) [DecidableEq V] where
  | worked (cell : RuntimeKey) (handle : Nat) (call : Call V) (unsettled : Bool)
      (result : Option (Except Failure (Answer V)))
  | dropped (cell : RuntimeKey) (call : Call V) (armed : Bool)
  | forgotten (cell : RuntimeKey)
  | changed
  | connected

inductive DatabaseOwner.Step : DatabaseOwner V C → Event V → DatabaseOwner V C → Prop where
  /-- A call takes the lock of its cell. -/
  | start {self : DatabaseOwner V C} {cell : RuntimeKey} {handle : Nat} {call : Call V}
      (hchanging : self.changing = 0) (hwaiting : self.waiting cell = none) (habout : call.about cell.key) :
      Step self
        (.worked cell handle call false (self.work cell handle call (call.run store json) (self.lock_runtime cell handle)).2)
        (self.work cell handle call (call.run store json) (self.lock_runtime cell handle)).1
  /-- The database replies, and the call goes on. -/
  | reply {self : DatabaseOwner V C} {cell : RuntimeKey} {waiting : Waiting V} {outcome : Outcome}
      {reply : waiting.request.Reply} {served : DatabaseOwner V C} (hwaiting : self.waiting cell = some waiting)
      (hserve : self.serve_request store waiting.request outcome = (reply, served)) :
      Step self
        (.worked cell waiting.handle waiting.call (waiting.request.unsettles reply)
          (served.work cell waiting.handle waiting.call (waiting.resume reply) (self.held cell waiting)).2)
        (served.work cell waiting.handle waiting.call (waiting.resume reply) (self.held cell waiting)).1
  /-- A call is dropped at an await: its caller is gone, its worker has panicked, or the process ends. -/
  | drop {self : DatabaseOwner V C} {cell : RuntimeKey} {waiting : Waiting V} {sent : Option Outcome}
      (hwaiting : self.waiting cell = some waiting) :
      Step self (.dropped cell waiting.call (waiting.guard.mutation_phase = .InFlight))
        ((self.abandoned store waiting.request sent).release cell (self.held cell waiting))
  /-- The intent of a session change: its writer waits for the guards, and new guards wait for it. -/
  | reserve {self : DatabaseOwner V C} (hreserved : self.reserve_session_change.2 = true) :
      Step self .changed { self.reserve_session_change.1 with changing := self.changing + 1 }
  | exhaust {self : DatabaseOwner V C} (hexhausted : self.reserve_session_change.2 = false) :
      Step self .changed self.reserve_session_change.1
  | change {self : DatabaseOwner V C} {changing : Nat} (hchanging : self.changing = changing + 1)
      (hidle : ∀ cell, self.waiting cell = none) :
      Step self .changed { self.reserve_session_change.1 with changing }
  | close {self : DatabaseOwner V C} :
      Step self .changed { self.reserve_session_change.1 with closed := true, changing := self.changing + 1 }
  | close_client {self : DatabaseOwner V C} {handle : Nat} :
      Step self .changed { self with local_closed := Function.update self.local_closed handle true }
  /-- The last handle of a cell is gone, and the next one makes another cell. -/
  | forget {self : DatabaseOwner V C} {cell : RuntimeKey} (hwaiting : self.waiting cell = none) :
      Step self (.forgotten cell) { self with cells := Function.update self.cells cell .fresh }
  /-- Another owner takes over the rows, once no call of this one is left. -/
  | connect {self : DatabaseOwner V C} (hidle : ∀ cell, self.waiting cell = none) :
      Step self .connected (.connect self.db)

end surrealdb_rn_core.sync_client
