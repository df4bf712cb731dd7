import SurrealSync.Basic.Trace
import SurrealSync.Client.Subscriptions

open Std
open surrealdb_sync_protocol surrealdb_sync_protocol.subscription

namespace surrealdb_sync_client

variable {V : Type}

/-- The calls that prepare a replacement state, with their arguments. -/
inductive Transition (V : Type) where
  | Enqueue (commit : ClientCommit V)
  | PushResponse (response : PushResponse V) (policy : AutomaticConflictPolicy)
  | ResolveConflict (conflicted_commit_id : ClientCommitId) (request : ConflictResolutionRequest V)
  | PullResponse (response : PullResponse V)
  | BootstrapSnapshot (checkpoint : Checkpoint) (records : List (SnapshotRecord V))
  | StartSubscription (request : SubscriptionRequest)
  | CancelSubscription (id : String) (generation : UInt64)
  | SubscriptionResponse (response : SubscriptionResponse V)
deriving DecidableEq

/-- The id mappings a transition carries: those of an accepted push outcome. -/
def Transition.mappings : Transition V → List IdMapping
  | .PushResponse response _ => accepted_mappings response.outcome
  | _ => []

variable [DecidableEq V]

def ClientRuntime.prepare_transition (self : ClientRuntime V) :
    Transition V → Result (PreparedTransition V)
  | .Enqueue commit => self.prepare_enqueue commit
  | .PushResponse response policy => self.prepare_push_response_with_policy response policy
  | .ResolveConflict conflicted_commit_id request =>
    self.prepare_resolve_conflict conflicted_commit_id request
  | .PullResponse response => self.prepare_pull_response response
  | .BootstrapSnapshot checkpoint records => self.prepare_bootstrap_snapshot checkpoint records
  | .StartSubscription request => self.prepare_start_subscription request
  | .CancelSubscription id generation => self.prepare_cancel_subscription id generation
  | .SubscriptionResponse response => self.prepare_subscription_response response

/-- One installed transition: a successful preparation, installed at once. -/
def Step (before : ClientRuntime V) (transition : Transition V) (after : ClientRuntime V) : Prop :=
  ∃ prepared, before.prepare_transition transition = .ok prepared ∧
    before.install prepared = .ok after

/-- A run of installed transitions, with the state before and after each. -/
abbrev Run (first : ClientRuntime V) (edges : List (Trace.Edge (ClientRuntime V) (Transition V)))
    (last : ClientRuntime V) : Prop :=
  Trace.Run Step first edges last

/-- Prepares and installs these transitions in order. -/
def ClientRuntime.execute (self : ClientRuntime V) : List (Transition V) →
    Result (List (Trace.Edge (ClientRuntime V) (Transition V)) × ClientRuntime V)
  | [] => .ok ([], self)
  | transition :: transitions => do
    let prepared ← self.prepare_transition transition
    let next ← self.install prepared
    let (edges, last) ← next.execute transitions
    .ok (⟨self, transition, next⟩ :: edges, last)

theorem run_of_execute {first last : ClientRuntime V} {transitions : List (Transition V)}
    {edges : List (Trace.Edge (ClientRuntime V) (Transition V))}
    (hexecute : first.execute transitions = .ok (edges, last)) : Run first edges last := by
  induction transitions generalizing first edges with
  | nil =>
    cases hexecute
    exact .nil _
  | cons transition transitions ih =>
    simp only [ClientRuntime.execute, Except.bind_eq_ok_iff, Except.ok.injEq, Prod.mk.injEq] at hexecute
    obtain ⟨prepared, hprepare, next, hinstall, ⟨rest, last⟩, hrest, rfl, rfl⟩ := hexecute
    exact .cons ⟨prepared, hprepare, hinstall⟩ (ih hrest)

/-! The fixtures of the source's transition tests. -/

namespace transitions

def empty_state : DurableClientState String :=
  .empty ⟨"partition"⟩ ⟨"client"⟩ ⟨"scope"⟩ 1

def opened : ClientRuntime String :=
  ⟨empty_state, by decide⟩

def identity (id : String) : CommitIdentity :=
  ⟨⟨id⟩, ⟨"fingerprint-" ++ id⟩⟩

def upsert (id value : String) (reference : Option String) : Operation String :=
  .Upsert ⟨id⟩ .Absent value (reference.map RecordId.mk)

def commit (id : String) (operations : List (Operation String)) : ClientCommit String :=
  ⟨identity id, operations⟩

def checkpoint (token : String) (epoch sequence : UInt64) : Checkpoint :=
  ⟨⟨token⟩, ⟨epoch, sequence⟩, ⟨⟨"scope"⟩, 1, 1⟩⟩

def push_response (outcome : DurableOutcome String) : PushResponse String :=
  ⟨.V1, ⟨"partition"⟩, ⟨"client"⟩, outcome⟩

def present (value : String) (version : UInt64) : RecordState String :=
  .Present value version none

def pull_commit (sequence : UInt64) (records : List (String × RecordState String)) : PullCommit String :=
  ⟨sequence, none, records.map fun (id, state) => ⟨⟨id⟩, state⟩⟩

def batch (checkpoint : Checkpoint) (commits : List (PullCommit String)) : PullBatch String :=
  ⟨.Start checkpoint :: commits.map (.Commit checkpoint.token) ++ [.End checkpoint]⟩

def pull (checkpoint : Checkpoint) (commits : List (PullCommit String)) : Transition String :=
  .PullResponse (.Batch (batch checkpoint commits))

def reset (checkpoint : Checkpoint) (records : List (String × RecordState String)) : Transition String :=
  .PullResponse (.Reset ⟨.CheckpointExpired, checkpoint, records.map fun (id, state) => ⟨⟨id⟩, state⟩⟩)

def start (id : String) (generation : UInt64) (definition : String) : SubscriptionRequest :=
  ⟨⟨"partition"⟩, ⟨"client"⟩, ⟨"scope"⟩, 1, .Start id generation definition ∅ 2⟩

def ordered_by (field : String) (direction : SortDirection) : WindowCoverage :=
  ⟨"by_" ++ field, 2, field, .Int, direction⟩

def row (id : String) (version : UInt64) (value : String) (score : Int64) : SubscriptionRow String :=
  ⟨⟨id⟩, value, version, .Int score⟩

def window (id : String) (generation : UInt64) (coverage : WindowCoverage) (frontier : Cursor)
    (view_revision : UInt64) (response : WindowResponseKind) (ordered_ids : List String)
    (changes : List (MembershipChange String)) : SubscriptionResponse String where
  partition_id := ⟨"partition"⟩
  client_id := ⟨"client"⟩
  subscription_id := id
  generation
  plan_fingerprint := "plan"
  scope := ⟨⟨"scope"⟩, 1, 1⟩
  frontier
  view_revision
  coverage
  response
  token := if response = .Cancelled then none else some ⟨"resume"⟩
  ordered_ids := ordered_ids.map RecordId.mk
  changes

end transitions

end surrealdb_sync_client
