import SurrealSync.Client.Admission
import SurrealSync.Client.Replay

open Std
open surrealdb_sync_protocol surrealdb_sync_protocol.subscription

namespace surrealdb_sync_client

variable {V : Type}

/-- The only ways a checkpoint changes: a pull batch that continues it, or a
complete snapshot that passes the reset guards. -/
inductive FrontierMove [DecidableEq V] (state : DurableClientState V) (transition : Transition V)
    (next : DurableClientState V) : Prop where
  | kept (hkept : next.checkpoint = state.checkpoint) : FrontierMove state transition next
  | pulled {batch : PullBatch V} {checkpoint : Checkpoint} {commits : List (PullCommit V)}
      (hbatch : transition = .PullResponse (.Batch batch))
      (haccepted : PullAccepted state batch checkpoint commits)
      (hnext : next.checkpoint = some checkpoint) : FrontierMove state transition next
  | replaced {checkpoint : Checkpoint} {records : List (SnapshotRecord V)}
      (hsnapshot : transition.snapshot = some (checkpoint, records))
      (hreplaces : SnapshotReplaces state checkpoint records next) : FrontierMove state transition next

/-- One installed checkpoint does not fall behind another, in cursor or in
authorization. -/
structure CheckpointLe (earlier later : Checkpoint) : Prop where
  cursor : CursorLe earlier.cursor later.cursor
  authorization : earlier.scope.authorization_revision ≤ later.scope.authorization_revision

theorem CheckpointLe.refl (checkpoint : Checkpoint) : CheckpointLe checkpoint checkpoint :=
  ⟨.refl _, UInt64.le_refl _⟩

theorem CheckpointLe.trans {first second third : Checkpoint} (hfirst : CheckpointLe first second)
    (hsecond : CheckpointLe second third) : CheckpointLe first third :=
  ⟨hfirst.cursor.trans hsecond.cursor, UInt64.le_trans hfirst.authorization hsecond.authorization⟩

/-- An installed checkpoint stays installed and does not fall behind. -/
def FrontierLe (earlier later : DurableClientState V) : Prop :=
  ∀ checkpoint, earlier.checkpoint = some checkpoint →
    ∃ installed, later.checkpoint = some installed ∧ CheckpointLe checkpoint installed

theorem FrontierLe.of_eq {earlier later : DurableClientState V}
    (hsame : later.checkpoint = earlier.checkpoint) : FrontierLe earlier later :=
  fun checkpoint hcheckpoint => ⟨checkpoint, hsame.trans hcheckpoint, .refl checkpoint⟩

theorem FrontierLe.trans {first second third : DurableClientState V} (hfirst : FrontierLe first second)
    (hsecond : FrontierLe second third) : FrontierLe first third := by
  intro checkpoint hcheckpoint
  obtain ⟨middle, hmiddle, hle⟩ := hfirst checkpoint hcheckpoint
  obtain ⟨installed, hinstalled, hnext⟩ := hsecond middle hmiddle
  exact ⟨installed, hinstalled, hle.trans hnext⟩

/-- The table that `get_or_insert_with` finds has the scope of the state. -/
theorem DurableClientState.windows_authorization_scope (state : DurableClientState V) :
    state.windows.authorization_scope = state.authorization_scope := by
  unfold DurableClientState.windows DurableClientState.authorization_scope
  cases state.subscriptions with
  | none => rfl
  | some windows => rfl

/-- In a valid state the windows' scope is that of every slot and of the
checkpoint. -/
theorem DurableClientState.Valid.authorized {state : DurableClientState V} (hvalid : state.Valid)
    {scope : ScopeSnapshot} (hscope : state.authorization_scope = some scope) :
    (∀ (id : String) (slot : SubscriptionSlot), state.windows.slots[id]? = some slot → slot.scope = scope) ∧
      ∀ checkpoint, state.checkpoint = some checkpoint → checkpoint.scope = scope := by
  obtain ⟨windows, hwindows, hscope⟩ := Option.bind_eq_some_iff.mp hscope
  have hvalidWindows := hvalid.windows windows hwindows
  constructor
  · intro id slot hslot
    rw [DurableClientState.windows_eq hwindows] at hslot
    exact Option.some.inj ((hvalidWindows.slots id slot hslot).authorized.symm.trans hscope)
  · intro checkpoint hcheckpoint
    have hauthorization := hvalidWindows.authorization
    simp only [validate_authorization, hscope, Except.refuse_eq_ok_iff, not_or, not_exists, not_and,
      ne_eq, not_not] at hauthorization
    exact hauthorization.2.2 checkpoint hcheckpoint

variable [DecidableEq V]

theorem Effect.frontier {state next : DurableClientState V} {transition : Transition V}
    (heffect : Effect state transition next) : FrontierMove state transition next := by
  cases heffect with
  | recorded _ hrecord =>
    obtain ⟨renamed, _, hrenamed, rfl⟩ := record_outcome_eq_ok hrecord
    refine .kept ?_
    rw [hrenamed.frame]
  | decided _ _ _ hdecide =>
    obtain ⟨rfl, _⟩ := decide_conflict_eq_ok hdecide
    exact .kept rfl
  | rotated hbatch _ _ => exact .pulled rfl (validate_pull_batch_eq_ok hbatch) rfl
  | advanced hbatch _ _ => exact .pulled rfl (validate_pull_batch_eq_ok hbatch) rfl
  | reset hreplaces => exact .replaced rfl hreplaces
  | bootstrapped _ _ hreplaces => exact .replaced rfl hreplaces
  | _ => exact .kept rfl

theorem SnapshotReplaces.checkpoint_eq {state next : DurableClientState V} {checkpoint : Checkpoint}
    {records : List (SnapshotRecord V)} (hreplaces : SnapshotReplaces state checkpoint records next) :
    next.checkpoint = some checkpoint := by
  obtain ⟨_, _, _, rfl⟩ := hreplaces.replaced
  rfl

theorem FrontierMove.le {state next : DurableClientState V} {transition : Transition V}
    (hmove : FrontierMove state transition next) : FrontierLe state next := by
  cases hmove with
  | kept hkept => exact .of_eq hkept
  | pulled _ haccepted hnext =>
    intro current hcurrent
    obtain ⟨hscope, hepoch, hsequence⟩ := haccepted.continues current hcurrent
    exact ⟨_, hnext, .inr ⟨hepoch.symm, hsequence⟩, hscope ▸ UInt64.le_refl _⟩
  | replaced _ hreplaces =>
    intro current hcurrent
    have hforward := guard_frontier_eq_ok hreplaces.forward hcurrent
    exact ⟨_, hreplaces.checkpoint_eq, hforward.cursor, hforward.authorization⟩

/-- Only a snapshot changes the scope of an installed checkpoint, and only when
no local intent is left to strand. -/
theorem FrontierMove.fence {state next : DurableClientState V} {transition : Transition V}
    (hmove : FrontierMove state transition next) {current installed : Checkpoint}
    (hcurrent : state.checkpoint = some current) (hinstalled : next.checkpoint = some installed)
    (hscope : installed.scope ≠ current.scope) :
    (state.outbox = [] ∧ state.outcomes = []) ∧ next.outbox = [] ∧ next.outcomes = [] := by
  cases hmove with
  | kept hkept =>
    cases (hkept.trans hcurrent).symm.trans hinstalled
    exact absurd rfl hscope
  | pulled _ haccepted hnext =>
    cases hnext.symm.trans hinstalled
    exact absurd (haccepted.continues current hcurrent).1 hscope
  | replaced _ hreplaces =>
    cases hreplaces.checkpoint_eq.symm.trans hinstalled
    obtain ⟨hpending, houtcomes⟩ := (guard_frontier_eq_ok hreplaces.forward hcurrent).intent hscope
    have houtbox : state.outbox = [] := by
      by_contra hne
      exact hpending (.inl hne)
    obtain ⟨_, _, _, rfl⟩ := hreplaces.replaced
    exact ⟨⟨houtbox, houtcomes⟩, houtbox, by simp [houtcomes]⟩

theorem install_window_eq_ok {current windows : DurableSubscriptions V} {response : SubscriptionResponse V}
    {token : OpaqueCheckpoint} {rows : BTreeMap RecordId (SubscriptionRow V)}
    (hinstall : install_window current response token rows = .ok windows) :
    windows.authorization_scope = some response.scope := by
  simp only [install_window, Except.bind_eq_ok_iff, Except.ok.injEq] at hinstall
  obtain ⟨_, _, rfl⟩ := hinstall
  rfl

/-- The windows' scope, once set, is never replaced by another one. -/
theorem Effect.authorization_scope {state next : DurableClientState V} {transition : Transition V}
    (heffect : Effect state transition next) {scope : ScopeSnapshot}
    (hscope : state.authorization_scope = some scope) : next.authorization_scope = some scope := by
  cases heffect with
  | recorded _ hrecord =>
    obtain ⟨renamed, _, hrenamed, rfl⟩ := record_outcome_eq_ok hrecord
    rw [hrenamed.frame]
    exact hscope
  | decided _ _ _ hdecide =>
    obtain ⟨rfl, _⟩ := decide_conflict_eq_ok hdecide
    exact hscope
  | reset hreplaces =>
    obtain ⟨_, _, _, rfl⟩ := hreplaces.replaced
    exact hscope
  | bootstrapped _ _ hreplaces =>
    obtain ⟨_, _, _, rfl⟩ := hreplaces.replaced
    exact hscope
  | restarted _ => exact state.windows_authorization_scope.trans hscope
  | started _ _ _ => exact state.windows_authorization_scope.trans hscope
  | cancelled _ => exact state.windows_authorization_scope.trans hscope
  | withdrawn _ _ => exact state.windows_authorization_scope.trans hscope
  | @shown response token rows current windows hadmits _ hinstall =>
    obtain ⟨_, _, _, hadmitted⟩ := admit_response_eq_ok hadmits
    cases hadmitted with
    | window hwindow =>
      rw [guard_subscription_scope_eq_ok hwindow.scope hscope]
      exact install_window_eq_ok hinstall
  | _ => exact hscope

theorem Step.frontier_le {before after : ClientRuntime V} {transition : Transition V}
    (hstep : Step before transition after) : FrontierLe before.state after.state := by
  obtain ⟨next, heffect, hstamped⟩ := hstep.effect
  obtain ⟨_, hafter⟩ := hstamped.exists_revision
  rw [hafter]
  exact heffect.frontier.le

theorem Step.authorization_scope {before after : ClientRuntime V} {transition : Transition V}
    (hstep : Step before transition after) {scope : ScopeSnapshot}
    (hscope : before.state.authorization_scope = some scope) :
    after.state.authorization_scope = some scope := by
  obtain ⟨next, heffect, hstamped⟩ := hstep.effect
  obtain ⟨_, hafter⟩ := hstamped.exists_revision
  rw [hafter]
  exact heffect.authorization_scope hscope

theorem Step.fence {before after : ClientRuntime V} {transition : Transition V}
    (hstep : Step before transition after) {current installed : Checkpoint}
    (hcurrent : before.state.checkpoint = some current)
    (hinstalled : after.state.checkpoint = some installed) (hscope : installed.scope ≠ current.scope) :
    (before.state.outbox = [] ∧ before.state.outcomes = []) ∧
      after.state.outbox = [] ∧ after.state.outcomes = [] := by
  obtain ⟨next, heffect, hstamped⟩ := hstep.effect
  obtain ⟨_, hafter⟩ := hstamped.exists_revision
  rw [hafter] at hinstalled ⊢
  exact heffect.frontier.fence hcurrent hinstalled hscope

/-- Frontier and authorization between two states of a run. -/
structure FrontierFenced (earlier : DurableClientState V)
    (edges : List (Trace.Edge (ClientRuntime V) (Transition V))) (later : DurableClientState V) : Prop where
  frontier : FrontierLe earlier later
  intent : ∀ edge ∈ edges, ∀ current installed, edge.source.state.checkpoint = some current →
    edge.target.state.checkpoint = some installed → installed.scope ≠ current.scope →
      (edge.source.state.outbox = [] ∧ edge.source.state.outcomes = []) ∧
        edge.target.state.outbox = [] ∧ edge.target.state.outcomes = []
  authorization : ∀ scope, earlier.authorization_scope = some scope →
    later.authorization_scope = some scope ∧
      (∀ (id : String) (slot : SubscriptionSlot), later.windows.slots[id]? = some slot →
        slot.scope = scope) ∧
      ∀ checkpoint, later.checkpoint = some checkpoint → checkpoint.scope = scope

/-- The frontier and the authorization of a client only move forward, and the
scope of its checkpoint only changes while no local intent is recorded. -/
theorem frontier_fenced {earlier later : ClientRuntime V}
    {edges : List (Trace.Edge (ClientRuntime V) (Transition V))} (hrun : Run earlier edges later) :
    FrontierFenced earlier.state edges later.state where
  frontier := hrun.relates (R := fun earlier later => FrontierLe earlier.state later.state)
    (fun _ => .of_eq rfl) (fun _ _ _ => .trans) (fun _ _ _ => Step.frontier_le)
  intent := fun _ hedge _ _ hcurrent hinstalled hscope =>
    (hrun.step_of_mem hedge).fence hcurrent hinstalled hscope
  authorization := by
    intro scope hscope
    have hlater : later.state.authorization_scope = some scope :=
      hrun.preserves (P := fun runtime => runtime.state.authorization_scope = some scope)
        (fun _ _ _ hstep => hstep.authorization_scope) hscope
    exact ⟨hlater, later.is_valid.authorized hlater⟩

namespace transitions

def reauthorized (authorization_revision : UInt64) (checkpoint : Checkpoint) : Checkpoint :=
  { checkpoint with scope := { checkpoint.scope with authorization_revision } }

/-- A new authorization arrives by a reset once nothing is queued. -/
theorem frontier_fenced_at_new_authorization :
    ∃ (earlier later : ClientRuntime String)
      (edges : List (Trace.Edge (ClientRuntime String) (Transition String))),
      earlier.state.checkpoint = some (checkpoint "one" 1 1) ∧
      later.state.checkpoint = some (reauthorized 2 (checkpoint "two" 2 0)) ∧
      FrontierFenced earlier.state edges later.state := by
  have hexecute : (do
      let (_, earlier) ← opened.execute [
        pull (checkpoint "one" 1 1) [pull_commit 1 [("a", present "x" 1)]]]
      let (_, later) ← earlier.execute [
        reset (reauthorized 2 (checkpoint "two" 2 0)) [("a", present "y" 2)]]
      Except.refuse (¬ (earlier.state.checkpoint = some (checkpoint "one" 1 1) ∧
        later.state.checkpoint = some (reauthorized 2 (checkpoint "two" 2 0))))
        ClientError.EmptyCommit) = .ok () := by
    decide
  simp only [Except.bind_eq_ok_iff, Except.refuse_eq_ok_iff, not_not] at hexecute
  obtain ⟨⟨_, earlier⟩, _, ⟨edges, later⟩, hlater, hfirst, hlast⟩ := hexecute
  exact ⟨earlier, later, edges, hfirst, hlast, frontier_fenced (run_of_execute hlater)⟩

end transitions

end surrealdb_sync_client
