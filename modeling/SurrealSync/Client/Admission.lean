import SurrealSync.Client.PullValidity
import SurrealSync.Client.Subscriptions

open Std
open surrealdb_sync_protocol surrealdb_sync_protocol.subscription

namespace surrealdb_sync_client

variable {V : Type}

theorem DurableClientState.windows_eq {state : DurableClientState V} {windows : DurableSubscriptions V}
    (hwindows : state.subscriptions = some windows) : state.windows = windows := by
  rw [DurableClientState.windows, hwindows, Option.getD_some]

/-- Scope of the subscription windows, once one was installed. -/
def DurableClientState.authorization_scope (state : DurableClientState V) : Option ScopeSnapshot :=
  state.subscriptions.bind (·.authorization_scope)

theorem guard_subscription_scope_eq_ok {state : DurableClientState V} {scope : ScopeSnapshot} {u : Unit}
    (hguard : guard_subscription_scope state scope = .ok u) {previous : ScopeSnapshot}
    (hprevious : state.authorization_scope = some previous) : previous = scope := by
  unfold guard_subscription_scope at hguard
  obtain ⟨windows, hwindows, hscope⟩ := Option.bind_eq_some_iff.mp hprevious
  by_contra hne
  rw [if_pos ⟨windows, hwindows, previous, hscope, hne⟩] at hguard
  split at hguard
  · cases hguard
  · cases hguard

theorem refuse_scope_change_eq_ok {state : DurableClientState V} {changed : Prop} [Decidable changed]
    {u : Unit} (hguard : refuse_scope_change state changed = .ok u) : ¬ changed := by
  intro hchanged
  rw [refuse_scope_change, if_pos hchanged] at hguard
  split at hguard
  · cases hguard
  · cases hguard

/-- A response that passes the guards common to all kinds: it answers the
current start of its subscription, and no cancellation bars it. -/
structure Answered (state : DurableClientState V) (response : SubscriptionResponse V)
    (current : DurableSubscriptions V) (request : SubscriptionRequest) : Prop where
  subscriptions : state.subscriptions = some current
  unbarred : ¬ current.Barred response.subscription_id response.generation
  requested : current.requests[response.subscription_id]? = some request
  start : request.command.IsStart
  generation : response.generation = request.command.identity.2

/-- What a response must show against the installed slot it replaces. -/
structure SlotForward (previous : SubscriptionSlot) (response : SubscriptionResponse V) : Prop where
  scope : response.scope = previous.scope
  frontier : CursorLe previous.frontier response.frontier
  view_revision : previous.view_revision ≤ response.view_revision

theorem guard_previous_slot_eq_ok {state : DurableClientState V} {previous : SubscriptionSlot}
    {response : SubscriptionResponse V} {u : Unit}
    (hguard : guard_previous_slot state (some previous) response = .ok u) :
    SlotForward previous response := by
  simp only [guard_previous_slot, Except.bind_eq_ok_iff, Except.refuse_eq_ok_iff, not_or, not_and,
    UInt64.not_lt] at hguard
  obtain ⟨_, hscope, hepoch, hsequence, hview⟩ := hguard
  refine ⟨not_not.mp (refuse_scope_change_eq_ok hscope), ?_, hview⟩
  by_cases hsame : previous.frontier.epoch = response.frontier.epoch
  · exact .inr ⟨hsame, hsequence hsame.symm⟩
  · exact .inl (UInt64.lt_of_le_of_ne hepoch hsame)

/-- An admitted window: it answers the current start, moves an installed slot
strictly forward, and its rows follow from the slot and the changes. -/
structure WindowAdmitted (state : DurableClientState V) (response : SubscriptionResponse V)
    (token : OpaqueCheckpoint) (rows : BTreeMap RecordId (SubscriptionRow V))
    (current : DurableSubscriptions V) (request : SubscriptionRequest) : Prop
    extends Answered state response current request where
  token : response.token = some token
  scope : guard_subscription_scope state response.scope = .ok ()
  forward : ∀ previous, current.slots[response.subscription_id]? = some previous →
    SlotForward previous response ∧ previous.view_revision ≠ response.view_revision
  rows : ∃ first touched, initial_rows current current.slots[response.subscription_id]? response = .ok first ∧
    response.changes.foldlM (apply_change response) (∅, first) = .ok (touched, rows)

/-- The three ways a response can be admissible. -/
inductive Admitted (state : DurableClientState V) (response : SubscriptionResponse V)
    (current : DurableSubscriptions V) (request : SubscriptionRequest) : Admission V → Prop where
  | cancelled (hcancelled : response.response = .Cancelled) :
      Admitted state response current request .Cancelled
  | repeated {previous : SubscriptionSlot}
      (hslot : current.slots[response.subscription_id]? = some previous)
      (hrepeats : repeats_slot current previous response) : Admitted state response current request .Repeated
  | window {token : OpaqueCheckpoint} {rows : BTreeMap RecordId (SubscriptionRow V)}
      (hwindow : WindowAdmitted state response token rows current request) :
      Admitted state response current request (.Window token rows)

variable [DecidableEq V]

theorem admit_response_eq_ok {state : DurableClientState V} {response : SubscriptionResponse V}
    {admission : Admission V} (hadmits : admit_response state response = .ok admission) :
    ∃ current request, Answered state response current request ∧
      Admitted state response current request admission := by
  simp only [admit_response, Except.bind_eq_ok_iff, Except.refuse_eq_ok_iff, Except.okOr_eq_ok_iff] at hadmits
  obtain ⟨_, _, current, hcurrent, _, hunbarred, request, hrequest, hadmits⟩ := hadmits
  split at hadmits
  · rename_i definition_id limit hcommand
    simp only [Except.bind_eq_ok_iff, Except.refuse_eq_ok_iff, not_or, not_not, ne_eq] at hadmits
    obtain ⟨_, ⟨_, _, hgeneration, _⟩, hadmits⟩ := hadmits
    have hanswered : Answered state response current request :=
      ⟨hcurrent, hunbarred, hrequest, by rw [hcommand]; trivial, hgeneration⟩
    refine ⟨current, request, hanswered, ?_⟩
    split at hadmits
    · rename_i hcancelled
      cases hadmits
      exact .cancelled hcancelled
    · simp only [Except.bind_eq_ok_iff, Except.okOr_eq_ok_iff] at hadmits
      obtain ⟨token, htoken, _, hscope, _, _, _, hprevious, hadmits⟩ := hadmits
      split at hadmits
      · rename_i hfilter
        split at hadmits
        · rename_i hrepeats
          cases hadmits
          exact .repeated (Option.filter_eq_some_iff.mp hfilter).1 hrepeats
        · cases hadmits
      · rename_i hfilter
        simp only [Except.bind_eq_ok_iff, Except.refuse_eq_ok_iff, Except.ok.injEq] at hadmits
        obtain ⟨first, hfirst, ⟨touched, rows⟩, hchanges, _, _, hwindow⟩ := hadmits
        cases hwindow
        refine .window ⟨hanswered, (Option.filter_eq_some_iff.mp htoken).1, hscope, fun previous hslot => ?_,
          first, touched, hfirst, hchanges⟩
        rw [hslot] at hprevious
        refine ⟨guard_previous_slot_eq_ok hprevious, fun hsame => ?_⟩
        have := Option.filter_eq_none_iff.mp hfilter previous hslot
        simp [hsame] at this
  · cases hadmits
  · cases hadmits

/-- A response that says cancelled is admitted as a cancellation only. -/
theorem admission_of_cancelled {state : DurableClientState V} {response : SubscriptionResponse V}
    {admission : Admission V} (hadmits : admit_response state response = .ok admission)
    (hcancelled : response.response = .Cancelled) : admission = .Cancelled := by
  simp only [admit_response, Except.bind_eq_ok_iff, Except.refuse_eq_ok_iff, Except.okOr_eq_ok_iff,
    hcancelled, if_true] at hadmits
  obtain ⟨_, _, current, _, _, _, request, _, hadmits⟩ := hadmits
  split at hadmits
  · simp only [Except.bind_eq_ok_iff] at hadmits
    obtain ⟨_, _, hadmission⟩ := hadmits
    cases hadmission
    rfl
  · cases hadmits
  · cases hadmits

end surrealdb_sync_client
