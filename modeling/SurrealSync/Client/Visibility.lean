import SurrealSync.Client.Frontier
import SurrealSync.Client.Intent
import SurrealSync.Client.Read

open Std
open surrealdb_sync_protocol surrealdb_sync_protocol.subscription

namespace surrealdb_sync_client

variable {V : Type}

/-- One epoch of an authority's history, by sequence. -/
structure AuthorityHistory (V : Type) where
  epoch : UInt64
  commit : UInt64 → PullCommit V
  numbered : ∀ sequence, (commit sequence).sequence = sequence

/-- The authority's rows after its commits 1 to `sequence`. -/
def AuthorityHistory.rows (history : AuthorityHistory V) (sequence : UInt64) :
    BTreeMap RecordId (RecordState V) :=
  (List.range' 1 sequence.toNat).foldl
    (fun rows n => apply_commit rows (history.commit (UInt64.ofNat n))) ∅

/-- An applied record is what the authority records for an operation: the value
and reference of an upsert, the tombstone of a delete. -/
def RecordsOperation : Operation V → AppliedRecord V → Prop
  | .Upsert record_id _ value reference, ⟨applied_id, .Present applied _ applied_reference⟩ =>
    applied_id = record_id ∧ applied = value ∧ applied_reference = reference
  | .Delete record_id _, ⟨applied_id, .Tombstone _⟩ => applied_id = record_id
  | _, _ => False

/-- An accepted outcome names the place in the history where the answered commit
was recorded. -/
def GenuineOutcome (history : AuthorityHistory V) (state : DurableClientState V) :
    DurableOutcome V → Prop
  | .Accepted identity sequence id_mappings => id_mappings = [] ∧ 0 < sequence ∧
    ∀ commit ∈ state.outbox, commit.identity = identity →
      List.Forall₂ RecordsOperation commit.operations (history.commit sequence).records
  | .Conflict .. => True
  | .Rejected .. => True

/-- A batch ends in the epoch of the history and carries commits of it. -/
def GenuineBatch (history : AuthorityHistory V) (batch : PullBatch V) : Prop :=
  (∀ frame ∈ batch.frames.getLast?, match frame with
    | .End finish => finish.cursor.epoch = history.epoch
    | _ => True) ∧
  ∀ entry ∈ delivered_commits batch, 0 < entry.2.sequence ∧ entry.2 = history.commit entry.2.sequence

/-- A complete snapshot holds the rows of the history up to its checkpoint. -/
def GenuineSnapshot (history : AuthorityHistory V) (checkpoint : Checkpoint)
    (records : List (SnapshotRecord V)) : Prop :=
  checkpoint.cursor.epoch = history.epoch ∧
    records.foldl insert_row ∅ = history.rows checkpoint.cursor.sequence

/-- A message that tells the truth about the history, whenever it arrives. -/
def Genuine (history : AuthorityHistory V) (state : DurableClientState V) : Transition V → Prop
  | .PushResponse response _ => GenuineOutcome history state response.outcome
  | .PullResponse (.Batch batch) => GenuineBatch history batch
  | .PullResponse (.Reset snapshot) => GenuineSnapshot history snapshot.checkpoint snapshot.records
  | .BootstrapSnapshot checkpoint records => GenuineSnapshot history checkpoint records
  | _ => True

/-- Sequence at which an outcome was accepted. -/
def ResolvedCommit.accepted_sequence (resolved : ResolvedCommit V) : Option UInt64 :=
  match resolved.outcome with
  | .Accepted _ sequence _ => some sequence
  | .Conflict .. => none
  | .Rejected .. => none

/-- An accepted outcome that no installed checkpoint has reached. -/
def ResolvedCommit.Unconfirmed (resolved : ResolvedCommit V) (checkpoint : Option Checkpoint) : Prop :=
  ∃ sequence ∈ resolved.accepted_sequence, ∀ current ∈ checkpoint, current.cursor.sequence < sequence

instance (resolved : ResolvedCommit V) (checkpoint : Option Checkpoint) :
    Decidable (resolved.Unconfirmed checkpoint) :=
  inferInstanceAs (Decidable (∃ _ ∈ resolved.accepted_sequence, _))

def Transition.IsReset : Transition V → Prop
  | .PullResponse (.Reset _) => True
  | _ => False

instance (transition : Transition V) : Decidable transition.IsReset :=
  match transition with
  | .PullResponse (.Reset _) => isTrue trivial
  | .PullResponse (.Batch _) => isFalse id
  | .Enqueue _ => isFalse id
  | .PushResponse _ _ => isFalse id
  | .ResolveConflict _ _ => isFalse id
  | .BootstrapSnapshot _ _ => isFalse id
  | .StartSubscription _ => isFalse id
  | .CancelSubscription _ _ => isFalse id
  | .SubscriptionResponse _ => isFalse id

/-- Within one epoch the frontier never moves back. -/
theorem FrontierLe.applied_sequence_le {epoch : UInt64} {state next : DurableClientState V}
    (hle : FrontierLe state next)
    (hstate : ∀ checkpoint, state.checkpoint = some checkpoint → checkpoint.cursor.epoch = epoch)
    (hnext : ∀ checkpoint, next.checkpoint = some checkpoint → checkpoint.cursor.epoch = epoch) :
    state.applied_sequence ≤ next.applied_sequence := by
  cases hcheckpoint : state.checkpoint with
  | none =>
    simp only [DurableClientState.applied_sequence, hcheckpoint]
    exact UInt64.le_iff_toNat_le.mpr (Nat.zero_le _)
  | some checkpoint =>
    obtain ⟨installed, hinstalled, hle⟩ := hle checkpoint hcheckpoint
    simp only [DurableClientState.applied_sequence, hcheckpoint, hinstalled]
    rcases hle.cursor with hlt | ⟨_, hsequence⟩
    · rw [hstate checkpoint hcheckpoint, hnext installed hinstalled] at hlt
      exact absurd hlt (UInt64.lt_irrefl _)
    · exact hsequence

theorem GenuineOutcome.mappings_eq_nil {history : AuthorityHistory V} {state : DurableClientState V}
    {outcome : DurableOutcome V} (hgenuine : GenuineOutcome history state outcome) :
    accepted_mappings outcome = [] := by
  cases outcome with
  | Accepted identity sequence id_mappings => exact hgenuine.1
  | Conflict identity record_id authoritative => rfl
  | Rejected identity reason => rfl
theorem not_same_epoch_of_none {state : DurableClientState V} (hnone : state.checkpoint = none)
    {checkpoint : Checkpoint} : ¬ same_epoch state checkpoint := by
  rintro ⟨current, hsome, _⟩
  rw [hnone] at hsome
  cases hsome

/-- Covering keeps the receipt and adds the flag up to the snapshot, or
everywhere when the epoch is not the installed one. -/
theorem cover_outcome_spec (sameEpoch : Bool) (checkpoint : Checkpoint) (resolved : ResolvedCommit V) :
    (cover_outcome sameEpoch checkpoint resolved).accepted_sequence = resolved.accepted_sequence ∧
      ∀ sequence, resolved.accepted_sequence = some sequence →
        ((cover_outcome sameEpoch checkpoint resolved).covered_by_reset ↔
          resolved.covered_by_reset ∨ sameEpoch = false ∨ sequence ≤ checkpoint.cursor.sequence) := by
  unfold cover_outcome
  cases houtcome : resolved.outcome with
  | Accepted identity sequence id_mappings =>
    dsimp only
    split
    · rename_i hcovers
      simp_all [ResolvedCommit.accepted_sequence]
    · rename_i hcovers
      simp_all [ResolvedCommit.accepted_sequence]
  | Conflict identity record_id authoritative => simp [ResolvedCommit.accepted_sequence, houtcome]
  | Rejected identity reason => simp [ResolvedCommit.accepted_sequence, houtcome]

variable [DecidableEq V]

instance : (operation : Operation V) → (record : AppliedRecord V) →
    Decidable (RecordsOperation operation record)
  | .Upsert .., ⟨_, .Present ..⟩ => inferInstanceAs (Decidable (_ ∧ _))
  | .Upsert .., ⟨_, .Absent⟩ => isFalse id
  | .Upsert .., ⟨_, .Tombstone _⟩ => isFalse id
  | .Delete .., ⟨_, .Tombstone _⟩ => inferInstanceAs (Decidable (_ = _))
  | .Delete .., ⟨_, .Absent⟩ => isFalse id
  | .Delete .., ⟨_, .Present ..⟩ => isFalse id

instance (history : AuthorityHistory V) (state : DurableClientState V) :
    (outcome : DurableOutcome V) → Decidable (GenuineOutcome history state outcome)
  | .Accepted .. => inferInstanceAs (Decidable (_ ∧ _ ∧ _))
  | .Conflict .. => isTrue trivial
  | .Rejected .. => isTrue trivial

instance (history : AuthorityHistory V) (batch : PullBatch V) : Decidable (GenuineBatch history batch) :=
  have (frame : PullFrame V) : Decidable (match frame with
      | .End finish => finish.cursor.epoch = history.epoch
      | _ => True) :=
    match frame with
    | .End _ => inferInstanceAs (Decidable (_ = _))
    | .Start _ => isTrue trivial
    | .Commit _ _ => isTrue trivial
  inferInstanceAs (Decidable (_ ∧ _))

instance (history : AuthorityHistory V) (checkpoint : Checkpoint) (records : List (SnapshotRecord V)) :
    Decidable (GenuineSnapshot history checkpoint records) :=
  inferInstanceAs (Decidable (_ ∧ _))

instance (history : AuthorityHistory V) (state : DurableClientState V) :
    (transition : Transition V) → Decidable (Genuine history state transition)
  | .PushResponse response _ => inferInstanceAs (Decidable (GenuineOutcome history state response.outcome))
  | .PullResponse (.Batch batch) => inferInstanceAs (Decidable (GenuineBatch history batch))
  | .PullResponse (.Reset snapshot) =>
    inferInstanceAs (Decidable (GenuineSnapshot history snapshot.checkpoint snapshot.records))
  | .BootstrapSnapshot checkpoint records =>
    inferInstanceAs (Decidable (GenuineSnapshot history checkpoint records))
  | .Enqueue _ => isTrue trivial
  | .ResolveConflict _ _ => isTrue trivial
  | .StartSubscription _ => isTrue trivial
  | .CancelSubscription _ _ => isTrue trivial
  | .SubscriptionResponse _ => isTrue trivial

/-- The commits that were settled before the client knew any epoch, when a reset
gave it its first checkpoint. -/
def Epochless (edges : List (Trace.Edge (ClientRuntime V) (Transition V))) (identity : CommitIdentity) :
    Prop :=
  ∃ edge ∈ edges, edge.label.IsReset ∧ edge.source.state.checkpoint = none ∧
    identity ∈ edge.source.state.settled

instance (edges : List (Trace.Edge (ClientRuntime V) (Transition V))) (identity : CommitIdentity) :
    Decidable (Epochless edges identity) :=
  inferInstanceAs (Decidable (∃ _ ∈ edges, _))

/-- A recorded outcome carries the coverage flag exactly as it should: an
epochless receipt is covered, any other one only below the frontier. -/
def CoverageExact (edges : List (Trace.Edge (ClientRuntime V) (Transition V))) (applied_sequence : UInt64)
    (resolved : ResolvedCommit V) : Prop :=
  ∀ sequence, resolved.accepted_sequence = some sequence → 0 < sequence ∧
    (resolved.covered_by_reset → Epochless edges resolved.local_commit.identity ∨
      sequence ≤ applied_sequence) ∧
    (Epochless edges resolved.local_commit.identity → resolved.covered_by_reset)

/-- What holds of the coverage flags after a run of genuine messages. -/
structure Exposed (history : AuthorityHistory V)
    (edges : List (Trace.Edge (ClientRuntime V) (Transition V))) (state : DurableClientState V) : Prop where
  epoch : ∀ checkpoint, state.checkpoint = some checkpoint → checkpoint.cursor.epoch = history.epoch
  settled : ∀ identity, Epochless edges identity → identity ∈ state.settled
  outcomes : ∀ resolved ∈ state.outcomes, CoverageExact edges state.applied_sequence resolved

theorem CoverageExact.mono {edges : List (Trace.Edge (ClientRuntime V) (Transition V))}
    {applied applied' : UInt64} {resolved : ResolvedCommit V}
    (hexact : CoverageExact edges applied resolved) (hle : applied ≤ applied') :
    CoverageExact edges applied' resolved := by
  intro sequence hsequence
  obtain ⟨hpositive, hcovered, hepochless⟩ := hexact sequence hsequence
  exact ⟨hpositive, fun h => (hcovered h).imp_right fun h => UInt64.le_trans h hle, hepochless⟩

/-- Exactness only reads the identity, the accepted sequence and the flag. -/
theorem CoverageExact.congr {edges : List (Trace.Edge (ClientRuntime V) (Transition V))}
    {applied : UInt64} {resolved resolved' : ResolvedCommit V}
    (hexact : CoverageExact edges applied resolved)
    (hidentity : resolved'.local_commit.identity = resolved.local_commit.identity)
    (hsequence : resolved'.accepted_sequence = resolved.accepted_sequence)
    (hcovered : resolved'.covered_by_reset = resolved.covered_by_reset) :
    CoverageExact edges applied resolved' := by
  unfold CoverageExact
  rw [hidentity, hsequence, hcovered]
  exact hexact

theorem epochless_append {edges : List (Trace.Edge (ClientRuntime V) (Transition V))}
    {edge : Trace.Edge (ClientRuntime V) (Transition V)} {identity : CommitIdentity} :
    Epochless (edges ++ [edge]) identity ↔ Epochless edges identity ∨
      (edge.label.IsReset ∧ edge.source.state.checkpoint = none ∧ identity ∈ edge.source.state.settled) := by
  simp [Epochless, or_and_right, exists_or]

/-- With an exact flag, an outcome is overlaid when it is unconfirmed and not
epochless. -/
theorem CoverageExact.overlaid {edges : List (Trace.Edge (ClientRuntime V) (Transition V))}
    {state : DurableClientState V} {resolved : ResolvedCommit V}
    (hexact : CoverageExact edges state.applied_sequence resolved) :
    overlaid_commit state.applied_sequence resolved =
      if resolved.Unconfirmed state.checkpoint ∧ ¬ Epochless edges resolved.local_commit.identity then
        some resolved.local_commit
      else none := by
  unfold overlaid_commit
  cases houtcome : resolved.outcome with
  | Conflict identity record_id authoritative =>
    simp [ResolvedCommit.Unconfirmed, ResolvedCommit.accepted_sequence, houtcome]
  | Rejected identity reason =>
    simp [ResolvedCommit.Unconfirmed, ResolvedCommit.accepted_sequence, houtcome]
  | Accepted identity sequence id_mappings =>
    have haccepted : resolved.accepted_sequence = some sequence := by
      simp [ResolvedCommit.accepted_sequence, houtcome]
    obtain ⟨hpositive, hcovered, hepochless⟩ := hexact sequence haccepted
    have hunconfirmed : resolved.Unconfirmed state.checkpoint ↔ state.applied_sequence < sequence := by
      unfold ResolvedCommit.Unconfirmed DurableClientState.applied_sequence
      cases state.checkpoint with
      | none => simpa [haccepted] using hpositive
      | some checkpoint => simp [haccepted]
    have hvisible : (!resolved.covered_by_reset) = true ∧ sequence > state.applied_sequence ↔
        resolved.Unconfirmed state.checkpoint ∧ ¬ Epochless edges resolved.local_commit.identity := by
      rw [hunconfirmed, Bool.not_eq_true', ← Bool.not_eq_true]
      constructor
      · rintro ⟨hflag, habove⟩
        exact ⟨habove, mt hepochless hflag⟩
      · rintro ⟨habove, hepoch⟩
        refine ⟨fun hflag => ?_, habove⟩
        rcases hcovered hflag with h | h
        · exact hepoch h
        · exact absurd habove (UInt64.not_lt.mpr h)
    simp only [hvisible]

theorem filterMap_guard {α β : Type} (P : α → Prop) [DecidablePred P] (f : α → β) (l : List α) :
    l.filterMap (fun a => if P a then some (f a) else none) = (l.filter P).map f := by
  induction l with
  | nil => rfl
  | cons a l ih => by_cases ha : P a <;> simp [ha, ih]

theorem optimistic_operations_eq {edges : List (Trace.Edge (ClientRuntime V) (Transition V))}
    {state : DurableClientState V}
    (hexact : ∀ resolved ∈ state.outcomes, CoverageExact edges state.applied_sequence resolved) :
    optimistic_operations state =
      (state.outcomes.filter fun resolved => resolved.Unconfirmed state.checkpoint ∧
        ¬ Epochless edges resolved.local_commit.identity).flatMap (·.local_commit.operations) ++
      state.outbox.flatMap (·.operations) := by
  unfold optimistic_operations
  rw [List.flatMap_append]
  congr 1
  rw [List.filterMap_congr fun resolved hmem => (hexact resolved hmem).overlaid, filterMap_guard,
    List.flatMap_map]

theorem Exposed.frame {history : AuthorityHistory V}
    {edges : List (Trace.Edge (ClientRuntime V) (Transition V))} {before after : ClientRuntime V}
    {transition : Transition V} (hexposed : Exposed history edges before.state)
    (hstep : Step before transition after)
    (hknown : transition.IsReset → before.state.checkpoint ≠ none)
    (hepoch : ∀ checkpoint, after.state.checkpoint = some checkpoint →
      checkpoint.cursor.epoch = history.epoch)
    (houtcomes : ∀ resolved ∈ after.state.outcomes,
      CoverageExact edges after.state.applied_sequence resolved) :
    Exposed history (edges ++ [⟨before, transition, after⟩]) after.state := by
  have hsame (identity : CommitIdentity) :
      Epochless (edges ++ [⟨before, transition, after⟩]) identity ↔ Epochless edges identity := by
    rw [epochless_append]
    exact or_iff_left fun hfirst => hknown hfirst.1 hfirst.2.1
  refine ⟨hepoch, fun identity hepochless => ?_, fun resolved hmem => ?_⟩
  · exact settled_of_evolves hstep.accounts.outcomes
      (hexposed.settled identity ((hsame identity).mp hepochless))
  · unfold CoverageExact
    rw [hsame]
    exact houtcomes resolved hmem

/-- Genuine messages keep the client in the epoch of the history. -/
theorem FrontierMove.epoch {history : AuthorityHistory V} {state next : DurableClientState V}
    {transition : Transition V} (hmove : FrontierMove state transition next)
    (hepoch : ∀ checkpoint, state.checkpoint = some checkpoint → checkpoint.cursor.epoch = history.epoch)
    (hgenuine : Genuine history state transition) :
    ∀ checkpoint, next.checkpoint = some checkpoint → checkpoint.cursor.epoch = history.epoch := by
  intro installed hinstalled
  cases hmove with
  | kept hkept => exact hepoch installed (hkept.symm.trans hinstalled)
  | pulled hbatch haccepted hnext =>
    cases hnext.symm.trans hinstalled
    subst hbatch
    exact hgenuine.1 _ haccepted.finish
  | replaced hsnapshot hreplaces =>
    cases hreplaces.checkpoint_eq.symm.trans hinstalled
    cases transition with
    | PullResponse response =>
      cases response with
      | Batch batch => cases hsnapshot
      | Reset snapshot =>
        cases hsnapshot
        exact hgenuine.1
    | BootstrapSnapshot checkpoint records =>
      cases hsnapshot
      exact hgenuine.1
    | _ => cases hsnapshot

/-- A genuine push response renames nothing and records an uncovered outcome. -/
theorem record_outcome_of_no_mappings {state next : DurableClientState V} {local_commit : ClientCommit V}
    {outcome : DurableOutcome V} {policy : AutomaticConflictPolicy}
    (hrecord : record_outcome state local_commit outcome policy = .ok next)
    (hmappings : accepted_mappings outcome = []) :
    ∃ resolution, next.outcomes =
      state.outcomes ++ [{ local_commit, outcome, resolution, covered_by_reset := false }] := by
  simp only [record_outcome, hmappings, List.foldlM_nil, List.foldl_nil, Except.bind_eq_ok_iff,
    Except.ok.injEq] at hrecord
  obtain ⟨_, hsame, rfl⟩ := hrecord
  cases hsame
  exact ⟨_, rfl⟩


theorem CoverageExact.cover {edges : List (Trace.Edge (ClientRuntime V) (Transition V))}
    {applied : UInt64} {resolved : ResolvedCommit V} {checkpoint : Checkpoint}
    (hexact : CoverageExact edges applied resolved) (hle : applied ≤ checkpoint.cursor.sequence) :
    CoverageExact edges checkpoint.cursor.sequence (cover_outcome true checkpoint resolved) := by
  obtain ⟨hsequence, hcovered⟩ := cover_outcome_spec true checkpoint resolved
  intro sequence haccepted
  rw [hsequence] at haccepted
  obtain ⟨hpositive, hbelow, hepochless⟩ := hexact sequence haccepted
  rw [hcovered sequence haccepted, (Kept.of_cover true checkpoint resolved).identity]
  refine ⟨hpositive, ?_, fun h => .inl (hepochless h)⟩
  rintro (h | h | h)
  · exact (hbelow h).imp_right fun h => UInt64.le_trans h hle
  · cases h
  · exact .inr h

/-- A snapshot of a known epoch covers exactly what it contains. -/
theorem Exposed.cover {history : AuthorityHistory V}
    {edges : List (Trace.Edge (ClientRuntime V) (Transition V))} {state next : DurableClientState V}
    {current checkpoint : Checkpoint} {records : List (SnapshotRecord V)}
    (hexposed : Exposed history edges state) (hcurrent : state.checkpoint = some current)
    (hepoch : checkpoint.cursor.epoch = history.epoch)
    (hreplaces : SnapshotReplaces state checkpoint records next) :
    ∀ resolved ∈ next.outcomes, CoverageExact edges next.applied_sequence resolved := by
  have hsame : same_epoch state checkpoint :=
    ⟨current, hcurrent, (hexposed.epoch current hcurrent).trans hepoch.symm⟩
  have hle : state.applied_sequence ≤ checkpoint.cursor.sequence := by
    rcases (guard_frontier_eq_ok hreplaces.forward hcurrent).cursor with hlt | ⟨_, hsequence⟩
    · rw [hexposed.epoch current hcurrent, hepoch] at hlt
      exact absurd hlt (UInt64.lt_irrefl _)
    · simpa [DurableClientState.applied_sequence, hcurrent] using hsequence
  obtain ⟨_, _, _, rfl⟩ := hreplaces.replaced
  intro resolved hmem
  obtain ⟨earlier, hearlier, rfl⟩ := List.mem_map.mp hmem
  rw [decide_eq_true hsame]
  exact (hexposed.outcomes earlier hearlier).cover hle

theorem Exposed.record {history : AuthorityHistory V}
    {edges : List (Trace.Edge (ClientRuntime V) (Transition V))} {state next : DurableClientState V}
    {response : PushResponse V} {policy : AutomaticConflictPolicy} {local_commit : ClientCommit V}
    (hexposed : Exposed history edges state) (hvalid : state.Valid)
    (hgenuine : GenuineOutcome history state response.outcome)
    (hfound : state.outbox.find? (fun commit => commit.identity = response.outcome.identity) =
      some local_commit)
    (hrecord : record_outcome state local_commit response.outcome policy = .ok next) :
    ∀ resolved ∈ next.outcomes, CoverageExact edges state.applied_sequence resolved := by
  obtain ⟨resolution, houtcomes⟩ := record_outcome_of_no_mappings hrecord hgenuine.mappings_eq_nil
  rw [houtcomes, List.forall_mem_append, List.forall_mem_singleton]
  refine ⟨hexposed.outcomes, fun sequence hsequence => ?_⟩
  have hpending : local_commit.identity ∈ state.pending :=
    List.mem_map_of_mem (List.mem_of_find?_eq_some hfound)
  refine ⟨?_, by simp, fun hepochless => ?_⟩
  · cases houtcome : response.outcome with
    | Accepted identity accepted id_mappings =>
      simp only [ResolvedCommit.accepted_sequence, houtcome, Option.some.injEq] at hsequence
      rw [houtcome] at hgenuine
      exact hsequence ▸ hgenuine.2.1
    | Conflict identity record_id authoritative =>
      simp [ResolvedCommit.accepted_sequence, houtcome] at hsequence
    | Rejected identity reason => simp [ResolvedCommit.accepted_sequence, houtcome] at hsequence
  · -- a queued commit was not settled at any earlier reset
    exact absurd (hexposed.settled _ hepochless) (hvalid.not_settled hpending)

theorem exists_of_mem_modify {α : Type} {f : α → α} {index : Nat} {l : List α} {a : α}
    (hmem : a ∈ l.modify index f) : ∃ b ∈ l, a = b ∨ a = f b := by
  obtain ⟨position, hposition⟩ := List.mem_iff_getElem?.mp hmem
  rw [List.getElem?_modify] at hposition
  obtain ⟨b, hb, rfl⟩ := Option.map_eq_some_iff.mp hposition
  refine ⟨b, List.mem_of_getElem? hb, ?_⟩
  split
  · exact .inr rfl
  · exact .inl rfl

/-- Every effect except the first reset keeps the coverage flags exact. -/
theorem Exposed.effect {history : AuthorityHistory V}
    {edges : List (Trace.Edge (ClientRuntime V) (Transition V))} {state next : DurableClientState V}
    {transition : Transition V} (hexposed : Exposed history edges state) (hvalid : state.Valid)
    (heffect : Effect state transition next) (hgenuine : Genuine history state transition)
    (hknown : transition.IsReset → state.checkpoint ≠ none) :
    ∀ resolved ∈ next.outcomes, CoverageExact edges next.applied_sequence resolved := by
  have hle : state.applied_sequence ≤ next.applied_sequence :=
    heffect.frontier.le.applied_sequence_le hexposed.epoch (heffect.frontier.epoch hexposed.epoch hgenuine)
  cases heffect with
  | recorded hfound hrecord =>
    intro resolved hmem
    exact (hexposed.record hvalid hgenuine hfound hrecord resolved hmem).mono hle
  | decided _ _ _ hdecide =>
    obtain ⟨rfl, _⟩ := decide_conflict_eq_ok hdecide
    intro resolved hmem
    obtain ⟨earlier, hearlier, rfl | rfl⟩ := exists_of_mem_modify hmem
    · exact hexposed.outcomes _ hearlier
    · exact (hexposed.outcomes earlier hearlier).congr rfl rfl rfl
  | reset hreplaces =>
    obtain ⟨current, hcurrent⟩ := Option.ne_none_iff_exists'.mp (hknown trivial)
    exact hexposed.cover hcurrent hgenuine.1 hreplaces
  | bootstrapped hepoch _ hreplaces =>
    cases hcurrent : state.checkpoint with
    | some current => exact hexposed.cover hcurrent hgenuine.1 hreplaces
    | none =>
      -- an unknown epoch admits a bootstrap only without accepted outcomes
      obtain ⟨_, _, _, rfl⟩ := hreplaces.replaced
      intro resolved hmem sequence hsequence
      obtain ⟨earlier, hearlier, rfl⟩ := List.mem_map.mp hmem
      rw [(cover_outcome_spec _ _ earlier).1] at hsequence
      have haccepted : earlier.outcome.IsAccepted := by
        unfold ResolvedCommit.accepted_sequence at hsequence
        split at hsequence
        · rename_i houtcome
          rw [houtcome]
          trivial
        · cases hsequence
        · cases hsequence
      exact absurd ⟨not_same_epoch_of_none hcurrent, earlier, hearlier, haccepted⟩ hepoch
  | _ =>
    intro resolved hmem
    exact (hexposed.outcomes resolved hmem).mono hle

/-- The first reset covers every receipt, and makes it epochless. -/
theorem Exposed.first_reset {history : AuthorityHistory V}
    {edges : List (Trace.Edge (ClientRuntime V) (Transition V))} {state next : DurableClientState V}
    {transition : Transition V} (hexposed : Exposed history edges state)
    (heffect : Effect state transition next) (hreset : transition.IsReset)
    (hunknown : state.checkpoint = none) :
    ∀ resolved ∈ next.outcomes, resolved.local_commit.identity ∈ state.settled ∧
      ∀ sequence, resolved.accepted_sequence = some sequence → 0 < sequence ∧ resolved.covered_by_reset := by
  cases heffect with
  | reset hreplaces =>
    obtain ⟨_, _, _, rfl⟩ := hreplaces.replaced
    intro resolved hmem
    obtain ⟨earlier, hearlier, rfl⟩ := List.mem_map.mp hmem
    rw [decide_eq_false (not_same_epoch_of_none hunknown)]
    obtain ⟨hsequence, hcovered⟩ := cover_outcome_spec false _ earlier
    refine ⟨?_, fun sequence haccepted => ?_⟩
    · rw [(Kept.of_cover _ _ earlier).identity]
      exact List.mem_map_of_mem hearlier
    · rw [hsequence] at haccepted
      exact ⟨(hexposed.outcomes earlier hearlier sequence haccepted).1,
        (hcovered sequence haccepted).mpr (.inr (.inl rfl))⟩
  | _ => cases hreset

theorem Exposed.step {history : AuthorityHistory V}
    {edges : List (Trace.Edge (ClientRuntime V) (Transition V))} {before after : ClientRuntime V}
    {transition : Transition V} (hexposed : Exposed history edges before.state)
    (hstep : Step before transition after) (hgenuine : Genuine history before.state transition) :
    Exposed history (edges ++ [⟨before, transition, after⟩]) after.state := by
  obtain ⟨next, heffect, hstamped⟩ := hstep.effect
  obtain ⟨_, hafter⟩ := hstamped.exists_revision
  have hepoch : ∀ checkpoint, after.state.checkpoint = some checkpoint →
      checkpoint.cursor.epoch = history.epoch := by
    rw [hafter]
    exact heffect.frontier.epoch hexposed.epoch hgenuine
  by_cases hfirst : transition.IsReset ∧ before.state.checkpoint = none
  · obtain ⟨hreset, hunknown⟩ := hfirst
    have hcovered := hexposed.first_reset heffect hreset hunknown
    refine ⟨hepoch, fun identity hepochless => ?_, fun resolved hmem => ?_⟩
    · rcases epochless_append.mp hepochless with hearlier | ⟨_, _, hsettled⟩
      · exact settled_of_evolves hstep.accounts.outcomes (hexposed.settled identity hearlier)
      · exact settled_of_evolves hstep.accounts.outcomes hsettled
    · rw [hafter] at hmem
      obtain ⟨hsettled, hflag⟩ := hcovered resolved hmem
      intro sequence hsequence
      obtain ⟨hpositive, hflag⟩ := hflag sequence hsequence
      exact ⟨hpositive, fun _ => .inl (epochless_append.mpr (.inr ⟨hreset, hunknown, hsettled⟩)),
        fun _ => hflag⟩
  · have hknown : transition.IsReset → before.state.checkpoint ≠ none :=
      fun hreset hnone => hfirst ⟨hreset, hnone⟩
    have houtcomes := hexposed.effect before.is_valid heffect hgenuine hknown
    refine hexposed.frame hstep hknown hepoch ?_
    rw [hafter]
    exact houtcomes

theorem Run.exposed {history : AuthorityHistory V} {first last : ClientRuntime V}
    {edges : List (Trace.Edge (ClientRuntime V) (Transition V))} (hrun : Run first edges last)
    (hfirst : Exposed history [] first.state)
    (hgenuine : ∀ edge ∈ edges, Genuine history edge.source.state edge.label) :
    Exposed history edges last.state := by
  refine Trace.Run.lastInduction (motive := fun first edges last =>
    Exposed history [] first.state →
    (∀ edge ∈ edges, Genuine history edge.source.state edge.label) →
    Exposed history edges last.state) ?_ ?_ hrun hfirst hgenuine
  · exact fun _ hfirst _ => hfirst
  · intro first edges middle transition last _ hstep ih hfirst hgenuine
    rw [List.forall_mem_append, List.forall_mem_singleton] at hgenuine
    exact (ih hfirst hgenuine.1).step hstep hgenuine.2

/-- Accepted edits stay visible, operation by operation and in order, until a
checkpoint reaches their sequence. The one exception are receipts recorded before
the first checkpoint, when a reset is what brings it: their epoch is unknown, and
from then on they count as contained in the snapshot. -/
theorem accepted_visible_until_confirmed {history : AuthorityHistory V} {partition_id : PartitionId}
    {client_id : ClientId} {requested_scope : ScopeIdentity} {subscription_revision : UInt64}
    {first last : ClientRuntime V} {edges : List (Trace.Edge (ClientRuntime V) (Transition V))}
    (hempty : first.state = .empty partition_id client_id requested_scope subscription_revision)
    (hrun : Run first edges last)
    (hgenuine : ∀ edge ∈ edges, Genuine history edge.source.state edge.label) :
    optimistic_operations last.state =
      (last.state.outcomes.filter fun resolved => resolved.Unconfirmed last.state.checkpoint ∧
        ¬ Epochless edges resolved.local_commit.identity).flatMap (·.local_commit.operations) ++
      last.state.outbox.flatMap (·.operations) := by
  have hfirst : Exposed history [] first.state := by
    rw [hempty]
    exact ⟨by simp [DurableClientState.empty], by simp [Epochless], by simp [DurableClientState.empty]⟩
  exact optimistic_operations_eq (Run.exposed hrun hfirst hgenuine).outcomes

namespace transitions

/-- An authority that records a foreign commit and then the client's own. -/
def history : AuthorityHistory String where
  epoch := 1
  commit := fun sequence =>
    if sequence = 1 then pull_commit sequence [("other", present "x" 1)]
    else if sequence = 2 then pull_commit sequence [("a", present "mine" 1)]
    else pull_commit sequence []
  numbered := by
    intro sequence
    split
    · rfl
    · split
      · rfl
      · rfl

def accepted (id : String) (sequence : UInt64) : Transition String :=
  .PushResponse (push_response (.Accepted (identity id) sequence [])) .Manual

/-- The pull of the foreign commit leaves the accepted one visible. -/
theorem accepted_visible_behind_pull :
    ∃ (last : ClientRuntime String) (edges : List (Trace.Edge (ClientRuntime String) (Transition String))),
      last.state.checkpoint = some (checkpoint "one" 1 1) ∧
      optimistic_operations last.state = [upsert "a" "mine" none] ∧
      optimistic_operations last.state =
        (last.state.outcomes.filter fun resolved => resolved.Unconfirmed last.state.checkpoint ∧
          ¬ Epochless edges resolved.local_commit.identity).flatMap (·.local_commit.operations) ++
        last.state.outbox.flatMap (·.operations) := by
  have hexecute : (do
      let (edges, last) ← opened.execute [
        .Enqueue (commit "one" [upsert "a" "mine" none]),
        accepted "one" 2,
        pull (checkpoint "one" 1 1) [pull_commit 1 [("other", present "x" 1)]]]
      Except.refuse (¬ (last.state.checkpoint = some (checkpoint "one" 1 1) ∧
        optimistic_operations last.state = [upsert "a" "mine" none] ∧
        ∀ edge ∈ edges, Genuine history edge.source.state edge.label)) ClientError.EmptyCommit) = .ok () := by
    decide
  simp only [Except.bind_eq_ok_iff, Except.refuse_eq_ok_iff, not_not] at hexecute
  obtain ⟨⟨edges, last⟩, hlast, hcheckpoint, hvisible, hgenuine⟩ := hexecute
  exact ⟨last, edges, hcheckpoint, hvisible,
    accepted_visible_until_confirmed rfl (run_of_execute hlast) hgenuine⟩

/-- A snapshot older than an accepted commit, but the first message with an epoch,
hides that commit although no checkpoint has reached it. -/
theorem accepted_hidden_by_first_reset :
    ¬ ∀ (history : AuthorityHistory String) (last : ClientRuntime String)
      (edges : List (Trace.Edge (ClientRuntime String) (Transition String))),
      Run opened edges last → (∀ edge ∈ edges, Genuine history edge.source.state edge.label) →
      ∀ resolved ∈ last.state.outcomes, resolved.Unconfirmed last.state.checkpoint →
        ∀ operation ∈ resolved.local_commit.operations, operation ∈ optimistic_operations last.state := by
  have hexecute : (do
      let (edges, last) ← opened.execute [
        .Enqueue (commit "one" [upsert "a" "mine" none]),
        accepted "one" 2,
        reset (checkpoint "one" 1 1) [("other", present "x" 1)]]
      Except.refuse (¬ ((∀ edge ∈ edges, Genuine history edge.source.state edge.label) ∧
        ∃ resolved ∈ last.state.outcomes, resolved.Unconfirmed last.state.checkpoint ∧
          ∃ operation ∈ resolved.local_commit.operations,
            operation ∉ optimistic_operations last.state)) ClientError.EmptyCommit) = .ok () := by
    decide
  simp only [Except.bind_eq_ok_iff, Except.refuse_eq_ok_iff, not_not] at hexecute
  obtain ⟨⟨edges, last⟩, hlast, hgenuine, resolved, hresolved, hunconfirmed, operation, hoperation,
    hhidden⟩ := hexecute
  intro hclaim
  exact hhidden (hclaim history last edges (run_of_execute hlast) hgenuine resolved hresolved hunconfirmed
    operation hoperation)

end transitions

end surrealdb_sync_client
