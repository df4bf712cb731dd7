import SurrealSync.Client.Runtime
import SurrealSync.Client.WindowValidity

open Std
open surrealdb_sync_protocol surrealdb_sync_protocol.subscription

namespace surrealdb_sync_client

variable {V : Type}

/-- A commit has operations, on pairwise different records. -/
structure CommitValid (commit : ClientCommit V) : Prop where
  nonempty : commit.operations ≠ []
  distinct : (commit.operations.map (·.record_id)).Nodup

theorem validate_commit_eq_ok_iff {commit : ClientCommit V} {u : Unit} :
    validate_commit commit = .ok u ↔ CommitValid commit := by
  simp only [validate_commit, Except.bind_eq_ok_iff, Except.refuse_eq_ok_iff,
    BTreeSet.foldlM_insertFresh_only_eq_ok_iff]
  constructor
  · rintro ⟨_, hnonempty, _, ⟨hdistinct, _⟩, _⟩
    exact ⟨hnonempty, hdistinct⟩
  · rintro ⟨hnonempty, hdistinct⟩
    exact ⟨(), hnonempty, _, ⟨hdistinct, fun _ _ => ExtTreeSet.not_mem_empty, rfl⟩, rfl⟩

/-- Identities of all commits the client still owes or has settled. -/
def DurableClientState.commit_ids (state : DurableClientState V) : List ClientCommitId :=
  state.outbox.map (·.identity.client_commit_id) ++
    state.outcomes.map (·.local_commit.identity.client_commit_id)

/-- Everything validation requires of a recorded outcome on its own. -/
structure OutcomeValid (resolved : ResolvedCommit V) : Prop where
  commit : CommitValid resolved.local_commit
  covered : resolved.covered_by_reset → resolved.outcome.IsAccepted
  identity : resolved.outcome.identity = resolved.local_commit.identity

theorem validate_outcome_eq_ok_iff {resolved : ResolvedCommit V} {u : Unit} :
    validate_outcome resolved = .ok u ↔ OutcomeValid resolved := by
  simp only [validate_outcome, Except.bind_eq_ok_iff, validate_commit_eq_ok_iff,
    Except.refuse_eq_ok_iff, not_and, not_not, ne_eq]
  constructor
  · rintro ⟨_, hcommit, _, hcovered, hidentity⟩
    exact ⟨hcommit, hcovered, hidentity⟩
  · rintro ⟨hcommit, hcovered, hidentity⟩
    exact ⟨(), hcommit, (), hcovered, hidentity⟩

/-- Everything validation requires of a durable state. -/
structure DurableClientState.Valid (state : DurableClientState V) : Prop where
  commits : ∀ commit ∈ state.outbox, CommitValid commit
  outcomes : ∀ resolved ∈ state.outcomes, OutcomeValid resolved
  commit_ids : state.commit_ids.Nodup
  resolutions : ∀ resolved ∈ state.outcomes, validate_resolution state resolved = .ok ()
  confirmed : ∀ record_id : RecordId, state.confirmed[record_id]? ≠ some RecordState.Absent
  checkpoint : ∀ checkpoint, state.checkpoint = some checkpoint →
    checkpoint.token.val ≠ "" ∧ checkpoint.cursor.epoch ≠ 0 ∧ validate_scope state checkpoint = .ok ()
  coverage : validate_coverage state = .ok ()
  windows : ∀ windows, state.subscriptions = some windows → windows.Valid state
  id_map : ∀ local_id canonical_id, state.id_map[local_id]? = some canonical_id →
    local_id ≠ canonical_id ∧ canonical_id ∉ state.id_map
  confirmed_unmapped : ∀ local_id ∈ state.id_map, ∀ record_id record,
    state.confirmed[record_id]? = some record →
      record_id ≠ local_id ∧ ¬ record_references_id record local_id
  outbox_unmapped : ∀ local_id ∈ state.id_map, ∀ commit ∈ state.outbox,
    ¬ commit_contains_id commit local_id
  outcomes_unmapped : ∀ local_id ∈ state.id_map, ∀ resolved ∈ state.outcomes,
    ¬ commit_contains_id resolved.local_commit local_id ∧ ¬ outcome_contains_id resolved.outcome local_id

theorem validate_checkpoint_eq_ok_iff [DecidableEq V] {state : DurableClientState V} {u : Unit} :
    validate_checkpoint state = .ok u ↔
      (∀ record_id : RecordId, state.confirmed[record_id]? ≠ some RecordState.Absent) ∧
      ∀ checkpoint, state.checkpoint = some checkpoint →
        checkpoint.token.val ≠ "" ∧ checkpoint.cursor.epoch ≠ 0 ∧
          validate_scope state checkpoint = .ok () := by
  have hconfirmed : (∀ entry ∈ state.confirmed.toList, ¬ entry.2 = RecordState.Absent) ↔
      ∀ record_id : RecordId, state.confirmed[record_id]? ≠ some RecordState.Absent := by
    simp only [Prod.forall, ExtTreeMap.mem_toList_iff_getElem?_eq_some]
    exact ⟨fun h record_id hget => h record_id _ hget rfl, fun h record_id _ hget habsent =>
      h record_id (habsent ▸ hget)⟩
  simp only [validate_checkpoint, Except.bind_eq_ok_iff, Except.forM_eq_ok_iff,
    Except.refuse_eq_ok_iff, hconfirmed]
  cases hcheckpoint : state.checkpoint with
  | none => simp
  | some checkpoint =>
    simp only [Except.bind_eq_ok_iff, Except.refuse_eq_ok_iff, not_or, Option.some.injEq,
      forall_eq']
    constructor
    · rintro ⟨_, hrecords, _, ⟨htoken, hepoch⟩, hscope⟩
      exact ⟨hrecords, htoken, hepoch, hscope⟩
    · rintro ⟨hrecords, htoken, hepoch, hscope⟩
      exact ⟨(), hrecords, (), ⟨htoken, hepoch⟩, hscope⟩

theorem validate_no_mapped_local_ids_eq_ok_iff {state : DurableClientState V} {u : Unit} :
    validate_no_mapped_local_ids state = .ok u ↔
      ∀ local_id ∈ state.id_map,
        (∀ record_id record, state.confirmed[record_id]? = some record →
          record_id ≠ local_id ∧ ¬ record_references_id record local_id) ∧
        (∀ commit ∈ state.outbox, ¬ commit_contains_id commit local_id) ∧
        ∀ resolved ∈ state.outcomes, ¬ commit_contains_id resolved.local_commit local_id ∧
          ¬ outcome_contains_id resolved.outcome local_id := by
  simp only [validate_no_mapped_local_ids, Except.forM_eq_ok_iff, Except.refuse_eq_ok_iff,
    ExtTreeMap.mem_keys, not_or, not_exists, not_and, Prod.forall,
    ExtTreeMap.mem_toList_iff_getElem?_eq_some, ne_eq]

theorem validate_subscriptions_eq_ok_iff {state : DurableClientState V} {u : Unit} :
    validate_subscriptions state = .ok u ↔
      ∀ windows, state.subscriptions = some windows → windows.Valid state := by
  unfold validate_subscriptions
  cases hwindows : state.subscriptions with
  | none => simp
  | some windows =>
    cases u
    simp [DurableSubscriptions.validate_eq_ok_iff]

theorem validate_id_map_eq_ok_iff {id_map : BTreeMap RecordId RecordId} {u : Unit} :
    validate_id_map id_map = .ok u ↔
      ∀ local_id canonical_id, id_map[local_id]? = some canonical_id →
        local_id ≠ canonical_id ∧ canonical_id ∉ id_map := by
  simp only [validate_id_map, Except.forM_eq_ok_iff, Except.refuse_eq_ok_iff, Prod.forall,
    ExtTreeMap.mem_toList_iff_getElem?_eq_some, not_or, ne_eq]

/-- A coverage marker is backed by a checkpoint of its epoch and scope that is
not behind it. -/
structure CoverageValid (coverage : ResetCoverage) (checkpoint : Checkpoint) : Prop where
  epoch : coverage.cursor.epoch = checkpoint.cursor.epoch
  sequence : coverage.cursor.sequence ≤ checkpoint.cursor.sequence
  scope : coverage.scope = checkpoint.scope

theorem exists_checkpoint_of_validate_coverage {state : DurableClientState V} {u : Unit}
    (hvalid : validate_coverage state = .ok u) {coverage : ResetCoverage}
    (hcoverage : state.reset_coverage = some coverage) :
    ∃ checkpoint, state.checkpoint = some checkpoint ∧ CoverageValid coverage checkpoint := by
  simp only [validate_coverage, hcoverage, Except.bind_eq_ok_iff, Except.okOr_eq_ok_iff,
    Except.refuse_eq_ok_iff, not_or, ne_eq, not_not, gt_iff_lt, UInt64.not_lt] at hvalid
  obtain ⟨checkpoint, hcheckpoint, _, hepoch, hsequence, hscope⟩ := hvalid
  exact ⟨checkpoint, hcheckpoint, hepoch, hsequence, hscope⟩

/-- The two identity loops together: every commit and outcome passes its checks
and no commit id occurs twice in the outbox and the outcomes. -/
theorem identity_loops_eq_ok_iff {state : DurableClientState V} :
    (∃ identities, state.outbox.foldlM (fun identities commit => do
        validate_commit commit
        BTreeSet.insertFresh identities commit.identity.client_commit_id
          (ClientError.DuplicateCommitId commit.identity.client_commit_id))
        (∅ : BTreeSet ClientCommitId) = .ok identities ∧
      ∃ last, state.outcomes.foldlM (fun identities resolved => do
        validate_outcome resolved
        BTreeSet.insertFresh identities resolved.local_commit.identity.client_commit_id
          (ClientError.DuplicateCommitId resolved.local_commit.identity.client_commit_id))
        identities = .ok last) ↔
      (∀ commit ∈ state.outbox, CommitValid commit) ∧
      (∀ resolved ∈ state.outcomes, OutcomeValid resolved) ∧ state.commit_ids.Nodup := by
  simp only [BTreeSet.foldlM_insertFresh_eq_ok_iff, validate_commit_eq_ok_iff,
    validate_outcome_eq_ok_iff, DurableClientState.commit_ids, List.nodup_append]
  constructor
  · rintro ⟨_, ⟨hcommits, hdistinct, _, rfl⟩, _, houtcomes, hresolved, hunseen, rfl⟩
    refine ⟨hcommits, houtcomes, hdistinct, hresolved, ?_⟩
    rintro id hid _ hresolvedId rfl
    obtain ⟨resolved, hmem, rfl⟩ := List.mem_map.mp hresolvedId
    exact hunseen resolved hmem (BTreeSet.mem_foldl_insert.mpr (.inr hid))
  · rintro ⟨hcommits, houtcomes, hdistinct, hresolved, hdisjoint⟩
    refine ⟨_, ⟨hcommits, hdistinct, fun _ _ => ExtTreeSet.not_mem_empty, rfl⟩, _, houtcomes,
      hresolved, fun resolved hmem hseen => ?_, rfl⟩
    rcases BTreeSet.mem_foldl_insert.mp hseen with hempty | hid
    · exact ExtTreeSet.not_mem_empty hempty
    · exact hdisjoint _ hid _ (List.mem_map_of_mem hmem) rfl

/-- `validate` accepts exactly the valid states. -/
theorem DurableClientState.validate_eq_ok_iff [DecidableEq V] {state : DurableClientState V} :
    state.validate = .ok () ↔ state.Valid := by
  simp only [DurableClientState.validate, Except.bind_eq_ok_iff, validate_conflict_resolutions,
    Except.forM_eq_ok_iff, validate_checkpoint_eq_ok_iff, validate_subscriptions_eq_ok_iff,
    validate_id_map_eq_ok_iff, validate_no_mapped_local_ids_eq_ok_iff]
  constructor
  · rintro ⟨identities, hidentities, last, hlast, _, hresolutions, _, ⟨hconfirmed, hcheckpoint⟩, _,
      hcoverage, _, hwindows, _, hidMap, hunmapped⟩
    obtain ⟨hcommits, houtcomes, hdistinct⟩ :=
      identity_loops_eq_ok_iff.mp ⟨identities, hidentities, last, hlast⟩
    exact ⟨hcommits, houtcomes, hdistinct, hresolutions, hconfirmed, hcheckpoint, hcoverage, hwindows,
      hidMap, fun local_id hlocal => (hunmapped local_id hlocal).1,
      fun local_id hlocal => (hunmapped local_id hlocal).2.1,
      fun local_id hlocal => (hunmapped local_id hlocal).2.2⟩
  · intro hvalid
    obtain ⟨identities, hidentities, last, hlast⟩ :=
      identity_loops_eq_ok_iff.mpr ⟨hvalid.commits, hvalid.outcomes, hvalid.commit_ids⟩
    exact ⟨identities, hidentities, last, hlast, (), hvalid.resolutions, (),
      ⟨hvalid.confirmed, hvalid.checkpoint⟩, (), hvalid.coverage, (), hvalid.windows, (), hvalid.id_map,
      fun local_id hlocal => ⟨hvalid.confirmed_unmapped local_id hlocal,
        hvalid.outbox_unmapped local_id hlocal, hvalid.outcomes_unmapped local_id hlocal⟩⟩

theorem ClientRuntime.is_valid [DecidableEq V] (self : ClientRuntime V) : self.state.Valid :=
  DurableClientState.validate_eq_ok_iff.mp self.valid

end surrealdb_sync_client
