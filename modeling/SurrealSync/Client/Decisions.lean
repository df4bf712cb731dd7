import SurrealSync.Client.Redelivery

open Std
open surrealdb_sync_protocol surrealdb_sync_protocol.subscription

namespace surrealdb_sync_client

variable {V : Type}

/-- A conflict of this commit id is recorded, with this decision. -/
def Decided (commit_id : ClientCommitId) (resolution : ConflictResolution) (state : DurableClientState V) :
    Prop :=
  ∃ resolved ∈ state.outcomes, conflicted commit_id resolved ∧ resolved.resolution = some resolution

/-- The decisions a request stands for. Keeping the server's record is also what
the automatic policy does. -/
def Stands (resolution : ConflictResolution) (request : ConflictResolutionRequest V) : Prop :=
  resolution = request.resolution ∨
    (resolution = .PreferServerPolicyV1 ∧ request.resolution = .KeepServer)

theorem conflicted_of_kept {commit_id : ClientCommitId} {earlier later : ResolvedCommit V}
    (hkept : Kept earlier later) (hconflicted : conflicted commit_id earlier) :
    conflicted commit_id later := by
  simp only [conflicted, Bool.and_eq_true, decide_eq_true_eq] at hconflicted ⊢
  obtain ⟨hid, hconflict⟩ := hconflicted
  refine ⟨by rw [hkept.identity, hid], ?_⟩
  have houtcome := hkept.outcome
  cases hearlier : earlier.outcome with
  | Conflict identity record_id authoritative =>
    rw [hearlier] at houtcome
    obtain ⟨_, _, hlater⟩ := houtcome
    rw [hlater]
    trivial
  | Accepted identity sequence id_mappings =>
    rw [hearlier] at hconflict
    cases hconflict
  | Rejected identity reason =>
    rw [hearlier] at hconflict
    cases hconflict

theorem stands_of_matches [DecidableEq V] {state : DurableClientState V} {resolution : ConflictResolution}
    {request : ConflictResolutionRequest V}
    (hmatches : resolution_request_matches state resolution request) : Stands resolution request := by
  unfold Stands
  cases resolution <;> cases request <;>
    simp_all [ConflictResolutionRequest.resolution, resolution_request_matches]

/-- Only a request for the same decision is recognised as a retry. -/
theorem resolution_eq_of_matches [DecidableEq V] {state : DurableClientState V}
    {resolution : ConflictResolution} {request other : ConflictResolutionRequest V}
    (hstands : Stands resolution request) (hmatches : resolution_request_matches state resolution other) :
    other.resolution = request.resolution := by
  rcases hstands with rfl | ⟨rfl, hrequest⟩
  · cases request <;> cases other <;>
      simp_all [ConflictResolutionRequest.resolution, resolution_request_matches]
  · cases other <;> simp_all [ConflictResolutionRequest.resolution, resolution_request_matches]

/-- A retry is recognised as long as its replacement is kept as it was. -/
theorem matches_iff_of_stands [DecidableEq V] {state : DurableClientState V}
    {resolution : ConflictResolution} {request : ConflictResolutionRequest V}
    (hstands : Stands resolution request) :
    resolution_request_matches state resolution request ↔
      ∀ replacement, request.replacement = some replacement → replacement ∈ state.commits := by
  rcases hstands with rfl | ⟨rfl, hrequest⟩
  · cases request <;>
      simp [ConflictResolutionRequest.resolution, resolution_request_matches,
        ConflictResolutionRequest.replacement, DurableClientState.commits]
  · cases request <;>
      simp_all [ConflictResolutionRequest.resolution, resolution_request_matches,
        ConflictResolutionRequest.replacement]

theorem DurableClientState.Valid.commits_unmapped {state : DurableClientState V} (hvalid : state.Valid)
    {record_id : RecordId} (hmapped : record_id ∈ state.id_map) {commit : ClientCommit V}
    (hmem : commit ∈ state.commits) : ¬ commit_contains_id commit record_id := by
  rcases List.mem_append.mp hmem with hqueued | hsettled
  · exact hvalid.outbox_unmapped record_id hmapped commit hqueued
  · obtain ⟨resolved, hresolved, rfl⟩ := List.mem_map.mp hsettled
    exact (hvalid.outcomes_unmapped record_id hmapped resolved hresolved).1

variable [DecidableEq V]

/-- The decision of a request can be submitted again without effect. -/
def DecisionIdempotent (runtime : ClientRuntime V) (commit_id : ClientCommitId)
    (request : ConflictResolutionRequest V) : Prop :=
  ∃ prepared, runtime.prepare_resolve_conflict commit_id request = .ok prepared ∧
    prepared.state = runtime.state

/-- No request for another decision is accepted: neither another strategy nor
another replacement. -/
def DecisionFinal (runtime : ClientRuntime V) (commit_id : ClientCommitId)
    (request : ConflictResolutionRequest V) : Prop :=
  ∀ other : ConflictResolutionRequest V, other.resolution ≠ request.resolution →
    runtime.prepare_resolve_conflict commit_id other = .error (.ConflictAlreadyResolved commit_id)

/-- Once a conflict is decided, every request is either recognised or refused. -/
theorem prepare_resolve_conflict_of_decided {runtime : ClientRuntime V} {commit_id : ClientCommitId}
    {resolution : ConflictResolution} (hdecided : Decided commit_id resolution runtime.state)
    (request : ConflictResolutionRequest V) :
    runtime.prepare_resolve_conflict commit_id request =
      if resolution_request_matches runtime.state resolution request then runtime.prepare runtime.state
      else .error (.ConflictAlreadyResolved commit_id) := by
  obtain ⟨resolved, hmem, hconflicted, hresolution⟩ := hdecided
  have hfind : runtime.state.outcomes.find? (conflicted commit_id) = some resolved := by
    refine runtime.is_valid.find_outcome hmem hconflicted fun other _ hother => ?_
    simp only [conflicted, Bool.and_eq_true, decide_eq_true_eq] at hconflicted hother
    rw [hother.1, hconflicted.1]
  simp [ClientRuntime.prepare_resolve_conflict, hfind, hresolution]

theorem decision_final {runtime : ClientRuntime V} {commit_id : ClientCommitId}
    {resolution : ConflictResolution} {request : ConflictResolutionRequest V}
    (hdecided : Decided commit_id resolution runtime.state) (hstands : Stands resolution request) :
    DecisionFinal runtime commit_id request := by
  intro other hother
  rw [prepare_resolve_conflict_of_decided hdecided, if_neg]
  exact fun hmatches => hother (resolution_eq_of_matches hstands hmatches)

theorem decision_idempotent_iff_kept {runtime : ClientRuntime V} {commit_id : ClientCommitId}
    {resolution : ConflictResolution} {request : ConflictResolutionRequest V}
    (hdecided : Decided commit_id resolution runtime.state) (hstands : Stands resolution request) :
    DecisionIdempotent runtime commit_id request ↔
      ∀ replacement, request.replacement = some replacement → replacement ∈ runtime.state.commits := by
  rw [← matches_iff_of_stands hstands, DecisionIdempotent, prepare_resolve_conflict_of_decided hdecided]
  constructor
  · rintro ⟨prepared, hprepared, _⟩
    split at hprepared
    · assumption
    · cases hprepared
  · intro hmatches
    rw [if_pos hmatches]
    exact ⟨_, runtime.prepare_self, rfl⟩

/-- What an effect of a decision leaves behind. -/
theorem Effect.decided_spec {state next : DurableClientState V} {commit_id : ClientCommitId}
    {request : ConflictResolutionRequest V}
    (heffect : Effect state (.ResolveConflict commit_id request) next) :
    (∃ resolution, Decided commit_id resolution next ∧ Stands resolution request) ∧
      ∀ replacement, request.replacement = some replacement → replacement ∈ next.commits := by
  cases heffect with
  | redecided hfound hresolved hmatches =>
    have hstands := stands_of_matches hmatches
    exact ⟨⟨_, ⟨_, List.mem_of_find?_eq_some hfound, List.find?_some hfound, hresolved⟩, hstands⟩,
      (matches_iff_of_stands hstands).mp hmatches⟩
  | @decided _ _ resolved _ _ _ _ hfound _ _ hdecide =>
    obtain ⟨rfl, _⟩ := decide_conflict_eq_ok hdecide
    refine ⟨⟨request.resolution, ⟨{ resolved with resolution := some request.resolution }, ?_, ?_, rfl⟩,
      .inl rfl⟩, fun replacement hreplacement => ?_⟩
    · apply List.mem_iff_getElem?.mpr
      refine ⟨state.outcomes.findIdx (conflicted commit_id), ?_⟩
      rw [List.getElem?_modify_eq, ← List.find?_eq_getElem?_findIdx, hfound]
      rfl
    · have hconflicted : conflicted commit_id resolved := List.find?_some hfound
      exact hconflicted
    · simp [DurableClientState.commits, hreplacement]

theorem Step.decided {before after : ClientRuntime V} {commit_id : ClientCommitId}
    {request : ConflictResolutionRequest V}
    (hstep : Step before (.ResolveConflict commit_id request) after) :
    (∃ resolution, Decided commit_id resolution after.state ∧ Stands resolution request) ∧
      ∀ replacement, request.replacement = some replacement → replacement ∈ after.state.commits := by
  obtain ⟨next, heffect, hstamped⟩ := hstep.effect
  obtain ⟨_, hafter⟩ := hstamped.exists_revision
  rw [hafter]
  exact heffect.decided_spec

/-- A decision stays. -/
theorem Run.decided {first last : ClientRuntime V}
    {edges : List (Trace.Edge (ClientRuntime V) (Transition V))} (hrun : Run first edges last)
    {commit_id : ClientCommitId} {resolution : ConflictResolution}
    (hdecided : Decided commit_id resolution first.state) : Decided commit_id resolution last.state := by
  obtain ⟨resolved, hmem, hconflicted, hresolution⟩ := hdecided
  obtain ⟨later, hlater, hkept⟩ := (Run.conserves hrun).outcomes.exists_of_mem hmem
  exact ⟨later, hlater, conflicted_of_kept hkept hconflicted, hkept.resolution resolution hresolution⟩

/-- A commit that no later mapping touches is kept as it is, wherever it goes. -/
theorem Run.commit_stays {first last : ClientRuntime V}
    {edges : List (Trace.Edge (ClientRuntime V) (Transition V))} (hrun : Run first edges last)
    {commit : ClientCommit V}
    (huntouched : ∀ edge ∈ edges, ∀ mapping ∈ new_mappings edge.source.state edge.label,
      ¬ commit_contains_id commit mapping.local_id)
    (hmem : commit ∈ first.state.commits) : commit ∈ last.state.commits := by
  refine hrun.preserves_along (P := fun runtime => commit ∈ runtime.state.commits) ?_ hmem
  intro edge hedge hmem
  obtain ⟨applied, happlied, hrenamed⟩ := (hrun.step_of_mem hedge).renames.commits commit hmem
  rwa [rename_commit_of_not_contains] at hrenamed
  exact fun mapping hmapping => huntouched edge hedge mapping (happlied hmapping)

/-- After its installation a conflict decision is final, and it can be submitted
again without effect exactly as long as no newly accepted mapping renames a record
inside its replacement. -/
theorem decision_stable_iff {before installed last : ClientRuntime V} {commit_id : ClientCommitId}
    {request : ConflictResolutionRequest V}
    {edges : List (Trace.Edge (ClientRuntime V) (Transition V))}
    (hinstalled : Step before (.ResolveConflict commit_id request) installed)
    (hrun : Run installed edges last) :
    DecisionIdempotent last commit_id request ∧ DecisionFinal last commit_id request ↔
      ∀ edge ∈ edges, ∀ mapping ∈ new_mappings edge.source.state edge.label,
        ∀ replacement, request.replacement = some replacement →
          ¬ commit_contains_id replacement mapping.local_id := by
  obtain ⟨⟨resolution, hdecided, hstands⟩, hreplacements⟩ := hinstalled.decided
  have hlast := Run.decided hrun hdecided
  rw [and_iff_left (decision_final hlast hstands), decision_idempotent_iff_kept hlast hstands]
  constructor
  · intro hkept edge hedge mapping hmapping replacement hreplacement
    exact last.is_valid.commits_unmapped (Run.mapped_of_edge hrun hedge hmapping)
      (hkept replacement hreplacement)
  · intro huntouched replacement hreplacement
    refine Run.commit_stays hrun (fun edge hedge mapping hmapping => ?_)
      (hreplacements replacement hreplacement)
    exact huntouched edge hedge mapping hmapping replacement hreplacement

namespace transitions

/-- The replacement is renamed only where it does not mention the mapped record. -/
theorem decision_stable_after_other_mapping :
    ∃ last : ClientRuntime String,
      last.state.id_map.toList = [(RecordId.mk "other", RecordId.mk "server")] ∧
      DecisionIdempotent last ⟨"one"⟩ (.KeepLocal (commit "three" [upsert "temp" "a" none])) ∧
      DecisionFinal last ⟨"one"⟩ (.KeepLocal (commit "three" [upsert "temp" "a" none])) := by
  have hexecute : (do
      let (_, before) ← opened.execute [
        .Enqueue (commit "one" [upsert "temp" "a" none]),
        .Enqueue (commit "two" [upsert "other" "b" none]),
        .PushResponse (conflict "one" "temp" .Absent) .Manual]
      let prepared ← before.prepare_transition
        (.ResolveConflict ⟨"one"⟩ (.KeepLocal (commit "three" [upsert "temp" "a" none])))
      let installed ← before.install prepared
      let (edges, last) ← installed.execute [.PushResponse (renamed "two" 1 "other" "server") .Manual]
      Except.refuse (¬ (last.state.id_map.toList = [(RecordId.mk "other", RecordId.mk "server")] ∧
        ∀ edge ∈ edges, ∀ mapping ∈ new_mappings edge.source.state edge.label,
          ¬ commit_contains_id (commit "three" [upsert "temp" "a" none]) mapping.local_id))
        ClientError.EmptyCommit) = .ok () := by
    decide
  simp only [Except.bind_eq_ok_iff, Except.refuse_eq_ok_iff, not_not] at hexecute
  obtain ⟨⟨_, before⟩, _, prepared, hprepare, installed, hinstall, ⟨edges, last⟩, hlast, hmapped,
    huntouched⟩ := hexecute
  refine ⟨last, hmapped,
    (decision_stable_iff ⟨prepared, hprepare, hinstall⟩ (run_of_execute hlast)).mpr ?_⟩
  rintro edge hedge mapping hmapping _ ⟨⟩
  exact huntouched edge hedge mapping hmapping

/-- The record of a queued replacement gets its server id, and the decision is
submitted once more. -/
theorem decision_refused_after_mapping :
    ¬ ∀ (before installed last : ClientRuntime String) (commit_id : ClientCommitId)
      (request : ConflictResolutionRequest String)
      (edges : List (Trace.Edge (ClientRuntime String) (Transition String))),
      Step before (.ResolveConflict commit_id request) installed → Run installed edges last →
      DecisionIdempotent last commit_id request ∧ DecisionFinal last commit_id request := by
  have hexecute : (do
      let (_, before) ← opened.execute [
        .Enqueue (commit "one" [upsert "temp" "a" none]),
        .Enqueue (commit "two" [upsert "temp" "b" none]),
        .PushResponse (conflict "one" "temp" .Absent) .Manual]
      let prepared ← before.prepare_transition
        (.ResolveConflict ⟨"one"⟩ (.KeepLocal (commit "three" [upsert "temp" "a" none])))
      let installed ← before.install prepared
      let (_, last) ← installed.execute [.PushResponse (renamed "two" 1 "temp" "server") .Manual]
      Except.refuse (last.prepare_resolve_conflict ⟨"one"⟩
        (.KeepLocal (commit "three" [upsert "temp" "a" none]))).isOk ClientError.EmptyCommit) = .ok () := by
    decide
  simp only [Except.bind_eq_ok_iff, Except.refuse_eq_ok_iff] at hexecute
  obtain ⟨⟨_, before⟩, _, prepared, hprepare, installed, hinstall, ⟨edges, last⟩, hlast, hrefused⟩ :=
    hexecute
  intro hclaim
  obtain ⟨⟨again, hagain, _⟩, _⟩ := hclaim before installed last _ _ edges
    ⟨prepared, hprepare, hinstall⟩ (run_of_execute hlast)
  exact hrefused (Except.isOk_eq_true_iff.mpr ⟨again, hagain⟩)

end transitions

end surrealdb_sync_client
