import SurrealSync.Client.Intent

open Std
open surrealdb_sync_protocol surrealdb_sync_protocol.subscription

namespace surrealdb_sync_client

variable {V : Type}

/-- The id mappings a transition is the first to bring: those of a push response
whose commit is still queued. -/
def new_mappings (state : DurableClientState V) : Transition V → List IdMapping
  | .PushResponse response _ =>
    if response.outcome.identity ∈ state.pending then accepted_mappings response.outcome else []
  | _ => []

/-- All commits the client still keeps, queued or settled. -/
def DurableClientState.commits (state : DurableClientState V) : List (ClientCommit V) :=
  state.outbox ++ state.outcomes.map (·.local_commit)

/-- What a transition that brings these mappings does to commits and outcomes. -/
structure RenamesBy (mappings : List IdMapping) (state next : DurableClientState V) : Prop where
  outcomes : ∀ resolved ∈ state.outcomes, ∃ later ∈ next.outcomes, Kept resolved later ∧
    ∃ applied, applied ⊆ mappings ∧ later.outcome = rename_outcome applied resolved.outcome
  commits : ∀ commit ∈ state.commits, ∃ applied, applied ⊆ mappings ∧
    rename_commit applied commit ∈ next.commits
  mapped : ∀ mapping ∈ mappings, mapping.local_id ∈ next.id_map
  retained : ∀ record_id ∈ state.id_map, record_id ∈ next.id_map
  envelope : next.partition_id = state.partition_id ∧ next.client_id = state.client_id

/-- A recorded commit that was at most decided or covered. -/
structure SameReceipt (earlier later : ResolvedCommit V) : Prop where
  kept : Kept earlier later
  outcome : later.outcome = earlier.outcome
  commit : later.local_commit = earlier.local_commit

theorem SameReceipt.refl (resolved : ResolvedCommit V) : SameReceipt resolved resolved :=
  ⟨.refl resolved, rfl, rfl⟩

theorem SameReceipt.of_cover (sameEpoch : Bool) (checkpoint : Checkpoint) (resolved : ResolvedCommit V) :
    SameReceipt resolved (cover_outcome sameEpoch checkpoint resolved) := by
  refine ⟨.of_cover _ _ resolved, ?_, ?_⟩
  all_goals
    unfold cover_outcome
    split
    · split
      · rfl
      · rfl
    · rfl
    · rfl

/-- Transitions without new mappings keep every commit and outcome. -/
theorem RenamesBy.of_same {state next : DurableClientState V}
    (houtcomes : Evolves SameReceipt state.outcomes next.outcomes)
    (houtbox : ∀ commit ∈ state.outbox, commit ∈ next.outbox) (hid_map : next.id_map = state.id_map)
    (henvelope : next.partition_id = state.partition_id ∧ next.client_id = state.client_id) :
    RenamesBy [] state next where
  outcomes := by
    intro resolved hmem
    obtain ⟨later, hlater, hsame⟩ := houtcomes.exists_of_mem hmem
    exact ⟨later, hlater, hsame.kept, [], List.Subset.refl _, hsame.outcome⟩
  commits := by
    intro commit hmem
    refine ⟨[], List.Subset.refl _, ?_⟩
    rcases List.mem_append.mp hmem with hqueued | hsettled
    · exact List.mem_append_left _ (houtbox commit hqueued)
    · obtain ⟨resolved, hresolved, rfl⟩ := List.mem_map.mp hsettled
      obtain ⟨later, hlater, hsame⟩ := houtcomes.exists_of_mem hresolved
      exact List.mem_append_right _ (List.mem_map.mpr ⟨later, hlater, hsame.commit⟩)
  mapped := by simp
  retained := fun _ hmem => hid_map ▸ hmem
  envelope := henvelope

/-- Commit ids are unique among the outcomes, so a lookup by id finds the outcome
it was made for. -/
theorem DurableClientState.Valid.find_outcome {state : DurableClientState V} (hvalid : state.Valid)
    {resolved : ResolvedCommit V} (hmem : resolved ∈ state.outcomes) {P : ResolvedCommit V → Bool}
    (hresolved : P resolved) (hid : ∀ other ∈ state.outcomes, P other →
      other.local_commit.identity.client_commit_id = resolved.local_commit.identity.client_commit_id) :
    state.outcomes.find? P = some resolved := by
  obtain ⟨other, hother⟩ := Option.isSome_iff_exists.mp (List.find?_isSome.mpr ⟨resolved, hmem, hresolved⟩)
  have hotherMem := List.mem_of_find?_eq_some hother
  have hnodup : (state.outcomes.map (·.local_commit.identity.client_commit_id)).Nodup :=
    (List.nodup_append.mp hvalid.commit_ids).2.1
  rw [hother, List.inj_on_of_nodup_map hnodup hotherMem hmem (hid other hotherMem (List.find?_some hother))]

variable [DecidableEq V]

theorem RenamesBy.of_snapshot {state next : DurableClientState V} {checkpoint : Checkpoint}
    {records : List (SnapshotRecord V)} (hreplaces : SnapshotReplaces state checkpoint records next) :
    RenamesBy [] state next := by
  obtain ⟨_, _, _, rfl⟩ := hreplaces.replaced
  refine .of_same ?_ (fun _ hmem => hmem) rfl ⟨rfl, rfl⟩
  exact Evolves.of_map fun resolved _ => .of_cover _ _ resolved

theorem RenamesBy.of_decide {state next : DurableClientState V} {commit_id : ClientCommitId}
    {request : ConflictResolutionRequest V} {resolved : ResolvedCommit V} {record_id : RecordId}
    {authoritative : RecordState V}
    (hfound : state.outcomes.find? (conflicted commit_id) = some resolved)
    (hopen : resolved.resolution = none)
    (hdecide : decide_conflict state (state.outcomes.findIdx (conflicted commit_id)) resolved
      record_id authoritative request = .ok next) : RenamesBy [] state next := by
  obtain ⟨rfl, _⟩ := decide_conflict_eq_ok hdecide
  refine .of_same (Evolves.of_modify SameReceipt.refl fun other hother => ?_)
    (fun _ hmem => List.mem_append_left _ hmem) rfl ⟨rfl, rfl⟩
  rw [← List.find?_eq_getElem?_findIdx, hfound] at hother
  cases hother
  exact ⟨⟨rfl, .refl _, by simp [hopen], id⟩, rfl, rfl⟩

/-- A first delivery renames by its mappings, and keeps the answered commit among
the settled ones. -/
theorem RenamesBy.of_record {state next : DurableClientState V} {local_commit : ClientCommit V}
    {outcome : DurableOutcome V} {policy : AutomaticConflictPolicy} (hvalid : state.Valid)
    (hfound : state.outbox.find? (fun commit => commit.identity = outcome.identity) = some local_commit)
    (hrecord : record_outcome state local_commit outcome policy = .ok next) :
    RenamesBy (accepted_mappings outcome) state next := by
  obtain ⟨renamed, resolution, hrenamed, rfl⟩ := record_outcome_eq_ok hrecord
  obtain ⟨applied, hsub, houtbox, houtcomes⟩ := hrenamed.renamed
  constructor
  · intro resolved hmem
    refine ⟨rename_resolved applied resolved, ?_, .of_rename applied resolved, applied, hsub.subset, rfl⟩
    rw [houtcomes]
    exact List.mem_append_left _ (List.mem_map_of_mem hmem)
  · intro commit hmem
    simp only [DurableClientState.commits, houtbox, houtcomes, List.map_append, List.map_map]
    rcases List.mem_append.mp hmem with hqueued | hsettled
    · by_cases hanswered : commit.identity = outcome.identity
      · -- the queue holds one commit of this identity
        have hnodup : (state.outbox.map (·.identity)).Nodup :=
          (List.nodup_append.mp hvalid.nodup_identities).1
        have hidentity : local_commit.identity = outcome.identity := by
          simpa using List.find?_some hfound
        have hsame : commit = local_commit := List.inj_on_of_nodup_map hnodup hqueued
          (List.mem_of_find?_eq_some hfound) (hanswered.trans hidentity.symm)
        refine ⟨_, List.Subset.refl _, List.mem_append_right _ (List.mem_append_right _ ?_)⟩
        simp [hsame]
      · refine ⟨applied, hsub.subset, List.mem_append_left _ (List.mem_map_of_mem ?_)⟩
        exact (List.mem_eraseP_of_neg (by simpa using hanswered)).mpr hqueued
    · obtain ⟨resolved, hresolved, rfl⟩ := List.mem_map.mp hsettled
      refine ⟨applied, hsub.subset, List.mem_append_right _ (List.mem_append_left _ ?_)⟩
      exact List.mem_map.mpr ⟨resolved, hresolved, rfl⟩
  · exact hrenamed.mapped
  · exact hrenamed.retained
  · exact ⟨by rw [hrenamed.frame], by rw [hrenamed.frame]⟩

theorem Effect.renames {state next : DurableClientState V} {transition : Transition V}
    (hvalid : state.Valid) (heffect : Effect state transition next) :
    RenamesBy (new_mappings state transition) state next := by
  cases heffect with
  | enqueued _ =>
    exact .of_same (Evolves.refl SameReceipt.refl _) (fun _ hmem => List.mem_append_left _ hmem) rfl
      ⟨rfl, rfl⟩
  | redelivered hfound hsame =>
    rename_i resolved
    -- the answered commit is settled, hence no longer queued
    have hsettled : resolved.outcome.identity ∈ state.settled := by
      rw [(hvalid.outcomes resolved hfound).identity]
      exact List.mem_map_of_mem hfound
    rw [new_mappings, if_neg fun hpending => hvalid.not_settled hpending (hsame ▸ hsettled)]
    exact .of_same (Evolves.refl SameReceipt.refl _) (fun _ hmem => hmem) rfl ⟨rfl, rfl⟩
  | recorded hfound hrecord =>
    have hidentity := List.find?_some hfound
    rw [decide_eq_true_eq] at hidentity
    rw [new_mappings, if_pos]
    · exact .of_record hvalid hfound hrecord
    · exact List.mem_map.mpr ⟨_, List.mem_of_find?_eq_some hfound, hidentity⟩
  | decided hfound hopen _ hdecide => exact .of_decide hfound hopen hdecide
  | reset hreplaces => exact .of_snapshot hreplaces
  | bootstrapped _ _ hreplaces => exact .of_snapshot hreplaces
  | _ => exact .of_same (Evolves.refl SameReceipt.refl _) (fun _ hmem => hmem) rfl ⟨rfl, rfl⟩

theorem Step.renames {before after : ClientRuntime V} {transition : Transition V}
    (hstep : Step before transition after) :
    RenamesBy (new_mappings before.state transition) before.state after.state := by
  obtain ⟨next, heffect, hstamped⟩ := hstep.effect
  obtain ⟨outcomes, commits, mapped, retained, envelope⟩ := heffect.renames before.is_valid
  obtain ⟨_, hafter⟩ := hstamped.exists_revision
  rw [hafter]
  exact ⟨outcomes, commits, mapped, retained, envelope⟩

theorem Run.mapped {first last : ClientRuntime V}
    {edges : List (Trace.Edge (ClientRuntime V) (Transition V))} (hrun : Run first edges last)
    {record_id : RecordId} (hmem : record_id ∈ first.state.id_map) : record_id ∈ last.state.id_map :=
  hrun.preserves (P := fun runtime => record_id ∈ runtime.state.id_map)
    (fun _ _ _ hstep hmem => hstep.renames.retained record_id hmem) hmem

/-- The local id of a mapping that some edge of a run brought is mapped at its end. -/
theorem Run.mapped_of_edge {first last : ClientRuntime V}
    {edges : List (Trace.Edge (ClientRuntime V) (Transition V))} (hrun : Run first edges last)
    {edge : Trace.Edge (ClientRuntime V) (Transition V)} (hedge : edge ∈ edges) {mapping : IdMapping}
    (hmapping : mapping ∈ new_mappings edge.source.state edge.label) :
    mapping.local_id ∈ last.state.id_map := by
  obtain ⟨before, after, rfl⟩ := List.append_of_mem hedge
  obtain ⟨_, hstep, hrest⟩ := hrun.split_edge
  exact Run.mapped hrest (hstep.renames.mapped mapping hmapping)

/-- The delivery of a response leaves the state as it is. -/
def RedeliveryIdempotent (runtime : ClientRuntime V) (response : PushResponse V) : Prop :=
  ∃ prepared, runtime.prepare_push_response response = .ok prepared ∧ prepared.state = runtime.state

/-- Once its commit is settled, a delivery is a no-op exactly when its outcome is
recorded as it came. -/
theorem redeliveryIdempotent_iff_recorded {runtime : ClientRuntime V} {response : PushResponse V}
    (hsettled : response.outcome.identity ∈ runtime.state.settled)
    (henvelope : response.partition_id = runtime.state.partition_id ∧
      response.client_id = runtime.state.client_id) :
    RedeliveryIdempotent runtime response ↔
      ∃ resolved ∈ runtime.state.outcomes, resolved.outcome = response.outcome := by
  obtain ⟨settled, hsettled, hidentity⟩ := List.mem_map.mp hsettled
  have hfind : runtime.state.outcomes.find? (fun resolved =>
      resolved.local_commit.identity.client_commit_id = response.outcome.identity.client_commit_id) =
      some settled := by
    refine runtime.is_valid.find_outcome hsettled (by simp [hidentity]) ?_
    intro other _ hother
    rw [decide_eq_true_eq] at hother
    rw [hother, hidentity]
  have hschema : response.schema_version = .V1 := by
    cases response.schema_version
    rfl
  have hprepare : runtime.prepare_push_response response =
      if settled.outcome = response.outcome then runtime.prepare runtime.state
      else .error .OutcomeIdentityMismatch := by
    simp [ClientRuntime.prepare_push_response, ClientRuntime.prepare_push_response_with_policy,
      Except.refuse, hschema, henvelope, hfind]
  constructor
  · rintro ⟨prepared, hprepared, _⟩
    rw [hprepare] at hprepared
    split at hprepared
    · rename_i hsame
      exact ⟨settled, hsettled, hsame⟩
    · cases hprepared
  · rintro ⟨resolved, hmem, hsame⟩
    have hcommit : resolved.local_commit.identity = response.outcome.identity := by
      rw [← (runtime.is_valid.outcomes resolved hmem).identity, hsame]
    have hunique : some resolved = some settled := by
      rw [← hfind]
      symm
      refine runtime.is_valid.find_outcome hmem (by simp [hcommit]) ?_
      intro other _ hother
      rw [decide_eq_true_eq] at hother
      rw [hother, hcommit]
    cases hunique
    rw [RedeliveryIdempotent, hprepare, if_pos hsame]
    exact ⟨_, runtime.prepare_self, rfl⟩

/-- What a push response leaves behind when it is installed. -/
theorem Step.recorded {before after : ClientRuntime V} {response : PushResponse V}
    {policy : AutomaticConflictPolicy} (hstep : Step before (.PushResponse response policy) after) :
    (∃ resolved ∈ after.state.outcomes, resolved.outcome = response.outcome) ∧
      response.partition_id = after.state.partition_id ∧ response.client_id = after.state.client_id := by
  constructor
  · obtain ⟨next, heffect, hstamped⟩ := hstep.effect
    obtain ⟨_, hafter⟩ := hstamped.exists_revision
    rw [hafter]
    cases heffect with
    | redelivered hfound hsame => exact ⟨_, hfound, hsame⟩
    | recorded hfound hrecord =>
      obtain ⟨renamed, resolution, _, rfl⟩ := record_outcome_eq_ok hrecord
      exact ⟨_, List.mem_append_right _ (List.mem_singleton_self _), rfl⟩
  · obtain ⟨hpartition, hclient⟩ := hstep.renames.envelope
    obtain ⟨prepared, hprepare, _⟩ := hstep
    simp only [ClientRuntime.prepare_transition, ClientRuntime.prepare_push_response_with_policy,
      Except.bind_eq_ok_iff, Except.refuse_eq_ok_iff, not_or, ne_eq, not_not] at hprepare
    obtain ⟨_, ⟨_, hpartition', hclient'⟩, _⟩ := hprepare
    exact ⟨hpartition'.trans hpartition.symm, hclient'.trans hclient.symm⟩

theorem Run.envelope {first last : ClientRuntime V}
    {edges : List (Trace.Edge (ClientRuntime V) (Transition V))} (hrun : Run first edges last) :
    last.state.partition_id = first.state.partition_id ∧ last.state.client_id = first.state.client_id := by
  induction hrun with
  | nil _ => exact ⟨rfl, rfl⟩
  | cons hstep _ ih =>
    obtain ⟨hpartition, hclient⟩ := hstep.renames.envelope
    exact ⟨ih.1.trans hpartition, ih.2.trans hclient⟩

/-- An outcome that no later mapping touches stays recorded as it came. -/
theorem Run.outcome_stays {first last : ClientRuntime V}
    {edges : List (Trace.Edge (ClientRuntime V) (Transition V))} (hrun : Run first edges last)
    {outcome : DurableOutcome V}
    (huntouched : ∀ edge ∈ edges, ∀ mapping ∈ new_mappings edge.source.state edge.label,
      ¬ outcome_contains_id outcome mapping.local_id)
    (hrecorded : ∃ resolved ∈ first.state.outcomes, resolved.outcome = outcome) :
    ∃ resolved ∈ last.state.outcomes, resolved.outcome = outcome := by
  refine hrun.preserves_along (P := fun runtime =>
    ∃ resolved ∈ runtime.state.outcomes, resolved.outcome = outcome) ?_ hrecorded
  rintro edge hedge ⟨resolved, hmem, rfl⟩
  obtain ⟨later, hlater, _, applied, happlied, houtcome⟩ :=
    (hrun.step_of_mem hedge).renames.outcomes resolved hmem
  refine ⟨later, hlater, houtcome.trans (rename_outcome_of_not_contains ?_)⟩
  exact fun mapping hmapping => huntouched edge hedge mapping (happlied hmapping)

/-- After its installation a push response can be delivered again without effect
exactly as long as no newly accepted mapping renames a record inside its outcome. -/
theorem redelivery_idempotent_iff {before installed last : ClientRuntime V}
    {response : PushResponse V} {policy : AutomaticConflictPolicy}
    {edges : List (Trace.Edge (ClientRuntime V) (Transition V))}
    (hinstalled : Step before (.PushResponse response policy) installed) (hrun : Run installed edges last) :
    RedeliveryIdempotent last response ↔
      ∀ edge ∈ edges, ∀ mapping ∈ new_mappings edge.source.state edge.label,
        ¬ outcome_contains_id response.outcome mapping.local_id := by
  obtain ⟨hrecorded, henvelope⟩ := hinstalled.recorded
  have hsettled : response.outcome.identity ∈ last.state.settled := by
    obtain ⟨resolved, hmem, hsame⟩ := hrecorded
    refine settled_of_evolves (Run.conserves hrun).outcomes ?_
    rw [← hsame, (installed.is_valid.outcomes resolved hmem).identity]
    exact List.mem_map_of_mem hmem
  obtain ⟨hpartition, hclient⟩ := Run.envelope hrun
  rw [redeliveryIdempotent_iff_recorded hsettled
    ⟨henvelope.1.trans hpartition.symm, henvelope.2.trans hclient.symm⟩]
  constructor
  · rintro ⟨resolved, hmem, hsame⟩ edge hedge mapping hmapping hcontains
    -- a mapped local id occurs in no recorded outcome
    have hmapped := Run.mapped_of_edge hrun hedge hmapping
    exact (last.is_valid.outcomes_unmapped _ hmapped resolved hmem).2 (hsame ▸ hcontains)
  · intro huntouched
    exact Run.outcome_stays hrun huntouched hrecorded

namespace transitions

def conflict (id record_id : String) (authoritative : RecordState String) : PushResponse String :=
  push_response (.Conflict (identity id) ⟨record_id⟩ authoritative)

def renamed (id : String) (sequence : UInt64) (local_id canonical_id : String) : PushResponse String :=
  push_response (.Accepted (identity id) sequence [⟨⟨local_id⟩, ⟨canonical_id⟩⟩])

/-- A mapping of another record does not matter. -/
theorem redelivery_idempotent_after_other_mapping :
    ∃ last : ClientRuntime String,
      last.state.id_map.toList = [(RecordId.mk "other", RecordId.mk "server")] ∧
      RedeliveryIdempotent last (conflict "one" "temp" .Absent) := by
  have hexecute : (do
      let (_, before) ← opened.execute [
        .Enqueue (commit "one" [upsert "temp" "a" none]),
        .Enqueue (commit "two" [upsert "other" "b" none])]
      let prepared ← before.prepare_transition (.PushResponse (conflict "one" "temp" .Absent) .Manual)
      let installed ← before.install prepared
      let (edges, last) ← installed.execute [.PushResponse (renamed "two" 1 "other" "server") .Manual]
      Except.refuse (¬ (last.state.id_map.toList = [(RecordId.mk "other", RecordId.mk "server")] ∧
        ∀ edge ∈ edges, ∀ mapping ∈ new_mappings edge.source.state edge.label,
          ¬ outcome_contains_id (conflict "one" "temp" .Absent).outcome mapping.local_id))
        ClientError.EmptyCommit) = .ok () := by
    decide
  simp only [Except.bind_eq_ok_iff, Except.refuse_eq_ok_iff, not_not] at hexecute
  obtain ⟨⟨_, before⟩, _, prepared, hprepare, installed, hinstall, ⟨edges, last⟩, hlast, hmapped,
    huntouched⟩ := hexecute
  exact ⟨last, hmapped,
    (redelivery_idempotent_iff ⟨prepared, hprepare, hinstall⟩ (run_of_execute hlast)).mpr huntouched⟩

/-- A conflict on a temporary record is delivered again after another accepted
commit has given that record its server id. -/
theorem redelivery_refused_after_mapping :
    ¬ ∀ (before installed last : ClientRuntime String) (response : PushResponse String)
      (edges : List (Trace.Edge (ClientRuntime String) (Transition String))),
      Step before (.PushResponse response .Manual) installed → Run installed edges last →
      RedeliveryIdempotent last response := by
  have hexecute : (do
      let (_, before) ← opened.execute [
        .Enqueue (commit "one" [upsert "temp" "a" none]),
        .Enqueue (commit "two" [upsert "temp" "b" none])]
      let prepared ← before.prepare_transition (.PushResponse (conflict "one" "temp" .Absent) .Manual)
      let installed ← before.install prepared
      let (_, last) ← installed.execute [.PushResponse (renamed "two" 1 "temp" "server") .Manual]
      Except.refuse (last.prepare_push_response (conflict "one" "temp" .Absent)).isOk
        ClientError.EmptyCommit) = .ok () := by
    decide
  simp only [Except.bind_eq_ok_iff, Except.refuse_eq_ok_iff] at hexecute
  obtain ⟨⟨_, before⟩, _, prepared, hprepare, installed, hinstall, ⟨edges, last⟩, hlast, hrefused⟩ :=
    hexecute
  intro hclaim
  obtain ⟨again, hagain, _⟩ := hclaim before installed last _ edges ⟨prepared, hprepare, hinstall⟩
    (run_of_execute hlast)
  exact hrefused (Except.isOk_eq_true_iff.mpr ⟨again, hagain⟩)

end transitions

end surrealdb_sync_client
