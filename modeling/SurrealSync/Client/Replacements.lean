import SurrealSync.Basic.Chains
import SurrealSync.Client.Redelivery

open Std
open surrealdb_sync_protocol surrealdb_sync_protocol.subscription

namespace surrealdb_sync_client

variable {V : Type}

/-- The commit a decision names as its replacement. -/
def ConflictResolution.replacement : ConflictResolution → Option CommitIdentity
  | .KeepServer => none
  | .PreferServerPolicyV1 => none
  | .KeepLocal replacement => some replacement
  | .Merge replacement => some replacement

def ResolvedCommit.replacement (resolved : ResolvedCommit V) : Option CommitIdentity :=
  resolved.resolution.bind ConflictResolution.replacement

/-- The link from a resolved conflict to the commit that replaces it. -/
def Replaces (state : DurableClientState V) (conflict replacement : CommitIdentity) : Prop :=
  ∃ resolved ∈ state.outcomes, resolved.local_commit.identity = conflict ∧
    resolved.replacement = some replacement

instance (state : DurableClientState V) (conflict replacement : CommitIdentity) :
    Decidable (Replaces state conflict replacement) :=
  inferInstanceAs (Decidable (∃ resolved ∈ state.outcomes, _ ∧ _))

/-- The commits a state knows, queued or settled. -/
def DurableClientState.known (state : DurableClientState V) : Set CommitIdentity :=
  { identity | identity ∈ state.pending ++ state.settled }

/-- Where a chain of replacements may end. -/
inductive ChainEnd (state : DurableClientState V) (identity : CommitIdentity) : Prop where
  | pending (hpending : identity ∈ state.pending)
  | accepted {resolved : ResolvedCommit V} (hmem : resolved ∈ state.outcomes)
      (hidentity : resolved.local_commit.identity = identity) {sequence : UInt64}
      {id_mappings : List IdMapping} (houtcome : resolved.outcome = .Accepted identity sequence id_mappings)
  | rejected {resolved : ResolvedCommit V} (hmem : resolved ∈ state.outcomes)
      (hidentity : resolved.local_commit.identity = identity) {reason : RejectReason}
      (houtcome : resolved.outcome = .Rejected identity reason)
  | unresolved {resolved : ResolvedCommit V} (hmem : resolved ∈ state.outcomes)
      (hidentity : resolved.local_commit.identity = identity) (hopen : resolved.IsOpenConflict)
  | closed {resolved : ResolvedCommit V} (hmem : resolved ∈ state.outcomes)
      (hidentity : resolved.local_commit.identity = identity) (hconflict : resolved.outcome.IsConflict)
      (hclosed : resolved.resolution = some .KeepServer ∨
        resolved.resolution = some .PreferServerPolicyV1)

theorem mem_known_of_mem_outcomes {state : DurableClientState V} {resolved : ResolvedCommit V}
    (hmem : resolved ∈ state.outcomes) : resolved.local_commit.identity ∈ state.known :=
  List.mem_append_right _ (List.mem_map_of_mem hmem)

/-- Validation asks that a named replacement exists. -/
theorem DurableClientState.Valid.replacement_known {state : DurableClientState V} (hvalid : state.Valid)
    {resolved : ResolvedCommit V} (hmem : resolved ∈ state.outcomes) {replacement : CommitIdentity}
    (hreplacement : resolved.replacement = some replacement) : replacement ∈ state.known := by
  obtain ⟨resolution, hresolution, hnamed⟩ := Option.bind_eq_some_iff.mp hreplacement
  have hvalidated := hvalid.resolutions resolved hmem
  simp only [validate_resolution, hresolution] at hvalidated
  have hexists : (∃ commit ∈ state.outbox, commit.identity = replacement) ∨
      ∃ outcome ∈ state.outcomes, outcome.local_commit.identity = replacement := by
    cases resolution with
    | KeepServer => cases hnamed
    | PreferServerPolicyV1 => cases hnamed
    | KeepLocal named =>
      cases hnamed
      simp only [Except.bind_eq_ok_iff, Except.refuse_eq_ok_iff] at hvalidated
      obtain ⟨_, _, hnamed⟩ := hvalidated
      tauto
    | Merge named =>
      cases hnamed
      simp only [Except.bind_eq_ok_iff, Except.refuse_eq_ok_iff] at hvalidated
      obtain ⟨_, _, hnamed⟩ := hvalidated
      tauto
  rcases hexists with ⟨commit, hcommit, rfl⟩ | ⟨outcome, houtcome, rfl⟩
  · exact List.mem_append_left _ (List.mem_map_of_mem hcommit)
  · exact mem_known_of_mem_outcomes houtcome

theorem not_known_of_fresh {state : DurableClientState V} {identity : CommitIdentity}
    (hfresh : ¬ identity_exists state identity.client_commit_id) : identity ∉ state.known := by
  intro hknown
  rcases List.mem_append.mp hknown with hpending | hsettled
  · obtain ⟨commit, hmem, rfl⟩ := List.mem_map.mp hpending
    exact hfresh (.inl ⟨commit, hmem, rfl⟩)
  · obtain ⟨resolved, hmem, rfl⟩ := List.mem_map.mp hsettled
    exact hfresh (.inr ⟨resolved, hmem, rfl⟩)

/-- Rewriting outcomes without touching identities and decisions makes no link. -/
theorem replaces_of_map {state next : DurableClientState V} {f : ResolvedCommit V → ResolvedCommit V}
    {added : List (ResolvedCommit V)} (houtcomes : next.outcomes = state.outcomes.map f ++ added)
    (hidentity : ∀ resolved, (f resolved).local_commit.identity = resolved.local_commit.identity)
    (hresolution : ∀ resolved, (f resolved).resolution = resolved.resolution)
    (hadded : ∀ resolved ∈ added, resolved.replacement = none) {conflict replacement : CommitIdentity}
    (hreplaces : Replaces next conflict replacement) : Replaces state conflict replacement := by
  obtain ⟨later, hlater, hconflict, hreplacement⟩ := hreplaces
  rw [houtcomes, List.mem_append] at hlater
  rcases hlater with hlater | hlater
  · obtain ⟨resolved, hmem, rfl⟩ := List.mem_map.mp hlater
    rw [hidentity] at hconflict
    rw [ResolvedCommit.replacement, hresolution] at hreplacement
    exact ⟨resolved, hmem, hconflict, hreplacement⟩
  · rw [hadded later hlater] at hreplacement
    cases hreplacement

theorem cover_outcome_identity (sameEpoch : Bool) (checkpoint : Checkpoint) (resolved : ResolvedCommit V) :
    (cover_outcome sameEpoch checkpoint resolved).local_commit.identity = resolved.local_commit.identity :=
  (Kept.of_cover sameEpoch checkpoint resolved).identity

theorem cover_outcome_resolution (sameEpoch : Bool) (checkpoint : Checkpoint)
    (resolved : ResolvedCommit V) :
    (cover_outcome sameEpoch checkpoint resolved).resolution = resolved.resolution := by
  unfold cover_outcome
  split
  · split
    · rfl
    · rfl
  · rfl
  · rfl

/-- What a transition may do to the links: keep them, or link one settled
conflict to a commit that was not known before. -/
inductive Links (state next : DurableClientState V) : Prop where
  | kept (hlinks : ∀ conflict replacement, Replaces next conflict replacement →
      Replaces state conflict replacement)
  | added {source target : CommitIdentity} (hsource : source ∈ state.known)
      (htarget : target ∉ state.known) (hqueued : target ∈ next.known)
      (hlinks : ∀ conflict replacement, Replaces next conflict replacement →
        Replaces state conflict replacement ∨ (conflict = source ∧ replacement = target))

theorem Links.of_same {state next : DurableClientState V} (houtcomes : next.outcomes = state.outcomes) :
    Links state next := by
  refine .kept fun conflict replacement hreplaces => ?_
  rwa [Replaces, houtcomes] at hreplaces

variable [DecidableEq V]

theorem Links.of_snapshot {state next : DurableClientState V} {checkpoint : Checkpoint}
    {records : List (SnapshotRecord V)} (hreplaces : SnapshotReplaces state checkpoint records next) :
    Links state next := by
  obtain ⟨_, _, _, rfl⟩ := hreplaces.replaced
  refine .kept fun conflict replacement => ?_
  exact replaces_of_map (List.append_nil _).symm (cover_outcome_identity _ _)
    (cover_outcome_resolution _ _) (by simp)

/-- A first delivery decides at most for the server, which names no replacement. -/
theorem Links.of_record {state next : DurableClientState V} {local_commit : ClientCommit V}
    {outcome : DurableOutcome V} {policy : AutomaticConflictPolicy}
    (hrecord : record_outcome state local_commit outcome policy = .ok next) : Links state next := by
  simp only [record_outcome, Except.bind_eq_ok_iff, Except.ok.injEq] at hrecord
  obtain ⟨renamed, hrenamed, rfl⟩ := hrecord
  obtain ⟨applied, _, _, houtcomes⟩ := (renamed_of_apply_id_mappings hrenamed).renamed
  refine .kept fun conflict replacement => ?_
  refine replaces_of_map (f := rename_resolved applied) (congrArg (· ++ _) houtcomes)
    (fun resolved => rename_commit_identity applied resolved.local_commit) (fun _ => rfl) ?_
  intro resolved hmem
  rw [List.mem_singleton.mp hmem, ResolvedCommit.replacement]
  split
  · rfl
  · rfl

theorem Links.of_decide {state next : DurableClientState V} {commit_id : ClientCommitId}
    {request : ConflictResolutionRequest V} {resolved : ResolvedCommit V} {record_id : RecordId}
    {authoritative : RecordState V}
    (hfound : state.outcomes.find? (conflicted commit_id) = some resolved)
    (hdecide : decide_conflict state (state.outcomes.findIdx (conflicted commit_id)) resolved
      record_id authoritative request = .ok next) : Links state next := by
  obtain ⟨hnext, hfresh⟩ := decide_conflict_eq_ok hdecide
  have houtcomes : next.outcomes =
      state.outcomes.modify (state.outcomes.findIdx (conflicted commit_id)) fun resolved =>
        { resolved with resolution := some request.resolution } := by rw [hnext]
  have houtbox : next.outbox = state.outbox ++ request.replacement.toList := by rw [hnext]
  -- every link but that of the decided conflict was there before
  have hlinks (conflict replacement : CommitIdentity) (hreplaces : Replaces next conflict replacement) :
      Replaces state conflict replacement ∨ (conflict = resolved.local_commit.identity ∧
        request.resolution.replacement = some replacement) := by
    obtain ⟨later, hlater, hconflict, hreplacement⟩ := hreplaces
    rw [houtcomes] at hlater
    obtain ⟨index, hindex⟩ := List.mem_iff_getElem?.mp hlater
    by_cases hat : state.outcomes.findIdx (conflicted commit_id) = index
    · subst hat
      rw [List.getElem?_modify_eq, ← List.find?_eq_getElem?_findIdx, hfound] at hindex
      cases hindex
      exact .inr ⟨hconflict.symm, hreplacement⟩
    · rw [List.getElem?_modify_ne _ _ hat] at hindex
      exact .inl ⟨later, List.mem_of_getElem? hindex, hconflict, hreplacement⟩
  have hsource : resolved.local_commit.identity ∈ state.known :=
    mem_known_of_mem_outcomes (List.mem_of_find?_eq_some hfound)
  have hadded (replacement : ClientCommit V) (hreplacement : request.replacement = some replacement)
      (hnamed : request.resolution.replacement = some replacement.identity) : Links state next := by
    refine .added hsource (not_known_of_fresh (hfresh replacement hreplacement)) ?_ ?_
    · apply List.mem_append_left
      simp [DurableClientState.pending, houtbox, hreplacement]
    · intro conflict other hreplaces
      rcases hlinks conflict other hreplaces with hold | ⟨hconflict, hother⟩
      · exact .inl hold
      · rw [hnamed, Option.some.injEq] at hother
        exact .inr ⟨hconflict, hother.symm⟩
  cases request with
  | KeepServer =>
    refine .kept fun conflict replacement hreplaces => ?_
    rcases hlinks conflict replacement hreplaces with hold | ⟨_, hnamed⟩
    · exact hold
    · cases hnamed
  | KeepLocal replacement => exact hadded replacement rfl rfl
  | Merge replacement => exact hadded replacement rfl rfl

theorem Effect.links {state next : DurableClientState V} {transition : Transition V}
    (heffect : Effect state transition next) : Links state next := by
  cases heffect with
  | recorded _ hrecord => exact .of_record hrecord
  | decided hfound _ _ hdecide => exact .of_decide hfound hdecide
  | reset hreplaces => exact .of_snapshot hreplaces
  | bootstrapped _ _ hreplaces => exact .of_snapshot hreplaces
  | _ => exact .of_same rfl

theorem Step.grounded {before after : ClientRuntime V} {transition : Transition V}
    (hstep : Step before transition after)
    (hgrounded : Chains.Grounded (Replaces before.state) before.state.known) :
    Chains.Grounded (Replaces after.state) after.state.known := by
  have hconserves : Conserves before.state after.state := Run.conserves (.cons hstep (.nil after))
  have hkept : before.state.known ⊆ after.state.known := fun _ hmem => hconserves.mem hmem
  obtain ⟨next, heffect, hstamped⟩ := hstep.effect
  obtain ⟨revision, hafter⟩ := hstamped.exists_revision
  -- the stamp touches neither outcomes nor queue
  have hlinks : Links before.state after.state := by
    rw [hafter]
    cases heffect.links with
    | kept hlinks => exact .kept hlinks
    | added hsource htarget hqueued hlinks => exact .added hsource htarget hqueued hlinks
  cases hlinks with
  | kept hlinks => exact hgrounded.mono hlinks hkept
  | added hsource htarget hqueued hlinks =>
    exact hgrounded.extend hsource htarget hlinks (Set.insert_subset hqueued hkept)

/-- The chains of replacements in a state. -/
structure ReplacementChains (state : DurableClientState V) : Prop where
  injective : ∀ resolved ∈ state.outcomes, ∀ other ∈ state.outcomes, ∀ replacement,
    resolved.replacement = some replacement → other.replacement = some replacement → resolved = other
  acyclic : ∀ identity, ¬ Relation.TransGen (Replaces state) identity identity
  total : ∀ resolved ∈ state.outcomes, ∀ replacement, resolved.replacement = some replacement →
    (∃ commit ∈ state.outbox, commit.identity = replacement) ∨
      ∃ outcome ∈ state.outcomes, outcome.local_commit.identity = replacement
  terminates : WellFounded (Function.swap (Replaces state))
  ends : ∀ resolved ∈ state.outcomes, ∃ identity,
    Relation.ReflTransGen (Replaces state) resolved.local_commit.identity identity ∧
      ChainEnd state identity

omit [DecidableEq V] in
/-- A known commit that nothing replaces is an end. -/
theorem chainEnd_of_not_replaced {state : DurableClientState V} (hvalid : state.Valid)
    {identity : CommitIdentity} (hknown : identity ∈ state.known)
    (hlast : ∀ replacement, ¬ Replaces state identity replacement) : ChainEnd state identity := by
  rcases List.mem_append.mp hknown with hpending | hsettled
  · exact .pending hpending
  · obtain ⟨resolved, hmem, hidentity⟩ := List.mem_map.mp hsettled
    have hnone : resolved.replacement = none := by
      cases hreplacement : resolved.replacement with
      | none => rfl
      | some replacement => exact absurd ⟨resolved, hmem, hidentity, hreplacement⟩ (hlast replacement)
    have hsame := (hvalid.outcomes resolved hmem).identity
    cases houtcome : resolved.outcome with
    | Accepted named sequence id_mappings =>
      rw [houtcome] at hsame
      cases hsame.trans hidentity
      exact .accepted hmem hidentity houtcome
    | Rejected named reason =>
      rw [houtcome] at hsame
      cases hsame.trans hidentity
      exact .rejected hmem hidentity houtcome
    | Conflict named record_id authoritative =>
      have hconflict : resolved.outcome.IsConflict := by
        rw [houtcome]
        trivial
      cases hresolution : resolved.resolution with
      | none => exact .unresolved hmem hidentity ⟨hconflict, hresolution⟩
      | some resolution =>
        rw [ResolvedCommit.replacement, hresolution] at hnone
        cases resolution with
        | KeepServer => exact .closed hmem hidentity hconflict (.inl hresolution)
        | PreferServerPolicyV1 => exact .closed hmem hidentity hconflict (.inr hresolution)
        | KeepLocal replacement => cases hnone
        | Merge replacement => cases hnone

omit [DecidableEq V] in
theorem replacementChains_of_grounded {state : DurableClientState V} (hvalid : state.Valid)
    (hgrounded : Chains.Grounded (Replaces state) state.known) : ReplacementChains state where
  injective := by
    intro resolved hmem other hother replacement hreplacement hreplacement'
    have hidentity := hgrounded.injective _ _ replacement ⟨resolved, hmem, rfl, hreplacement⟩
      ⟨other, hother, rfl, hreplacement'⟩
    have hnodup : (state.outcomes.map (·.local_commit.identity)).Nodup :=
      (List.nodup_append.mp hvalid.nodup_identities).2.1
    exact List.inj_on_of_nodup_map hnodup hmem hother hidentity
  acyclic := hgrounded.acyclic
  total := by
    intro resolved hmem replacement hreplacement
    rcases List.mem_append.mp (hvalid.replacement_known hmem hreplacement) with hpending | hsettled
    · exact .inl (List.mem_map.mp hpending)
    · exact .inr (List.mem_map.mp hsettled)
  terminates := hgrounded.wellFounded
  ends := by
    intro resolved hmem
    obtain ⟨identity, hpath, hlast⟩ := hgrounded.exists_end resolved.local_commit.identity
    refine ⟨identity, hpath, chainEnd_of_not_replaced hvalid ?_ hlast⟩
    -- a path stays among the known commits
    rcases hpath.cases_tail with rfl | ⟨previous, _, hlink⟩
    · exact mem_known_of_mem_outcomes hmem
    · exact (hgrounded.known previous identity hlink).2

/-- In every state reached from an empty one the replacements of conflicts form
finite chains that do not share a commit. -/
theorem replacement_chains_well_founded {partition_id : PartitionId} {client_id : ClientId}
    {requested_scope : ScopeIdentity} {subscription_revision : UInt64} {first last : ClientRuntime V}
    {edges : List (Trace.Edge (ClientRuntime V) (Transition V))}
    (hempty : first.state = .empty partition_id client_id requested_scope subscription_revision)
    (hrun : Run first edges last) : ReplacementChains last.state := by
  have hfirst : Chains.Grounded (Replaces first.state) first.state.known := by
    refine .of_no_links fun conflict replacement hreplaces => ?_
    obtain ⟨resolved, hmem, _⟩ := hreplaces
    rw [hempty] at hmem
    cases hmem
  have hlast : Chains.Grounded (Replaces last.state) last.state.known :=
    hrun.preserves (P := fun runtime => Chains.Grounded (Replaces runtime.state) runtime.state.known)
      (fun _ _ _ hstep hgrounded => hstep.grounded hgrounded) hfirst
  exact replacementChains_of_grounded last.is_valid hlast

namespace transitions

/-- A conflict is kept local, its replacement conflicts again and is merged. -/
theorem replacement_chains_well_founded_merged_twice :
    ∃ last : ClientRuntime String,
      Replaces last.state (identity "one") (identity "two") ∧
      Replaces last.state (identity "two") (identity "three") ∧
      ReplacementChains last.state := by
  have hexecute : (do
      let (_, last) ← opened.execute [
        .Enqueue (commit "one" [upsert "temp" "a" none]),
        .PushResponse (conflict "one" "temp" .Absent) .Manual,
        .ResolveConflict ⟨"one"⟩ (.KeepLocal (commit "two" [upsert "temp" "a" none])),
        .PushResponse (conflict "two" "temp" .Absent) .Manual,
        .ResolveConflict ⟨"two"⟩ (.Merge (commit "three" [upsert "temp" "b" none]))]
      Except.refuse (¬ (Replaces last.state (identity "one") (identity "two") ∧
        Replaces last.state (identity "two") (identity "three"))) ClientError.EmptyCommit) = .ok () := by
    decide
  simp only [Except.bind_eq_ok_iff, Except.refuse_eq_ok_iff, not_not] at hexecute
  obtain ⟨⟨edges, last⟩, hlast, hfirst, hsecond⟩ := hexecute
  exact ⟨last, hfirst, hsecond, replacement_chains_well_founded rfl (run_of_execute hlast)⟩

end transitions

end surrealdb_sync_client
