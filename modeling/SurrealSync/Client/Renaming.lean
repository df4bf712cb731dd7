import SurrealSync.Client.Runtime

open Std
open surrealdb_sync_protocol surrealdb_sync_protocol.subscription

namespace surrealdb_sync_client

variable {V : Type}

theorem remap_record_id_of_ne {record_id : RecordId} {mapping : IdMapping}
    (hne : record_id ≠ mapping.local_id) : remap_record_id record_id mapping = record_id :=
  if_neg hne

theorem remap_reference_of_ne {reference : Option RecordId} {mapping : IdMapping}
    (hne : reference ≠ some mapping.local_id) :
    reference.map (remap_record_id · mapping) = reference := by
  cases reference with
  | none => rfl
  | some record_id =>
    exact congrArg some (remap_record_id_of_ne fun heq => hne (congrArg some heq))

/-- A mapping leaves a commit alone that does not mention its local id. -/
theorem remap_commit_of_not_contains {commit : ClientCommit V} {mapping : IdMapping}
    (hfree : ¬ commit_contains_id commit mapping.local_id) : remap_commit commit mapping = commit := by
  have hoperations : commit.operations.map (remap_operation · mapping) = commit.operations := by
    conv_rhs => rw [← List.map_id commit.operations]
    apply List.map_congr_left
    intro operation hmem
    have hoperation : ¬ operation_contains_id operation mapping.local_id :=
      fun hcontains => hfree ⟨operation, hmem, hcontains⟩
    cases operation with
    | Upsert record_id base_version value reference =>
      obtain ⟨hid, hreference⟩ := not_or.mp hoperation
      simp [remap_operation, remap_record_id_of_ne hid, remap_reference_of_ne hreference]
    | Delete record_id base_version => simp [remap_operation, remap_record_id_of_ne hoperation]
  simp [remap_commit, hoperations]

theorem remap_record_of_not_references {record : RecordState V} {mapping : IdMapping}
    (hfree : ¬ record_references_id record mapping.local_id) : remap_record record mapping = record := by
  cases record with
  | Absent => rfl
  | Tombstone version => rfl
  | Present value version reference => simp [remap_record, remap_reference_of_ne hfree]

theorem remap_outcome_of_not_contains {outcome : DurableOutcome V} {mapping : IdMapping}
    (hfree : ¬ outcome_contains_id outcome mapping.local_id) :
    remap_outcome outcome mapping = outcome := by
  cases outcome with
  | Accepted identity sequence id_mappings => rfl
  | Rejected identity reason => rfl
  | Conflict identity record_id authoritative =>
    obtain ⟨hid, hreference⟩ := not_or.mp hfree
    simp [remap_outcome, remap_record_id_of_ne hid, remap_record_of_not_references hreference]

/-- Renaming by a list of mappings, in order. -/
def rename_commit (mappings : List IdMapping) (commit : ClientCommit V) : ClientCommit V :=
  mappings.foldl remap_commit commit

def rename_outcome (mappings : List IdMapping) (outcome : DurableOutcome V) : DurableOutcome V :=
  mappings.foldl remap_outcome outcome

def rename_resolved (mappings : List IdMapping) (resolved : ResolvedCommit V) : ResolvedCommit V :=
  { resolved with
    local_commit := rename_commit mappings resolved.local_commit
    outcome := rename_outcome mappings resolved.outcome }

@[simp]
theorem rename_commit_nil : (rename_commit [] : ClientCommit V → ClientCommit V) = id := rfl

@[simp]
theorem rename_resolved_nil : (rename_resolved [] : ResolvedCommit V → ResolvedCommit V) = id := rfl

@[simp]
theorem rename_commit_identity (mappings : List IdMapping) (commit : ClientCommit V) :
    (rename_commit mappings commit).identity = commit.identity := by
  induction mappings generalizing commit with
  | nil => rfl
  | cons mapping mappings ih => exact ih (remap_commit commit mapping)

theorem rename_commit_of_not_contains {mappings : List IdMapping} {commit : ClientCommit V}
    (hfree : ∀ mapping ∈ mappings, ¬ commit_contains_id commit mapping.local_id) :
    rename_commit mappings commit = commit := by
  induction mappings with
  | nil => rfl
  | cons mapping mappings ih =>
    obtain ⟨hhead, htail⟩ := List.forall_mem_cons.mp hfree
    change rename_commit mappings (remap_commit commit mapping) = commit
    rw [remap_commit_of_not_contains hhead, ih htail]

theorem rename_outcome_of_not_contains {mappings : List IdMapping} {outcome : DurableOutcome V}
    (hfree : ∀ mapping ∈ mappings, ¬ outcome_contains_id outcome mapping.local_id) :
    rename_outcome mappings outcome = outcome := by
  induction mappings with
  | nil => rfl
  | cons mapping mappings ih =>
    obtain ⟨hhead, htail⟩ := List.forall_mem_cons.mp hfree
    change rename_outcome mappings (remap_outcome outcome mapping) = outcome
    rw [remap_outcome_of_not_contains hhead, ih htail]

/-- What a list of accepted mappings does to a state: the mappings that were not
known before rename every queued and settled commit, all of them end up in the
map, and nothing outside the four renamed fields changes. -/
structure Renamed (mappings : List IdMapping) (state next : DurableClientState V) : Prop where
  frame : next = { state with
    confirmed := next.confirmed
    outbox := next.outbox
    outcomes := next.outcomes
    id_map := next.id_map }
  renamed : ∃ applied, applied.Sublist mappings ∧
    next.outbox = state.outbox.map (rename_commit applied) ∧
    next.outcomes = state.outcomes.map (rename_resolved applied)
  mapped : ∀ mapping ∈ mappings, mapping.local_id ∈ next.id_map
  retained : ∀ record_id ∈ state.id_map, record_id ∈ next.id_map

theorem Renamed.refl (state : DurableClientState V) : Renamed [] state state where
  frame := rfl
  renamed := ⟨[], List.Sublist.refl _, by simp, by simp⟩
  mapped := by simp
  retained := fun _ h => h

theorem Renamed.cons {mapping : IdMapping} {mappings : List IdMapping}
    {state middle next : DurableClientState V} (hfirst : Renamed [mapping] state middle)
    (hrest : Renamed mappings middle next) : Renamed (mapping :: mappings) state next where
  frame := by
    rw [hrest.frame, hfirst.frame]
  renamed := by
    obtain ⟨first, hfirstSub, hfirstOutbox, hfirstOutcomes⟩ := hfirst.renamed
    obtain ⟨rest, hrestSub, hrestOutbox, hrestOutcomes⟩ := hrest.renamed
    refine ⟨first ++ rest, hfirstSub.append hrestSub, ?_, ?_⟩
    · rw [hrestOutbox, hfirstOutbox, List.map_map]
      apply List.map_congr_left
      intro commit _
      simp [rename_commit, List.foldl_append]
    · rw [hrestOutcomes, hfirstOutcomes, List.map_map]
      apply List.map_congr_left
      intro resolved _
      simp [rename_resolved, rename_commit, rename_outcome, List.foldl_append]
  mapped := by
    intro other hother
    rcases List.mem_cons.mp hother with rfl | hother
    · exact hrest.retained _ (hfirst.mapped other (by simp))
    · exact hrest.mapped other hother
  retained := fun record_id hmem => hrest.retained record_id (hfirst.retained record_id hmem)

variable [DecidableEq V]

theorem renamed_of_apply_id_mapping {state next : DurableClientState V} {mapping : IdMapping}
    (happly : apply_id_mapping state mapping = .ok next) : Renamed [mapping] state next := by
  simp only [apply_id_mapping, Except.bind_eq_ok_iff, Except.refuse_eq_ok_iff] at happly
  obtain ⟨_, _, happly⟩ := happly
  split at happly
  · rename_i existing hexisting
    split at happly
    · cases happly
      refine ⟨rfl, ⟨[], List.nil_sublist _, by simp, by simp⟩, ?_, fun _ h => h⟩
      intro other hother
      rw [List.mem_singleton.mp hother]
      exact (getElem?_eq_some_iff.mp hexisting).1
    · cases happly
  · obtain ⟨confirmed, _, hnext⟩ := Except.bind_eq_ok_iff.mp happly
    cases hnext
    refine ⟨rfl, ⟨[mapping], List.Sublist.refl _, rfl, rfl⟩, ?_, ?_⟩
    · intro other hother
      rw [List.mem_singleton.mp hother]
      exact ExtTreeMap.mem_insert_self
    · intro record_id hmem
      exact ExtTreeMap.mem_insert.mpr (.inr (ExtTreeMap.mem_map.mpr hmem))

theorem renamed_of_apply_id_mappings {mappings : List IdMapping} {state next : DurableClientState V}
    (happly : mappings.foldlM apply_id_mapping state = .ok next) : Renamed mappings state next := by
  induction mappings generalizing state with
  | nil =>
    cases happly
    exact .refl _
  | cons mapping mappings ih =>
    obtain ⟨middle, hfirst, hrest⟩ := Except.foldlM_cons_eq_ok_iff.mp happly
    exact (renamed_of_apply_id_mapping hfirst).cons (ih hrest)

/-- A first delivery records the outcome behind the renamed earlier ones. -/
theorem record_outcome_eq_ok {state next : DurableClientState V} {local_commit : ClientCommit V}
    {outcome : DurableOutcome V} {policy : AutomaticConflictPolicy}
    (hrecord : record_outcome state local_commit outcome policy = .ok next) :
    ∃ renamed resolution, Renamed (accepted_mappings outcome)
        { state with outbox := state.outbox.eraseP fun commit => commit.identity = outcome.identity }
        renamed ∧
      next = { renamed with outcomes := renamed.outcomes ++ [{
        local_commit := rename_commit (accepted_mappings outcome) local_commit
        outcome
        resolution
        covered_by_reset := false }] } := by
  simp only [record_outcome, Except.bind_eq_ok_iff, Except.ok.injEq] at hrecord
  obtain ⟨renamed, hrenamed, rfl⟩ := hrecord
  exact ⟨renamed, _, renamed_of_apply_id_mappings hrenamed, rfl⟩

/-- The decision a request stores. -/
def ConflictResolutionRequest.resolution : ConflictResolutionRequest V → ConflictResolution
  | .KeepServer => .KeepServer
  | .KeepLocal replacement => .KeepLocal replacement.identity
  | .Merge replacement => .Merge replacement.identity

/-- The commit a request queues. -/
def ConflictResolutionRequest.replacement : ConflictResolutionRequest V → Option (ClientCommit V)
  | .KeepServer => none
  | .KeepLocal replacement => some replacement
  | .Merge replacement => some replacement

/-- A first decision marks the conflict and queues its fresh replacement. -/
theorem decide_conflict_eq_ok {state next : DurableClientState V} {index : Nat}
    {resolved : ResolvedCommit V} {record_id : RecordId} {authoritative : RecordState V}
    {request : ConflictResolutionRequest V}
    (hdecide : decide_conflict state index resolved record_id authoritative request = .ok next) :
    next = { state with
        outcomes := state.outcomes.modify index fun resolved =>
          { resolved with resolution := some request.resolution }
        outbox := state.outbox ++ request.replacement.toList } ∧
      ∀ replacement, request.replacement = some replacement →
        ¬ identity_exists state replacement.identity.client_commit_id := by
  cases request with
  | KeepServer =>
    cases hdecide
    simp [ConflictResolutionRequest.resolution, ConflictResolutionRequest.replacement]
  | KeepLocal replacement =>
    simp only [decide_conflict, validate_replacement_identity, Except.bind_eq_ok_iff,
      Except.refuse_eq_ok_iff, Except.ok.injEq] at hdecide
    obtain ⟨_, ⟨_, _, hfresh⟩, _, _, rfl⟩ := hdecide
    refine ⟨rfl, fun other hother => ?_⟩
    cases hother
    exact hfresh
  | Merge replacement =>
    simp only [decide_conflict, validate_replacement_identity, Except.bind_eq_ok_iff,
      Except.refuse_eq_ok_iff, Except.ok.injEq] at hdecide
    obtain ⟨_, ⟨_, _, hfresh⟩, _, _, rfl⟩ := hdecide
    refine ⟨rfl, fun other hother => ?_⟩
    cases hother
    exact hfresh

end surrealdb_sync_client
