import SurrealSync.Basic.Relabel
import SurrealSync.Client.Intent
import SurrealSync.Client.Read

open Std
open surrealdb_sync_protocol surrealdb_sync_protocol.subscription

namespace surrealdb_sync_client

variable {V : Type}

/-- A record id occurs in the state: among the confirmed records, the queued and settled
commits, the stored conflicts or the id map. Subscription windows and the mappings
of recorded answers are not renamed and do not count. -/
inductive DurableClientState.Mentions (state : DurableClientState V) (id : RecordId) : Prop
  | confirmed {record : RecordState V} (hfound : state.confirmed[id]? = some record)
  | reference {record_id : RecordId} {record : RecordState V} (hfound : state.confirmed[record_id]? = some record)
      (hreferences : record_references_id record id)
  | queued {commit : ClientCommit V} (hmem : commit ∈ state.outbox) (hcontains : commit_contains_id commit id)
  | settled {resolved : ResolvedCommit V} (hmem : resolved ∈ state.outcomes)
      (hcontains : commit_contains_id resolved.local_commit id)
  | conflict {resolved : ResolvedCommit V} (hmem : resolved ∈ state.outcomes)
      (hcontains : outcome_contains_id resolved.outcome id)
  | local_id (hmem : id ∈ state.id_map)
  | canonical_id {local_id : RecordId} (hfound : state.id_map[local_id]? = some id)

theorem DurableClientState.mentions_iff {state : DurableClientState V} {id : RecordId} :
    ((∃ entry ∈ state.confirmed.toList, entry.1 = id ∨ record_references_id entry.2 id) ∨
      (∃ commit ∈ state.outbox, commit_contains_id commit id) ∨
      (∃ resolved ∈ state.outcomes,
        commit_contains_id resolved.local_commit id ∨ outcome_contains_id resolved.outcome id) ∨
      ∃ entry ∈ state.id_map.toList, entry.1 = id ∨ entry.2 = id) ↔ state.Mentions id := by
  constructor
  · rintro (⟨⟨record_id, record⟩, hmem, hid⟩ | ⟨commit, hmem, hcontains⟩ | ⟨resolved, hmem, hcontains⟩ |
      ⟨⟨local_id, canonical_id⟩, hmem, hid⟩)
    · have hfound := ExtTreeMap.mem_toList_iff_getElem?_eq_some.mp hmem
      rcases hid with rfl | hreferences
      · exact .confirmed hfound
      · exact .reference hfound hreferences
    · exact .queued hmem hcontains
    · rcases hcontains with hcommit | houtcome
      · exact .settled hmem hcommit
      · exact .conflict hmem houtcome
    · have hfound := ExtTreeMap.mem_toList_iff_getElem?_eq_some.mp hmem
      rcases hid with rfl | rfl
      · exact .local_id (BTreeMap.mem_of_getElem? hfound)
      · exact .canonical_id hfound
  · intro hmentions
    cases hmentions with
    | confirmed hfound => exact .inl ⟨_, ExtTreeMap.mem_toList_iff_getElem?_eq_some.mpr hfound, .inl rfl⟩
    | reference hfound hreferences =>
      exact .inl ⟨_, ExtTreeMap.mem_toList_iff_getElem?_eq_some.mpr hfound, .inr hreferences⟩
    | queued hmem hcontains => exact .inr (.inl ⟨_, hmem, hcontains⟩)
    | settled hmem hcontains => exact .inr (.inr (.inl ⟨_, hmem, .inl hcontains⟩))
    | conflict hmem hcontains => exact .inr (.inr (.inl ⟨_, hmem, .inr hcontains⟩))
    | local_id hmem =>
      obtain ⟨canonical_id, hfound⟩ := BTreeMap.exists_of_mem hmem
      exact .inr (.inr (.inr ⟨_, ExtTreeMap.mem_toList_iff_getElem?_eq_some.mpr hfound, .inl rfl⟩))
    | canonical_id hfound =>
      exact .inr (.inr (.inr ⟨_, ExtTreeMap.mem_toList_iff_getElem?_eq_some.mpr hfound, .inr rfl⟩))

instance (state : DurableClientState V) (id : RecordId) : Decidable (state.Mentions id) :=
  decidable_of_iff _ DurableClientState.mentions_iff

/-! ### Where renamed ids come from -/

section Origins

variable {mapping : IdMapping}

theorem exists_of_reference {reference : Option RecordId} {id : RecordId}
    (hreference : reference.map (remap_record_id · mapping) = some id) :
    ∃ other, reference = some other ∧ remap_record_id other mapping = id :=
  Option.map_eq_some_iff.mp hreference

theorem exists_of_record_references {record : RecordState V} {id : RecordId}
    (hreferences : record_references_id (remap_record record mapping) id) :
    ∃ other, record_references_id record other ∧ remap_record_id other mapping = id := by
  cases record with
  | Absent => cases hreferences
  | Tombstone version => cases hreferences
  | Present value version reference => exact exists_of_reference hreferences

theorem exists_of_commit_contains {commit : ClientCommit V} {id : RecordId}
    (hcontains : commit_contains_id (remap_commit commit mapping) id) :
    ∃ other, commit_contains_id commit other ∧ remap_record_id other mapping = id := by
  obtain ⟨_, hmem, hoperation⟩ := hcontains
  obtain ⟨operation, hoperationMem, rfl⟩ := List.mem_map.mp hmem
  cases operation with
  | Upsert record_id base_version value reference =>
    rcases hoperation with hid | hreference
    · exact ⟨record_id, ⟨_, hoperationMem, .inl rfl⟩, hid⟩
    · obtain ⟨other, hother, hid⟩ := exists_of_reference hreference
      exact ⟨other, ⟨_, hoperationMem, .inr hother⟩, hid⟩
  | Delete record_id base_version => exact ⟨record_id, ⟨_, hoperationMem, rfl⟩, hoperation⟩

theorem exists_of_outcome_contains {outcome : DurableOutcome V} {id : RecordId}
    (hcontains : outcome_contains_id (remap_outcome outcome mapping) id) :
    ∃ other, outcome_contains_id outcome other ∧ remap_record_id other mapping = id := by
  cases outcome with
  | Accepted identity sequence id_mappings => cases hcontains
  | Rejected identity reason => cases hcontains
  | Conflict identity record_id authoritative =>
    rcases hcontains with hid | hreferences
    · exact ⟨record_id, .inl rfl, hid⟩
    · obtain ⟨other, hother, hid⟩ := exists_of_record_references hreferences
      exact ⟨other, .inr hother, hid⟩

theorem remap_record_id_eq_or (id : RecordId) (mapping : IdMapping) :
    remap_record_id id mapping = id ∨ remap_record_id id mapping = mapping.canonical_id := by
  unfold remap_record_id
  split
  · exact .inr rfl
  · exact .inl rfl

/-- Ids other than the canonical one are not merged. -/
theorem remap_record_id_inj {a b : RecordId} (ha : a ≠ mapping.canonical_id) (hb : b ≠ mapping.canonical_id)
    (heq : remap_record_id a mapping = remap_record_id b mapping) : a = b := by
  unfold remap_record_id at heq
  by_cases halocal : a = mapping.local_id
  · by_cases hblocal : b = mapping.local_id
    · rw [halocal, hblocal]
    · rw [if_pos halocal, if_neg hblocal] at heq
      exact absurd heq.symm hb
  · by_cases hblocal : b = mapping.local_id
    · rw [if_neg halocal, if_pos hblocal] at heq
      exact absurd heq ha
    · rwa [if_neg halocal, if_neg hblocal] at heq

end Origins

/-! ### One mapping -/

/-- A mapping that the client sees for the first time. -/
structure FreshMapping (state : DurableClientState V) (mapping : IdMapping) : Prop where
  different : mapping.canonical_id ≠ mapping.local_id
  unmapped : mapping.local_id ∉ state.id_map
  unused : ¬ state.Mentions mapping.canonical_id

/-- What a fresh mapping does to a state. -/
structure Relabels (mapping : IdMapping) (state next : DurableClientState V) : Prop where
  frame : next = { state with
    confirmed := next.confirmed
    outbox := state.outbox.map (remap_commit · mapping)
    outcomes := state.outcomes.map (remap_resolved · mapping)
    id_map := (state.id_map.map fun _ canonical_id => remap_record_id canonical_id mapping).insert
      mapping.local_id mapping.canonical_id }
  confirmed : Relabelled (remap_record_id · mapping) (remap_record · mapping) state.confirmed next.confirmed

theorem FreshMapping.relabels [DecidableEq V] {state : DurableClientState V} {mapping : IdMapping}
    (hfresh : FreshMapping state mapping) :
    ∃ next, apply_id_mapping state mapping = .ok next ∧ Relabels mapping state next := by
  have hnew : mapping.canonical_id ∉ state.confirmed := by
    intro hmem
    obtain ⟨record, hfound⟩ := BTreeMap.exists_of_mem hmem
    exact hfresh.unused (.confirmed hfound)
  have hguard : ¬ (mapping.local_id = mapping.canonical_id ∨ mapping.canonical_id ∈ state.id_map) := by
    rintro (heq | hmem)
    · exact hfresh.different heq.symm
    · exact hfresh.unused (.local_id hmem)
  have hrows : ∃ confirmed, rename_confirmed state.confirmed mapping = .ok confirmed ∧
      Relabelled (remap_record_id · mapping) id state.confirmed confirmed := by
    unfold rename_confirmed
    cases hlocal : state.confirmed[mapping.local_id]? with
    | none => exact ⟨state.confirmed, rfl, Relabelled.keep ((getElem?_eq_none_iff _ _).mp hlocal)⟩
    | some local_state =>
      have herased : (state.confirmed.erase mapping.local_id)[mapping.canonical_id]? = none := by
        rw [BTreeMap.getElem?_erase_of_ne hfresh.different]
        exact ExtTreeMap.getElem?_eq_none hnew
      simp only [herased]
      exact ⟨_, rfl, Relabelled.move hlocal hnew⟩
  obtain ⟨confirmed, hrename, hrelabelled⟩ := hrows
  refine ⟨{ state with
    confirmed := confirmed.map fun _ record => remap_record record mapping
    outbox := state.outbox.map (remap_commit · mapping)
    outcomes := state.outcomes.map (remap_resolved · mapping)
    id_map := (state.id_map.map fun _ canonical_id => remap_record_id canonical_id mapping).insert
      mapping.local_id mapping.canonical_id }, ?_, rfl, hrelabelled.map (remap_record · mapping)⟩
  unfold apply_id_mapping
  rw [Except.bind_of_ok (Except.refuse_of_not hguard), ExtTreeMap.getElem?_eq_none hfresh.unmapped]
  exact Except.bind_of_ok hrename

/-! ### Validity -/

/-- A subscription table only looks at the scope and the checkpoint of its owner. -/
theorem DurableSubscriptions.Valid.of_owner {windows : DurableSubscriptions V} {owner : DurableClientState V}
    (hvalid : windows.Valid owner) (confirmed : BTreeMap RecordId (RecordState V)) (outbox : List (ClientCommit V))
    (outcomes : List (ResolvedCommit V)) (id_map : BTreeMap RecordId RecordId) (revision : UInt64) :
    windows.Valid { owner with confirmed, outbox, outcomes, id_map, revision } := by
  have hsame : windows.validate { owner with confirmed, outbox, outcomes, id_map, revision } =
    windows.validate owner := rfl
  exact DurableSubscriptions.validate_eq_ok_iff.mp (hsame.trans (DurableSubscriptions.validate_eq_ok_iff.mpr hvalid))

theorem DurableClientState.Valid.with_revision {state : DurableClientState V} (hvalid : state.Valid)
    (revision : UInt64) : DurableClientState.Valid { state with revision } where
  commits := hvalid.commits
  outcomes := hvalid.outcomes
  commit_ids := hvalid.commit_ids
  resolutions := hvalid.resolutions
  confirmed := hvalid.confirmed
  checkpoint := hvalid.checkpoint
  coverage := hvalid.coverage
  windows := fun windows hwindows => (hvalid.windows windows hwindows).of_owner _ _ _ _ _
  id_map := hvalid.id_map
  confirmed_unmapped := hvalid.confirmed_unmapped
  outbox_unmapped := hvalid.outbox_unmapped
  outcomes_unmapped := hvalid.outcomes_unmapped

/-- A decision stays well-formed while its conflict stays one and the replacement stays
known. -/
theorem validate_resolution_transfer {state next : DurableClientState V} {resolved later : ResolvedCommit V}
    (hvalid : validate_resolution state resolved = .ok ()) (hresolution : later.resolution = resolved.resolution)
    (hidentity : later.local_commit.identity = resolved.local_commit.identity)
    (hconflict : resolved.outcome.IsConflict → later.outcome.IsConflict)
    (heligible : prefer_server_eligible resolved.local_commit resolved.outcome →
      prefer_server_eligible later.local_commit later.outcome)
    (hknown : ∀ identity ∈ state.pending ++ state.settled, identity ∈ next.pending ++ next.settled) :
    validate_resolution next later = .ok () := by
  have hreplacement : ∀ replacement, ¬ (replacement = resolved.local_commit.identity ∨
        ((¬ ∃ commit ∈ state.outbox, commit.identity = replacement) ∧
          ¬ ∃ outcome ∈ state.outcomes, outcome.local_commit.identity = replacement)) →
      ¬ (replacement = later.local_commit.identity ∨
        ((¬ ∃ commit ∈ next.outbox, commit.identity = replacement) ∧
          ¬ ∃ outcome ∈ next.outcomes, outcome.local_commit.identity = replacement)) := by
    intro replacement hfound
    rw [not_or, not_and_or, not_not, not_not] at hfound ⊢
    obtain ⟨hother, hfound⟩ := hfound
    refine ⟨hidentity ▸ hother, ?_⟩
    have hmem : replacement ∈ state.pending ++ state.settled := by
      rw [List.mem_append, DurableClientState.pending, DurableClientState.settled, List.mem_map, List.mem_map]
      exact hfound
    have hnext := hknown replacement hmem
    rwa [List.mem_append, DurableClientState.pending, DurableClientState.settled, List.mem_map, List.mem_map] at hnext
  unfold validate_resolution at hvalid ⊢
  rw [hresolution]
  cases hdecision : resolved.resolution with
  | none => rfl
  | some resolution =>
    simp only [hdecision, Except.bind_eq_ok_iff, Except.refuse_eq_ok_iff, not_not] at hvalid ⊢
    obtain ⟨_, hisConflict, hdecided⟩ := hvalid
    refine ⟨(), hconflict hisConflict, ?_⟩
    cases resolution with
    | KeepServer => rfl
    | PreferServerPolicyV1 =>
      simp only [Except.refuse_eq_ok_iff, not_not] at hdecided ⊢
      exact heligible hdecided
    | KeepLocal replacement =>
      exact Except.refuse_of_not (hreplacement replacement (Except.refuse_eq_ok_iff.mp hdecided))
    | Merge replacement =>
      exact Except.refuse_of_not (hreplacement replacement (Except.refuse_eq_ok_iff.mp hdecided))

theorem prefer_server_eligible_remap {commit : ClientCommit V} {outcome : DurableOutcome V} {mapping : IdMapping}
    (heligible : prefer_server_eligible commit outcome) :
    prefer_server_eligible (remap_commit commit mapping) (remap_outcome outcome mapping) := by
  unfold prefer_server_eligible at heligible
  split at heligible
  · split at heligible
    · rename_i operation_id base value reference hoperations
      simp only [Bool.and_eq_true, decide_eq_true_eq] at heligible
      obtain ⟨⟨rfl, hbase⟩, hversion⟩ := heligible
      simp [prefer_server_eligible, remap_outcome, remap_record, remap_commit, hoperations, remap_operation, hbase,
        hversion]
    · cases heligible
  · cases heligible

section Step

variable {state next : DurableClientState V} {mapping : IdMapping}

theorem record_id_remap_operation (operation : Operation V) :
    (remap_operation operation mapping).record_id = remap_record_id operation.record_id mapping := by
  cases operation with
  | Upsert record_id base_version value reference => rfl
  | Delete record_id base_version => rfl

theorem commit_contains_record_id {commit : ClientCommit V} {operation : Operation V}
    (hmem : operation ∈ commit.operations) : commit_contains_id commit operation.record_id := by
  refine ⟨operation, hmem, ?_⟩
  cases operation with
  | Upsert record_id base_version value reference => exact .inl rfl
  | Delete record_id base_version => exact rfl

theorem CommitValid.remap {commit : ClientCommit V} (hvalid : CommitValid commit)
    (hunused : ¬ commit_contains_id commit mapping.canonical_id) : CommitValid (remap_commit commit mapping) where
  nonempty := fun hnil => hvalid.nonempty (List.map_eq_nil_iff.mp hnil)
  distinct := by
    have hids : (remap_commit commit mapping).operations.map (·.record_id) =
        (commit.operations.map (·.record_id)).map (remap_record_id · mapping) := by
      rw [remap_commit, List.map_map, List.map_map]
      exact List.map_congr_left fun operation _ => record_id_remap_operation operation
    rw [hids]
    refine List.Nodup.map_on ?_ hvalid.distinct
    have hne : ∀ id ∈ commit.operations.map (·.record_id), id ≠ mapping.canonical_id := by
      intro id hid heq
      obtain ⟨operation, hmem, rfl⟩ := List.mem_map.mp hid
      exact hunused (heq ▸ commit_contains_record_id hmem)
    intro a ha b hb heq
    exact remap_record_id_inj (hne a ha) (hne b hb) heq

theorem Relabels.mem_id_map (hrelabels : Relabels mapping state next) {id : RecordId} :
    id ∈ next.id_map ↔ id = mapping.local_id ∨ id ∈ state.id_map := by
  rw [hrelabels.frame, ExtTreeMap.mem_insert, ExtTreeMap.mem_map, LawfulEqOrd.compare_eq_iff_eq, eq_comm]

theorem Relabels.canonical_not_mem (hfresh : FreshMapping state mapping) (hrelabels : Relabels mapping state next) :
    mapping.canonical_id ∉ next.id_map := by
  rw [hrelabels.mem_id_map]
  rintro (heq | hmem)
  · exact hfresh.different heq
  · exact hfresh.unused (.local_id hmem)

/-- No renamed id is a mapped one. -/
theorem Relabels.remap_not_mem (hfresh : FreshMapping state mapping) (hrelabels : Relabels mapping state next)
    {id : RecordId} (hunmapped : id ∉ state.id_map) : remap_record_id id mapping ∉ next.id_map := by
  by_cases hlocal : id = mapping.local_id
  · rw [remap_record_id, if_pos hlocal]
    exact hrelabels.canonical_not_mem hfresh
  · rw [remap_record_id, if_neg hlocal, hrelabels.mem_id_map]
    exact not_or.mpr ⟨hlocal, hunmapped⟩

theorem Relabels.getElem?_id_map (hrelabels : Relabels mapping state next) (id : RecordId) :
    next.id_map[id]? = if id = mapping.local_id then some mapping.canonical_id
      else state.id_map[id]?.map (remap_record_id · mapping) := by
  rw [hrelabels.frame]
  by_cases hlocal : id = mapping.local_id
  · rw [if_pos hlocal, hlocal, ExtTreeMap.getElem?_insert_self]
  · rw [if_neg hlocal, BTreeMap.getElem?_insert_of_ne hlocal, ExtTreeMap.getElem?_map]

/-- Every id of the next state is the new pair's or renames an id of the state before. -/
theorem Relabels.mentions (hrelabels : Relabels mapping state next) {id : RecordId} (hmentions : next.Mentions id) :
    id = mapping.local_id ∨ id = mapping.canonical_id ∨ state.Mentions id := by
  have horigin : ∀ {other}, state.Mentions other → remap_record_id other mapping = id →
      id = mapping.local_id ∨ id = mapping.canonical_id ∨ state.Mentions id := by
    intro other hother heq
    rcases remap_record_id_eq_or other mapping with hsame | hcanonical
    · exact .inr (.inr (heq ▸ hsame.symm ▸ hother))
    · exact .inr (.inl (heq.symm.trans hcanonical))
  have houtbox : next.outbox = state.outbox.map (remap_commit · mapping) := by rw [hrelabels.frame]
  have houtcomes : next.outcomes = state.outcomes.map (remap_resolved · mapping) := by rw [hrelabels.frame]
  cases hmentions with
  | confirmed hfound =>
    obtain ⟨other, record, hrecord, heq, _⟩ := (hrelabels.confirmed.entries _ _).mp hfound
    exact horigin (.confirmed hrecord) heq
  | reference hfound hreferences =>
    obtain ⟨_, record, hrecord, _, rfl⟩ := (hrelabels.confirmed.entries _ _).mp hfound
    obtain ⟨other, hother, heq⟩ := exists_of_record_references hreferences
    exact horigin (.reference hrecord hother) heq
  | queued hmem hcontains =>
    obtain ⟨commit, hcommit, rfl⟩ := List.mem_map.mp (houtbox ▸ hmem)
    obtain ⟨other, hother, heq⟩ := exists_of_commit_contains hcontains
    exact horigin (.queued hcommit hother) heq
  | settled hmem hcontains =>
    obtain ⟨resolved, hresolved, rfl⟩ := List.mem_map.mp (houtcomes ▸ hmem)
    obtain ⟨other, hother, heq⟩ := exists_of_commit_contains hcontains
    exact horigin (.settled hresolved hother) heq
  | conflict hmem hcontains =>
    obtain ⟨resolved, hresolved, rfl⟩ := List.mem_map.mp (houtcomes ▸ hmem)
    obtain ⟨other, hother, heq⟩ := exists_of_outcome_contains hcontains
    exact horigin (.conflict hresolved hother) heq
  | local_id hmem =>
    rcases hrelabels.mem_id_map.mp hmem with hlocal | hmem
    · exact .inl hlocal
    · exact .inr (.inr (.local_id hmem))
  | canonical_id hfound =>
    rw [hrelabels.getElem?_id_map] at hfound
    split at hfound
    · cases hfound
      exact .inr (.inl rfl)
    · obtain ⟨other, hother, heq⟩ := Option.map_eq_some_iff.mp hfound
      exact horigin (.canonical_id hother) heq

/-- The pairs of the next map lead away from its keys. -/
theorem Relabels.id_map_valid (hvalid : state.Valid) (hfresh : FreshMapping state mapping)
    (hrelabels : Relabels mapping state next) {local_id canonical_id : RecordId}
    (hfound : next.id_map[local_id]? = some canonical_id) :
    local_id ≠ canonical_id ∧ canonical_id ∉ next.id_map := by
  have hmem := BTreeMap.mem_of_getElem? hfound
  have hcanonical : canonical_id ∉ next.id_map := by
    rw [hrelabels.getElem?_id_map] at hfound
    split at hfound
    · cases hfound
      exact hrelabels.canonical_not_mem hfresh
    · obtain ⟨other, hother, rfl⟩ := Option.map_eq_some_iff.mp hfound
      exact hrelabels.remap_not_mem hfresh (hvalid.id_map _ _ hother).2
  exact ⟨fun heq => hcanonical (heq ▸ hmem), hcanonical⟩

theorem Relabels.confirmed_unmapped (hvalid : state.Valid) (hfresh : FreshMapping state mapping)
    (hrelabels : Relabels mapping state next) {local_id : RecordId} (hmem : local_id ∈ next.id_map)
    {record_id : RecordId} {record : RecordState V} (hfound : next.confirmed[record_id]? = some record) :
    record_id ≠ local_id ∧ ¬ record_references_id record local_id := by
  obtain ⟨other, earlier, hearlier, rfl, rfl⟩ := (hrelabels.confirmed.entries _ _).mp hfound
  constructor
  · rintro rfl
    have hunmapped : other ∉ state.id_map := fun hother => (hvalid.confirmed_unmapped _ hother _ _ hearlier).1 rfl
    exact hrelabels.remap_not_mem hfresh hunmapped hmem
  · intro hreferences
    obtain ⟨reference, hreference, rfl⟩ := exists_of_record_references hreferences
    have hunmapped : reference ∉ state.id_map :=
      fun hother => (hvalid.confirmed_unmapped _ hother _ _ hearlier).2 hreference
    exact hrelabels.remap_not_mem hfresh hunmapped hmem

theorem Relabels.commit_unmapped (hfresh : FreshMapping state mapping) (hrelabels : Relabels mapping state next)
    {commit : ClientCommit V} (hunmapped : ∀ local_id ∈ state.id_map, ¬ commit_contains_id commit local_id)
    {local_id : RecordId} (hmem : local_id ∈ next.id_map) :
    ¬ commit_contains_id (remap_commit commit mapping) local_id := by
  intro hcontains
  obtain ⟨other, hother, rfl⟩ := exists_of_commit_contains hcontains
  exact hrelabels.remap_not_mem hfresh (fun hmapped => hunmapped other hmapped hother) hmem

theorem Relabels.outcome_unmapped (hfresh : FreshMapping state mapping) (hrelabels : Relabels mapping state next)
    {outcome : DurableOutcome V} (hunmapped : ∀ local_id ∈ state.id_map, ¬ outcome_contains_id outcome local_id)
    {local_id : RecordId} (hmem : local_id ∈ next.id_map) :
    ¬ outcome_contains_id (remap_outcome outcome mapping) local_id := by
  intro hcontains
  obtain ⟨other, hother, rfl⟩ := exists_of_outcome_contains hcontains
  exact hrelabels.remap_not_mem hfresh (fun hmapped => hunmapped other hmapped hother) hmem

theorem OutcomeValid.remap {resolved : ResolvedCommit V} (hvalid : OutcomeValid resolved)
    (hunused : ¬ commit_contains_id resolved.local_commit mapping.canonical_id) :
    OutcomeValid (remap_resolved resolved mapping) := by
  obtain ⟨hcommit, hcovered, hidentity⟩ := hvalid
  rcases resolved with ⟨local_commit, outcome, resolution, covered_by_reset⟩
  refine ⟨hcommit.remap hunused, ?_, ?_⟩
  · cases outcome <;> exact hcovered
  · cases outcome <;> exact hidentity

theorem Relabels.resolution (hvalid : state.Valid) (hrelabels : Relabels mapping state next)
    {resolved : ResolvedCommit V} (hmem : resolved ∈ state.outcomes) :
    validate_resolution next (remap_resolved resolved mapping) = .ok () := by
  refine validate_resolution_transfer (hvalid.resolutions resolved hmem) rfl rfl ?_ prefer_server_eligible_remap ?_
  · rcases resolved with ⟨local_commit, outcome, resolution, covered_by_reset⟩
    cases outcome <;> exact id
  · rw [hrelabels.frame]
    simp [DurableClientState.pending, DurableClientState.settled, remap_commit, remap_resolved]

/-- A fresh mapping leaves a valid state valid. -/
theorem Relabels.valid (hvalid : state.Valid) (hfresh : FreshMapping state mapping)
    (hrelabels : Relabels mapping state next) : next.Valid := by
  have houtbox : next.outbox = state.outbox.map (remap_commit · mapping) := by rw [hrelabels.frame]
  have houtcomes : next.outcomes = state.outcomes.map (remap_resolved · mapping) := by rw [hrelabels.frame]
  constructor
  case commits =>
    rw [houtbox, List.forall_mem_map]
    exact fun commit hmem => (hvalid.commits commit hmem).remap fun hcontains => hfresh.unused (.queued hmem hcontains)
  case outcomes =>
    rw [houtcomes, List.forall_mem_map]
    exact fun resolved hmem =>
      (hvalid.outcomes resolved hmem).remap fun hcontains => hfresh.unused (.settled hmem hcontains)
  case commit_ids =>
    have hids : next.commit_ids = state.commit_ids := by
      rw [DurableClientState.commit_ids, houtbox, houtcomes, List.map_map, List.map_map]
      rfl
    rw [hids]
    exact hvalid.commit_ids
  case resolutions =>
    rw [houtcomes, List.forall_mem_map]
    exact fun resolved hmem => hrelabels.resolution hvalid hmem
  case confirmed =>
    intro record_id hfound
    obtain ⟨other, record, hrecord, _, habsent⟩ := (hrelabels.confirmed.entries _ _).mp hfound
    cases record with
    | Absent => exact hvalid.confirmed other hrecord
    | Tombstone version => cases habsent
    | Present value version reference => cases habsent
  case checkpoint =>
    rw [hrelabels.frame]
    exact hvalid.checkpoint
  case coverage =>
    rw [hrelabels.frame]
    exact hvalid.coverage
  case windows =>
    rw [hrelabels.frame]
    exact fun windows hwindows => (hvalid.windows windows hwindows).of_owner _ _ _ _ _
  case id_map => exact fun local_id canonical_id hfound => hrelabels.id_map_valid hvalid hfresh hfound
  case confirmed_unmapped =>
    exact fun local_id hmem record_id record hfound => hrelabels.confirmed_unmapped hvalid hfresh hmem hfound
  case outbox_unmapped =>
    intro local_id hmem
    rw [houtbox, List.forall_mem_map]
    intro commit hcommit
    exact hrelabels.commit_unmapped hfresh (fun other hother => hvalid.outbox_unmapped other hother commit hcommit) hmem
  case outcomes_unmapped =>
    intro local_id hmem
    rw [houtcomes, List.forall_mem_map]
    intro resolved hresolved
    have hunmapped := fun other hother => hvalid.outcomes_unmapped other hother resolved hresolved
    exact ⟨hrelabels.commit_unmapped hfresh (fun other hother => (hunmapped other hother).1) hmem,
      hrelabels.outcome_unmapped hfresh (fun other hother => (hunmapped other hother).2) hmem⟩

/-! ### The optimistic projection -/

/-- A displayed record with its reference renamed. -/
def OptimisticRecord.relabel (f : RecordId → RecordId) : OptimisticRecord V → OptimisticRecord V
  | .Present value base_version reference => .Present value base_version (reference.map f)
  | .Deleted base_version => .Deleted base_version

/-- What an operation displays for its record. -/
def shown_operation : Operation V → OptimisticRecord V
  | .Upsert _ base_version value reference => .Present value base_version reference
  | .Delete _ base_version => .Deleted base_version

theorem apply_operation_eq_insert (projection : BTreeMap RecordId (OptimisticRecord V)) (operation : Operation V) :
    apply_operation projection operation = projection.insert operation.record_id (shown_operation operation) := by
  cases operation with
  | Upsert record_id base_version value reference => rfl
  | Delete record_id base_version => rfl

theorem shown_operation_remap (operation : Operation V) :
    shown_operation (remap_operation operation mapping) =
      (shown_operation operation).relabel (remap_record_id · mapping) := by
  cases operation with
  | Upsert record_id base_version value reference => rfl
  | Delete record_id base_version => rfl

theorem confirmed_projection_remap (record : RecordState V) :
    confirmed_projection (remap_record record mapping) =
      (confirmed_projection record).map (·.relabel (remap_record_id · mapping)) := by
  cases record with
  | Absent => rfl
  | Tombstone version => rfl
  | Present value version reference => rfl

theorem overlaid_commit_remap (applied_sequence : UInt64) (resolved : ResolvedCommit V) :
    overlaid_commit applied_sequence (remap_resolved resolved mapping) =
      (overlaid_commit applied_sequence resolved).map (remap_commit · mapping) := by
  rcases resolved with ⟨local_commit, outcome, resolution, covered_by_reset⟩
  cases outcome with
  | Conflict identity record_id authoritative => rfl
  | Rejected identity reason => rfl
  | Accepted identity sequence id_mappings =>
    exact (apply_ite (Option.map (remap_commit · mapping)) _ (some local_commit) none).symm

theorem Relabels.optimistic_operations (hrelabels : Relabels mapping state next) :
    optimistic_operations next = (optimistic_operations state).map (remap_operation · mapping) := by
  have hoverlaid : (state.outcomes.map (remap_resolved · mapping)).filterMap (overlaid_commit state.applied_sequence) =
      (state.outcomes.filterMap (overlaid_commit state.applied_sequence)).map (remap_commit · mapping) := by
    rw [List.filterMap_map, List.map_filterMap]
    exact List.filterMap_congr fun resolved _ => overlaid_commit_remap _ resolved
  have hcommits : ∀ commits : List (ClientCommit V), (commits.map (remap_commit · mapping)).flatMap (·.operations) =
      (commits.flatMap (·.operations)).map (remap_operation · mapping) := by
    intro commits
    rw [List.flatMap_map, List.map_flatMap]
    rfl
  rw [hrelabels.frame]
  change ((state.outcomes.map (remap_resolved · mapping)).filterMap (overlaid_commit state.applied_sequence) ++
    state.outbox.map (remap_commit · mapping)).flatMap (·.operations) = _
  rw [hoverlaid, ← List.map_append, hcommits]
  rfl

/-- Only mentioned ids are displayed. -/
theorem mentions_of_optimistic_operation {operation : Operation V} (hmem : operation ∈ optimistic_operations state) :
    state.Mentions operation.record_id := by
  obtain ⟨commit, hcommit, hoperation⟩ := List.mem_flatMap.mp hmem
  have hcontains := commit_contains_record_id hoperation
  rcases List.mem_append.mp hcommit with hoverlaid | hqueued
  · obtain ⟨resolved, hresolved, hcommit⟩ := List.mem_filterMap.mp hoverlaid
    unfold overlaid_commit at hcommit
    split at hcommit
    · split at hcommit
      · cases hcommit
        exact .settled hresolved hcontains
      · cases hcommit
    · cases hcommit
    · cases hcommit
  · exact .queued hqueued hcontains

/-- Overlaying renamed operations renames the overlay. -/
theorem relabelled_foldl_apply_operation {operations : List (Operation V)}
    {shown renamed : BTreeMap RecordId (OptimisticRecord V)}
    (hrelabelled : Relabelled (remap_record_id · mapping) (·.relabel (remap_record_id · mapping)) shown renamed)
    (hshown : mapping.canonical_id ∉ shown)
    (hoperations : ∀ operation ∈ operations, operation.record_id ≠ mapping.canonical_id) :
    Relabelled (remap_record_id · mapping) (·.relabel (remap_record_id · mapping))
      (operations.foldl apply_operation shown)
      ((operations.map (remap_operation · mapping)).foldl apply_operation renamed) := by
  induction operations generalizing shown renamed with
  | nil => exact hrelabelled
  | cons operation operations ih =>
    obtain ⟨hhead, htail⟩ := List.forall_mem_cons.mp hoperations
    rw [List.map_cons, List.foldl_cons, List.foldl_cons]
    simp only [apply_operation_eq_insert, record_id_remap_operation, shown_operation_remap] at ih ⊢
    have hapart : ∀ id ∈ shown,
        remap_record_id id mapping = remap_record_id operation.record_id mapping → id = operation.record_id := by
      intro id hid heq
      exact remap_record_id_inj (fun hcanonical => hshown (hcanonical ▸ hid)) hhead heq
    refine ih (hrelabelled.insert hapart (shown_operation operation)) ?_ htail
    rw [ExtTreeMap.mem_insert, LawfulEqOrd.compare_eq_iff_eq]
    exact not_or.mpr ⟨hhead, hshown⟩

/-- A fresh mapping renames what the user sees. -/
theorem Relabels.projection (hfresh : FreshMapping state mapping) (hrelabels : Relabels mapping state next) :
    Relabelled (remap_record_id · mapping) (·.relabel (remap_record_id · mapping)) (optimistic_projection state)
      (optimistic_projection next) := by
  unfold optimistic_projection
  rw [hrelabels.optimistic_operations]
  refine relabelled_foldl_apply_operation (hrelabels.confirmed.filterMap confirmed_projection_remap) ?_ ?_
  · intro hmem
    obtain ⟨shown, hshown⟩ := BTreeMap.exists_of_mem hmem
    rw [ExtTreeMap.getElem?_filterMap', Option.bind_eq_some_iff] at hshown
    obtain ⟨record, hrecord, _⟩ := hshown
    exact hfresh.unused (.confirmed hrecord)
  · intro operation hmem heq
    exact hfresh.unused (heq ▸ mentions_of_optimistic_operation hmem)

end Step

end surrealdb_sync_client
