import SurrealSync.Client.Prepare
import SurrealSync.Client.Relabelling

open Std
open surrealdb_sync_protocol surrealdb_sync_protocol.subscription

namespace surrealdb_sync_client

variable {V : Type}

/-! ### A list of mappings -/

/-- The canonical id of a mapped local id; every other id stands for itself. -/
def canonical_of (mappings : List IdMapping) (id : RecordId) : RecordId :=
  match mappings.find? (·.local_id = id) with
  | some mapping => mapping.canonical_id
  | none => id

/-- The mappings of an answer that the client sees for the first time: every local id
once and none of them mapped before, every canonical id once and none of them in use. -/
structure FreshMappings (state : DurableClientState V) (mappings : List IdMapping) : Prop where
  locals : (mappings.map (·.local_id)).Nodup
  unmapped : ∀ mapping ∈ mappings, mapping.local_id ∉ state.id_map
  canonicals : (mappings.map (·.canonical_id)).Nodup
  unused : ∀ mapping ∈ mappings, ¬ state.Mentions mapping.canonical_id
  apart : ∀ mapping ∈ mappings, ∀ other ∈ mappings, mapping.canonical_id ≠ other.local_id

/-- The user sees the records of `state` under their canonical ids, and the id map grows
by exactly the given pairs. -/
structure ShownRenamed (mappings : List IdMapping) (state next : DurableClientState V) : Prop where
  projection : Relabelled (canonical_of mappings) (·.relabel (canonical_of mappings)) (optimistic_projection state)
    (optimistic_projection next)
  id_map : ∀ id : RecordId, next.id_map[id]? =
    match mappings.find? (·.local_id = id) with
    | some mapping => some mapping.canonical_id
    | none => state.id_map[id]?.map (canonical_of mappings)

theorem canonical_of_nil : canonical_of [] = id := rfl

theorem canonical_of_eq_self {mappings : List IdMapping} {id : RecordId}
    (hother : ∀ mapping ∈ mappings, mapping.local_id ≠ id) : canonical_of mappings id = id := by
  have hnone : mappings.find? (·.local_id = id) = none := by
    rw [List.find?_eq_none]
    exact fun mapping hmem heq => hother mapping hmem (of_decide_eq_true heq)
  rw [canonical_of, hnone]

theorem find_mapping_head {mapping : IdMapping} {mappings : List IdMapping} {id : RecordId}
    (hlocal : id = mapping.local_id) : (mapping :: mappings).find? (·.local_id = id) = some mapping :=
  List.find?_cons_of_pos (decide_eq_true hlocal.symm)

theorem find_mapping_tail {mapping : IdMapping} {mappings : List IdMapping} {id : RecordId}
    (hlocal : id ≠ mapping.local_id) :
    (mapping :: mappings).find? (·.local_id = id) = mappings.find? (·.local_id = id) :=
  List.find?_cons_of_neg fun heq => hlocal (of_decide_eq_true heq).symm

/-- One mapping after the other renames like all of them at once. -/
theorem canonical_of_cons {mapping : IdMapping} {mappings : List IdMapping}
    (hapart : ∀ other ∈ mappings, other.local_id ≠ mapping.canonical_id) (id : RecordId) :
    canonical_of (mapping :: mappings) id = canonical_of mappings (remap_record_id id mapping) := by
  by_cases hlocal : id = mapping.local_id
  · rw [remap_record_id, if_pos hlocal, canonical_of_eq_self hapart, canonical_of, find_mapping_head hlocal]
  · rw [remap_record_id, if_neg hlocal, canonical_of, find_mapping_tail hlocal, canonical_of]

theorem relabel_comp (f g : RecordId → RecordId) (record : OptimisticRecord V) :
    (record.relabel f).relabel g = record.relabel (g ∘ f) := by
  cases record with
  | Deleted base_version => rfl
  | Present value base_version reference => simp [OptimisticRecord.relabel]

theorem relabel_id (record : OptimisticRecord V) : record.relabel id = record := by
  cases record with
  | Deleted base_version => rfl
  | Present value base_version reference => simp [OptimisticRecord.relabel]

theorem ShownRenamed.nil {state : DurableClientState V} : ShownRenamed [] state state where
  projection := by
    have hid : (fun record : OptimisticRecord V => record.relabel (canonical_of [])) = id := funext relabel_id
    rw [hid, canonical_of_nil]
    exact .refl _
  id_map := by simp [canonical_of_nil]

section Mappings

variable {state middle next : DurableClientState V} {mapping : IdMapping} {mappings : List IdMapping}

theorem FreshMappings.head (hfresh : FreshMappings state (mapping :: mappings)) : FreshMapping state mapping where
  different := hfresh.apart mapping List.mem_cons_self mapping List.mem_cons_self
  unmapped := hfresh.unmapped mapping List.mem_cons_self
  unused := hfresh.unused mapping List.mem_cons_self

theorem FreshMappings.tail (hfresh : FreshMappings state (mapping :: mappings))
    (hrelabels : Relabels mapping state middle) : FreshMappings middle mappings := by
  have hlocals := List.nodup_cons.mp hfresh.locals
  have hcanonicals := List.nodup_cons.mp hfresh.canonicals
  refine ⟨hlocals.2, ?_, hcanonicals.2, ?_, ?_⟩
  · intro other hother
    rw [hrelabels.mem_id_map]
    rintro (heq | hmem)
    · exact hlocals.1 (List.mem_map.mpr ⟨other, hother, heq⟩)
    · exact hfresh.unmapped other (List.mem_cons_of_mem _ hother) hmem
  · intro other hother hmentions
    rcases hrelabels.mentions hmentions with hlocal | hcanonical | hmentions
    · exact hfresh.apart other (List.mem_cons_of_mem _ hother) mapping List.mem_cons_self hlocal
    · exact hcanonicals.1 (List.mem_map.mpr ⟨other, hother, hcanonical⟩)
    · exact hfresh.unused other (List.mem_cons_of_mem _ hother) hmentions
  · intro first hfirst second hsecond
    exact hfresh.apart first (List.mem_cons_of_mem _ hfirst) second (List.mem_cons_of_mem _ hsecond)

theorem ShownRenamed.cons (hfresh : FreshMappings state (mapping :: mappings))
    (hrelabels : Relabels mapping state middle) (hshown : ShownRenamed mappings middle next) :
    ShownRenamed (mapping :: mappings) state next := by
  have hapart : ∀ other ∈ mappings, other.local_id ≠ mapping.canonical_id := fun other hother heq =>
    hfresh.apart mapping List.mem_cons_self other (List.mem_cons_of_mem _ hother) heq.symm
  have hcomp : canonical_of (mapping :: mappings) = canonical_of mappings ∘ (remap_record_id · mapping) :=
    funext (canonical_of_cons hapart)
  constructor
  · have hrelabel : (fun record : OptimisticRecord V => record.relabel (canonical_of (mapping :: mappings))) =
        (·.relabel (canonical_of mappings)) ∘ (·.relabel (remap_record_id · mapping)) := by
      funext record
      rw [hcomp]
      exact (relabel_comp _ _ record).symm
    rw [hrelabel, hcomp]
    exact (hrelabels.projection hfresh.head).trans hshown.projection
  · intro id
    rw [hshown.id_map, hrelabels.getElem?_id_map]
    by_cases hlocal : id = mapping.local_id
    · have hrest : mappings.find? (·.local_id = id) = none := by
        rw [List.find?_eq_none]
        intro other hother heq
        have hsame : other.local_id = mapping.local_id := (of_decide_eq_true heq).trans hlocal
        exact (List.nodup_cons.mp hfresh.locals).1 (List.mem_map.mpr ⟨other, hother, hsame⟩)
      rw [find_mapping_head hlocal, hrest, if_pos hlocal, Option.map_some, canonical_of_eq_self hapart]
    · rw [find_mapping_tail hlocal, if_neg hlocal, hcomp]
      cases mappings.find? (·.local_id = id) with
      | some other => rfl
      | none => rw [Option.map_map]

end Mappings

/-! ### Settling a commit -/

/-- A recorded outcome, behind the earlier ones. -/
def DurableClientState.settle (state : DurableClientState V) (resolved : ResolvedCommit V) : DurableClientState V :=
  { state with outcomes := state.outcomes ++ [resolved] }

theorem DurableClientState.Mentions.settle {state : DurableClientState V} {id : RecordId} (hmentions : state.Mentions id)
    (resolved : ResolvedCommit V) : (state.settle resolved).Mentions id := by
  cases hmentions with
  | confirmed hfound => exact .confirmed hfound
  | reference hfound hreferences => exact .reference hfound hreferences
  | queued hmem hcontains => exact .queued hmem hcontains
  | settled hmem hcontains => exact .settled (List.mem_append_left _ hmem) hcontains
  | conflict hmem hcontains => exact .conflict (List.mem_append_left _ hmem) hcontains
  | local_id hmem => exact .local_id hmem
  | canonical_id hfound => exact .canonical_id hfound

theorem Relabels.settle {mapping : IdMapping} {state next : DurableClientState V}
    (hrelabels : Relabels mapping state next) (resolved : ResolvedCommit V) :
    Relabels mapping (state.settle resolved) (next.settle (remap_resolved resolved mapping)) where
  frame := by
    rw [hrelabels.frame]
    simp [DurableClientState.settle]
  confirmed := hrelabels.confirmed

/-- The mappings are applied to the state and to the settled commit apart; together that
renames the state with the commit in it. -/
theorem apply_id_mappings_of_fresh [DecidableEq V] {state : DurableClientState V} {resolved : ResolvedCommit V}
    {mappings : List IdMapping} (hvalid : (state.settle resolved).Valid)
    (hfresh : FreshMappings (state.settle resolved) mappings) :
    ∃ next, mappings.foldlM apply_id_mapping state = .ok next ∧
      (next.settle (rename_resolved mappings resolved)).Valid ∧
      ShownRenamed mappings (state.settle resolved) (next.settle (rename_resolved mappings resolved)) := by
  induction mappings generalizing state resolved with
  | nil => exact ⟨state, rfl, hvalid, .nil⟩
  | cons mapping mappings ih =>
    have hhead := hfresh.head
    have hfreshState : FreshMapping state mapping :=
      ⟨hhead.different, hhead.unmapped, fun hmentions => hhead.unused (hmentions.settle resolved)⟩
    obtain ⟨middle, happly, hrelabels⟩ := hfreshState.relabels
    have hsettled := hrelabels.settle resolved
    obtain ⟨next, hnext, hnextValid, hshown⟩ := ih (hsettled.valid hvalid hhead) (hfresh.tail hsettled)
    exact ⟨next, Except.foldlM_cons_eq_ok_iff.mpr ⟨middle, happly, hnext⟩, hnextValid, hshown.cons hfresh hsettled⟩

section Accept

variable {state : DurableClientState V} {earlier later : List (ClientCommit V)} {commit : ClientCommit V}
  {sequence : UInt64} {mappings : List IdMapping}

/-- The outcome of an acceptance, before any renaming. -/
def accepted_commit (commit : ClientCommit V) (sequence : UInt64) (mappings : List IdMapping) : ResolvedCommit V :=
  ⟨commit, .Accepted commit.identity sequence mappings, none, false⟩

theorem rename_accepted_commit (commit : ClientCommit V) (sequence : UInt64) (mappings renames : List IdMapping) :
    rename_resolved renames (accepted_commit commit sequence mappings) =
      { accepted_commit commit sequence mappings with local_commit := rename_commit renames commit } := by
  have houtcome : rename_outcome renames (.Accepted commit.identity sequence mappings : DurableOutcome V) =
      .Accepted commit.identity sequence mappings := rename_outcome_of_not_contains fun _ _ => id
  rw [rename_resolved, accepted_commit, houtcome]

/-- Moving a queued commit to the outcomes mentions no new ids. -/
theorem mentions_of_accept (houtbox : state.outbox = earlier ++ commit :: later) {id : RecordId}
    (hmentions : ({ state with outbox := earlier ++ later }.settle (accepted_commit commit sequence mappings)).Mentions
      id) : state.Mentions id := by
  have hsub : ∀ other ∈ earlier ++ later, other ∈ state.outbox := by
    intro other hother
    rw [houtbox]
    rcases List.mem_append.mp hother with hearlier | hlater
    · exact List.mem_append_left _ hearlier
    · exact List.mem_append_right _ (List.mem_cons_of_mem _ hlater)
  have hcommit : commit ∈ state.outbox := houtbox ▸ List.mem_append_right _ List.mem_cons_self
  cases hmentions with
  | confirmed hfound => exact .confirmed hfound
  | reference hfound hreferences => exact .reference hfound hreferences
  | queued hmem hcontains => exact .queued (hsub _ hmem) hcontains
  | settled hmem hcontains =>
    rcases List.mem_append.mp hmem with hold | hnew
    · exact .settled hold hcontains
    · cases List.mem_singleton.mp hnew
      exact .queued hcommit hcontains
  | conflict hmem hcontains =>
    rcases List.mem_append.mp hmem with hold | hnew
    · exact .conflict hold hcontains
    · cases List.mem_singleton.mp hnew
      cases hcontains
  | local_id hmem => exact .local_id hmem
  | canonical_id hfound => exact .canonical_id hfound

/-- An accepted commit is settled in a valid state. -/
theorem DurableClientState.Valid.accept (hvalid : state.Valid) (houtbox : state.outbox = earlier ++ commit :: later) :
    ({ state with outbox := earlier ++ later }.settle (accepted_commit commit sequence mappings)).Valid := by
  have hperm : (earlier ++ commit :: later).Perm (commit :: (earlier ++ later)) := List.perm_middle
  have hcommit : commit ∈ state.outbox := houtbox ▸ hperm.mem_iff.mpr List.mem_cons_self
  have hsub : ∀ other ∈ earlier ++ later, other ∈ state.outbox := fun other hother =>
    houtbox ▸ hperm.mem_iff.mpr (List.mem_cons_of_mem _ hother)
  have hsettled : ∀ {P : ResolvedCommit V → Prop}, (∀ resolved ∈ state.outcomes, P resolved) →
      P (accepted_commit commit sequence mappings) →
      ∀ resolved ∈ state.outcomes ++ [accepted_commit commit sequence mappings], P resolved := by
    intro P hold hnew resolved hmem
    rcases List.mem_append.mp hmem with hmem | hmem
    · exact hold resolved hmem
    · exact List.mem_singleton.mp hmem ▸ hnew
  constructor
  case commits => exact fun other hother => hvalid.commits other (hsub other hother)
  case outcomes =>
    exact hsettled hvalid.outcomes ⟨hvalid.commits commit hcommit, fun _ => trivial, rfl⟩
  case commit_ids =>
    have hids := hvalid.commit_ids
    rw [DurableClientState.commit_ids, houtbox, (hperm.map _).append_right _ |>.nodup_iff] at hids
    have hlast : ({ state with outbox := earlier ++ later }.settle
        (accepted_commit commit sequence mappings)).commit_ids =
        (earlier ++ later).map (·.identity.client_commit_id) ++
          state.outcomes.map (·.local_commit.identity.client_commit_id) ++ [commit.identity.client_commit_id] := by
      simp [DurableClientState.commit_ids, DurableClientState.settle, accepted_commit]
    rw [hlast, (List.perm_append_singleton _ _).nodup_iff]
    exact hids
  case resolutions =>
    refine hsettled (fun resolved hmem => ?_) rfl
    refine validate_resolution_transfer (hvalid.resolutions resolved hmem) rfl rfl id id fun identity hknown => ?_
    simp only [DurableClientState.pending, DurableClientState.settled, houtbox, List.map_append, List.map_cons,
      List.mem_append, List.mem_cons] at hknown
    simp only [DurableClientState.pending, DurableClientState.settled, DurableClientState.settle, accepted_commit,
      List.map_append, List.map_cons, List.map_nil, List.mem_append, List.mem_singleton]
    rcases hknown with (hearlier | rfl | hlater) | hsettledId
    · exact .inl (.inl hearlier)
    · exact .inr (.inr rfl)
    · exact .inl (.inr hlater)
    · exact .inr (.inl hsettledId)
  case confirmed => exact hvalid.confirmed
  case checkpoint => exact hvalid.checkpoint
  case coverage => exact hvalid.coverage
  case windows => exact fun windows hwindows => (hvalid.windows windows hwindows).of_owner _ _ _ _ _
  case id_map => exact hvalid.id_map
  case confirmed_unmapped => exact hvalid.confirmed_unmapped
  case outbox_unmapped =>
    exact fun local_id hmem other hother => hvalid.outbox_unmapped local_id hmem other (hsub other hother)
  case outcomes_unmapped =>
    intro local_id hmem
    exact hsettled (hvalid.outcomes_unmapped local_id hmem) ⟨hvalid.outbox_unmapped local_id hmem commit hcommit, id⟩

/-- The commit moves from the outbox to the accepted commits, past commits on other
records, so the user sees the same. -/
theorem optimistic_projection_accept (houtbox : state.outbox = earlier ++ commit :: later)
    (hdisjoint : ∀ other ∈ earlier, ∀ theirs ∈ other.operations, ∀ ours ∈ commit.operations,
      theirs.record_id ≠ ours.record_id)
    (hsequence : state.applied_sequence < sequence) :
    optimistic_projection
        ({ state with outbox := earlier ++ later }.settle (accepted_commit commit sequence mappings)) =
      optimistic_projection state := by
  have happly : (apply_operation : BTreeMap RecordId (OptimisticRecord V) → _ → _) =
      fun projection operation => projection.insert operation.record_id (shown_operation operation) := by
    funext projection operation
    exact apply_operation_eq_insert projection operation
  have hoverlaid : overlaid_commit state.applied_sequence (accepted_commit commit sequence mappings) = some commit :=
    if_pos ⟨rfl, hsequence⟩
  have hsettled : optimistic_operations
      ({ state with outbox := earlier ++ later }.settle (accepted_commit commit sequence mappings)) =
      (state.outcomes.filterMap (overlaid_commit state.applied_sequence)).flatMap (·.operations) ++
        (commit.operations ++ earlier.flatMap (·.operations)) ++ later.flatMap (·.operations) := by
    change ((state.outcomes ++ [_]).filterMap (overlaid_commit state.applied_sequence) ++ (earlier ++ later)).flatMap
      (·.operations) = _
    rw [List.filterMap_append, List.filterMap_cons_some hoverlaid, List.filterMap_nil]
    simp
  have hqueued : optimistic_operations state =
      (state.outcomes.filterMap (overlaid_commit state.applied_sequence)).flatMap (·.operations) ++
        (earlier.flatMap (·.operations) ++ commit.operations) ++ later.flatMap (·.operations) := by
    rw [optimistic_operations, houtbox]
    simp
  have hswap : ∀ shown, (commit.operations ++ earlier.flatMap (·.operations)).foldl apply_operation shown =
      (earlier.flatMap (·.operations) ++ commit.operations).foldl apply_operation shown := by
    rw [happly]
    refine BTreeMap.foldl_insert_append_comm fun ours hours theirs htheirs => ?_
    obtain ⟨other, hother, hoperation⟩ := List.mem_flatMap.mp htheirs
    exact (hdisjoint other hother theirs hoperation ours hours).symm
  rw [optimistic_projection, optimistic_projection, hsettled, hqueued]
  simp only [List.foldl_append] at hswap ⊢
  rw [hswap]
  rfl

end Accept

/-- The commit that an answer names is found and taken out of the queue. -/
theorem find_answered {state : DurableClientState V} (hvalid : state.Valid) {earlier later : List (ClientCommit V)}
    {commit : ClientCommit V} (houtbox : state.outbox = earlier ++ commit :: later) :
    (state.outcomes.find? fun resolved =>
        resolved.local_commit.identity.client_commit_id = commit.identity.client_commit_id) = none ∧
      (state.outbox.find? fun other => other.identity = commit.identity) = some commit ∧
      (state.outbox.eraseP fun other => other.identity = commit.identity) = earlier ++ later := by
  have hids := hvalid.commit_ids
  rw [DurableClientState.commit_ids, houtbox, List.nodup_append] at hids
  obtain ⟨hqueued, _, hsettled⟩ := hids
  rw [List.map_append, List.nodup_append] at hqueued
  have hearlier : ∀ other ∈ earlier, ¬ decide (other.identity = commit.identity) = true := by
    intro other hother heq
    refine hqueued.2.2 _ (List.mem_map_of_mem hother) _ (List.mem_map_of_mem List.mem_cons_self) ?_
    rw [of_decide_eq_true heq]
  have hhead : (commit :: later).find? (fun other => other.identity = commit.identity) = some commit :=
    List.find?_cons_of_pos (decide_eq_true rfl)
  have hrest : (commit :: later).eraseP (fun other => other.identity = commit.identity) = later :=
    List.eraseP_cons_of_pos (decide_eq_true rfl)
  refine ⟨?_, ?_, ?_⟩
  · rw [List.find?_eq_none]
    intro resolved hmem heq
    exact hsettled _ (List.mem_map_of_mem (List.mem_append_right _ List.mem_cons_self)) _ (List.mem_map_of_mem hmem)
      (of_decide_eq_true heq).symm
  · rw [houtbox, List.find?_append, List.find?_eq_none.mpr hearlier, Option.none_or, hhead]
  · rw [houtbox, List.eraseP_append_right _ hearlier, hrest]

variable [DecidableEq V]

/-- A first delivery is recorded. -/
theorem prepare_push_response_first {self : ClientRuntime V} {response : PushResponse V}
    (henvelope : response.schema_version = .V1 ∧ response.partition_id = self.state.partition_id ∧
      response.client_id = self.state.client_id)
    (hnew : (self.state.outcomes.find? fun resolved =>
      resolved.local_commit.identity.client_commit_id = response.outcome.identity.client_commit_id) = none)
    {local_commit : ClientCommit V}
    (hfound : (self.state.outbox.find? fun commit => commit.identity = response.outcome.identity) = some local_commit) :
    self.prepare_push_response response =
      record_outcome self.state local_commit response.outcome .Manual >>= self.prepare := by
  have hguard : ¬ (response.schema_version ≠ .V1 ∨ response.partition_id ≠ self.state.partition_id ∨
      response.client_id ≠ self.state.client_id) := by
    rintro (hversion | hpartition | hclient)
    · exact hversion henvelope.1
    · exact hpartition henvelope.2.1
    · exact hclient henvelope.2.2
  unfold ClientRuntime.prepare_push_response ClientRuntime.prepare_push_response_with_policy
  rw [Except.bind_of_ok (Except.refuse_of_not hguard)]
  simp only [hnew, hfound]

/-- Acceptance does not change what the user sees, up to renaming. -/
theorem acceptance_renames_projection {self : ClientRuntime V} (hrevision : self.state.revision.toNat + 1 < 2 ^ 64)
    {earlier later : List (ClientCommit V)} {commit : ClientCommit V}
    (houtbox : self.state.outbox = earlier ++ commit :: later)
    (hdisjoint : ∀ other ∈ earlier, ∀ theirs ∈ other.operations, ∀ ours ∈ commit.operations,
      theirs.record_id ≠ ours.record_id)
    {sequence : UInt64} (hsequence : self.state.applied_sequence < sequence) {mappings : List IdMapping}
    (hfresh : FreshMappings self.state mappings) :
    ∃ prepared, self.prepare_push_response ⟨.V1, self.state.partition_id, self.state.client_id,
        .Accepted commit.identity sequence mappings⟩ = .ok prepared ∧
      ShownRenamed mappings self.state prepared.state := by
  obtain ⟨houtcomes, hfound, herased⟩ := find_answered self.is_valid houtbox
  have hsettledFresh : FreshMappings
      ({ self.state with outbox := earlier ++ later }.settle (accepted_commit commit sequence mappings)) mappings :=
    ⟨hfresh.locals, hfresh.unmapped, hfresh.canonicals,
      fun mapping hmem hmentions => hfresh.unused mapping hmem (mentions_of_accept houtbox hmentions), hfresh.apart⟩
  obtain ⟨next, happly, hvalid, hshown⟩ := apply_id_mappings_of_fresh (self.is_valid.accept houtbox) hsettledFresh
  rw [rename_accepted_commit] at hvalid hshown
  obtain ⟨revision, hnext⟩ := exists_next_revision hrevision
  have hrecord : record_outcome self.state commit (.Accepted commit.identity sequence mappings) .Manual =
      .ok (next.settle { accepted_commit commit sequence mappings with
        local_commit := rename_commit mappings commit }) := by
    unfold record_outcome
    change (mappings.foldlM apply_id_mapping
      { self.state with outbox := self.state.outbox.eraseP fun other => other.identity = commit.identity } >>= _) = _
    rw [herased, Except.bind_of_ok happly]
    rfl
  have hchanged : next.settle { accepted_commit commit sequence mappings with
      local_commit := rename_commit mappings commit } ≠ self.state := by
    intro hsame
    obtain ⟨applied, _, hnextOutbox, _⟩ := (renamed_of_apply_id_mappings happly).renamed
    have hlength := congrArg (fun state => state.outbox.length) hsame
    simp only [DurableClientState.settle, hnextOutbox, houtbox, List.length_map, List.length_append,
      List.length_cons] at hlength
    omega
  have hprepare := ClientRuntime.prepare_succeeds (.inr ⟨hchanged, rfl, hnext⟩)
    (DurableClientState.validate_eq_ok_iff.mpr (hvalid.with_revision revision))
  refine ⟨_, Eq.trans ?_ hprepare, ⟨?_, hshown.id_map⟩⟩
  · rw [prepare_push_response_first ⟨rfl, rfl, rfl⟩ houtcomes hfound]
    exact Except.bind_of_ok hrecord
  · have hprojection := hshown.projection
    rw [optimistic_projection_accept houtbox hdisjoint hsequence] at hprojection
    exact hprojection

namespace transitions

/-- The middle one of three queued commits is accepted, and its record gets a server id
that the last one's reference follows. -/
theorem acceptance_renames_projection_of_reference :
    ∃ runtime prepared : DurableClientState String,
      runtime.outbox.length = 3 ∧ ShownRenamed [⟨⟨"temp"⟩, ⟨"server"⟩⟩] runtime prepared ∧
      (optimistic_projection prepared)[RecordId.mk "other"]? =
        some (OptimisticRecord.Present "c" .Absent (some ⟨"server"⟩)) := by
  have hexecute : (do
      let (_, runtime) ← opened.execute [
        .Enqueue (commit "one" [upsert "note" "a" none]),
        .Enqueue (commit "two" [upsert "temp" "b" none]),
        .Enqueue (commit "three" [upsert "other" "c" (some "temp")])]
      Except.refuse (¬ (runtime.state.outbox = [commit "one" [upsert "note" "a" none]] ++
          commit "two" [upsert "temp" "b" none] :: [commit "three" [upsert "other" "c" (some "temp")]] ∧
        runtime.state.revision.toNat + 1 < 2 ^ 64 ∧ runtime.state.applied_sequence < 1 ∧
        RecordId.mk "temp" ∉ runtime.state.id_map ∧ ¬ runtime.state.Mentions ⟨"server"⟩ ∧
        (optimistic_projection runtime.state)[RecordId.mk "other"]? =
          some (OptimisticRecord.Present "c" .Absent (some ⟨"temp"⟩)))) ClientError.EmptyCommit) = .ok () := by
    decide +kernel
  simp only [Except.bind_eq_ok_iff, Except.refuse_eq_ok_iff, not_not] at hexecute
  obtain ⟨⟨_, runtime⟩, _, houtbox, hrevision, hsequence, hunmapped, hunused, hother⟩ := hexecute
  have hfresh : FreshMappings runtime.state [⟨⟨"temp"⟩, ⟨"server"⟩⟩] := by
    constructor <;> simp [hunmapped, hunused]
  obtain ⟨prepared, _, hshown⟩ := acceptance_renames_projection hrevision houtbox (by decide) hsequence hfresh
  refine ⟨runtime.state, prepared.state, by rw [houtbox]; rfl, hshown, ?_⟩
  exact (hshown.projection.entries _ _).mpr ⟨⟨"other"⟩, _, hother, by decide, by decide⟩

end transitions

end surrealdb_sync_client
