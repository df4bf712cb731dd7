import SurrealSync.Client.Replacements
import SurrealSync.Native.Mirror
import SurrealSync.Native.Recording

open Std Except
open surrealdb_sync_protocol surrealdb_sync_protocol.subscription surrealdb_sync_protocol.canonical
open surrealdb_sync_protocol.bootstrap_codec surrealdb_sync_client
open surrealdb_rn_core.sync_state

namespace surrealdb_rn_core.sync_client

open sync_codec

variable {F V C S : Type} [DecidableEq V] {platform : Platform F V C S} {codec : Codec V}

/-- The states that a client has: it starts with an empty one, and goes on by the transitions that the codec takes and
whose transaction goes through. A client that is opened again has the state that was written last. -/
inductive Reached (platform : Platform F V C S) (codec : Codec V) : DurableClientState V → Prop where
  | created (partition_id : PartitionId) (client_id : ClientId) (requested_scope : ScopeIdentity)
      (subscription_revision : UInt64) :
      Reached platform codec (.empty partition_id client_id requested_scope subscription_revision)
  | written {current : ClientRuntime V} {transition : Transition V} {prepared : PreparedTransition V}
      {rows : NormalizedRows} {db after : Database C S} {disposition : SyncStateWrite}
      (hreached : Reached platform codec current.state)
      (hprepared : current.prepare_transition transition = .ok prepared)
      (hcodec : validate_state_codec codec prepared.state = .ok ())
      (hrows : prepare_state_write platform (some current.state.revision) prepared.state = .ok rows)
      (happly : apply_transition_in_transaction platform current.state prepared.state rows db = .ok (disposition, after)) :
      Reached platform codec prepared.state

/-- A digest that the codec computed. -/
def Computed (fingerprint : Fingerprint) : Prop := ∃ digest, fingerprint.val = digest_text digest

/-- What the writes of a client have checked of its state. -/
structure Written (platform : Platform F V C S) (codec : Codec V) (state : DurableClientState V) : Prop where
  codec : CodecValid codec state
  keys : validate_component_keys state = .ok ()
  shown : ∀ (record_id : RecordId) value base_version reference,
    (optimistic_projection state)[record_id]? = some (.Present value base_version reference) →
      ∃ native_id, native_record_id platform.native record_id = .ok native_id
  settled : ∀ resolved ∈ state.outcomes, Computed resolved.local_commit.identity.fingerprint

/-! ### What a write checks -/

omit [DecidableEq V] in
theorem computed_of_fingerprinted {state : DurableClientState V} {commit : ClientCommit V}
    (hfingerprinted : Fingerprinted codec state commit) : Computed commit.identity.fingerprint := by
  obtain ⟨operations, _, hcommit⟩ := canonical_fingerprint_eq_ok_iff.mp hfingerprinted
  obtain ⟨bytes, _, _, hfingerprint⟩ := fingerprint_commit_eq_ok hcommit
  exact ⟨codec.sha256 bytes, congrArg Fingerprint.val hfingerprint⟩

omit [DecidableEq V] in
theorem written_empty (partition_id : PartitionId) (client_id : ClientId) (requested_scope : ScopeIdentity)
    (subscription_revision : UInt64) :
    Written platform codec (.empty partition_id client_id requested_scope subscription_revision) where
  codec := ⟨by simp [DurableClientState.windows, DurableClientState.empty, DurableSubscriptions.default],
    by simp [EveryRow, DurableClientState.empty], by simp [DurableClientState.empty],
    by simp [DurableClientState.empty]⟩
  keys := rfl
  shown record_id value base_version reference hshown := by
    rw [optimistic_projection_empty] at hshown
    simp at hshown
  settled := by simp [DurableClientState.empty]

/-- A write that goes through puts every record that changes under an id of the database. -/
theorem shown_of_apply_transition {current next : DurableClientState V} {rows : NormalizedRows} {db after : Database C S}
    {disposition : SyncStateWrite}
    (hshown : ∀ (record_id : RecordId) value base_version reference,
      (optimistic_projection current)[record_id]? = some (.Present value base_version reference) →
        ∃ native_id, native_record_id platform.native record_id = .ok native_id)
    (happly : apply_transition_in_transaction platform current next rows db = .ok (disposition, after)) :
    ∀ (record_id : RecordId) value base_version reference,
      (optimistic_projection next)[record_id]? = some (.Present value base_version reference) →
        ∃ native_id, native_record_id platform.native record_id = .ok native_id := by
  intro record_id value base_version reference hnext
  obtain ⟨⟨decided, between⟩, hreplace, happly⟩ := bind_eq_ok_iff.mp happly
  obtain ⟨loaded, _, hexpected, hadmits, _⟩ := replace_v2_in_transaction_eq_ok hreplace
  cases decided with
  | AlreadyCurrent =>
    -- the journal already has the next state, and it is compared with the current one
    have hsame : some current = some next := (hexpected rfl).symm.trans (eq_of_admit_alreadyCurrent hadmits)
    cases hsame
    exact hshown record_id value base_version reference hnext
  | Applied =>
    obtain ⟨projected, hproject, _⟩ := bind_eq_ok_iff.mp happly
    by_cases hsame : (optimistic_projection current)[record_id]? = (optimistic_projection next)[record_id]?
    · exact hshown record_id value base_version reference (hsame.trans hnext)
    · exact supported_of_apply_records hproject record_id (mem_projected_ids_of_changed hsame) hsame

/-- A commit that is answered was queued, with a fingerprint that the codec has checked. -/
theorem settled_of_transition {current : ClientRuntime V} {transition : Transition V} {prepared : PreparedTransition V}
    (hwritten : Written platform codec current.state) (hprepared : current.prepare_transition transition = .ok prepared) :
    ∀ resolved ∈ prepared.state.outcomes, Computed resolved.local_commit.identity.fingerprint := by
  intro resolved hmem
  obtain ⟨next, heffect, hprepare⟩ := effect_of_prepare hprepared
  obtain ⟨_, hstamped⟩ := ClientRuntime.prepare_eq_ok_iff.mp hprepare
  obtain ⟨_, hstate⟩ := hstamped.exists_revision
  have houtcomes : prepared.state.outcomes = next.outcomes := by rw [hstate]
  rw [houtcomes] at hmem
  have hidentity : resolved.local_commit.identity ∈ next.settled := List.mem_map_of_mem hmem
  by_cases hearlier : resolved.local_commit.identity ∈ current.state.settled
  · obtain ⟨earlier, hearlier, hsame⟩ := List.mem_map.mp hearlier
    rw [← hsame]
    exact hwritten.settled earlier hearlier
  · obtain ⟨hpending, _⟩ := (heffect.accounts current.is_valid).answered _ hidentity hearlier
    obtain ⟨commit, hcommit, hsame⟩ := List.mem_map.mp hpending
    rw [← hsame]
    exact computed_of_fingerprinted (hwritten.codec.outbox commit hcommit)

theorem Reached.written_spec {state : DurableClientState V} (hreached : Reached platform codec state) :
    Written platform codec state := by
  induction hreached with
  | created partition_id client_id requested_scope subscription_revision =>
    exact written_empty partition_id client_id requested_scope subscription_revision
  | written _ hprepared hcodec hrows happly ih =>
    obtain ⟨_, _, hnormalizes⟩ := prepare_state_write_eq_ok hrows
    exact ⟨validate_state_codec_eq_ok_iff.mp hcodec, hnormalizes.keys, shown_of_apply_transition ih.shown happly,
      settled_of_transition ih hprepared⟩

/-! ### What is known of the commits -/

/-- An identity with texts of a known length. -/
structure Presentable (identity : CommitIdentity) : Prop where
  commit_id : identity.client_commit_id.val ≠ "" ∧ identity.client_commit_id.val.utf8ByteSize ≤ MAX_COMPONENT_KEY_BYTES
  fingerprint : Computed identity.fingerprint

theorem validate_component_key_eq_ok_iff {value : String} {u : Unit} :
    validate_component_key value = .ok u ↔ value ≠ "" ∧ value.utf8ByteSize ≤ MAX_COMPONENT_KEY_BYTES := by
  rw [validate_component_key, refuse_eq_ok_iff, not_or, gt_iff_lt, Nat.not_lt]

variable {state : DurableClientState V}

omit [DecidableEq V] in
theorem Written.presentable_pending (hwritten : Written platform codec state) {commit : ClientCommit V}
    (hcommit : commit ∈ state.outbox) : Presentable commit.identity := by
  have hkeys := hwritten.keys
  simp only [validate_component_keys, bind_eq_ok_iff, forM_eq_ok_iff, validate_component_key_eq_ok_iff] at hkeys
  obtain ⟨_, _, _, houtbox, _⟩ := hkeys
  exact ⟨houtbox commit hcommit, computed_of_fingerprinted (hwritten.codec.outbox commit hcommit)⟩

omit [DecidableEq V] in
theorem Written.presentable_settled (hwritten : Written platform codec state) {resolved : ResolvedCommit V}
    (hresolved : resolved ∈ state.outcomes) : Presentable resolved.local_commit.identity := by
  have hkeys := hwritten.keys
  simp only [validate_component_keys, bind_eq_ok_iff, forM_eq_ok_iff, validate_component_key_eq_ok_iff] at hkeys
  obtain ⟨_, _, _, _, _, houtcomes, _⟩ := hkeys
  exact ⟨houtcomes resolved hresolved, hwritten.settled resolved hresolved⟩

theorem Written.presentable_replacement (hwritten : Written platform codec state) (hvalid : state.Valid)
    {resolved : ResolvedCommit V} (hresolved : resolved ∈ state.outcomes) {replacement : CommitIdentity}
    (hreplacement : resolved.replacement = some replacement) : Presentable replacement := by
  rcases List.mem_append.mp (hvalid.replacement_known hresolved hreplacement) with hpending | hsettled
  · obtain ⟨commit, hcommit, rfl⟩ := List.mem_map.mp hpending
    exact hwritten.presentable_pending hcommit
  · obtain ⟨outcome, houtcome, rfl⟩ := List.mem_map.mp hsettled
    exact hwritten.presentable_settled houtcome

/-! ### What is known of the values -/

/-- A value that the codec takes. -/
def Taken (codec : Codec V) (value : V) : Prop := ∃ canonical, codec.canonical_json value = .ok canonical

omit [DecidableEq V] in
theorem taken_of_fingerprint {commit : ClientCommit V} {fingerprint : Fingerprint}
    (hfingerprint : canonical_fingerprint codec state commit = .ok fingerprint) {record_id : RecordId}
    {base_version : BaseVersion} {value : V} {reference : Option RecordId}
    (hmem : .Upsert record_id base_version value reference ∈ commit.operations) : Taken codec value := by
  obtain ⟨operations, hoperations, _⟩ := canonical_fingerprint_eq_ok_iff.mp hfingerprint
  obtain ⟨operation, _, hoperation⟩ := (mapM_eq_ok_iff.mp hoperations).exists_of_mem hmem
  obtain ⟨canonical, hcanonical, _⟩ := bind_eq_ok_iff.mp hoperation
  exact ⟨canonical, hcanonical⟩

/-- Every value that an optimistic operation writes went through the codec. -/
theorem Written.taken_of_operation (hwritten : Written platform codec state) {record_id : RecordId}
    {base_version : BaseVersion} {value : V} {reference : Option RecordId}
    (hmem : .Upsert record_id base_version value reference ∈ optimistic_operations state) : Taken codec value := by
  obtain ⟨commit, hcommit, hoperation⟩ := List.mem_flatMap.mp hmem
  rcases List.mem_append.mp hcommit with hsettled | hpending
  · obtain ⟨resolved, hresolved, hoverlaid⟩ := List.mem_filterMap.mp hsettled
    have hlocal : resolved.local_commit = commit := by
      unfold overlaid_commit at hoverlaid
      split at hoverlaid
      · split at hoverlaid
        · exact Option.some.inj hoverlaid
        · cases hoverlaid
      · cases hoverlaid
      · cases hoverlaid
    obtain ⟨fingerprint, hfingerprint⟩ := (hwritten.codec.outcomes resolved hresolved).commit
    rw [hlocal] at hfingerprint
    exact taken_of_fingerprint hfingerprint hoperation
  · exact taken_of_fingerprint (hwritten.codec.outbox commit hpending) hoperation

/-- Every value that a reader sees went through the codec. -/
theorem Written.taken_of_shown (hwritten : Written platform codec state) {record_id : RecordId} {value : V}
    {base_version : BaseVersion} {reference : Option RecordId}
    (hshown : (optimistic_projection state)[record_id]? = some (.Present value base_version reference)) :
    Taken codec value := by
  revert record_id value base_version reference
  -- the induction goes over the operations on top of the confirmed rows
  refine List.foldlRecOn (motive := fun projection : BTreeMap RecordId (OptimisticRecord V) =>
    ∀ {record_id : RecordId} {value : V} {base_version : BaseVersion} {reference : Option RecordId},
      projection[record_id]? = some (.Present value base_version reference) → Taken codec value)
    (optimistic_operations state) apply_operation ?_ fun projection hprojection operation hoperation => ?_
  · intro record_id value base_version reference hshown
    rw [ExtTreeMap.getElem?_filterMap', Option.bind_eq_some_iff] at hshown
    obtain ⟨record, hrecord, hpresent⟩ := hshown
    cases record with
    | Absent => cases hpresent
    | Tombstone version => cases hpresent
    | Present held version reference =>
      cases hpresent
      obtain ⟨canonical, hcanonical, _⟩ := bind_eq_ok_iff.mp (hwritten.codec.confirmed record_id _ hrecord)
      exact ⟨canonical, hcanonical⟩
  · intro record_id value base_version reference hshown
    cases operation with
    | Upsert written base_version value reference =>
      rw [apply_operation, ExtTreeMap.getElem?_insert] at hshown
      split at hshown
      · cases hshown
        exact hwritten.taken_of_operation hoperation
      · exact hprojection hshown
    | Delete written base_version =>
      rw [apply_operation, ExtTreeMap.getElem?_insert] at hshown
      split at hshown
      · cases hshown
      · exact hprojection hshown

end surrealdb_rn_core.sync_client
