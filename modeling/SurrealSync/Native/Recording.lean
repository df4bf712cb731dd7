import SurrealSync.Client.Redelivery
import SurrealSync.Client.Replay
import SurrealSync.Client.WindowMoves
import SurrealSync.Native.Codec

open Std Except
open surrealdb_sync_protocol surrealdb_sync_protocol.subscription surrealdb_sync_protocol.canonical
open surrealdb_sync_client

namespace surrealdb_sync_client

variable {V : Type} {P : RecordState V → Prop}

/-! ### Where confirmed rows come from -/

def EveryRow (P : RecordState V → Prop) (rows : BTreeMap RecordId (RecordState V)) : Prop :=
  ∀ (record_id : RecordId) record, rows[record_id]? = some record → P record

theorem EveryRow.insert {rows : BTreeMap RecordId (RecordState V)} (hrows : EveryRow P rows) (record_id : RecordId)
    {record : RecordState V} (hrecord : P record) : EveryRow P (rows.insert record_id record) := by
  intro other found hfound
  rw [ExtTreeMap.getElem?_insert] at hfound
  split at hfound
  · cases hfound
    exact hrecord
  · exact hrows other found hfound

theorem EveryRow.erase {rows : BTreeMap RecordId (RecordState V)} (hrows : EveryRow P rows) (record_id : RecordId) :
    EveryRow P (rows.erase record_id) :=
  fun other found hfound => hrows other found (BTreeMap.getElem?_of_erase hfound)

theorem EveryRow.apply_commits {rows : BTreeMap RecordId (RecordState V)} (hrows : EveryRow P rows)
    {commits : List (PullCommit V)} (hcommits : ∀ commit ∈ commits, ∀ record ∈ commit.records, P record.state) :
    EveryRow P (commits.foldl apply_commit rows) := by
  refine List.foldlRecOn commits apply_commit hrows fun rows hrows commit hcommit => ?_
  refine List.foldlRecOn commit.records apply_record hrows fun rows hrows record hrecord => ?_
  have hstate := hcommits commit hcommit record hrecord
  unfold apply_record
  split
  · exact hrows.erase record.record_id
  · exact hrows.insert record.record_id hstate

theorem EveryRow.snapshot {records : List (SnapshotRecord V)} (hrecords : ∀ record ∈ records, P record.state) :
    EveryRow P (records.foldl insert_row ∅) := by
  have hempty : EveryRow P (∅ : BTreeMap RecordId (RecordState V)) := by
    intro record_id record hrecord
    simp at hrecord
  refine List.foldlRecOn records insert_row hempty fun rows hrows record hrecord => ?_
  have hstate := hrecords record hrecord
  unfold insert_row
  split
  · exact hrows
  · exact hrows.insert record.record_id hstate

variable [DecidableEq V]

/-- Renaming moves rows and rewrites their references. -/
theorem EveryRow.apply_id_mapping {state next : DurableClientState V} {mapping : IdMapping}
    (hremap : ∀ record mapping, P record → P (remap_record record mapping)) (hrows : EveryRow P state.confirmed)
    (happly : apply_id_mapping state mapping = .ok next) : EveryRow P next.confirmed := by
  simp only [surrealdb_sync_client.apply_id_mapping, bind_eq_ok_iff, refuse_eq_ok_iff] at happly
  obtain ⟨_, _, happly⟩ := happly
  split at happly
  · split at happly
    · cases happly
      exact hrows
    · cases happly
  · obtain ⟨confirmed, hconfirmed, hnext⟩ := bind_eq_ok_iff.mp happly
    cases hnext
    have hmoved : EveryRow P confirmed := by
      unfold rename_confirmed at hconfirmed
      split at hconfirmed
      · cases hconfirmed
        exact hrows
      · rename_i local_state hlocal
        have herased := hrows.erase mapping.local_id
        dsimp only at hconfirmed
        split at hconfirmed
        · split at hconfirmed
          · cases hconfirmed
          · cases hconfirmed
            exact herased
        · cases hconfirmed
          exact herased.insert mapping.canonical_id (hrows _ _ hlocal)
    intro record_id record hrecord
    simp only [remap_state_references, ExtTreeMap.getElem?_map, Option.map_eq_some_iff] at hrecord
    obtain ⟨earlier, hearlier, rfl⟩ := hrecord
    exact hremap earlier mapping (hmoved record_id earlier hearlier)

theorem EveryRow.apply_id_mappings {mappings : List IdMapping} {state next : DurableClientState V}
    (hremap : ∀ record mapping, P record → P (remap_record record mapping)) (hrows : EveryRow P state.confirmed)
    (happly : mappings.foldlM surrealdb_sync_client.apply_id_mapping state = .ok next) :
    EveryRow P next.confirmed := by
  induction mappings generalizing state with
  | nil =>
    cases happly
    exact hrows
  | cons mapping mappings ih =>
    obtain ⟨middle, hfirst, hrest⟩ := foldlM_cons_eq_ok_iff.mp happly
    exact ih (hrows.apply_id_mapping hremap hfirst) hrest

theorem EveryRow.record_outcome {state next : DurableClientState V} {local_commit : ClientCommit V}
    {outcome : DurableOutcome V} {policy : AutomaticConflictPolicy}
    (hremap : ∀ record mapping, P record → P (remap_record record mapping)) (hrows : EveryRow P state.confirmed)
    (hrecord : record_outcome state local_commit outcome policy = .ok next) : EveryRow P next.confirmed := by
  simp only [surrealdb_sync_client.record_outcome, bind_eq_ok_iff, ok.injEq] at hrecord
  obtain ⟨renamed, hrenamed, rfl⟩ := hrecord
  have hmapped : EveryRow P renamed.confirmed := by
    refine EveryRow.apply_id_mappings hremap ?_ hrenamed
    exact hrows
  exact hmapped

omit [DecidableEq V] in
theorem DurableClientState.Valid.windows_used {state : DurableClientState V} (hvalid : state.Valid) :
    ∀ key ∈ state.windows.records, state.windows.Uses key := by
  intro key hkey
  cases hwindows : state.subscriptions with
  | none => simp [DurableClientState.windows, hwindows, DurableSubscriptions.default] at hkey
  | some windows =>
    rw [DurableClientState.windows_eq hwindows] at hkey ⊢
    exact (hvalid.windows windows hwindows).used key hkey

end surrealdb_sync_client

namespace surrealdb_rn_core.sync_codec

variable {V : Type} {codec : Codec V}

/-! ### What the codec accepts -/

/-- The commit carries the fingerprint of its content. -/
def Fingerprinted (codec : Codec V) (state : DurableClientState V) (commit : ClientCommit V) : Prop :=
  canonical_fingerprint codec state commit = .ok commit.identity.fingerprint

/-- A recorded commit still has a fingerprint, and the record of its outcome a canonical value. -/
structure ReceiptValid (codec : Codec V) (state : DurableClientState V) (resolved : ResolvedCommit V) : Prop where
  commit : ∃ fingerprint, canonical_fingerprint codec state resolved.local_commit = .ok fingerprint
  outcome : validate_push_response_values codec resolved.outcome = .ok ()

/-- The value of the row is canonical. -/
def RowValid (codec : Codec V) (row : SubscriptionRow V) : Prop :=
  ∃ canonical, codec.canonical_json row.value = .ok canonical

/-- Everything the codec requires of a durable state. -/
structure CodecValid (codec : Codec V) (state : DurableClientState V) : Prop where
  rows : ∀ (key : String) row, state.windows.records[key]? = some row → RowValid codec row
  confirmed : EveryRow (fun record => validate_record_state codec record = .ok ()) state.confirmed
  outbox : ∀ commit ∈ state.outbox, Fingerprinted codec state commit
  outcomes : ∀ resolved ∈ state.outcomes, ReceiptValid codec state resolved

theorem validate_commit_identity_eq_ok_iff {state : DurableClientState V} {commit : ClientCommit V} {u : Unit} :
    validate_commit_identity codec state commit = .ok u ↔ Fingerprinted codec state commit := by
  simp only [validate_commit_identity, bind_eq_ok_iff, refuse_eq_ok_iff, not_not, ne_eq]
  constructor
  · rintro ⟨fingerprint, hfingerprint, rfl⟩
    exact hfingerprint
  · intro hfingerprint
    exact ⟨_, hfingerprint, rfl⟩

theorem validate_row_eq_ok_iff {row : SubscriptionRow V} {u : Unit} :
    (do let _ ← codec.canonical_json row.value) = .ok u ↔ RowValid codec row := by
  rw [bind_eq_ok_iff]
  constructor
  · rintro ⟨canonical, hcanonical, _⟩
    exact ⟨canonical, hcanonical⟩
  · rintro ⟨canonical, hcanonical⟩
    exact ⟨canonical, hcanonical, rfl⟩

theorem validate_subscription_values_eq_ok_iff {state : DurableClientState V} {u : Unit} :
    validate_subscription_values codec state.subscriptions = .ok u ↔
      ∀ (key : String) row, state.windows.records[key]? = some row → RowValid codec row := by
  cases hwindows : state.subscriptions with
  | none => simp [validate_subscription_values, DurableClientState.windows, hwindows, DurableSubscriptions.default]
  | some windows =>
    rw [DurableClientState.windows_eq hwindows]
    simp only [validate_subscription_values, forM_eq_ok_iff, validate_row_eq_ok_iff, BTreeMap.mem_vals_iff,
      forall_exists_index]
    exact forall_comm

/-- `validate_state_codec` accepts exactly these states. -/
theorem validate_state_codec_eq_ok_iff {state : DurableClientState V} {u : Unit} :
    validate_state_codec codec state = .ok u ↔ CodecValid codec state := by
  simp only [validate_state_codec, bind_eq_ok_iff, forM_eq_ok_iff, validate_subscription_values_eq_ok_iff,
    validate_commit_identity_eq_ok_iff, BTreeMap.mem_vals_iff, forall_exists_index]
  constructor
  · rintro ⟨_, hrows, _, hconfirmed, _, houtbox, houtcomes⟩
    refine ⟨hrows, fun record_id record hrecord => hconfirmed record record_id hrecord, houtbox, ?_⟩
    intro resolved hmem
    obtain ⟨fingerprint, hfingerprint, houtcome⟩ := houtcomes resolved hmem
    exact ⟨⟨fingerprint, hfingerprint⟩, houtcome⟩
  · rintro ⟨hrows, hconfirmed, houtbox, houtcomes⟩
    refine ⟨(), hrows, (), fun record record_id hrecord => hconfirmed record_id record hrecord, (), houtbox, ?_⟩
    intro resolved hmem
    obtain ⟨⟨fingerprint, hfingerprint⟩, houtcome⟩ := houtcomes resolved hmem
    exact ⟨fingerprint, hfingerprint, houtcome⟩

/-! ### Renamed commits -/

/-- The values of the commit are canonical and valid. -/
def ValuesValid (codec : Codec V) (commit : ClientCommit V) : Prop :=
  ∃ operations, commit.operations.mapM (canonical_operation codec) = .ok operations ∧
    ∀ operation ∈ operations, ValidOperation operation

/-- The content of the commit exceeds a limit of the canonical codec. -/
def LimitExceeded (codec : Codec V) (state : DurableClientState V) (commit : ClientCommit V) : Prop :=
  ∃ operations error, commit.operations.mapM (canonical_operation codec) = .ok operations ∧
    fingerprint_commit codec.ciborium codec.sha256 state.partition_id state.client_id
      commit.identity.client_commit_id operations = .error error ∧ error.IsLimit

theorem canonical_fingerprint_eq_ok_iff {state : DurableClientState V} {commit : ClientCommit V}
    {fingerprint : Fingerprint} :
    canonical_fingerprint codec state commit = .ok fingerprint ↔
      ∃ operations, commit.operations.mapM (canonical_operation codec) = .ok operations ∧
        fingerprint_commit codec.ciborium codec.sha256 state.partition_id state.client_id
          commit.identity.client_commit_id operations = .ok fingerprint := by
  simp only [canonical_fingerprint, bind_eq_ok_iff, map_err_eq_ok_iff]

theorem valuesValid_of_canonical_fingerprint {state : DurableClientState V} {commit : ClientCommit V}
    {fingerprint : Fingerprint} (h : canonical_fingerprint codec state commit = .ok fingerprint) :
    ValuesValid codec commit := by
  obtain ⟨operations, hoperations, hfingerprint⟩ := canonical_fingerprint_eq_ok_iff.mp h
  obtain ⟨_, _, hvalid, _⟩ := fingerprint_commit_eq_ok hfingerprint
  exact ⟨operations, hoperations, hvalid⟩

theorem ValuesValid.exists_fingerprint {state : DurableClientState V} {commit : ClientCommit V}
    (hvalues : ValuesValid codec commit) (hlimit : ¬ LimitExceeded codec state commit) :
    ∃ fingerprint, canonical_fingerprint codec state commit = .ok fingerprint := by
  obtain ⟨operations, hoperations, hvalid⟩ := hvalues
  cases hfingerprint : fingerprint_commit codec.ciborium codec.sha256 state.partition_id state.client_id
      commit.identity.client_commit_id operations with
  | ok fingerprint => exact ⟨fingerprint, canonical_fingerprint_eq_ok_iff.mpr ⟨operations, hoperations, hfingerprint⟩⟩
  | error error =>
    have herror := isLimit_of_fingerprint_commit hvalid hfingerprint
    exact absurd ⟨operations, error, hoperations, hfingerprint, herror⟩ hlimit

theorem canonical_operation_remap {operation : Operation V} {canonical : Operation CanonicalValue}
    (h : canonical_operation codec operation = .ok canonical) (mapping : IdMapping) :
    canonical_operation codec (remap_operation operation mapping) = .ok (remap_operation canonical mapping) := by
  cases operation with
  | Upsert record_id base_version value reference =>
    obtain ⟨canonical_value, hvalue, heq⟩ := bind_eq_ok_iff.mp h
    cases heq
    exact bind_eq_ok_iff.mpr ⟨canonical_value, hvalue, rfl⟩
  | Delete record_id base_version =>
    cases h
    rfl

theorem validOperation_remap {operation : Operation CanonicalValue} (hvalid : ValidOperation operation)
    (mapping : IdMapping) : ValidOperation (remap_operation operation mapping) := by
  cases operation with
  | Upsert record_id base_version value reference => exact hvalid
  | Delete record_id base_version => exact hvalid

/-- A mapping moves ids only, so the values stay what they were. -/
theorem ValuesValid.remap {commit : ClientCommit V} (hvalues : ValuesValid codec commit) (mapping : IdMapping) :
    ValuesValid codec (remap_commit commit mapping) := by
  obtain ⟨operations, hoperations, hvalid⟩ := hvalues
  refine ⟨operations.map (remap_operation · mapping), ?_, ?_⟩
  · rw [mapM_eq_ok_iff] at hoperations ⊢
    rw [remap_commit, List.forall₂_map_left_iff, List.forall₂_map_right_iff]
    exact hoperations.imp fun _ _ hcanonical => canonical_operation_remap hcanonical mapping
  · intro _ hmem
    obtain ⟨operation, hoperation, rfl⟩ := List.mem_map.mp hmem
    exact validOperation_remap (hvalid operation hoperation) mapping

theorem ValuesValid.rename {commit : ClientCommit V} (hvalues : ValuesValid codec commit)
    (mappings : List IdMapping) : ValuesValid codec (rename_commit mappings commit) := by
  induction mappings generalizing commit with
  | nil => exact hvalues
  | cons mapping mappings ih => exact ih (hvalues.remap mapping)

theorem validate_record_state_remap {record : RecordState V} (hvalid : validate_record_state codec record = .ok ())
    (mapping : IdMapping) : validate_record_state codec (remap_record record mapping) = .ok () := by
  cases record with
  | Present value version reference => exact hvalid
  | Absent => rfl
  | Tombstone version => rfl

theorem validate_push_response_values_rename {outcome : DurableOutcome V}
    (hvalid : validate_push_response_values codec outcome = .ok ()) (mappings : List IdMapping) :
    validate_push_response_values codec (rename_outcome mappings outcome) = .ok () := by
  induction mappings generalizing outcome with
  | nil => exact hvalid
  | cons mapping mappings ih =>
    refine ih ?_
    cases outcome with
    | Conflict identity record_id authoritative => exact validate_record_state_remap hvalid mapping
    | Accepted identity sequence id_mappings => rfl
    | Rejected identity reason => rfl

/-! ### What a transition leaves for the codec -/

/-- What the facade has checked of a transition before it is prepared. -/
def Admissible (codec : Codec V) (state : DurableClientState V) : Transition V → Prop
  | .Enqueue commit => Fingerprinted codec state commit
  | .PushResponse response _ => validate_push_response_values codec response.outcome = .ok ()
  | .ResolveConflict _ request => ∀ replacement, request.replacement = some replacement →
    Fingerprinted codec state replacement
  | .PullResponse response => validate_pull_response_values codec response = .ok ()
  | .BootstrapSnapshot _ records => ∀ record ∈ records, validate_record_state codec record.state = .ok ()
  | .StartSubscription _ | .CancelSubscription _ _ => True
  | .SubscriptionResponse response => ∀ row, .Upsert row ∈ response.changes → RowValid codec row

/-- The mappings of a first delivery name no record that another queued commit mentions. -/
def LeavesOthers (state : DurableClientState V) (response : PushResponse V) : Prop :=
  response.outcome.identity ∈ state.pending → ∀ mapping ∈ accepted_mappings response.outcome,
    ∀ commit ∈ state.outbox, commit.identity ≠ response.outcome.identity →
      ¬ commit_contains_id commit mapping.local_id

theorem Fingerprinted.transfer {state next : DurableClientState V} {commit : ClientCommit V}
    (h : Fingerprinted codec state commit) (hpartition : next.partition_id = state.partition_id)
    (hclient : next.client_id = state.client_id) : Fingerprinted codec next commit := by
  unfold Fingerprinted canonical_fingerprint at h ⊢
  rw [hpartition, hclient]
  exact h

theorem CodecValid.receipts {state next : DurableClientState V} (hcodec : CodecValid codec state)
    (hpartition : next.partition_id = state.partition_id) (hclient : next.client_id = state.client_id) :
    ∀ resolved ∈ state.outcomes, ReceiptValid codec next resolved := by
  intro resolved hmem
  obtain ⟨⟨fingerprint, hfingerprint⟩, houtcome⟩ := hcodec.outcomes resolved hmem
  refine ⟨⟨fingerprint, ?_⟩, houtcome⟩
  unfold canonical_fingerprint at hfingerprint ⊢
  rw [hpartition, hclient]
  exact hfingerprint

/-- Every row of the table is of some slot, which kept it or took it from the response. -/
theorem rows_valid_of_windowMove {state next : DurableClientState V} (hvalid : state.Valid)
    (hused : ∀ key ∈ next.windows.records, next.windows.Uses key) {transition : Transition V} (hmove : WindowMove state transition next.windows)
    (hadmissible : Admissible codec state transition)
    (hrows : ∀ (key : String) row, state.windows.records[key]? = some row → RowValid codec row)
    (key : String) (row : SubscriptionRow V) (hrow : next.windows.records[key]? = some row) :
    RowValid codec row := by
  have hold : ∀ slot (record_id : RecordId), (state.windows.rows_of slot)[record_id]? = some row → RowValid codec row := by
    intro slot record_id hshown
    rw [DurableSubscriptions.getElem?_rows_of] at hshown
    obtain ⟨earlier, _, hearlier⟩ := Option.bind_eq_some_iff.mp hshown
    exact hrows earlier row hearlier
  obtain ⟨id, slot, record_id, hslot, hkey⟩ := hused key (BTreeMap.mem_of_getElem? hrow)
  have hshown : (next.windows.rows_of slot)[record_id]? = some row := by
    rw [DurableSubscriptions.getElem?_rows_of, hkey, Option.bind_some, hrow]
  rcases hmove.slot hvalid hslot with ⟨_, hsame⟩ | ⟨response, token, rows, request, rfl, _, hadmitted, _, hrowsOf⟩
  · rw [hsame] at hshown
    exact hold slot record_id hshown
  · rw [hrowsOf] at hshown
    rcases hadmitted.row hshown with hupsert | ⟨previous, _, _, hprevious⟩
    · exact hadmissible row hupsert
    · exact hold previous record_id hprevious

theorem confirmed_valid_of_pull {state : DurableClientState V} {batch : PullBatch V} {checkpoint : Checkpoint}
    {commits : List (PullCommit V)} (hvalues : validate_pull_response_values codec (.Batch batch) = .ok ())
    (haccepted : PullAccepted state batch checkpoint commits)
    (hconfirmed : EveryRow (fun record => validate_record_state codec record = .ok ()) state.confirmed) :
    EveryRow (fun record => validate_record_state codec record = .ok ())
      (commits.foldl apply_commit state.confirmed) := by
  apply hconfirmed.apply_commits
  refine haccepted.forall_commits fun entry hentry => ?_
  simp only [validate_pull_response_values, forM_eq_ok_iff] at hvalues
  simp only [delivered_commits, haccepted.finish, List.mem_filterMap] at hentry
  obtain ⟨frame, hframe, hcarried⟩ := hentry
  cases frame with
  | Commit token commit =>
    cases hcarried
    exact forM_eq_ok_iff.mp (hvalues _ hframe)
  | Start checkpoint => cases hcarried
  | End checkpoint => cases hcarried

/-- The answered commit is the only one that leaves the queue. -/
theorem identity_ne_of_mem_eraseP {state : DurableClientState V} (hvalid : state.Valid) {identity : CommitIdentity}
    {commit : ClientCommit V} (hmem : commit ∈ state.outbox.eraseP fun commit => commit.identity = identity) :
    commit.identity ≠ identity := by
  have hnodup : state.pending.Nodup := (List.nodup_append.mp hvalid.nodup_identities).1
  have hidentity := List.mem_map_of_mem (f := fun commit : ClientCommit V => commit.identity) hmem
  rw [map_identity_eraseP hnodup, List.mem_filter] at hidentity
  simpa using hidentity.2

variable [DecidableEq V]

/-- A snapshot brings its own rows, and touches no outcome but for its coverage. -/
theorem CodecValid.snapshot {state next : DurableClientState V} {checkpoint : Checkpoint}
    {records : List (SnapshotRecord V)} (hcodec : CodecValid codec state)
    (hrecords : ∀ record ∈ records, validate_record_state codec record.state = .ok ())
    (hreplaces : SnapshotReplaces state checkpoint records next) : CodecValid codec next := by
  obtain ⟨record_ids, confirmed, hloop, rfl⟩ := hreplaces.replaced
  refine ⟨hcodec.rows, ?_, hcodec.outbox, ?_⟩
  · have hrows := foldlM_snapshot_record_eq_ok hloop
    dsimp only at hrows ⊢
    rw [hrows]
    exact EveryRow.snapshot hrecords
  · intro resolved hmem
    obtain ⟨earlier, hearlier, rfl⟩ := List.mem_map.mp hmem
    obtain ⟨hcommit, houtcome⟩ := hcodec.outcomes earlier hearlier
    have hsame := SameReceipt.of_cover (decide (same_epoch state checkpoint)) checkpoint earlier
    exact ⟨hsame.commit ▸ hcommit, hsame.outcome ▸ houtcome⟩

/-- A first delivery under which no queued commit is renamed. -/
theorem CodecValid.record {state next : DurableClientState V} {local_commit : ClientCommit V}
    {response : PushResponse V} {policy : AutomaticConflictPolicy} (hvalid : state.Valid)
    (hcodec : CodecValid codec state)
    (hvalues : validate_push_response_values codec response.outcome = .ok ())
    (hothers : LeavesOthers state response)
    (hfound : state.outbox.find? (fun commit => commit.identity = response.outcome.identity) = some local_commit)
    (hrecord : record_outcome state local_commit response.outcome policy = .ok next)
    (hlimits : ∀ commit ∈ next.commits, ¬ LimitExceeded codec next commit) : CodecValid codec next := by
  have hidentity : local_commit.identity = response.outcome.identity := by
    simpa using List.find?_some hfound
  have hlocal := List.mem_of_find?_eq_some hfound
  have hpending : response.outcome.identity ∈ state.pending :=
    List.mem_map.mpr ⟨local_commit, hlocal, hidentity⟩
  have hconfirmed : EveryRow (fun record => validate_record_state codec record = .ok ()) next.confirmed := by
    refine hcodec.confirmed.record_outcome ?_ hrecord
    exact fun record mapping hrecord => validate_record_state_remap hrecord mapping
  obtain ⟨renamed, resolution, hrenamed, rfl⟩ := record_outcome_eq_ok hrecord
  obtain ⟨applied, hsub, houtbox, houtcomes⟩ := hrenamed.renamed
  have hpartition : renamed.partition_id = state.partition_id := by rw [hrenamed.frame]
  have hclient : renamed.client_id = state.client_id := by rw [hrenamed.frame]
  have hsubscriptions : renamed.subscriptions = state.subscriptions := by rw [hrenamed.frame]
  refine ⟨?_, hconfirmed, ?_, ?_⟩
  · intro key row hrow
    refine hcodec.rows key row ?_
    rw [← hrow]
    simp only [DurableClientState.windows, hsubscriptions]
  · intro commit hmem
    dsimp only at hmem
    rw [houtbox] at hmem
    obtain ⟨earlier, hearlier, rfl⟩ := List.mem_map.mp hmem
    have hqueued : earlier ∈ state.outbox := List.mem_of_mem_eraseP hearlier
    rw [rename_commit_of_not_contains fun mapping hmapping => hothers hpending mapping (hsub.subset hmapping) earlier
      hqueued (identity_ne_of_mem_eraseP hvalid hearlier)]
    exact (hcodec.outbox earlier hqueued).transfer hpartition hclient
  · intro resolved hmem
    have hcommit := hlimits resolved.local_commit (List.mem_append_right _ (List.mem_map_of_mem hmem))
    rcases List.mem_append.mp hmem with hmem | hmem
    · rw [houtcomes] at hmem
      obtain ⟨earlier, hearlier, rfl⟩ := List.mem_map.mp hmem
      obtain ⟨⟨fingerprint, hfingerprint⟩, houtcome⟩ := hcodec.outcomes earlier hearlier
      exact ⟨((valuesValid_of_canonical_fingerprint hfingerprint).rename applied).exists_fingerprint hcommit,
        validate_push_response_values_rename houtcome applied⟩
    · rw [List.mem_singleton] at hmem
      subst hmem
      have hsent := valuesValid_of_canonical_fingerprint (hcodec.outbox local_commit hlocal)
      exact ⟨(hsent.rename _).exists_fingerprint hcommit, hvalues⟩

/-- A decision keeps every receipt and queues its replacement. -/
theorem CodecValid.decide {state next : DurableClientState V} {index : Nat} {resolved : ResolvedCommit V}
    {record_id : RecordId} {authoritative : RecordState V} {request : ConflictResolutionRequest V}
    (hcodec : CodecValid codec state)
    (hreplacement : ∀ replacement, request.replacement = some replacement → Fingerprinted codec state replacement)
    (hdecide : decide_conflict state index resolved record_id authoritative request = .ok next) :
    CodecValid codec next := by
  obtain ⟨rfl, _⟩ := decide_conflict_eq_ok hdecide
  refine ⟨hcodec.rows, hcodec.confirmed, ?_, ?_⟩
  · intro commit hmem
    rcases List.mem_append.mp hmem with hmem | hmem
    · exact hcodec.outbox commit hmem
    · exact hreplacement commit (Option.mem_toList.mp hmem)
  · intro later hmem
    obtain ⟨position, hposition⟩ := List.mem_iff_getElem?.mp hmem
    rw [List.getElem?_modify] at hposition
    obtain ⟨earlier, hearlier, rfl⟩ := Option.map_eq_some_iff.mp hposition
    obtain ⟨hcommit, houtcome⟩ := hcodec.outcomes earlier (List.mem_of_getElem? hearlier)
    split
    · exact ⟨hcommit, houtcome⟩
    · exact ⟨hcommit, houtcome⟩

/-- A transition leaves a state the codec accepts, unless it renames other queued commits. -/
theorem CodecValid.effect {state next : DurableClientState V} {transition : Transition V} (hvalid : state.Valid)
    (hused : ∀ key ∈ next.windows.records, next.windows.Uses key) (hcodec : CodecValid codec state) (hadmissible : Admissible codec state transition)
    (heffect : Effect state transition next)
    (hothers : ∀ response policy, transition = .PushResponse response policy → LeavesOthers state response)
    (hlimits : ∀ commit ∈ next.commits, ¬ LimitExceeded codec next commit) : CodecValid codec next := by
  have hrows := rows_valid_of_windowMove hvalid hused heffect.windows hadmissible hcodec.rows
  cases heffect with
  | enqueued hfresh =>
    refine ⟨hrows, hcodec.confirmed, ?_, hcodec.receipts rfl rfl⟩
    intro commit hmem
    rcases List.mem_append.mp hmem with hmem | hmem
    · exact hcodec.outbox commit hmem
    · rw [List.mem_singleton] at hmem
      subst hmem
      exact hadmissible
  | redelivered hfound hsame => exact hcodec
  | recorded hfound hrecord =>
    exact hcodec.record hvalid hadmissible (hothers _ _ rfl) hfound hrecord hlimits
  | redecided hfound hresolved hmatches => exact hcodec
  | decided hfound hopen hconflict hdecide => exact hcodec.decide hadmissible hdecide
  | repeated haccepted hcurrent => exact hcodec
  | rotated haccepted hcurrent hsequence => exact ⟨hrows, hcodec.confirmed, hcodec.outbox, hcodec.receipts rfl rfl⟩
  | advanced haccepted hauthorized hmoved =>
    exact ⟨hrows, confirmed_valid_of_pull hadmissible (validate_pull_batch_eq_ok haccepted) hcodec.confirmed,
      hcodec.outbox, hcodec.receipts rfl rfl⟩
  | reset hreplaces =>
    simp only [Admissible, validate_pull_response_values, forM_eq_ok_iff] at hadmissible
    exact hcodec.snapshot hadmissible hreplaces
  | bootstrapped hepoch hrecords hreplaces => exact hcodec.snapshot hadmissible hreplaces
  | reshown hadmits => exact hcodec
  | _ => exact ⟨hrows, hcodec.confirmed, hcodec.outbox, hcodec.receipts rfl rfl⟩

/-! ### A renamed commit has lost its fingerprint -/

/-- SHA-256 has no collision between what the queued commits hashed before and after. -/
def NoCollision (codec : Codec V) (state next : DurableClientState V) : Prop :=
  ∀ commit ∈ state.outbox, ∀ later ∈ next.outbox, ∀ operations operations' bytes bytes',
    commit.operations.mapM (canonical_operation codec) = .ok operations →
    later.operations.mapM (canonical_operation codec) = .ok operations' →
    CommitPreimage codec.ciborium state.partition_id state.client_id commit.identity.client_commit_id operations bytes →
    CommitPreimage codec.ciborium next.partition_id next.client_id later.identity.client_commit_id operations' bytes' →
    bootstrap_codec.CollisionFree codec.sha256 [bytes, bytes']

omit [DecidableEq V] in
theorem operation_contains_id_canonical {operation : Operation V} {canonical : Operation CanonicalValue}
    (h : canonical_operation codec operation = .ok canonical) (record_id : RecordId) :
    operation_contains_id operation record_id ↔ operation_contains_id canonical record_id := by
  cases operation with
  | Upsert operation_id base_version value reference =>
    obtain ⟨canonical_value, _, heq⟩ := bind_eq_ok_iff.mp h
    cases heq
    exact Iff.rfl
  | Delete operation_id base_version =>
    cases h
    exact Iff.rfl

omit [DecidableEq V] in
/-- The canonical operations name the records of the commit. -/
theorem commit_contains_id_canonical {commit : ClientCommit V} {operations : List (Operation CanonicalValue)}
    (h : commit.operations.mapM (canonical_operation codec) = .ok operations) (record_id : RecordId) :
    commit_contains_id commit record_id ↔ ∃ operation ∈ operations, operation_contains_id operation record_id := by
  have hforall := mapM_eq_ok_iff.mp h
  constructor
  · rintro ⟨operation, hmem, hcontains⟩
    obtain ⟨canonical, hcanonical, hsame⟩ := hforall.exists_of_mem hmem
    exact ⟨canonical, hcanonical, (operation_contains_id_canonical hsame record_id).mp hcontains⟩
  · rintro ⟨canonical, hmem, hcontains⟩
    obtain ⟨operation, hoperation, hsame⟩ := hforall.flip.exists_of_mem hmem
    exact ⟨operation, hoperation, (operation_contains_id_canonical hsame record_id).mpr hcontains⟩

/-- If the codec accepts the result of a delivery, no other queued commit was renamed: the mapped
ids are gone from it, while its fingerprint is of operations that name them. -/
theorem leavesOthers_of_codecValid {state next : DurableClientState V} {response : PushResponse V}
    {policy : AutomaticConflictPolicy} (hvalid : state.Valid) (hcodec : CodecValid codec state)
    (heffect : Effect state (.PushResponse response policy) next)
    (hunmapped : ∀ local_id ∈ next.id_map, ∀ commit ∈ next.outbox, ¬ commit_contains_id commit local_id)
    (hfree : NoCollision codec state next) (hnext : CodecValid codec next) : LeavesOthers state response := by
  intro hpending mapping hmapping commit hcommit hne hcontains
  cases heffect with
  | redelivered hfound hsame =>
    rename_i resolved
    have hsettled : resolved.outcome.identity ∈ state.settled := by
      rw [(hvalid.outcomes resolved hfound).identity]
      exact List.mem_map_of_mem hfound
    exact hvalid.not_settled hpending (hsame ▸ hsettled)
  | recorded hfound hrecord =>
    obtain ⟨renamed, resolution, hrenamed, rfl⟩ := record_outcome_eq_ok hrecord
    obtain ⟨applied, hsub, houtbox, houtcomes⟩ := hrenamed.renamed
    have hlater : rename_commit applied commit ∈ renamed.outbox := by
      rw [houtbox]
      exact List.mem_map_of_mem ((List.mem_eraseP_of_neg (by simpa using hne)).mpr hcommit)
    obtain ⟨operations, hoperations, hfingerprint⟩ := canonical_fingerprint_eq_ok_iff.mp (hcodec.outbox commit hcommit)
    obtain ⟨operations', hoperations', hfingerprint'⟩ := canonical_fingerprint_eq_ok_iff.mp (hnext.outbox _ hlater)
    rw [rename_commit_identity] at hfingerprint'
    obtain ⟨_, _, _, rfl⟩ := commit_of_same_fingerprint
      (fun bytes bytes' h h' => hfree commit hcommit _ hlater operations operations' bytes bytes' hoperations
        hoperations' h (by rw [rename_commit_identity]; exact h')) hfingerprint hfingerprint'
    refine hunmapped mapping.local_id (hrenamed.mapped mapping hmapping) _ hlater ?_
    rw [commit_contains_id_canonical hoperations', ← commit_contains_id_canonical hoperations]
    exact hcontains

end surrealdb_rn_core.sync_codec

namespace surrealdb_rn_core.sync_client

open sync_codec sync_subscription

variable {V : Type} {codec : Codec V}

/-- The call brings no mapping of a record that another queued commit mentions. -/
def NativeCall.Undisturbed (state : DurableClientState V) : NativeCall V → Prop
  | .record_push_response response _ => LeavesOthers state response
  | _ => True

theorem fingerprinted_eq_ok {state : DurableClientState V} {commit later : ClientCommit V}
    (h : fingerprinted codec state commit = .ok later) : Fingerprinted codec state later := by
  obtain ⟨fingerprint, hfingerprint, heq⟩ := bind_eq_ok_iff.mp h
  cases heq
  exact hfingerprint

theorem parse_response_eq_ok {response parsed : SubscriptionResponse V}
    (h : parse_response codec response = .ok parsed) :
    parsed = response ∧ ∀ row, .Upsert row ∈ response.changes → RowValid codec row := by
  simp only [parse_response, map_response, bind_eq_ok_iff] at h
  obtain ⟨_, ⟨changes, hchanges, _⟩, _, _, heq⟩ := h
  cases heq
  refine ⟨rfl, fun row hmem => ?_⟩
  obtain ⟨change, _, hchange⟩ := (mapM_eq_ok_iff.mp hchanges).exists_of_mem hmem
  obtain ⟨canonical, hcanonical, _⟩ := bind_eq_ok_iff.mp hchange
  exact ⟨canonical, hcanonical⟩

variable [DecidableEq V]

/-- Every call prepares a transition whose values it has checked. -/
theorem transition_of_prepare {runtime : ClientRuntime V} {call : NativeCall V} {prepared : PreparedTransition V}
    (h : prepare codec runtime call = .ok prepared) :
    ∃ transition, runtime.prepare_transition transition = .ok prepared ∧
      Admissible codec runtime.state transition ∧
      ∀ response policy, transition = .PushResponse response policy ↔ call = .record_push_response response policy := by
  cases call with
  | enqueue commit =>
    obtain ⟨commit, hcommit, h⟩ := bind_eq_ok_iff.mp h
    exact ⟨.Enqueue commit, map_err_eq_ok_iff.mp h, fingerprinted_eq_ok hcommit, by simp⟩
  | record_push_response response policy =>
    obtain ⟨_, hvalues, h⟩ := bind_eq_ok_iff.mp h
    exact ⟨.PushResponse response policy, map_err_eq_ok_iff.mp h, hvalues, by simp⟩
  | apply_pull_response response =>
    obtain ⟨_, hvalues, h⟩ := bind_eq_ok_iff.mp h
    exact ⟨.PullResponse response, map_err_eq_ok_iff.mp h, hvalues, by simp⟩
  | resolve_conflict_keep_server commit_id =>
    refine ⟨.ResolveConflict commit_id .KeepServer, map_err_eq_ok_iff.mp h, ?_, by simp⟩
    rintro _ ⟨⟩
  | resolve_conflict_keep_local commit_id replacement_id =>
    obtain ⟨_, _, h⟩ := bind_eq_ok_iff.mp h
    obtain ⟨operations, _, h⟩ := bind_eq_ok_iff.mp h
    obtain ⟨replacement, hreplacement, h⟩ := bind_eq_ok_iff.mp h
    refine ⟨.ResolveConflict commit_id (.KeepLocal replacement), map_err_eq_ok_iff.mp h, ?_, by simp⟩
    rintro _ ⟨⟩
    exact fingerprinted_eq_ok hreplacement
  | resolve_conflict_merge commit_id replacement =>
    obtain ⟨replacement, hreplacement, h⟩ := bind_eq_ok_iff.mp h
    refine ⟨.ResolveConflict commit_id (.Merge replacement), map_err_eq_ok_iff.mp h, ?_, by simp⟩
    rintro _ ⟨⟩
    exact fingerprinted_eq_ok hreplacement
  | start_subscription request =>
    exact ⟨.StartSubscription request, map_err_eq_ok_iff.mp h, trivial, by simp⟩
  | cancel_subscription subscription_id generation =>
    exact ⟨.CancelSubscription subscription_id generation, map_err_eq_ok_iff.mp h, trivial, by simp⟩
  | apply_subscription_response response =>
    obtain ⟨parsed, hparsed, hresponse⟩ := bind_eq_ok_iff.mp h
    obtain ⟨rfl, hrows⟩ := parse_response_eq_ok hparsed
    exact ⟨.SubscriptionResponse parsed, map_err_eq_ok_iff.mp hresponse, hrows, by simp⟩

/-- A prepared state passes the codec exactly when the call brings no mapping of a record that
another queued commit mentions: such a commit is renamed in place, and its fingerprint is not. -/
theorem recorded_iff_undisturbed (codec : Codec V) (runtime : ClientRuntime V) (call : NativeCall V)
    (prepared : PreparedTransition V) (hcodec : validate_state_codec codec runtime.state = .ok ())
    (hprepare : prepare codec runtime call = .ok prepared)
    (hlimits : ∀ commit ∈ prepared.state.commits, ¬ LimitExceeded codec prepared.state commit) :
    (call.Undisturbed runtime.state → validate_state_codec codec prepared.state = .ok ()) ∧
      (NoCollision codec runtime.state prepared.state → validate_state_codec codec prepared.state = .ok () →
        call.Undisturbed runtime.state) := by
  obtain ⟨transition, htransition, hadmissible, hcall⟩ := transition_of_prepare hprepare
  obtain ⟨next, heffect, hnext⟩ := effect_of_prepare htransition
  obtain ⟨_, hstamped⟩ := ClientRuntime.prepare_eq_ok_iff.mp hnext
  have hvalid := DurableClientState.validate_eq_ok_iff.mp prepared.valid
  obtain ⟨revision, hstate⟩ := hstamped.exists_revision
  rw [hstate] at hvalid hlimits ⊢
  rw [validate_state_codec_eq_ok_iff] at hcodec
  simp only [validate_state_codec_eq_ok_iff]
  constructor
  · intro hundisturbed
    have hothers : ∀ response policy, transition = .PushResponse response policy →
        LeavesOthers runtime.state response := by
      intro response policy htransition
      obtain rfl := (hcall response policy).mp htransition
      exact hundisturbed
    have hused : ∀ key ∈ next.windows.records, next.windows.Uses key := hvalid.windows_used
    have hresult := hcodec.effect runtime.is_valid hused hadmissible heffect hothers hlimits
    exact ⟨hresult.rows, hresult.confirmed, hresult.outbox, hresult.receipts rfl rfl⟩
  · intro hfree hresult
    cases call with
    | record_push_response response policy =>
      obtain rfl := (hcall response policy).mpr rfl
      exact leavesOthers_of_codecValid runtime.is_valid hcodec heffect hvalid.outbox_unmapped hfree
        ⟨hresult.rows, hresult.confirmed, hresult.outbox, hresult.receipts rfl rfl⟩
    | _ => trivial

/-- `persist_and_install` over a store that takes every state. -/
def submit (codec : Codec V) (runtime : ClientRuntime V) (call : NativeCall V) : NativeResult (ClientRuntime V) := do
  let prepared ← prepare codec runtime call
  validate_state_codec codec prepared.state
  map_err (runtime.install prepared) fun _ => .RecoveryRequired

omit [DecidableEq V] in
theorem not_limitExceeded_of_canonical_fingerprint {state : DurableClientState V} {commit : ClientCommit V}
    (h : (canonical_fingerprint codec state commit).isOk = true) : ¬ LimitExceeded codec state commit := by
  rintro ⟨operations, error, hoperations, hlimit, _⟩
  obtain ⟨fingerprint, hfingerprint⟩ := isOk_eq_true_iff.mp h
  obtain ⟨operations', hoperations', hok⟩ := canonical_fingerprint_eq_ok_iff.mp hfingerprint
  rw [hoperations, ok.injEq] at hoperations'
  subst hoperations'
  rw [hlimit] at hok
  cases hok

/-- The bytes that the fingerprint of the commit hashes. -/
def preimage (codec : Codec V) (state : DurableClientState V) (commit : ClientCommit V) : Option (List UInt8) :=
  (commit.operations.mapM (canonical_operation codec)).toOption.map fun operations =>
    (commit_item state.partition_id state.client_id commit.identity.client_commit_id operations).encode

/-- The hash tells apart what the queued commits hashed before and after. -/
def PreimagesApart (codec : Codec V) (state next : DurableClientState V) : Prop :=
  ∀ commit ∈ state.outbox, ∀ later ∈ next.outbox, ∀ bytes ∈ preimage codec state commit,
    ∀ bytes' ∈ preimage codec next later, codec.sha256 bytes = codec.sha256 bytes' → bytes = bytes'

instance (codec : Codec V) (state next : DurableClientState V) : Decidable (PreimagesApart codec state next) :=
  inferInstanceAs (Decidable (∀ _ ∈ _, _))

omit [DecidableEq V] in
theorem PreimagesApart.noCollision {state next : DurableClientState V} (hapart : PreimagesApart codec state next) :
    NoCollision codec state next := by
  intro commit hcommit later hlater operations operations' bytes bytes' hoperations hoperations' h h'
  obtain ⟨hbytes, -⟩ := encode_cbor_value_eq_ok_iff.mp h.encoded.1
  obtain ⟨hbytes', -⟩ := encode_cbor_value_eq_ok_iff.mp h'.encoded.1
  have hpair : codec.sha256 bytes = codec.sha256 bytes' → bytes = bytes' := by
    refine hapart commit hcommit later hlater bytes ?_ bytes' ?_
    · simp [preimage, hoperations, Except.toOption, hbytes]
    · simp [preimage, hoperations', Except.toOption, hbytes']
  intro a ha b hb hsame
  simp only [List.mem_cons, List.not_mem_nil, or_false] at ha hb
  rcases ha with rfl | rfl <;> rcases hb with rfl | rfl
  · rfl
  · exact hpair hsame
  · exact (hpair hsame.symm).symm
  · rfl

/-! The wire's texts are canonical as they are. -/

def text_codec : Codec String where
  ciborium := Cbor.deterministic
  sha256 := bootstrap_codec.sha256_digest
  canonical_json text := .ok ⟨.String text, trivial⟩

open transitions in
/-- Two queued commits, the second with this reference. -/
def queued (reference : Option String) : NativeResult (ClientRuntime String) := do
  let runtime ← submit text_codec opened (.enqueue (commit "one" [upsert "temp" "a" none]))
  submit text_codec runtime (.enqueue (commit "two" [upsert "other" "b" reference]))

open transitions in
/-- The first commit is accepted, and its record gets its canonical id. -/
def accept (runtime : ClientRuntime String) : NativeResult (NativeCall String) := do
  let commit ← okOr runtime.state.outbox.head? .Protocol
  return .record_push_response (push_response (.Accepted commit.identity 1 [⟨⟨"temp"⟩, ⟨"server"⟩⟩])) .Manual

/-- The second commit does not mention the record that is mapped. -/
theorem recorded_iff_undisturbed_unmentioned :
    ∃ (runtime : ClientRuntime String) (call : NativeCall String) (prepared : PreparedTransition String),
      prepare text_codec runtime call = .ok prepared ∧ prepared.state.id_map.size = 1 ∧
      validate_state_codec text_codec prepared.state = .ok () ∧ call.Undisturbed runtime.state := by
  have hexecute : (do
      let runtime ← queued none
      validate_state_codec text_codec runtime.state
      let call ← accept runtime
      let prepared ← prepare text_codec runtime call
      refuse (¬ ∀ commit ∈ prepared.state.commits,
        (canonical_fingerprint text_codec prepared.state commit).isOk = true) .Internal
      refuse (¬ PreimagesApart text_codec runtime.state prepared.state) .Internal
      refuse (prepared.state.id_map.size ≠ 1) .Internal
      validate_state_codec text_codec prepared.state : NativeResult Unit) = .ok () := by
    decide +kernel
  simp only [bind_eq_ok_iff, refuse_eq_ok_iff, not_not, ne_eq] at hexecute
  obtain ⟨runtime, _, _, hcodec, call, _, prepared, hprepare, _, hlimits, _, hapart, _, hsize, haccepted⟩ := hexecute
  obtain ⟨_, hundisturbed⟩ := recorded_iff_undisturbed text_codec runtime call prepared hcodec hprepare
    fun commit hcommit => not_limitExceeded_of_canonical_fingerprint (hlimits commit hcommit)
  exact ⟨runtime, call, prepared, hprepare, hsize, haccepted, hundisturbed hapart.noCollision haccepted⟩

/-- The second commit references the record that is mapped. -/
theorem accepted_mapping_refused :
    ¬ ∀ (codec : Codec String) (runtime : ClientRuntime String) (call : NativeCall String)
      (prepared : PreparedTransition String), validate_state_codec codec runtime.state = .ok () →
      prepare codec runtime call = .ok prepared →
      (∀ commit ∈ prepared.state.commits, ¬ LimitExceeded codec prepared.state commit) →
      validate_state_codec codec prepared.state = .ok () := by
  have hexecute : (do
      let runtime ← queued (some "temp")
      validate_state_codec text_codec runtime.state
      let call ← accept runtime
      let prepared ← prepare text_codec runtime call
      refuse (¬ ∀ commit ∈ prepared.state.commits,
        (canonical_fingerprint text_codec prepared.state commit).isOk = true) .Internal
      refuse (validate_state_codec text_codec prepared.state = .ok ()) .Internal : NativeResult Unit) = .ok () := by
    decide +kernel
  simp only [bind_eq_ok_iff, refuse_eq_ok_iff, not_not] at hexecute
  obtain ⟨runtime, _, _, hcodec, call, _, prepared, hprepare, _, hlimits, hrefused⟩ := hexecute
  intro hclaim
  refine hrefused (hclaim text_codec runtime call prepared hcodec hprepare fun commit hcommit => ?_)
  exact not_limitExceeded_of_canonical_fingerprint (hlimits commit hcommit)

end surrealdb_rn_core.sync_client
