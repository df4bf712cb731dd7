import SurrealSync.Client.Prepare

open Std
open surrealdb_sync_protocol surrealdb_sync_protocol.subscription

namespace surrealdb_sync_client

variable {V : Type} [DecidableEq V]

/-- A complete snapshot passes its guards and replaces the confirmed rows. -/
structure SnapshotReplaces (state : DurableClientState V) (checkpoint : Checkpoint)
    (records : List (SnapshotRecord V)) (next : DurableClientState V) : Prop where
  scope : validate_scope state checkpoint = .ok ()
  authorized : guard_subscription_scope state checkpoint.scope = .ok ()
  forward : guard_frontier state checkpoint = .ok ()
  replaced : ∃ record_ids confirmed, records.foldlM snapshot_record (∅, ∅) = .ok (record_ids, confirmed) ∧
    next = { state with
      confirmed
      outcomes := state.outcomes.map (cover_outcome (decide (same_epoch state checkpoint)) checkpoint)
      reset_coverage := some { cursor := checkpoint.cursor, scope := checkpoint.scope }
      checkpoint := some checkpoint }

/-- Everything a transition can do to a state before its revision is stamped.
Each constructor is one successful path of one prepare function, with the guards
that path passed. -/
inductive Effect (state : DurableClientState V) : Transition V → DurableClientState V → Prop where
  | enqueued {commit : ClientCommit V}
      (hfresh : ¬ identity_exists state commit.identity.client_commit_id) :
      Effect state (.Enqueue commit) { state with outbox := state.outbox ++ [commit] }
  | redelivered {response : PushResponse V} {policy : AutomaticConflictPolicy}
      {resolved : ResolvedCommit V} (hfound : resolved ∈ state.outcomes)
      (hsame : resolved.outcome = response.outcome) :
      Effect state (.PushResponse response policy) state
  | recorded {response : PushResponse V} {policy : AutomaticConflictPolicy}
      {local_commit : ClientCommit V} {next : DurableClientState V}
      (hfound : state.outbox.find? (fun commit => commit.identity = response.outcome.identity) =
        some local_commit)
      (hrecord : record_outcome state local_commit response.outcome policy = .ok next) :
      Effect state (.PushResponse response policy) next
  | redecided {commit_id : ClientCommitId} {request : ConflictResolutionRequest V}
      {resolved : ResolvedCommit V} {resolution : ConflictResolution}
      (hfound : state.outcomes.find? (conflicted commit_id) = some resolved)
      (hresolved : resolved.resolution = some resolution)
      (hmatches : resolution_request_matches state resolution request) :
      Effect state (.ResolveConflict commit_id request) state
  | decided {commit_id : ClientCommitId} {request : ConflictResolutionRequest V}
      {resolved : ResolvedCommit V} {identity : CommitIdentity} {record_id : RecordId}
      {authoritative : RecordState V} {next : DurableClientState V}
      (hfound : state.outcomes.find? (conflicted commit_id) = some resolved)
      (hopen : resolved.resolution = none)
      (hconflict : resolved.outcome = .Conflict identity record_id authoritative)
      (hdecide : decide_conflict state (state.outcomes.findIdx (conflicted commit_id)) resolved
        record_id authoritative request = .ok next) :
      Effect state (.ResolveConflict commit_id request) next
  | repeated {batch : PullBatch V} {checkpoint : Checkpoint} {commits : List (PullCommit V)}
      (hvalid : validate_pull_batch state batch = .ok (checkpoint, commits))
      (hcurrent : state.checkpoint = some checkpoint) :
      Effect state (.PullResponse (.Batch batch)) state
  | rotated {batch : PullBatch V} {checkpoint current : Checkpoint}
      (hvalid : validate_pull_batch state batch = .ok (checkpoint, []))
      (hcurrent : state.checkpoint = some current)
      (hsequence : checkpoint.cursor.sequence = current.cursor.sequence) :
      Effect state (.PullResponse (.Batch batch)) { state with checkpoint := some checkpoint }
  | advanced {batch : PullBatch V} {checkpoint : Checkpoint} {commits : List (PullCommit V)}
      (hvalid : validate_pull_batch state batch = .ok (checkpoint, commits))
      (hauthorized : guard_subscription_scope state checkpoint.scope = .ok ())
      (hmoved : ∀ current, state.checkpoint = some current →
        checkpoint.cursor.sequence ≠ current.cursor.sequence) :
      Effect state (.PullResponse (.Batch batch)) { state with
        confirmed := commits.foldl apply_commit state.confirmed
        checkpoint := some checkpoint }
  | reset {snapshot : ResetSnapshot V} {next : DurableClientState V}
      (hreplaces : SnapshotReplaces state snapshot.checkpoint snapshot.records next) :
      Effect state (.PullResponse (.Reset snapshot)) next
  | bootstrapped {checkpoint : Checkpoint} {records : List (SnapshotRecord V)}
      {next : DurableClientState V}
      (hepoch : ¬ (¬ same_epoch state checkpoint ∧
        ∃ resolved ∈ state.outcomes, resolved.outcome.IsAccepted))
      (hrecords : ∀ record ∈ records, validate_bootstrap_record record = .ok ())
      (hreplaces : SnapshotReplaces state checkpoint records next) :
      Effect state (.BootstrapSnapshot checkpoint records) next
  | restarted {request : SubscriptionRequest}
      (hrequest : state.windows.requests[request.command.identity.1]? = some request) :
      Effect state (.StartSubscription request) { state with subscriptions := some state.windows }
  | started {request : SubscriptionRequest} (hstart : request.command.IsStart)
      (hbarred : ¬ state.windows.Barred request.command.identity.1 request.command.identity.2)
      (hnewer : ∀ previous, state.windows.requests[request.command.identity.1]? = some previous →
        previous.command.identity.2 < request.command.identity.2) :
      Effect state (.StartSubscription request)
        { state with subscriptions := some (state.windows.start request.command.identity.1 request) }
  | cancelled {id : String} {generation : UInt64}
      (hnewest : ∀ request, state.windows.requests[id]? = some request →
        request.command.identity.2 ≤ generation) :
      Effect state (.CancelSubscription id generation)
        { state with subscriptions := some (state.windows.cancel id generation) }
  | withdrawn {response : SubscriptionResponse V}
      (hadmits : admit_response state response = .ok .Cancelled)
      (hnewest : ∀ request, state.windows.requests[response.subscription_id]? = some request →
        request.command.identity.2 ≤ response.generation) :
      Effect state (.SubscriptionResponse response) { state with
        subscriptions := some (state.windows.cancel response.subscription_id response.generation) }
  | reshown {response : SubscriptionResponse V}
      (hadmits : admit_response state response = .ok .Repeated) :
      Effect state (.SubscriptionResponse response) state
  | shown {response : SubscriptionResponse V} {token : OpaqueCheckpoint}
      {rows : BTreeMap RecordId (SubscriptionRow V)} {current windows : DurableSubscriptions V}
      (hadmits : admit_response state response = .ok (.Window token rows))
      (hcurrent : state.subscriptions = some current)
      (hinstall : install_window current response token rows = .ok windows) :
      Effect state (.SubscriptionResponse response) { state with subscriptions := some windows }

variable {self : ClientRuntime V} {prepared : PreparedTransition V}

theorem effect_of_prepare_enqueue {commit : ClientCommit V}
    (hprepare : self.prepare_enqueue commit = .ok prepared) :
    ∃ next, Effect self.state (.Enqueue commit) next ∧ self.prepare next = .ok prepared := by
  simp only [ClientRuntime.prepare_enqueue, Except.bind_eq_ok_iff, Except.refuse_eq_ok_iff] at hprepare
  obtain ⟨_, _, _, hfresh, hprepare⟩ := hprepare
  exact ⟨_, .enqueued hfresh, hprepare⟩

theorem effect_of_prepare_push_response {response : PushResponse V} {policy : AutomaticConflictPolicy}
    (hprepare : self.prepare_push_response_with_policy response policy = .ok prepared) :
    ∃ next, Effect self.state (.PushResponse response policy) next ∧ self.prepare next = .ok prepared := by
  simp only [ClientRuntime.prepare_push_response_with_policy, Except.bind_eq_ok_iff,
    Except.refuse_eq_ok_iff] at hprepare
  obtain ⟨_, _, hprepare⟩ := hprepare
  split at hprepare
  · rename_i resolved hfound
    split at hprepare
    · rename_i hsame
      exact ⟨_, .redelivered (List.mem_of_find?_eq_some hfound) hsame, hprepare⟩
    · cases hprepare
  · split at hprepare
    · cases hprepare
    · rename_i local_commit hfound
      obtain ⟨next, hrecord, hprepare⟩ := Except.bind_eq_ok_iff.mp hprepare
      exact ⟨next, .recorded hfound hrecord, hprepare⟩

theorem effect_of_prepare_resolve_conflict {commit_id : ClientCommitId}
    {request : ConflictResolutionRequest V}
    (hprepare : self.prepare_resolve_conflict commit_id request = .ok prepared) :
    ∃ next, Effect self.state (.ResolveConflict commit_id request) next ∧
      self.prepare next = .ok prepared := by
  unfold ClientRuntime.prepare_resolve_conflict at hprepare
  split at hprepare
  · cases hprepare
  · rename_i resolved hfound
    split at hprepare
    · rename_i resolution hresolved
      split at hprepare
      · rename_i hmatches
        exact ⟨_, .redecided hfound hresolved hmatches, hprepare⟩
      · cases hprepare
    · rename_i hopen
      split at hprepare
      · rename_i identity record_id authoritative hconflict
        obtain ⟨next, hdecide, hprepare⟩ := Except.bind_eq_ok_iff.mp hprepare
        exact ⟨next, .decided hfound hopen hconflict hdecide, hprepare⟩
      · cases hprepare
      · cases hprepare

theorem effect_of_prepare_pull_batch {batch : PullBatch V}
    (hprepare : self.prepare_pull_batch batch = .ok prepared) :
    ∃ next, Effect self.state (.PullResponse (.Batch batch)) next ∧
      self.prepare next = .ok prepared := by
  simp only [ClientRuntime.prepare_pull_batch, Except.bind_eq_ok_iff] at hprepare
  obtain ⟨⟨checkpoint, commits⟩, hvalid, _, hauthorized, hprepare⟩ := hprepare
  split at hprepare
  · rename_i current hfilter
    obtain ⟨hcurrent, hsequence⟩ := Option.filter_eq_some_iff.mp hfilter
    split at hprepare
    · rename_i hsame
      exact ⟨_, .repeated hvalid (hcurrent.trans (congrArg some hsame.symm)), hprepare⟩
    · simp only [Except.bind_eq_ok_iff, Except.refuse_eq_ok_iff, ne_eq, not_not] at hprepare
      obtain ⟨_, rfl, hprepare⟩ := hprepare
      exact ⟨_, .rotated hvalid hcurrent (by simpa using hsequence), hprepare⟩
  · rename_i hfilter
    refine ⟨_, .advanced hvalid hauthorized (fun current hcurrent hsequence => ?_), hprepare⟩
    have := Option.filter_eq_none_iff.mp hfilter current hcurrent
    simp [hsequence] at this

theorem snapshotReplaces_of_prepare_snapshot {checkpoint : Checkpoint}
    {records : List (SnapshotRecord V)}
    (hprepare : self.prepare_snapshot checkpoint records = .ok prepared) :
    ∃ next, SnapshotReplaces self.state checkpoint records next ∧ self.prepare next = .ok prepared := by
  simp only [ClientRuntime.prepare_snapshot, Except.bind_eq_ok_iff] at hprepare
  obtain ⟨_, hscope, _, hauthorized, _, hforward, ⟨record_ids, confirmed⟩, hrecords, hprepare⟩ := hprepare
  exact ⟨_, ⟨hscope, hauthorized, hforward, record_ids, confirmed, hrecords, rfl⟩, hprepare⟩

theorem effect_of_prepare_pull_response {response : PullResponse V}
    (hprepare : self.prepare_pull_response response = .ok prepared) :
    ∃ next, Effect self.state (.PullResponse response) next ∧ self.prepare next = .ok prepared := by
  cases response with
  | Batch batch => exact effect_of_prepare_pull_batch hprepare
  | Reset snapshot =>
    obtain ⟨next, hreplaces, hprepare⟩ := snapshotReplaces_of_prepare_snapshot hprepare
    exact ⟨next, .reset hreplaces, hprepare⟩

theorem effect_of_prepare_bootstrap_snapshot {checkpoint : Checkpoint}
    {records : List (SnapshotRecord V)}
    (hprepare : self.prepare_bootstrap_snapshot checkpoint records = .ok prepared) :
    ∃ next, Effect self.state (.BootstrapSnapshot checkpoint records) next ∧
      self.prepare next = .ok prepared := by
  simp only [ClientRuntime.prepare_bootstrap_snapshot, Except.bind_eq_ok_iff,
    Except.refuse_eq_ok_iff, Except.forM_eq_ok_iff] at hprepare
  obtain ⟨_, hepoch, _, hrecords, hprepare⟩ := hprepare
  obtain ⟨next, hreplaces, hprepare⟩ := snapshotReplaces_of_prepare_snapshot hprepare
  exact ⟨next, .bootstrapped hepoch hrecords hreplaces, hprepare⟩

theorem effect_of_prepare_start_subscription {request : SubscriptionRequest}
    (hprepare : self.prepare_start_subscription request = .ok prepared) :
    ∃ next, Effect self.state (.StartSubscription request) next ∧ self.prepare next = .ok prepared := by
  simp only [ClientRuntime.prepare_start_subscription, Except.bind_eq_ok_iff,
    Except.refuse_eq_ok_iff, not_or, not_not] at hprepare
  obtain ⟨_, ⟨_, hstart, _⟩, _, hbarred, hprepare⟩ := hprepare
  split at hprepare
  · rename_i hrequest
    exact ⟨_, .restarted hrequest, hprepare⟩
  · simp only [Except.bind_eq_ok_iff, Except.refuse_eq_ok_iff] at hprepare
    obtain ⟨_, hnewer, _, _, hprepare⟩ := hprepare
    refine ⟨_, .started hstart hbarred (fun previous hprevious => ?_), hprepare⟩
    exact UInt64.not_le.mp fun hle => hnewer ⟨previous, hprevious, hle⟩

theorem prepare_cancel_subscription_eq_ok {id : String} {generation : UInt64}
    (hprepare : self.prepare_cancel_subscription id generation = .ok prepared) :
    (∀ request, self.state.windows.requests[id]? = some request →
      request.command.identity.2 ≤ generation) ∧
    self.prepare { self.state with
      subscriptions := some (self.state.windows.cancel id generation) } = .ok prepared := by
  simp only [ClientRuntime.prepare_cancel_subscription, Except.bind_eq_ok_iff,
    Except.refuse_eq_ok_iff] at hprepare
  obtain ⟨_, _, _, _, _, hnewest, hprepare⟩ := hprepare
  refine ⟨fun request hrequest => ?_, hprepare⟩
  exact UInt64.not_lt.mp fun hlt => hnewest ⟨request, hrequest, hlt⟩

theorem effect_of_prepare_subscription_response {response : SubscriptionResponse V}
    (hprepare : self.prepare_subscription_response response = .ok prepared) :
    ∃ next, Effect self.state (.SubscriptionResponse response) next ∧
      self.prepare next = .ok prepared := by
  simp only [ClientRuntime.prepare_subscription_response, Except.bind_eq_ok_iff] at hprepare
  obtain ⟨admission, hadmits, hprepare⟩ := hprepare
  cases admission with
  | Cancelled =>
    obtain ⟨hnewest, hprepare⟩ := prepare_cancel_subscription_eq_ok hprepare
    exact ⟨_, .withdrawn hadmits hnewest, hprepare⟩
  | Repeated => exact ⟨_, .reshown hadmits, hprepare⟩
  | Window token rows =>
    simp only [Except.bind_eq_ok_iff, Except.okOr_eq_ok_iff] at hprepare
    obtain ⟨current, hcurrent, windows, hinstall, hprepare⟩ := hprepare
    exact ⟨_, .shown hadmits hcurrent hinstall, hprepare⟩

/-- Every successful preparation follows one of the listed paths. -/
theorem effect_of_prepare {transition : Transition V}
    (hprepare : self.prepare_transition transition = .ok prepared) :
    ∃ next, Effect self.state transition next ∧ self.prepare next = .ok prepared := by
  cases transition with
  | Enqueue commit => exact effect_of_prepare_enqueue hprepare
  | PushResponse response policy => exact effect_of_prepare_push_response hprepare
  | ResolveConflict commit_id request => exact effect_of_prepare_resolve_conflict hprepare
  | PullResponse response => exact effect_of_prepare_pull_response hprepare
  | BootstrapSnapshot checkpoint records => exact effect_of_prepare_bootstrap_snapshot hprepare
  | StartSubscription request => exact effect_of_prepare_start_subscription hprepare
  | CancelSubscription id generation =>
    obtain ⟨hnewest, hprepare⟩ := prepare_cancel_subscription_eq_ok hprepare
    exact ⟨_, .cancelled hnewest, hprepare⟩
  | SubscriptionResponse response => exact effect_of_prepare_subscription_response hprepare

/-- A step is one effect followed by the stamping of its revision. -/
theorem Step.effect {before after : ClientRuntime V} {transition : Transition V}
    (hstep : Step before transition after) :
    ∃ next, Effect before.state transition next ∧ Stamped before.state next after.state := by
  obtain ⟨prepared, hprepare, hinstall⟩ := hstep
  obtain ⟨next, heffect, hnext⟩ := effect_of_prepare hprepare
  obtain ⟨_, hstate⟩ := ClientRuntime.install_eq_ok_iff.mp hinstall
  obtain ⟨_, hstamped⟩ := ClientRuntime.prepare_eq_ok_iff.mp hnext
  exact ⟨next, heffect, hstate ▸ hstamped⟩

end surrealdb_sync_client
