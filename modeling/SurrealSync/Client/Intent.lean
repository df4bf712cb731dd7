import SurrealSync.Basic.Evolves
import SurrealSync.Client.Effect
import SurrealSync.Client.Renaming
import SurrealSync.Client.Validity

open Std
open surrealdb_sync_protocol surrealdb_sync_protocol.subscription

namespace surrealdb_sync_client

variable {V : Type}

/-- Identities of the queued commits, in queue order. -/
def DurableClientState.pending (state : DurableClientState V) : List CommitIdentity :=
  state.outbox.map (·.identity)

/-- Identities of the commits with a recorded outcome, in the order recorded. -/
def DurableClientState.settled (state : DurableClientState V) : List CommitIdentity :=
  state.outcomes.map (·.local_commit.identity)

/-- What an outcome keeps for ever. Only the record id and the authoritative
record of a conflict may be rewritten. -/
def OutcomeKept : DurableOutcome V → DurableOutcome V → Prop
  | .Accepted identity sequence id_mappings, later => later = .Accepted identity sequence id_mappings
  | .Conflict identity _ _, later =>
    ∃ record_id authoritative, later = .Conflict identity record_id authoritative
  | .Rejected identity reason, later => later = .Rejected identity reason

/-- What a recorded commit keeps for ever: its identity and outcome, a decision
once taken, and its coverage by a reset once set. -/
structure Kept (earlier later : ResolvedCommit V) : Prop where
  identity : later.local_commit.identity = earlier.local_commit.identity
  outcome : OutcomeKept earlier.outcome later.outcome
  resolution : ∀ resolution, earlier.resolution = some resolution → later.resolution = some resolution
  covered : earlier.covered_by_reset → later.covered_by_reset

theorem OutcomeKept.refl (outcome : DurableOutcome V) : OutcomeKept outcome outcome := by
  cases outcome with
  | Accepted identity sequence id_mappings => exact rfl
  | Conflict identity record_id authoritative => exact ⟨record_id, authoritative, rfl⟩
  | Rejected identity reason => exact rfl

theorem OutcomeKept.trans {first second third : DurableOutcome V} (hfirst : OutcomeKept first second)
    (hsecond : OutcomeKept second third) : OutcomeKept first third := by
  cases first with
  | Accepted identity sequence id_mappings =>
    cases hfirst
    exact hsecond
  | Conflict identity record_id authoritative =>
    obtain ⟨_, _, rfl⟩ := hfirst
    exact hsecond
  | Rejected identity reason =>
    cases hfirst
    exact hsecond

theorem OutcomeKept.of_remap (outcome : DurableOutcome V) (mapping : IdMapping) :
    OutcomeKept outcome (remap_outcome outcome mapping) := by
  cases outcome with
  | Accepted identity sequence id_mappings => exact rfl
  | Conflict identity record_id authoritative => exact ⟨_, _, rfl⟩
  | Rejected identity reason => exact rfl

theorem OutcomeKept.of_rename (mappings : List IdMapping) (outcome : DurableOutcome V) :
    OutcomeKept outcome (rename_outcome mappings outcome) := by
  induction mappings generalizing outcome with
  | nil => exact .refl outcome
  | cons mapping mappings ih => exact (OutcomeKept.of_remap outcome mapping).trans (ih _)

theorem Kept.refl (resolved : ResolvedCommit V) : Kept resolved resolved where
  identity := rfl
  outcome := .refl _
  resolution := fun _ h => h
  covered := id

theorem Kept.trans {first second third : ResolvedCommit V} (hfirst : Kept first second)
    (hsecond : Kept second third) : Kept first third where
  identity := hsecond.identity.trans hfirst.identity
  outcome := hfirst.outcome.trans hsecond.outcome
  resolution := fun resolution h => hsecond.resolution resolution (hfirst.resolution resolution h)
  covered := fun h => hsecond.covered (hfirst.covered h)

theorem Kept.of_rename (mappings : List IdMapping) (resolved : ResolvedCommit V) :
    Kept resolved (rename_resolved mappings resolved) where
  identity := rename_commit_identity mappings resolved.local_commit
  outcome := .of_rename mappings resolved.outcome
  resolution := fun _ h => h
  covered := id

theorem Kept.of_cover (sameEpoch : Bool) (checkpoint : Checkpoint) (resolved : ResolvedCommit V) :
    Kept resolved (cover_outcome sameEpoch checkpoint resolved) := by
  unfold cover_outcome
  split
  · split
    · exact ⟨rfl, .refl _, fun _ h => h, fun _ => rfl⟩
    · exact .refl resolved
  · exact .refl resolved
  · exact .refl resolved

/-- A push response answers the commit whose id and fingerprint it carries. -/
def Transition.Answers (transition : Transition V) (identity : CommitIdentity) : Prop :=
  ∃ response policy, transition = .PushResponse response policy ∧ response.outcome.identity = identity

/-- The two sources of new commits: the application, and the replacement commit
of a conflict decision. -/
def Transition.Introduces (transition : Transition V) (identity : CommitIdentity) : Prop :=
  (∃ commit, transition = .Enqueue commit ∧ commit.identity = identity) ∨
    ∃ commit_id replacement,
      (transition = .ResolveConflict commit_id (.KeepLocal replacement) ∨
        transition = .ResolveConflict commit_id (.Merge replacement)) ∧
      replacement.identity = identity

/-- What one transition does to local intent. -/
structure Accounts (before : DurableClientState V) (transition : Transition V)
    (after : DurableClientState V) : Prop where
  outcomes : Evolves Kept before.outcomes after.outcomes
  answered : ∀ identity ∈ after.settled, identity ∉ before.settled →
    identity ∈ before.pending ∧ transition.Answers identity
  pending : ∃ entered, after.pending = before.pending.filter (· ∉ after.settled) ++ entered ∧
    ∀ identity ∈ entered, transition.Introduces identity

theorem DurableClientState.Valid.nodup_identities {state : DurableClientState V} (hvalid : state.Valid) :
    (state.pending ++ state.settled).Nodup := by
  apply List.Nodup.of_map CommitIdentity.client_commit_id
  simpa [DurableClientState.pending, DurableClientState.settled, Function.comp_def,
    DurableClientState.commit_ids] using hvalid.commit_ids

theorem DurableClientState.Valid.not_settled {state : DurableClientState V} (hvalid : state.Valid)
    {identity : CommitIdentity} (hpending : identity ∈ state.pending) : identity ∉ state.settled :=
  fun hsettled => List.disjoint_of_nodup_append hvalid.nodup_identities hpending hsettled

theorem DurableClientState.Valid.filter_not_settled {state : DurableClientState V}
    (hvalid : state.Valid) : state.pending.filter (· ∉ state.settled) = state.pending :=
  List.filter_eq_self.mpr fun _ hmem => decide_eq_true (hvalid.not_settled hmem)

theorem settled_of_evolves {before after : DurableClientState V}
    (hevolves : Evolves Kept before.outcomes after.outcomes) {identity : CommitIdentity}
    (hsettled : identity ∈ before.settled) : identity ∈ after.settled := by
  obtain ⟨resolved, hmem, rfl⟩ := List.mem_map.mp hsettled
  obtain ⟨later, hlater, hkept⟩ := hevolves.exists_of_mem hmem
  exact List.mem_map.mpr ⟨later, hlater, hkept.identity⟩

/-- A transition that settles nothing only adds to the end of the queue. -/
theorem Accounts.of_no_outcome_added {before after : DurableClientState V} {transition : Transition V}
    (hvalid : before.Valid) (entered : List (ClientCommit V))
    (houtbox : after.outbox = before.outbox ++ entered)
    (hentered : ∀ commit ∈ entered, transition.Introduces commit.identity)
    (houtcomes : Evolves Kept before.outcomes after.outcomes)
    (hlength : after.outcomes.length = before.outcomes.length) : Accounts before transition after := by
  have hsettled : after.settled = before.settled :=
    houtcomes.map_eq_of_length (fun _ _ hkept => hkept.identity) hlength
  constructor
  · exact houtcomes
  · exact fun identity hafter hbefore => absurd (hsettled ▸ hafter) hbefore
  · refine ⟨entered.map (·.identity), ?_, ?_⟩
    · rw [hsettled, hvalid.filter_not_settled]
      simp [DurableClientState.pending, houtbox]
    · intro identity hmem
      obtain ⟨commit, hcommit, rfl⟩ := List.mem_map.mp hmem
      exact hentered commit hcommit

theorem Accounts.of_unchanged {before after : DurableClientState V} {transition : Transition V}
    (hvalid : before.Valid) (houtbox : after.outbox = before.outbox)
    (houtcomes : after.outcomes = before.outcomes) : Accounts before transition after := by
  refine .of_no_outcome_added hvalid [] (by simp [houtbox]) (by simp) ?_ ?_
  · exact houtcomes ▸ Evolves.refl Kept.refl _
  · rw [houtcomes]

/-- Taking the commit of one identity out of the queue keeps all others in order. -/
theorem map_identity_eraseP {outbox : List (ClientCommit V)} (hnodup : (outbox.map (·.identity)).Nodup)
    (identity : CommitIdentity) :
    (outbox.eraseP fun commit => commit.identity = identity).map (·.identity) =
      (outbox.map (·.identity)).filter (· ≠ identity) := by
  have herase := hnodup.erase_eq_filter identity
  rw [List.erase_eq_eraseP', List.eraseP_map] at herase
  simpa [Function.comp_def, bne, beq_eq_decide] using herase

/-- A settled commit was queued before or was settled already, so only the
queue takes new commits. -/
theorem Accounts.introduces {before after : DurableClientState V} {transition : Transition V}
    (haccounts : Accounts before transition after) {identity : CommitIdentity}
    (hmem : identity ∈ after.pending ++ after.settled)
    (hnew : identity ∉ before.pending ++ before.settled) : transition.Introduces identity := by
  simp only [List.mem_append, not_or] at hmem hnew
  obtain ⟨entered, hpending, hentered⟩ := haccounts.pending
  rcases hmem with hmem | hmem
  · rw [hpending, List.mem_append] at hmem
    rcases hmem with hold | hnewer
    · exact absurd (List.mem_filter.mp hold).1 hnew.1
    · exact hentered identity hnewer
  · exact absurd (haccounts.answered identity hmem hnew.2).1 hnew.1

/-- The ledger between two states of a run: outcomes evolve in place, and the
queue keeps, in order, exactly what has not been settled, ahead of what entered
since. -/
structure Conserves (earlier later : DurableClientState V) : Prop where
  outcomes : Evolves Kept earlier.outcomes later.outcomes
  pending : ∃ entered, later.pending = earlier.pending.filter (· ∉ later.settled) ++ entered

theorem Conserves.refl {state : DurableClientState V} (hvalid : state.Valid) : Conserves state state where
  outcomes := .refl Kept.refl _
  pending := ⟨[], by rw [hvalid.filter_not_settled, List.append_nil]⟩

theorem Conserves.trans {first second third : DurableClientState V} (hfirst : Conserves first second)
    (hsecond : Conserves second third) : Conserves first third := by
  refine ⟨hfirst.outcomes.trans (fun _ _ _ h h' => h.trans h') hsecond.outcomes, ?_⟩
  obtain ⟨entered, hpending⟩ := hfirst.pending
  obtain ⟨later, hlater⟩ := hsecond.pending
  refine ⟨entered.filter (· ∉ third.settled) ++ later, ?_⟩
  rw [hlater, hpending, List.filter_append, List.append_assoc, List.filter_filter]
  congr 1
  -- what the first leg settled, the second leg keeps settled
  apply List.filter_congr
  intro identity _
  have hstays : identity ∈ second.settled → identity ∈ third.settled := settled_of_evolves hsecond.outcomes
  by_cases hthird : identity ∈ third.settled
  · simp [hthird]
  · simp [hthird, mt hstays hthird]

/-- No commit leaves both lists. -/
theorem Conserves.mem {earlier later : DurableClientState V} (hconserves : Conserves earlier later)
    {identity : CommitIdentity} (hmem : identity ∈ earlier.pending ++ earlier.settled) :
    identity ∈ later.pending ++ later.settled := by
  rw [List.mem_append]
  by_cases hsettled : identity ∈ later.settled
  · exact .inr hsettled
  · rcases List.mem_append.mp hmem with hpending | hearlier
    · obtain ⟨entered, hlater⟩ := hconserves.pending
      rw [hlater]
      exact .inl (List.mem_append_left _ (List.mem_filter.mpr ⟨hpending, decide_eq_true hsettled⟩))
    · exact absurd (settled_of_evolves hconserves.outcomes hearlier) hsettled

variable [DecidableEq V]

theorem Accounts.of_snapshot {before after : DurableClientState V} {transition : Transition V}
    {checkpoint : Checkpoint} {records : List (SnapshotRecord V)} (hvalid : before.Valid)
    (hreplaces : SnapshotReplaces before checkpoint records after) : Accounts before transition after := by
  obtain ⟨_, _, _, rfl⟩ := hreplaces.replaced
  refine .of_no_outcome_added hvalid [] (by simp) (by simp) ?_ (List.length_map _)
  exact Evolves.of_map fun resolved _ => Kept.of_cover _ _ resolved

theorem Accounts.of_record {before after : DurableClientState V} {response : PushResponse V}
    {policy : AutomaticConflictPolicy} {local_commit : ClientCommit V} (hvalid : before.Valid)
    (hfound : before.outbox.find? (fun commit => commit.identity = response.outcome.identity) =
      some local_commit)
    (hrecord : record_outcome before local_commit response.outcome policy = .ok after) :
    Accounts before (.PushResponse response policy) after := by
  obtain ⟨renamed, resolution, hrenamed, hafter⟩ := record_outcome_eq_ok hrecord
  obtain ⟨applied, _, houtbox, houtcomes⟩ := hrenamed.renamed
  have hidentity : local_commit.identity = response.outcome.identity := by
    simpa using List.find?_some hfound
  have hpending : response.outcome.identity ∈ before.pending :=
    List.mem_map.mpr ⟨local_commit, List.mem_of_find?_eq_some hfound, hidentity⟩
  have hsettled (identity : CommitIdentity) :
      identity ∈ after.settled ↔ identity ∈ before.settled ∨ identity = response.outcome.identity := by
    simp [hafter, houtcomes, DurableClientState.settled, rename_resolved, hidentity, eq_comm]
  constructor
  · rw [hafter, houtcomes]
    exact (Evolves.of_map fun resolved _ => Kept.of_rename applied resolved).append _
  · intro identity hmem hbefore
    rcases (hsettled identity).mp hmem with hbefore' | rfl
    · exact absurd hbefore' hbefore
    · exact ⟨hpending, response, policy, rfl, rfl⟩
  · refine ⟨[], ?_, by simp⟩
    have hnodup : before.pending.Nodup := (List.nodup_append.mp hvalid.nodup_identities).1
    calc after.pending
        = (before.outbox.eraseP fun commit => commit.identity = response.outcome.identity).map
            (·.identity) := by simp [hafter, houtbox, DurableClientState.pending, Function.comp_def]
      _ = before.pending.filter (· ≠ response.outcome.identity) := map_identity_eraseP hnodup _
      _ = before.pending.filter (· ∉ after.settled) ++ [] := by
        rw [List.append_nil]
        apply List.filter_congr
        intro identity hmem
        exact decide_eq_decide.mpr (by simp [hsettled, hvalid.not_settled hmem])

theorem Accounts.of_decide {before after : DurableClientState V} {commit_id : ClientCommitId}
    {request : ConflictResolutionRequest V} {resolved : ResolvedCommit V} {record_id : RecordId}
    {authoritative : RecordState V} (hvalid : before.Valid)
    (hfound : before.outcomes.find? (conflicted commit_id) = some resolved)
    (hopen : resolved.resolution = none)
    (hdecide : decide_conflict before (before.outcomes.findIdx (conflicted commit_id)) resolved
      record_id authoritative request = .ok after) :
    Accounts before (.ResolveConflict commit_id request) after := by
  obtain ⟨hafter, _⟩ := decide_conflict_eq_ok hdecide
  have hentry : before.outcomes[before.outcomes.findIdx (conflicted commit_id)]? = some resolved := by
    rw [← hfound, List.find?_eq_getElem?_findIdx]
  have hkept : Kept resolved { resolved with resolution := some request.resolution } :=
    ⟨rfl, .refl _, by simp [hopen], id⟩
  refine .of_no_outcome_added hvalid request.replacement.toList (by rw [hafter]) ?_ ?_ ?_
  · intro replacement hmem
    refine .inr ⟨commit_id, replacement, ?_, rfl⟩
    cases request with
    | KeepServer => cases hmem
    | KeepLocal commit =>
      cases List.mem_singleton.mp hmem
      exact .inl rfl
    | Merge commit =>
      cases List.mem_singleton.mp hmem
      exact .inr rfl
  · rw [hafter]
    apply Evolves.of_modify Kept.refl
    intro other hother
    cases hentry.symm.trans hother
    exact hkept
  · rw [hafter, List.length_modify]

/-- Every effect accounts for local intent. -/
theorem Effect.accounts {before next : DurableClientState V} {transition : Transition V}
    (hvalid : before.Valid) (heffect : Effect before transition next) :
    Accounts before transition next := by
  cases heffect with
  | @enqueued commit _ =>
    refine .of_no_outcome_added hvalid [commit] rfl ?_ (Evolves.refl Kept.refl _) rfl
    intro other hother
    exact .inl ⟨commit, rfl, congrArg _ (List.mem_singleton.mp hother).symm⟩
  | recorded hfound hrecord => exact .of_record hvalid hfound hrecord
  | decided hfound hopen _ hdecide => exact .of_decide hvalid hfound hopen hdecide
  | reset hreplaces => exact .of_snapshot hvalid hreplaces
  | bootstrapped _ _ hreplaces => exact .of_snapshot hvalid hreplaces
  | _ => exact .of_unchanged hvalid rfl rfl

theorem Step.accounts {before after : ClientRuntime V} {transition : Transition V}
    (hstep : Step before transition after) : Accounts before.state transition after.state := by
  obtain ⟨next, heffect, hstamped⟩ := hstep.effect
  obtain ⟨outcomes, answered, pending⟩ := heffect.accounts before.is_valid
  obtain ⟨_, hafter⟩ := hstamped.exists_revision
  rw [hafter]
  exact ⟨outcomes, answered, pending⟩

theorem Run.conserves {earlier later : ClientRuntime V}
    {edges : List (Trace.Edge (ClientRuntime V) (Transition V))} (hrun : Run earlier edges later) :
    Conserves earlier.state later.state := by
  induction hrun with
  | nil runtime => exact .refl runtime.is_valid
  | cons hstep _ ih =>
    obtain ⟨entered, hpending, _⟩ := hstep.accounts.pending
    exact Conserves.trans ⟨hstep.accounts.outcomes, entered, hpending⟩ ih

/-- Local intent between two states of a run: what was there stays, each
identity once, in order; it moves and enters only as the edges in between say. -/
structure IntentConserved (earlier : DurableClientState V)
    (edges : List (Trace.Edge (ClientRuntime V) (Transition V))) (later : DurableClientState V) : Prop where
  once : ∀ identity ∈ earlier.pending ++ earlier.settled,
    (later.pending ++ later.settled).count identity = 1
  settled : ∀ identity ∈ earlier.settled, identity ∈ later.settled
  moves : ∀ edge ∈ edges, ∀ identity ∈ edge.source.state.pending,
    identity ∈ edge.target.state.settled → edge.label.Answers identity
  queue_order : ∃ entered, later.pending = earlier.pending.filter (· ∉ later.settled) ++ entered
  enters : ∀ edge ∈ edges, ∀ identity ∈ edge.target.state.pending ++ edge.target.state.settled,
    identity ∉ edge.source.state.pending ++ edge.source.state.settled → edge.label.Introduces identity
  outcomes : Evolves Kept earlier.outcomes later.outcomes

/-- No transition loses, duplicates or reorders local intent, from any opened
state on. -/
theorem intent_conserved {earlier later : ClientRuntime V}
    {edges : List (Trace.Edge (ClientRuntime V) (Transition V))} (hrun : Run earlier edges later) :
    IntentConserved earlier.state edges later.state where
  once := fun identity hmem =>
    List.count_eq_one_of_mem later.is_valid.nodup_identities (hrun.conserves.mem hmem)
  settled := fun _ hmem => settled_of_evolves hrun.conserves.outcomes hmem
  moves := by
    intro edge hedge identity hpending hsettled
    have hstep := hrun.step_of_mem hedge
    exact (hstep.accounts.answered identity hsettled (edge.source.is_valid.not_settled hpending)).2
  queue_order := hrun.conserves.pending
  enters := by
    intro edge hedge identity hmem hnew
    exact (hrun.step_of_mem hedge).accounts.introduces hmem hnew
  outcomes := hrun.conserves.outcomes

namespace transitions

/-- A conflict decided after the queue was renamed: the run settles one commit,
keeps the other and queues the replacement. -/
theorem intent_conserved_after_rename :
    ∃ (earlier later : ClientRuntime String)
      (edges : List (Trace.Edge (ClientRuntime String) (Transition String))),
      earlier.state.pending = [identity "one", identity "two"] ∧
      later.state.pending = [identity "three"] ∧
      later.state.settled = [identity "one", identity "two"] ∧
      IntentConserved earlier.state edges later.state := by
  have hexecute : (do
      let (_, earlier) ← opened.execute [
        .Enqueue (commit "one" [upsert "temp" "a" none]),
        .Enqueue (commit "two" [upsert "temp" "b" none])]
      let (_, later) ← earlier.execute [
        .PushResponse (push_response (.Conflict (identity "one") ⟨"temp"⟩ .Absent)) .Manual,
        .PushResponse (push_response (.Accepted (identity "two") 1 [⟨⟨"temp"⟩, ⟨"server"⟩⟩])) .Manual,
        .ResolveConflict ⟨"one"⟩ (.KeepLocal (commit "three" [upsert "server" "a" none]))]
      Except.refuse (¬ (earlier.state.pending = [identity "one", identity "two"] ∧
        later.state.pending = [identity "three"] ∧
        later.state.settled = [identity "one", identity "two"])) ClientError.EmptyCommit) = .ok () := by
    decide
  simp only [Except.bind_eq_ok_iff, Except.refuse_eq_ok_iff, not_not] at hexecute
  obtain ⟨⟨_, earlier⟩, _, ⟨edges, later⟩, hlater, hearlier, hpending, hsettled⟩ := hexecute
  exact ⟨earlier, later, edges, hearlier, hpending, hsettled, intent_conserved (run_of_execute hlater)⟩

end transitions

end surrealdb_sync_client
