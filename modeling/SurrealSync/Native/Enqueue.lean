import SurrealSync.Basic.Decimal
import SurrealSync.Client.Decisions
import SurrealSync.Native.Queue
import SurrealSync.Native.Recording

open Std Except
open surrealdb_sync_protocol surrealdb_sync_protocol.subscription surrealdb_sync_protocol.canonical
open surrealdb_sync_client

namespace surrealdb_rn_core.sync_client

open sync_codec sync_queue

structure NativeSyncStatus where
  revision : UInt64
  pending_count : UInt32
  outcome_count : UInt32
  conflict_count : UInt32
  cursor_epoch : Option UInt64
  cursor_sequence : Option UInt64
deriving DecidableEq

/-- Rust's `u32::try_from` of a length. -/
def try_from (length : Nat) : NativeResult UInt32 :=
  if length < 2 ^ 32 then .ok (.ofNat length) else .error .Internal

variable {V : Type}

def status [DecidableEq V] (runtime : ClientRuntime V) : NativeResult NativeSyncStatus := do
  let state := runtime.state
  let pending_count ← try_from state.outbox.length
  let outcome_count ← try_from state.outcomes.length
  let conflict_count ← try_from (state.outcomes.filter fun resolved => resolved.IsOpenConflict).length
  let cursor := state.checkpoint.map (·.cursor)
  return {
    revision := state.revision
    pending_count
    outcome_count
    conflict_count
    cursor_epoch := cursor.map (·.epoch)
    cursor_sequence := cursor.map (·.sequence) }

variable [DecidableEq V] (codec : Codec V) (json : JsonWriter (ClientCommit V))

/-- `persist_and_install` over a store that takes every state, with the status it returns. -/
def persist_and_install (runtime : ClientRuntime V) (prepared : PreparedTransition V) :
    NativeResult (ClientRuntime V × NativeSyncStatus) := do
  validate_state_codec codec prepared.state
  let runtime ← map_err (runtime.install prepared) fun _ => .RecoveryRequired
  let status ← map_err (status runtime) fun _ => .RecoveryRequired
  return (runtime, status)

/-- Looks the commit id up in the queue, then among the outcomes. -/
def prior_commit (state : DurableClientState V) (commit_id : ClientCommitId) : Option (ClientCommit V) :=
  state.commits.find? fun commit => commit.identity.client_commit_id = commit_id

/-- A retry is answered from history; any other commit has to fit into the queue. -/
def enqueue_fingerprinted (runtime : ClientRuntime V) (commit : ClientCommit V) (count bytes : UInt32) :
    NativeResult (ClientRuntime V × NativeSyncStatus) :=
  match prior_commit runtime.state commit.identity.client_commit_id with
  | some prior =>
    if prior ≠ commit then .error .Protocol
    else do return (runtime, ← status runtime)
  | none => do
    admits json runtime.state.outbox commit count bytes
    let prepared ← map_err (runtime.prepare_enqueue commit) map_protocol_error
    persist_and_install codec runtime prepared

def enqueue_bounded (runtime : ClientRuntime V) (commit : ClientCommit V) (count bytes : UInt32) :
    NativeResult (ClientRuntime V × NativeSyncStatus) := do
  limits count bytes
  let commit ← fingerprinted codec runtime.state commit
  enqueue_fingerprinted codec json runtime commit count bytes

/-- The calls that can change an open client. -/
inductive FacadeCall (V : Type) where
  | call (call : NativeCall V)
  | enqueue_bounded (commit : ClientCommit V) (count bytes : UInt32)
  | complete_bootstrap (checkpoint : Checkpoint) (records : List (SnapshotRecord V))

/-- A successful call and the client it leaves. -/
def FacadeStep (before : ClientRuntime V) (call : FacadeCall V) (after : ClientRuntime V) : Prop :=
  match call with
  | .call call => ∃ prepared status, prepare codec before call = .ok prepared ∧
    persist_and_install codec before prepared = .ok (after, status)
  | .enqueue_bounded commit count bytes => ∃ status,
    enqueue_bounded codec json before commit count bytes = .ok (after, status)
  | .complete_bootstrap checkpoint records => Step before (.BootstrapSnapshot checkpoint records) after

abbrev FacadeRun (first : ClientRuntime V) (edges : List (Trace.Edge (ClientRuntime V) (FacadeCall V)))
    (last : ClientRuntime V) : Prop :=
  Trace.Run (FacadeStep codec json) first edges last

/-- The id mappings that a call is the first to bring. -/
def FacadeCall.new_mappings (state : DurableClientState V) : FacadeCall V → List IdMapping
  | .call (.record_push_response response policy) =>
    surrealdb_sync_client.new_mappings state (.PushResponse response policy)
  | _ => []

/-- The counts of the status fit. -/
def Countable (state : DurableClientState V) : Prop :=
  state.outbox.length < 2 ^ 32 ∧ state.outcomes.length < 2 ^ 32

variable {codec json} {before after : ClientRuntime V}

theorem try_from_eq_ok_iff {length : Nat} :
    (∃ count, try_from length = .ok count) ↔ length < 2 ^ 32 := by
  unfold try_from
  by_cases hfits : length < 2 ^ 32
  · rw [if_pos hfits]
    exact iff_of_true ⟨_, rfl⟩ hfits
  · rw [if_neg hfits]
    exact iff_of_false (by simp) hfits

theorem status_eq_ok_iff {runtime : ClientRuntime V} :
    (∃ result, status runtime = .ok result) ↔ Countable runtime.state := by
  constructor
  · rintro ⟨result, hstatus⟩
    obtain ⟨pending_count, hpending, hstatus⟩ := bind_eq_ok_iff.mp hstatus
    obtain ⟨outcome_count, houtcomes, _⟩ := bind_eq_ok_iff.mp hstatus
    exact ⟨try_from_eq_ok_iff.mp ⟨_, hpending⟩, try_from_eq_ok_iff.mp ⟨_, houtcomes⟩⟩
  · rintro ⟨hpending, houtcomes⟩
    have hconflicts : (runtime.state.outcomes.filter fun resolved => resolved.IsOpenConflict).length < 2 ^ 32 :=
      Nat.lt_of_le_of_lt (List.length_filter_le _ _) houtcomes
    obtain ⟨pending_count, hpending⟩ := try_from_eq_ok_iff.mpr hpending
    obtain ⟨outcome_count, houtcomes⟩ := try_from_eq_ok_iff.mpr houtcomes
    obtain ⟨conflict_count, hconflicts⟩ := try_from_eq_ok_iff.mpr hconflicts
    exact ⟨_, bind_eq_ok_iff.mpr ⟨_, hpending, bind_eq_ok_iff.mpr ⟨_, houtcomes,
      bind_eq_ok_iff.mpr ⟨_, hconflicts, rfl⟩⟩⟩⟩

theorem persist_and_install_eq_ok {prepared : PreparedTransition V} {result : NativeSyncStatus}
    (hpersist : persist_and_install codec before prepared = .ok (after, result)) :
    before.install prepared = .ok after ∧ Countable after.state := by
  obtain ⟨_, _, hpersist⟩ := bind_eq_ok_iff.mp hpersist
  obtain ⟨installed, hinstall, hpersist⟩ := bind_eq_ok_iff.mp hpersist
  obtain ⟨counted, hstatus, heq⟩ := bind_eq_ok_iff.mp hpersist
  cases heq
  exact ⟨map_err_eq_ok_iff.mp hinstall, status_eq_ok_iff.mp ⟨_, map_err_eq_ok_iff.mp hstatus⟩⟩

omit [DecidableEq V] in
theorem fingerprinted_congr {state next : DurableClientState V} (hpartition : next.partition_id = state.partition_id)
    (hclient : next.client_id = state.client_id) (commit : ClientCommit V) :
    fingerprinted codec next commit = fingerprinted codec state commit := by
  unfold fingerprinted canonical_fingerprint
  rw [hpartition, hclient]

omit [DecidableEq V] in
/-- Only the fingerprint of the commit is set. -/
theorem fingerprinted_spec {state : DurableClientState V} {commit later : ClientCommit V}
    (hlater : fingerprinted codec state commit = .ok later) :
    later.operations = commit.operations ∧
      later.identity.client_commit_id = commit.identity.client_commit_id := by
  obtain ⟨fingerprint, _, heq⟩ := bind_eq_ok_iff.mp hlater
  cases heq
  exact ⟨rfl, rfl⟩

omit [DecidableEq V] in
/-- A commit contains what its operations mention. -/
theorem commit_contains_id_congr {commit later : ClientCommit V} (hsame : later.operations = commit.operations)
    (record_id : RecordId) : commit_contains_id later record_id ↔ commit_contains_id commit record_id := by
  unfold commit_contains_id
  rw [hsame]

omit [DecidableEq V] in
theorem prior_commit_of_mem {state : DurableClientState V} (hvalid : state.Valid) {commit : ClientCommit V}
    (hmem : commit ∈ state.commits) : prior_commit state commit.identity.client_commit_id = some commit := by
  have hnodup : (state.commits.map (·.identity.client_commit_id)).Nodup := by
    simpa [DurableClientState.commits, DurableClientState.commit_ids, Function.comp_def] using hvalid.commit_ids
  have hfound : (prior_commit state commit.identity.client_commit_id).isSome :=
    List.find?_isSome.mpr ⟨commit, hmem, by simp⟩
  obtain ⟨prior, hprior⟩ := Option.isSome_iff_exists.mp hfound
  have hid := List.find?_some hprior
  rw [decide_eq_true_eq] at hid
  rw [hprior, List.inj_on_of_nodup_map hnodup (List.mem_of_find?_eq_some hprior) hmem hid]

/-- What a successful bounded enqueue leaves behind: the client as it was, or one step further. -/
theorem enqueue_bounded_eq_ok {commit : ClientCommit V} {count bytes : UInt32} {result : NativeSyncStatus}
    (henqueue : enqueue_bounded codec json before commit count bytes = .ok (after, result)) :
    Countable after.state ∧ ∃ later, fingerprinted codec before.state commit = .ok later ∧
      later ∈ after.state.commits ∧ (after = before ∨ Step before (.Enqueue later) after) := by
  obtain ⟨_, _, henqueue⟩ := bind_eq_ok_iff.mp henqueue
  obtain ⟨later, hlater, henqueue⟩ := bind_eq_ok_iff.mp henqueue
  unfold enqueue_fingerprinted at henqueue
  split at henqueue
  · rename_i prior hprior
    split at henqueue
    · cases henqueue
    · rename_i hsame
      rw [not_not] at hsame
      subst hsame
      obtain ⟨counted, hstatus, heq⟩ := bind_eq_ok_iff.mp henqueue
      cases heq
      exact ⟨status_eq_ok_iff.mp ⟨_, hstatus⟩, prior, hlater, List.mem_of_find?_eq_some hprior, .inl rfl⟩
  · obtain ⟨_, _, henqueue⟩ := bind_eq_ok_iff.mp henqueue
    obtain ⟨prepared, hprepare, hpersist⟩ := bind_eq_ok_iff.mp henqueue
    obtain ⟨hinstall, hcountable⟩ := persist_and_install_eq_ok hpersist
    have hstep : Step before (.Enqueue later) after := ⟨prepared, map_err_eq_ok_iff.mp hprepare, hinstall⟩
    refine ⟨hcountable, later, hlater, ?_, .inr hstep⟩
    obtain ⟨next, heffect, hstamped⟩ := hstep.effect
    obtain ⟨_, hafter⟩ := hstamped.exists_revision
    cases heffect
    rw [hafter]
    simp [DurableClientState.commits]

/-- What a call does to the commits: it renames them by the mappings it brings. -/
theorem FacadeStep.renames {call : FacadeCall V} (hstep : FacadeStep codec json before call after) :
    RenamesBy (call.new_mappings before.state) before.state after.state := by
  have hsame : RenamesBy [] before.state before.state :=
    .of_same (Evolves.refl SameReceipt.refl _) (fun _ hmem => hmem) rfl ⟨rfl, rfl⟩
  cases call with
  | call call =>
    obtain ⟨prepared, _, hprepare, hpersist⟩ := hstep
    obtain ⟨transition, htransition, _, hcall⟩ := transition_of_prepare hprepare
    have hrenames := Step.renames ⟨prepared, htransition, (persist_and_install_eq_ok hpersist).1⟩
    by_cases hpush : ∃ response policy, call = .record_push_response response policy
    · obtain ⟨response, policy, rfl⟩ := hpush
      obtain rfl := (hcall response policy).mpr rfl
      exact hrenames
    · have hother : ∀ response policy, transition ≠ .PushResponse response policy :=
        fun response policy heq => hpush ⟨response, policy, (hcall response policy).mp heq⟩
      have hnone : surrealdb_sync_client.new_mappings before.state transition = [] := by
        cases transition with
        | PushResponse response policy => exact absurd rfl (hother response policy)
        | _ => rfl
      have hnone' : (FacadeCall.call call).new_mappings before.state = [] := by
        cases call with
        | record_push_response response policy => exact absurd ⟨response, policy, rfl⟩ hpush
        | _ => rfl
      rw [hnone']
      rwa [hnone] at hrenames
  | enqueue_bounded commit count bytes =>
    obtain ⟨_, henqueue⟩ := hstep
    obtain ⟨_, later, _, _, rfl | hstep⟩ := enqueue_bounded_eq_ok henqueue
    · exact hsame
    · exact hstep.renames
  | complete_bootstrap checkpoint records => exact Step.renames hstep

theorem FacadeStep.countable {call : FacadeCall V} (hstep : FacadeStep codec json before call after)
    (hcountable : Countable before.state) : Countable after.state := by
  cases call with
  | call call =>
    obtain ⟨prepared, _, _, hpersist⟩ := hstep
    exact (persist_and_install_eq_ok hpersist).2
  | enqueue_bounded commit count bytes =>
    obtain ⟨_, henqueue⟩ := hstep
    exact (enqueue_bounded_eq_ok henqueue).1
  | complete_bootstrap checkpoint records =>
    obtain ⟨next, heffect, hstamped⟩ := Step.effect hstep
    obtain ⟨_, hafter⟩ := hstamped.exists_revision
    cases heffect with
    | bootstrapped _ _ hreplaces =>
      obtain ⟨_, _, _, rfl⟩ := hreplaces.replaced
      rw [hafter]
      exact ⟨hcountable.1, by simpa [Countable] using hcountable.2⟩

/-- The commit can be submitted again within any limits, and no other content under its id. -/
structure RetrySafe (codec : Codec V) (json : JsonWriter (ClientCommit V)) (runtime : ClientRuntime V)
    (commit : ClientCommit V) : Prop where
  again : ∀ count bytes, limits count bytes = .ok () →
    ∃ result, status runtime = .ok result ∧
      enqueue_bounded codec json runtime commit count bytes = .ok (runtime, result)
  refused : ∀ other count bytes, other.identity.client_commit_id = commit.identity.client_commit_id →
    other.operations ≠ commit.operations →
      ∃ error, enqueue_bounded codec json runtime other count bytes = .error error

/-- A commit that is kept as it was submitted is recognised by its id and content. -/
theorem retrySafe_of_mem {runtime : ClientRuntime V} (hcountable : Countable runtime.state)
    {commit later : ClientCommit V} (hlater : fingerprinted codec runtime.state commit = .ok later)
    (hmem : later ∈ runtime.state.commits) : RetrySafe codec json runtime commit := by
  have hprior := prior_commit_of_mem runtime.is_valid hmem
  obtain ⟨hoperations, hid⟩ := fingerprinted_spec hlater
  constructor
  · intro count bytes hlimits
    obtain ⟨result, hstatus⟩ := status_eq_ok_iff.mpr hcountable
    refine ⟨result, hstatus, bind_eq_ok_iff.mpr ⟨(), hlimits, bind_eq_ok_iff.mpr ⟨later, hlater, ?_⟩⟩⟩
    simp [enqueue_fingerprinted, hprior, hstatus]
  · intro other count bytes hother hdifferent
    refine exists_error fun result henqueue => ?_
    obtain ⟨_, _, henqueue⟩ := bind_eq_ok_iff.mp henqueue
    obtain ⟨submitted, hsubmitted, henqueue⟩ := bind_eq_ok_iff.mp henqueue
    obtain ⟨hoperations', hid'⟩ := fingerprinted_spec hsubmitted
    rw [enqueue_fingerprinted, hid', hother, ← hid, hprior] at henqueue
    have hne : later ≠ submitted := by
      rintro rfl
      exact hdifferent (hoperations'.symm.trans hoperations)
    simp [hne] at henqueue

variable {first last : ClientRuntime V} {edges : List (Trace.Edge (ClientRuntime V) (FacadeCall V))}

theorem FacadeRun.envelope (hrun : FacadeRun codec json first edges last) :
    last.state.partition_id = first.state.partition_id ∧ last.state.client_id = first.state.client_id := by
  refine hrun.relates (R := fun earlier later : ClientRuntime V =>
    later.state.partition_id = earlier.state.partition_id ∧ later.state.client_id = earlier.state.client_id)
    (fun _ => ⟨rfl, rfl⟩) ?_ fun _ _ _ hstep => hstep.renames.envelope
  rintro s t u ⟨hpartition, hclient⟩ ⟨hpartition', hclient'⟩
  exact ⟨hpartition'.trans hpartition, hclient'.trans hclient⟩

theorem FacadeRun.countable (hrun : FacadeRun codec json first edges last)
    (hcountable : Countable first.state) : Countable last.state :=
  hrun.preserves (P := fun runtime => Countable runtime.state)
    (fun _ _ _ hstep hcountable => hstep.countable hcountable) hcountable

/-- A commit that no later mapping touches is kept as it is, wherever it goes. -/
theorem FacadeRun.commit_stays (hrun : FacadeRun codec json first edges last) {commit : ClientCommit V}
    (huntouched : ∀ edge ∈ edges, ∀ mapping ∈ edge.label.new_mappings edge.source.state,
      ¬ commit_contains_id commit mapping.local_id)
    (hmem : commit ∈ first.state.commits) : commit ∈ last.state.commits := by
  refine hrun.preserves_along (P := fun runtime => commit ∈ runtime.state.commits) ?_ hmem
  intro edge hedge hmem
  obtain ⟨applied, happlied, hrenamed⟩ := (hrun.step_of_mem hedge).renames.commits commit hmem
  rwa [rename_commit_of_not_contains] at hrenamed
  exact fun mapping hmapping => huntouched edge hedge mapping (happlied hmapping)

/-- The local id of a mapping that some call of a run brought is mapped at its end. -/
theorem FacadeRun.mapped_of_edge (hrun : FacadeRun codec json first edges last)
    {edge : Trace.Edge (ClientRuntime V) (FacadeCall V)} (hedge : edge ∈ edges) {mapping : IdMapping}
    (hmapping : mapping ∈ edge.label.new_mappings edge.source.state) :
    mapping.local_id ∈ last.state.id_map := by
  obtain ⟨earlier, later, rfl⟩ := List.append_of_mem hedge
  obtain ⟨_, hstep, hrest⟩ := hrun.split_edge
  exact hrest.preserves (P := fun runtime => mapping.local_id ∈ runtime.state.id_map)
    (fun _ _ _ hstep hmem => hstep.renames.retained _ hmem) (hstep.renames.mapped mapping hmapping)

/-- After its bounded enqueue a commit can be submitted again without effect, and nothing else under
its id, exactly as long as no newly accepted mapping names a record that the commit mentions. -/
theorem bounded_enqueue_retry_iff {commit : ClientCommit V} {count bytes : UInt32} {result : NativeSyncStatus}
    (henqueue : enqueue_bounded codec json before commit count bytes = .ok (first, result))
    (hrun : FacadeRun codec json first edges last) :
    RetrySafe codec json last commit ↔
      ∀ edge ∈ edges, ∀ mapping ∈ edge.label.new_mappings edge.source.state,
        ¬ commit_contains_id commit mapping.local_id := by
  have hstep : FacadeStep codec json before (.enqueue_bounded commit count bytes) first := ⟨result, henqueue⟩
  obtain ⟨hcountable, later, hlater, hmem, _⟩ := enqueue_bounded_eq_ok henqueue
  obtain ⟨hoperations, _⟩ := fingerprinted_spec hlater
  have henvelope := FacadeRun.envelope (.cons hstep hrun)
  rw [← fingerprinted_congr henvelope.1 henvelope.2] at hlater
  constructor
  · rintro ⟨hagain, _⟩ edge hedge mapping hmapping hcontains
    -- whatever a retry is recognised by is stored, and stored commits mention no mapped id
    obtain ⟨_, _, hretry⟩ := hagain 1 2 (by decide)
    obtain ⟨_, stored, hstored, hkept, _⟩ := enqueue_bounded_eq_ok hretry
    rw [hlater, ok.injEq] at hstored
    subst hstored
    refine last.is_valid.commits_unmapped (FacadeRun.mapped_of_edge hrun hedge hmapping) hkept ?_
    exact (commit_contains_id_congr hoperations _).mpr hcontains
  · intro huntouched
    refine retrySafe_of_mem (FacadeRun.countable hrun hcountable) hlater
      (FacadeRun.commit_stays hrun (fun edge hedge mapping hmapping => ?_) hmem)
    rw [commit_contains_id_congr hoperations]
    exact huntouched edge hedge mapping hmapping

/-! The JSON of commits over texts without control characters. -/

def json_string (text : String) : String :=
  "\"" ++ .ofList (text.toList.flatMap fun c => if c = '"' ∨ c = '\\' then ['\\', c] else [c]) ++ "\""

def json_object (fields : List (String × String)) : String :=
  "\x7b" ++ ",".intercalate (fields.map fun (key, value) => json_string key ++ ":" ++ value) ++ "\x7d"

def json_operation : Operation String → String
  | .Upsert record_id base_version value reference => json_object [("kind", json_string "upsert"),
    ("record_id", json_string record_id.val),
    ("base_version", match base_version with
      | .Absent => json_string "absent"
      | .Exact version => json_object [("exact", version.to_string)]),
    ("value", json_string value),
    ("reference", match reference with
      | none => "null"
      | some record_id => json_string record_id.val)]
  | .Delete record_id base_version => json_object [("kind", json_string "delete"),
    ("record_id", json_string record_id.val), ("base_version", base_version.to_string)]

def text_json : JsonWriter (ClientCommit String) where
  item commit := some (json_object [
    ("identity", json_object [("clientCommitId", json_string commit.identity.client_commit_id.val),
      ("fingerprint", json_string commit.identity.fingerprint.val)]),
    ("operations", "[" ++ ",".intercalate (commit.operations.map json_operation) ++ "]")])
  string := json_string

open transitions in
/-- One commit fills the queue, and is accepted with these mappings. -/
def filled (mappings : List IdMapping) :
    NativeResult (ClientRuntime String × NativeCall String × ClientRuntime String) := do
  let (first, _) ← enqueue_bounded text_codec text_json opened (commit "one" [upsert "temp" "a" none]) 1 65536
  let queued ← okOr first.state.outbox.head? .Protocol
  let call : NativeCall String :=
    .record_push_response (push_response (.Accepted queued.identity 1 mappings)) .Manual
  let prepared ← prepare text_codec first call
  let (last, _) ← persist_and_install text_codec first prepared
  return (first, call, last)

open transitions in
theorem run_of_filled {mappings : List IdMapping} {first last : ClientRuntime String} {call : NativeCall String}
    (hfilled : filled mappings = .ok (first, call, last)) :
    (∃ result, enqueue_bounded text_codec text_json opened (commit "one" [upsert "temp" "a" none]) 1 65536 =
      .ok (first, result)) ∧
    FacadeRun text_codec text_json first [⟨first, .call call, last⟩] last ∧
    (FacadeCall.call call).new_mappings first.state ⊆ mappings := by
  obtain ⟨⟨enqueued, result⟩, henqueue, hfilled⟩ := bind_eq_ok_iff.mp hfilled
  obtain ⟨queued, _, hfilled⟩ := bind_eq_ok_iff.mp hfilled
  obtain ⟨prepared, hprepare, hfilled⟩ := bind_eq_ok_iff.mp hfilled
  obtain ⟨⟨installed, status⟩, hpersist, heq⟩ := bind_eq_ok_iff.mp hfilled
  cases heq
  refine ⟨⟨result, henqueue⟩, .cons ⟨prepared, status, hprepare, hpersist⟩ (.nil _), ?_⟩
  rw [FacadeCall.new_mappings, surrealdb_sync_client.new_mappings]
  by_cases hpending : (push_response (.Accepted queued.identity 1 mappings)).outcome.identity ∈ first.state.pending
  · rw [if_pos hpending]
    exact List.Subset.refl mappings
  · rw [if_neg hpending]
    exact List.nil_subset mappings

open transitions in
/-- The record is accepted under the id it had. -/
theorem bounded_enqueue_retry_iff_accepted :
    ∃ last : ClientRuntime String, last.state.outcomes.length = 1 ∧
      RetrySafe text_codec text_json last (commit "one" [upsert "temp" "a" none]) := by
  have hexecute : (do
      let (_, _, last) ← filled []
      refuse (last.state.outcomes.length ≠ 1) .Internal : NativeResult Unit) = .ok () := by
    decide +kernel
  simp only [bind_eq_ok_iff, refuse_eq_ok_iff, ne_eq, not_not] at hexecute
  obtain ⟨⟨first, call, last⟩, hfilled, hlength⟩ := hexecute
  obtain ⟨⟨result, henqueue⟩, hrun, hmappings⟩ := run_of_filled hfilled
  refine ⟨last, hlength, (bounded_enqueue_retry_iff henqueue hrun).mpr ?_⟩
  intro edge hedge mapping hmapping
  cases List.mem_singleton.mp hedge
  cases hmappings hmapping

open transitions in
/-- The record gets its server id with the acceptance, and the commit is submitted once more. -/
theorem retry_refused_after_own_mapping :
    ¬ ∀ (codec : Codec String) (json : JsonWriter (ClientCommit String)) (before first last : ClientRuntime String)
      (commit : ClientCommit String) (count bytes : UInt32) (result : NativeSyncStatus)
      (edges : List (Trace.Edge (ClientRuntime String) (FacadeCall String))),
      enqueue_bounded codec json before commit count bytes = .ok (first, result) →
      FacadeRun codec json first edges last → RetrySafe codec json last commit := by
  have hexecute : (do
      let (_, _, last) ← filled [⟨⟨"temp"⟩, ⟨"server"⟩⟩]
      refuse (enqueue_bounded text_codec text_json last (commit "one" [upsert "temp" "a" none]) 1 65536).isOk
        .Internal : NativeResult Unit) = .ok () := by
    decide +kernel
  simp only [bind_eq_ok_iff, refuse_eq_ok_iff] at hexecute
  obtain ⟨⟨first, call, last⟩, hfilled, hrefused⟩ := hexecute
  obtain ⟨⟨result, henqueue⟩, hrun, _⟩ := run_of_filled hfilled
  intro hclaim
  obtain ⟨_, _, hagain⟩ := (hclaim _ _ _ _ _ _ _ _ _ _ henqueue hrun).again 1 65536 (by decide)
  exact hrefused (isOk_eq_true_iff.mpr ⟨_, hagain⟩)

end surrealdb_rn_core.sync_client
