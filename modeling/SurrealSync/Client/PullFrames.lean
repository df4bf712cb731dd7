import SurrealSync.Client.Effect
import SurrealSync.Client.PullValidity

open Std
open surrealdb_sync_protocol surrealdb_sync_protocol.subscription

namespace surrealdb_sync_client

variable {V : Type}

/-! ### The last record of an id -/

/-- The row of a state; an absent row is none. -/
def row_of_state : RecordState V → Option (RecordState V)
  | .Absent => none
  | state => some state

/-- The states that some records give an id, in their order. -/
def states_of (record_id : RecordId) (records : List (AppliedRecord V)) : List (RecordState V) :=
  records.filterMap fun record => if record.record_id = record_id then some record.state else none

theorem getElem?_apply_record (confirmed : BTreeMap RecordId (RecordState V)) (record : AppliedRecord V)
    (record_id : RecordId) :
    (apply_record confirmed record)[record_id]? =
      if record.record_id = record_id then row_of_state record.state else confirmed[record_id]? := by
  obtain ⟨written, state⟩ := record
  by_cases hwritten : written = record_id
  · subst hwritten
    rw [if_pos rfl]
    cases state <;> simp [apply_record, row_of_state]
  · rw [if_neg hwritten]
    cases state with
    | Absent => exact BTreeMap.getElem?_erase_of_ne (Ne.symm hwritten)
    | Present value version reference => exact BTreeMap.getElem?_insert_of_ne (Ne.symm hwritten)
    | Tombstone version => exact BTreeMap.getElem?_insert_of_ne (Ne.symm hwritten)

/-- Of the records of an id, the last one decides its row. -/
theorem getElem?_foldl_apply_record (confirmed : BTreeMap RecordId (RecordState V)) (records : List (AppliedRecord V))
    (record_id : RecordId) :
    (records.foldl apply_record confirmed)[record_id]? =
      ((states_of record_id records).getLast?.elim confirmed[record_id]? row_of_state) := by
  induction records using List.reverseRecOn with
  | nil => rfl
  | append_singleton records record ih =>
    rw [List.foldl_append, List.foldl_cons, List.foldl_nil, getElem?_apply_record, ih, states_of, states_of,
      List.filterMap_append]
    split
    · rename_i hwritten
      simp [hwritten]
    · rename_i hwritten
      simp [hwritten]

/-- Some records say what a map holds already. -/
def Restated (confirmed : BTreeMap RecordId (RecordState V)) (records : List (AppliedRecord V)) : Prop :=
  ∀ record_id, ∀ state ∈ (states_of record_id records).getLast?, confirmed[record_id]? = row_of_state state

theorem foldl_apply_record_eq_iff {confirmed : BTreeMap RecordId (RecordState V)} {records : List (AppliedRecord V)} :
    records.foldl apply_record confirmed = confirmed ↔ Restated confirmed records := by
  constructor
  · intro hsame record_id state hstate
    have hrow := getElem?_foldl_apply_record confirmed records record_id
    rw [hsame, Option.mem_def.mp hstate] at hrow
    exact hrow
  · intro hrestated
    apply ExtTreeMap.ext_getElem?
    intro record_id
    rw [getElem?_foldl_apply_record]
    cases hlast : (states_of record_id records).getLast? with
    | none => rfl
    | some state => exact (hrestated record_id state hlast).symm

theorem foldl_apply_commit (confirmed : BTreeMap RecordId (RecordState V)) (commits : List (PullCommit V)) :
    commits.foldl apply_commit confirmed = (commits.flatMap (·.records)).foldl apply_record confirmed := by
  rw [List.foldl_flatMap]
  rfl

/-! ### The frames of an accepted batch -/

def frame_of_commit : PullFrame V → Option (PullCommit V)
  | .Commit _ commit => some commit
  | .Start _ => none
  | .End _ => none

/-- The commits of a batch's frames. -/
def commit_frames (batch : PullBatch V) : List (PullCommit V) :=
  batch.frames.filterMap frame_of_commit

theorem PullAccepted.commit_frames_eq {state : DurableClientState V} {batch : PullBatch V} {checkpoint : Checkpoint}
    {commits : List (PullCommit V)} (haccepted : PullAccepted state batch checkpoint commits) :
    commit_frames batch = commits := by
  have hdelivered := haccepted.delivered
  simp only [delivered_commits, haccepted.finish] at hdelivered
  have hframes : frame_of_commit = fun frame : PullFrame V =>
      (carried_commit checkpoint.cursor.epoch frame).map Prod.snd := by
    funext frame
    cases frame <;> rfl
  rw [commit_frames, hframes, ← List.map_filterMap, hdelivered, List.map_map]
  exact List.map_id commits

/-- What a pull batch is to do: nothing to the confirmed rows, or exactly the missing commits, and nothing to the rest. -/
structure AppliesMissing (state : DurableClientState V) (batch : PullBatch V) (next : DurableClientState V) : Prop where
  confirmed : next.confirmed = state.confirmed ∨
    ∃ finish, batch.frames.getLast? = some (.End finish) ∧ state.frontier < finish.cursor.sequence.toNat ∧
      (commit_frames batch).map (·.sequence.toNat) =
        List.range' (state.frontier + 1) (finish.cursor.sequence.toNat - state.frontier) ∧
      next.confirmed = (commit_frames batch).foldl apply_commit state.confirmed
  outbox : next.outbox = state.outbox
  outcomes : next.outcomes = state.outcomes
  id_map : next.id_map = state.id_map
  reset_coverage : next.reset_coverage = state.reset_coverage
  subscriptions : next.subscriptions = state.subscriptions

/-- Before the first checkpoint, a batch that ends at sequence 0 restates rows. -/
def RestatesAtZero (state : DurableClientState V) (batch : PullBatch V) : Prop :=
  state.checkpoint = none → ∀ finish, batch.frames.getLast? = some (.End finish) → finish.cursor.sequence = 0 →
    Restated state.confirmed ((commit_frames batch).flatMap (·.records))

variable [DecidableEq V]

theorem appliesMissing_iff {self : ClientRuntime V} {batch : PullBatch V} {prepared : PreparedTransition V}
    (hprepare : self.prepare_pull_batch batch = .ok prepared) :
    AppliesMissing self.state batch prepared.state ↔ RestatesAtZero self.state batch := by
  obtain ⟨next, heffect, hnext⟩ := effect_of_prepare_pull_batch hprepare
  obtain ⟨_, hstamped⟩ := ClientRuntime.prepare_eq_ok_iff.mp hnext
  obtain ⟨revision, hstate⟩ := hstamped.exists_revision
  rw [hstate]
  cases heffect with
  | repeated hvalid hcurrent =>
    refine iff_of_true ⟨.inl rfl, rfl, rfl, rfl, rfl, rfl⟩ ?_
    intro hnone
    rw [hcurrent] at hnone
    cases hnone
  | rotated hvalid hcurrent hsequence =>
    refine iff_of_true ⟨.inl rfl, rfl, rfl, rfl, rfl, rfl⟩ ?_
    intro hnone
    rw [hcurrent] at hnone
    cases hnone
  | @advanced _ checkpoint commits hvalid hauthorized hmoved =>
    have haccepted := validate_pull_batch_eq_ok hvalid
    have hframes := haccepted.commit_frames_eq
    have hfinish {finish : Checkpoint} (hlast : batch.frames.getLast? = some (.End finish)) : finish = checkpoint := by
      rw [haccepted.finish] at hlast
      cases hlast
      rfl
    rcases Nat.lt_or_ge self.state.frontier checkpoint.cursor.sequence.toNat with hahead | hbehind
    · refine iff_of_true ⟨.inr ⟨checkpoint, haccepted.finish, hahead, ?_, ?_⟩, rfl, rfl, rfl, rfl, rfl⟩ ?_
      · rw [hframes]
        exact haccepted.consecutive hahead
      · rw [hframes]
      · intro _ finish hlast hzero
        rw [hfinish hlast] at hzero
        rw [hzero] at hahead
        exact absurd hahead (Nat.not_lt_zero _)
    · -- an installed checkpoint is passed by a batch that advances
      have hnone : self.state.checkpoint = none := by
        cases hcheckpoint : self.state.checkpoint with
        | none => rfl
        | some current =>
          have hle := UInt64.le_iff_toNat_le.mp (haccepted.continues current hcheckpoint).2.2
          have hne := mt UInt64.toNat_inj.mp (hmoved current hcheckpoint)
          simp only [DurableClientState.frontier, hcheckpoint, Option.elim_some] at hbehind
          omega
      have hzero : checkpoint.cursor.sequence = 0 := by
        simp only [DurableClientState.frontier, hnone, Option.elim_none] at hbehind
        exact UInt64.toNat_inj.mp (Nat.le_zero.mp hbehind)
      have hrestates : RestatesAtZero self.state batch ↔ Restated self.state.confirmed (commits.flatMap (·.records)) := by
        constructor
        · intro hrestates
          have hrestated := hrestates hnone checkpoint haccepted.finish hzero
          rwa [hframes] at hrestated
        · intro hrestated _ _ _ _
          rwa [hframes]
      rw [hrestates, ← foldl_apply_record_eq_iff, ← foldl_apply_commit]
      constructor
      · intro happlies
        rcases happlies.confirmed with hsame | ⟨finish, hlast, hahead, _⟩
        · exact hsame
        · rw [hfinish hlast] at hahead
          omega
      · exact fun hsame => ⟨.inl hsame, rfl, rfl, rfl, rfl, rfl⟩

/-- A batch applies exactly the missing commits, unless it carries one of sequence 0 to a state without a checkpoint. -/
theorem pull_batch_applies_missing_iff {self : ClientRuntime V} {batch : PullBatch V} {prepared : PreparedTransition V}
    (hprepare : self.prepare_pull_response (.Batch batch) = .ok prepared) :
    AppliesMissing self.state batch prepared.state ↔ RestatesAtZero self.state batch :=
  appliesMissing_iff hprepare

namespace transitions

/-- The first pull of the source's tests. -/
theorem pull_batch_applies_first : ∃ prepared,
    opened.prepare_pull_response (.Batch (batch (checkpoint "cp-1" 1 1) [pull_commit 1 []])) = .ok prepared ∧
      (AppliesMissing opened.state (batch (checkpoint "cp-1" 1 1) [pull_commit 1 []]) prepared.state ↔
        RestatesAtZero opened.state (batch (checkpoint "cp-1" 1 1) [pull_commit 1 []])) := by
  have hprepare : ∃ prepared, opened.prepare_pull_response
      (.Batch (batch (checkpoint "cp-1" 1 1) [pull_commit 1 []])) = .ok prepared :=
    Except.isOk_eq_true_iff.mp (by decide +kernel)
  obtain ⟨prepared, hprepared⟩ := hprepare
  exact ⟨prepared, hprepared, pull_batch_applies_missing_iff hprepared⟩

/-- A first pull that ends at sequence 0 applies the commit that it carries. -/
theorem pull_batch_applies_commit_zero : ∃ prepared,
    opened.prepare_pull_response (.Batch (batch (checkpoint "cp-0" 1 0) [pull_commit 0 [("a", present "ada" 1)]])) =
      .ok prepared ∧
    ¬ AppliesMissing opened.state (batch (checkpoint "cp-0" 1 0) [pull_commit 0 [("a", present "ada" 1)]])
      prepared.state := by
  have hprepare : ∃ prepared, opened.prepare_pull_response
      (.Batch (batch (checkpoint "cp-0" 1 0) [pull_commit 0 [("a", present "ada" 1)]])) = .ok prepared :=
    Except.isOk_eq_true_iff.mp (by decide +kernel)
  obtain ⟨prepared, hprepared⟩ := hprepare
  refine ⟨prepared, hprepared, fun happlies => ?_⟩
  have hrestated := (appliesMissing_iff hprepared).mp happlies rfl (checkpoint "cp-0" 1 0) rfl rfl ⟨"a"⟩
    (present "ada" 1) rfl
  cases hrestated

end transitions

end surrealdb_sync_client
