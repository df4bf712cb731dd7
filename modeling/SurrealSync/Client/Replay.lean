import SurrealSync.Basic.Delivery
import SurrealSync.Client.Effect
import SurrealSync.Client.PullValidity
import SurrealSync.Client.Renaming
import SurrealSync.Client.Validity

open Std
open surrealdb_sync_protocol surrealdb_sync_protocol.subscription

namespace surrealdb_sync_client

variable {V : Type}

/-- The complete snapshot a transition carries, if it is a reset or a bootstrap. -/
def Transition.snapshot : Transition V → Option (Checkpoint × List (SnapshotRecord V))
  | .PullResponse (.Reset snapshot) => some (snapshot.checkpoint, snapshot.records)
  | .BootstrapSnapshot checkpoint records => some (checkpoint, records)
  | _ => none

/-- The commits a transition carries, with the epoch they belong to. -/
def Transition.delivered : Transition V → List (UInt64 × PullCommit V)
  | .PullResponse (.Batch batch) => delivered_commits batch
  | _ => []

/-- A row of a snapshot; absent rows are dropped. -/
def insert_row (rows : BTreeMap RecordId (RecordState V)) (record : SnapshotRecord V) :
    BTreeMap RecordId (RecordState V) :=
  match record.state with
  | .Absent => rows
  | state => rows.insert record.record_id state

/-- What the authority has told a client: its last snapshot, and every commit of
every pull batch in the order of arrival. -/
structure AuthorityLog (V : Type) where
  base : Option (Checkpoint × List (SnapshotRecord V))
  delivered : List (UInt64 × PullCommit V)

def AuthorityLog.of (transitions : List (Transition V)) : AuthorityLog V where
  base := (transitions.filterMap Transition.snapshot).getLast?
  delivered := transitions.flatMap Transition.delivered

def AuthorityLog.deliver (log : AuthorityLog V) (later : List (UInt64 × PullCommit V)) : AuthorityLog V :=
  { log with delivered := log.delivered ++ later }

def AuthorityLog.base_rows (log : AuthorityLog V) : BTreeMap RecordId (RecordState V) :=
  log.base.elim ∅ fun (_, records) => records.foldl insert_row ∅

/-- Sequence of the last snapshot, 0 without one. -/
def AuthorityLog.start (log : AuthorityLog V) : Nat :=
  log.base.elim 0 fun (checkpoint, _) => checkpoint.cursor.sequence.toNat

@[simp]
theorem AuthorityLog.deliver_start (log : AuthorityLog V) (later : List (UInt64 × PullCommit V)) :
    (log.deliver later).start = log.start := rfl

/-- The sequence of a delivered commit within an epoch. -/
def sequence_in (epoch : UInt64) (entry : UInt64 × PullCommit V) : Option Nat :=
  if entry.1 = epoch then some entry.2.sequence.toNat else none

/-- The commits between the last snapshot and a cursor: for every sequence, in
increasing order, its first delivery in the cursor's epoch. -/
def AuthorityLog.commits (log : AuthorityLog V) (cursor : Cursor) : List (UInt64 × PullCommit V) :=
  Delivery.select (sequence_in cursor.epoch) log.delivered (log.start + 1)
    (cursor.sequence.toNat - log.start)

/-- The authority's rows as of a checkpoint. -/
def AuthorityLog.replay (log : AuthorityLog V) : Option Checkpoint → BTreeMap RecordId (RecordState V)
  | none => log.base_rows
  | some checkpoint => (log.commits checkpoint.cursor).foldl (fun rows entry => apply_commit rows entry.2)
    log.base_rows

/-- The confirmed rows are the replay of the log, none of its commits is missing,
and the coverage marker is that of the last snapshot. -/
structure ExactReplay (log : AuthorityLog V) (state : DurableClientState V) : Prop where
  confirmed : state.confirmed = log.replay state.checkpoint
  complete : ∀ checkpoint, state.checkpoint = some checkpoint →
    (log.commits checkpoint.cursor).map (sequence_in checkpoint.cursor.epoch) =
      (List.range' (log.start + 1) (checkpoint.cursor.sequence.toNat - log.start)).map some
  coverage : state.reset_coverage =
    log.base.map fun (checkpoint, _) => { cursor := checkpoint.cursor, scope := checkpoint.scope }

/-- Nothing delivered is ahead of the installed checkpoint. -/
def DeliveredBehind (log : AuthorityLog V) (state : DurableClientState V) : Prop :=
  ∀ entry ∈ log.delivered, ∃ checkpoint, state.checkpoint = some checkpoint ∧
    entry.1 ≤ checkpoint.cursor.epoch ∧
    (entry.1 = checkpoint.cursor.epoch → entry.2.sequence ≤ checkpoint.cursor.sequence)

structure Replayed (log : AuthorityLog V) (state : DurableClientState V) : Prop extends
  ExactReplay log state where
  behind : DeliveredBehind log state

/-- What a transition adds to the log. -/
def AuthorityLog.record (log : AuthorityLog V) (transition : Transition V) : AuthorityLog V where
  base := transition.snapshot.or log.base
  delivered := log.delivered ++ transition.delivered

theorem AuthorityLog.record_of_silent {transition : Transition V} (log : AuthorityLog V)
    (hsnapshot : transition.snapshot = none) (hdelivered : transition.delivered = []) :
    log.record transition = log := by
  simp [AuthorityLog.record, hsnapshot, hdelivered]

theorem AuthorityLog.of_append (transitions : List (Transition V)) (transition : Transition V) :
    AuthorityLog.of (transitions ++ [transition]) = (AuthorityLog.of transitions).record transition := by
  cases hsnapshot : transition.snapshot with
  | none => simp [AuthorityLog.of, AuthorityLog.record, hsnapshot]
  | some snapshot => simp [AuthorityLog.of, AuthorityLog.record, hsnapshot]

theorem Replayed.initial {state : DurableClientState V} (hconfirmed : state.confirmed = ∅)
    (hcheckpoint : state.checkpoint = none) (hcoverage : state.reset_coverage = none) :
    Replayed (AuthorityLog.of []) state where
  confirmed := by rw [hconfirmed, hcheckpoint]; rfl
  complete := by simp [hcheckpoint]
  coverage := hcoverage
  behind := by simp [DeliveredBehind, AuthorityLog.of]

/-- Transitions that leave the authority's part of the state alone. -/
theorem Replayed.frame {log : AuthorityLog V} {state next : DurableClientState V}
    (hreplayed : Replayed log state) (hconfirmed : next.confirmed = state.confirmed)
    (hcheckpoint : next.checkpoint = state.checkpoint)
    (hcoverage : next.reset_coverage = state.reset_coverage) : Replayed log next where
  confirmed := by rw [hconfirmed, hcheckpoint, hreplayed.confirmed]
  complete := hcheckpoint ▸ hreplayed.complete
  coverage := hcoverage.trans hreplayed.coverage
  behind := by
    unfold DeliveredBehind
    rw [hcheckpoint]
    exact hreplayed.behind

/-- A new token at the same cursor. -/
theorem Replayed.rotate {log : AuthorityLog V} {state : DurableClientState V} {current checkpoint : Checkpoint}
    (hreplayed : Replayed log state) (hcurrent : state.checkpoint = some current)
    (hcursor : checkpoint.cursor = current.cursor) :
    Replayed log { state with checkpoint := some checkpoint } where
  confirmed := by
    have hconfirmed := hreplayed.confirmed
    rw [hcurrent] at hconfirmed
    simpa only [AuthorityLog.replay, hcursor] using hconfirmed
  complete := by
    rintro _ ⟨⟩
    rw [hcursor]
    exact hreplayed.complete current hcurrent
  coverage := hreplayed.coverage
  behind := by
    intro entry hentry
    obtain ⟨_, hsome, hbehind⟩ := hreplayed.behind entry hentry
    cases hcurrent.symm.trans hsome
    exact ⟨checkpoint, rfl, hcursor ▸ hbehind⟩

theorem Replayed.start_le {log : AuthorityLog V} {state : DurableClientState V}
    (hreplayed : Replayed log state) (hvalid : state.Valid) : log.start ≤ state.frontier := by
  unfold AuthorityLog.start
  cases hbase : log.base with
  | none => exact Nat.zero_le _
  | some base =>
    have hcoverage := hreplayed.coverage
    rw [hbase] at hcoverage
    obtain ⟨checkpoint, hcheckpoint, hbacked⟩ :=
      exists_checkpoint_of_validate_coverage hvalid.coverage hcoverage
    simpa [DurableClientState.frontier, hcheckpoint] using UInt64.le_iff_toNat_le.mp hbacked.sequence

/-- Every sequence up to the frontier has been delivered. -/
theorem Replayed.exists_delivered {log : AuthorityLog V} {state : DurableClientState V}
    (hreplayed : Replayed log state) {checkpoint : Checkpoint}
    (hcheckpoint : state.checkpoint = some checkpoint) {n : Nat} (hlow : log.start + 1 ≤ n)
    (hhigh : n < log.start + 1 + (checkpoint.cursor.sequence.toNat - log.start)) :
    ∃ entry ∈ log.delivered, sequence_in checkpoint.cursor.epoch entry = some n :=
  Delivery.exists_of_select (hreplayed.complete checkpoint hcheckpoint) hlow hhigh

/-- A batch that ends at the installed checkpoint changes nothing: whatever it
repeats came first before. -/
theorem Replayed.redeliver {log : AuthorityLog V} {state : DurableClientState V}
    {later : List (UInt64 × PullCommit V)} {checkpoint : Checkpoint} (hreplayed : Replayed log state)
    (hcheckpoint : state.checkpoint = some checkpoint)
    (hlater : ∀ entry ∈ later, entry.1 = checkpoint.cursor.epoch ∧
      entry.2.sequence ≤ checkpoint.cursor.sequence) :
    Replayed (log.deliver later) state := by
  have hcommits : (log.deliver later).commits checkpoint.cursor = log.commits checkpoint.cursor :=
    Delivery.select_append_of_complete (fun n hlow hhigh =>
      hreplayed.exists_delivered hcheckpoint hlow hhigh) later
  constructor
  · constructor
    · have hconfirmed := hreplayed.confirmed
      rw [hcheckpoint] at hconfirmed ⊢
      rw [hconfirmed]
      simp only [AuthorityLog.replay, hcommits]
      rfl
    · intro _ hsome
      cases hcheckpoint.symm.trans hsome
      rw [hcommits]
      exact hreplayed.complete checkpoint hcheckpoint
    · exact hreplayed.coverage
  · intro entry hentry
    rcases List.mem_append.mp hentry with hentry | hentry
    · exact hreplayed.behind entry hentry
    · obtain ⟨hepoch, hsequence⟩ := hlater entry hentry
      exact ⟨checkpoint, hcheckpoint, hepoch ▸ UInt64.le_refl _, fun _ => hsequence⟩

theorem PullAccepted.forall_commits {state : DurableClientState V} {batch : PullBatch V}
    {checkpoint : Checkpoint} {commits : List (PullCommit V)} {P : PullCommit V → Prop}
    (haccepted : PullAccepted state batch checkpoint commits)
    (hdelivered : ∀ entry ∈ delivered_commits batch, P entry.2) : ∀ commit ∈ commits, P commit := by
  intro commit hcommit
  refine hdelivered (checkpoint.cursor.epoch, commit) ?_
  rw [haccepted.delivered]
  exact List.mem_map_of_mem hcommit

/-- An accepted batch that is not at the installed cursor carries the sequences
right behind the frontier. -/
theorem PullAccepted.sequences {state : DurableClientState V} {batch : PullBatch V}
    {checkpoint : Checkpoint} {commits : List (PullCommit V)}
    (haccepted : PullAccepted state batch checkpoint commits)
    (hmoved : ∀ current, state.checkpoint = some current →
      checkpoint.cursor.sequence ≠ current.cursor.sequence)
    (hpositive : ∀ commit ∈ commits, 0 < commit.sequence) :
    state.frontier ≤ checkpoint.cursor.sequence.toNat ∧ commits.map (·.sequence.toNat) =
      List.range' (state.frontier + 1) (checkpoint.cursor.sequence.toNat - state.frontier) := by
  by_cases hahead : state.frontier < checkpoint.cursor.sequence.toNat
  · exact ⟨hahead.le, haccepted.consecutive hahead⟩
  · cases hcheckpoint : state.checkpoint with
    | some current =>
      have hle := UInt64.le_iff_toNat_le.mp (haccepted.continues current hcheckpoint).2.2
      have hne := mt UInt64.toNat_inj.mp (hmoved current hcheckpoint)
      simp only [DurableClientState.frontier, hcheckpoint, Option.elim_some] at hahead
      omega
    | none =>
      have hfrontier : state.frontier = 0 := by simp [DurableClientState.frontier, hcheckpoint]
      have hempty : commits = [] := by
        apply List.eq_nil_iff_forall_not_mem.mpr
        intro commit hcommit
        have hle := UInt64.le_iff_toNat_le.mp (haccepted.bounded commit hcommit)
        have hlt := UInt64.lt_iff_toNat_lt.mp (hpositive commit hcommit)
        have hzero : (0 : UInt64).toNat = 0 := rfl
        omega
      have hend : checkpoint.cursor.sequence.toNat = 0 := by omega
      simp [hfrontier, hempty, hend]

/-- What was replayed up to the frontier, read in the epoch of the next batch. -/
theorem Replayed.prior {log : AuthorityLog V} {state : DurableClientState V}
    (hreplayed : Replayed log state) {epoch : UInt64}
    (hepoch : ∀ current, state.checkpoint = some current → epoch = current.cursor.epoch)
    (later : List (UInt64 × PullCommit V)) :
    let prior := Delivery.select (sequence_in epoch) (log.delivered ++ later) (log.start + 1)
      (state.frontier - log.start)
    state.confirmed = prior.foldl (fun rows entry => apply_commit rows entry.2) log.base_rows ∧
      prior.map (sequence_in epoch) =
        (List.range' (log.start + 1) (state.frontier - log.start)).map some := by
  have hconfirmed := hreplayed.confirmed
  cases hcheckpoint : state.checkpoint with
  | none =>
    rw [hcheckpoint] at hconfirmed
    simp [DurableClientState.frontier, hcheckpoint, Delivery.select_zero, hconfirmed, AuthorityLog.replay]
  | some current =>
    have hprior : Delivery.select (sequence_in current.cursor.epoch) (log.delivered ++ later)
        (log.start + 1) (current.cursor.sequence.toNat - log.start) = log.commits current.cursor :=
      Delivery.select_append_of_complete (fun n hlow hhigh =>
        hreplayed.exists_delivered hcheckpoint hlow hhigh) later
    rw [hcheckpoint] at hconfirmed
    simp only [DurableClientState.frontier, hcheckpoint, Option.elim_some, hepoch current hcheckpoint,
      hprior]
    exact ⟨hconfirmed, hreplayed.complete current hcheckpoint⟩

/-- The log of an advancing batch: what was replayed before, then the batch. -/
theorem Replayed.commits_deliver {log : AuthorityLog V} {state : DurableClientState V}
    {batch : PullBatch V} {checkpoint : Checkpoint} {commits : List (PullCommit V)}
    (hreplayed : Replayed log state) (hvalid : state.Valid)
    (haccepted : PullAccepted state batch checkpoint commits)
    (hforward : state.frontier ≤ checkpoint.cursor.sequence.toNat)
    (hsequences : commits.map (·.sequence.toNat) =
      List.range' (state.frontier + 1) (checkpoint.cursor.sequence.toNat - state.frontier)) :
    (log.deliver (delivered_commits batch)).commits checkpoint.cursor =
      Delivery.select (sequence_in checkpoint.cursor.epoch) (log.delivered ++ delivered_commits batch)
        (log.start + 1) (state.frontier - log.start) ++ delivered_commits batch := by
  have hstart := hreplayed.start_le hvalid
  have hlength : (delivered_commits batch).length =
      checkpoint.cursor.sequence.toNat - state.frontier := by
    simpa [haccepted.delivered] using congrArg List.length hsequences
  have hcount : checkpoint.cursor.sequence.toNat - log.start =
      (state.frontier - log.start) + (delivered_commits batch).length := by omega
  have hfirst : log.start + 1 + (state.frontier - log.start) = state.frontier + 1 := by omega
  rw [AuthorityLog.commits, AuthorityLog.deliver_start, hcount, Delivery.select_add, hfirst]
  congr 1
  apply Delivery.select_append_of_consecutive
  · -- everything delivered in this epoch is at most at the frontier
    intro entry hentry n hnumber
    obtain ⟨current, hcurrent, _, hbehind⟩ := hreplayed.behind entry hentry
    have hepoch := (haccepted.continues current hcurrent).2.1
    simp only [sequence_in, Option.ite_none_right_eq_some, Option.some.injEq] at hnumber
    obtain ⟨hsame, rfl⟩ := hnumber
    have hle := UInt64.le_iff_toNat_le.mp (hbehind (hsame.trans hepoch))
    simp only [DurableClientState.frontier, hcurrent, Option.elim_some]
    omega
  · rw [hlength, ← hsequences, haccepted.delivered, List.map_map, List.map_map]
    apply List.map_congr_left
    intro commit _
    simp [sequence_in]

theorem Replayed.advance {log : AuthorityLog V} {state : DurableClientState V} {batch : PullBatch V}
    {checkpoint : Checkpoint} {commits : List (PullCommit V)} (hreplayed : Replayed log state)
    (hvalid : state.Valid) (haccepted : PullAccepted state batch checkpoint commits)
    (hmoved : ∀ current, state.checkpoint = some current →
      checkpoint.cursor.sequence ≠ current.cursor.sequence)
    (hpositive : ∀ commit ∈ commits, 0 < commit.sequence) :
    Replayed (log.deliver (delivered_commits batch)) { state with
      confirmed := commits.foldl apply_commit state.confirmed
      checkpoint := some checkpoint } := by
  obtain ⟨hforward, hsequences⟩ := haccepted.sequences hmoved hpositive
  have hstart := hreplayed.start_le hvalid
  obtain ⟨hconfirmed, hnumbers⟩ := hreplayed.prior
    (fun current hcurrent => (haccepted.continues current hcurrent).2.1) (delivered_commits batch)
  have hcommits := hreplayed.commits_deliver hvalid haccepted hforward hsequences
  constructor
  · constructor
    · simp only [AuthorityLog.replay, hcommits, List.foldl_append]
      rw [haccepted.delivered, List.foldl_map]
      rw [haccepted.delivered] at hconfirmed
      rw [hconfirmed]
      rfl
    · rintro _ ⟨⟩
      have hcount : checkpoint.cursor.sequence.toNat - log.start = (state.frontier - log.start) +
          (checkpoint.cursor.sequence.toNat - state.frontier) := by omega
      have hfirst : log.start + 1 + (state.frontier - log.start) = state.frontier + 1 := by omega
      rw [hcommits, List.map_append, hnumbers, AuthorityLog.deliver_start, hcount, ← List.range'_append_1,
        hfirst, List.map_append, ← hsequences, haccepted.delivered]
      simp [sequence_in]
    · exact hreplayed.coverage
  · intro entry hentry
    refine ⟨checkpoint, rfl, ?_⟩
    rcases List.mem_append.mp hentry with hentry | hentry
    · obtain ⟨current, hcurrent, hepoch, hbehind⟩ := hreplayed.behind entry hentry
      obtain ⟨_, hsame, hle⟩ := haccepted.continues current hcurrent
      rw [hsame]
      exact ⟨hepoch, fun heq => UInt64.le_trans (hbehind heq) hle⟩
    · rw [haccepted.delivered] at hentry
      obtain ⟨commit, hcommit, rfl⟩ := List.mem_map.mp hentry
      exact ⟨UInt64.le_refl _, fun _ => haccepted.bounded commit hcommit⟩

variable [DecidableEq V]

/-- The snapshot loop keeps every row that is not absent. -/
theorem foldlM_snapshot_record_eq_ok {records : List (SnapshotRecord V)}
    {found last : BTreeSet RecordId × BTreeMap RecordId (RecordState V)}
    (hloop : records.foldlM snapshot_record found = .ok last) :
    last.2 = records.foldl insert_row found.2 := by
  induction records generalizing found with
  | nil =>
    cases hloop
    rfl
  | cons record records ih =>
    obtain ⟨next, hrecord, hrest⟩ := Except.foldlM_cons_eq_ok_iff.mp hloop
    simp only [snapshot_record, Except.bind_eq_ok_iff, Except.ok.injEq] at hrecord
    obtain ⟨_, _, rfl⟩ := hrecord
    rw [ih hrest, List.foldl_cons]
    congr 1
    unfold insert_row
    cases record.state <;> simp

theorem Replayed.reset {log : AuthorityLog V} {state next : DurableClientState V}
    {checkpoint : Checkpoint} {records : List (SnapshotRecord V)} (hreplayed : Replayed log state)
    (hreplaces : SnapshotReplaces state checkpoint records next) :
    Replayed { log with base := some (checkpoint, records) } next := by
  obtain ⟨record_ids, confirmed, hloop, rfl⟩ := hreplaces.replaced
  have hcommits : ({ log with base := some (checkpoint, records) } : AuthorityLog V).commits
      checkpoint.cursor = [] := by
    simp [AuthorityLog.commits, AuthorityLog.start, Delivery.select_zero]
  constructor
  · constructor
    · simp only [AuthorityLog.replay, hcommits]
      exact foldlM_snapshot_record_eq_ok hloop
    · rintro _ ⟨⟩
      simp [hcommits, AuthorityLog.start]
    · rfl
  · intro entry hentry
    obtain ⟨current, hcurrent, hepoch, hbehind⟩ := hreplayed.behind entry hentry
    refine ⟨checkpoint, rfl, ?_⟩
    rcases (guard_frontier_eq_ok hreplaces.forward hcurrent).cursor with hlt | ⟨hsame, hle⟩
    · exact ⟨UInt64.le_of_lt (UInt64.lt_of_le_of_lt hepoch hlt), fun heq =>
        absurd (UInt64.lt_of_le_of_lt (heq ▸ hepoch) hlt) (UInt64.lt_irrefl _)⟩
    · exact ⟨hsame ▸ hepoch, fun heq => UInt64.le_trans (hbehind (heq.trans hsame.symm)) hle⟩

/-- Without id mappings a push response leaves the confirmed rows alone. -/
theorem record_outcome_confirmed {state next : DurableClientState V} {local_commit : ClientCommit V}
    {outcome : DurableOutcome V} {policy : AutomaticConflictPolicy}
    (hrecord : record_outcome state local_commit outcome policy = .ok next)
    (hmappings : accepted_mappings outcome = []) : next.confirmed = state.confirmed := by
  simp only [record_outcome, hmappings, List.foldlM_nil, Except.bind_eq_ok_iff, Except.ok.injEq] at hrecord
  obtain ⟨_, hsame, rfl⟩ := hrecord
  cases hsame
  rfl

/-- Every effect keeps the confirmed rows the replay of what was said so far. -/
theorem Replayed.effect {log : AuthorityLog V} {state next : DurableClientState V}
    {transition : Transition V} (hreplayed : Replayed log state) (hvalid : state.Valid)
    (heffect : Effect state transition next)
    (hmappings : transition.mappings = [])
    (hpositive : ∀ entry ∈ transition.delivered, 0 < entry.2.sequence) :
    Replayed (log.record transition) next := by
  cases heffect with
  | recorded _ hrecord =>
    obtain ⟨renamed, _, hrenamed, hnext⟩ := record_outcome_eq_ok hrecord
    rw [log.record_of_silent rfl rfl]
    refine hreplayed.frame (record_outcome_confirmed hrecord hmappings) ?_ ?_
    · rw [hnext, hrenamed.frame]
    · rw [hnext, hrenamed.frame]
  | decided _ _ _ hdecide =>
    obtain ⟨rfl, _⟩ := decide_conflict_eq_ok hdecide
    rw [log.record_of_silent rfl rfl]
    exact hreplayed.frame rfl rfl rfl
  | @repeated batch checkpoint commits hbatch hcurrent =>
    have haccepted := validate_pull_batch_eq_ok hbatch
    refine hreplayed.redeliver hcurrent ?_
    intro entry hentry
    simp only [Transition.delivered, haccepted.delivered] at hentry
    obtain ⟨commit, hcommit, rfl⟩ := List.mem_map.mp hentry
    exact ⟨rfl, haccepted.bounded commit hcommit⟩
  | @rotated batch checkpoint current hbatch hcurrent hsequence =>
    have haccepted := validate_pull_batch_eq_ok hbatch
    have hsilent : log.record (.PullResponse (.Batch batch)) = log :=
      log.record_of_silent rfl haccepted.delivered
    rw [hsilent]
    refine hreplayed.rotate hcurrent ?_
    exact Cursor.ext (haccepted.continues current hcurrent).2.1 hsequence
  | advanced hbatch _ hmoved =>
    have haccepted := validate_pull_batch_eq_ok hbatch
    exact hreplayed.advance hvalid haccepted hmoved (haccepted.forall_commits hpositive)
  | reset hreplaces =>
    have hreset := hreplayed.reset hreplaces
    simpa [AuthorityLog.record, Transition.snapshot, Transition.delivered] using hreset
  | bootstrapped _ _ hreplaces =>
    have hreset := hreplayed.reset hreplaces
    simpa [AuthorityLog.record, Transition.snapshot, Transition.delivered] using hreset
  | _ =>
    rw [log.record_of_silent rfl rfl]
    exact hreplayed.frame rfl rfl rfl

theorem Replayed.step {log : AuthorityLog V} {before after : ClientRuntime V}
    {transition : Transition V} (hreplayed : Replayed log before.state)
    (hstep : Step before transition after)
    (hmappings : transition.mappings = [])
    (hpositive : ∀ entry ∈ transition.delivered, 0 < entry.2.sequence) :
    Replayed (log.record transition) after.state := by
  obtain ⟨next, heffect, hstamped⟩ := hstep.effect
  obtain ⟨_, hafter⟩ := hstamped.exists_revision
  rw [hafter]
  exact (hreplayed.effect before.is_valid heffect hmappings hpositive).frame rfl rfl rfl

/-- The deliveries that may change confirmed rows: a snapshot that is not behind
the installed checkpoint, and a batch that starts right behind the frontier, in
the installed epoch and without a gap. -/
def Contributes (state : DurableClientState V) (transition : Transition V) : Prop :=
  (∃ checkpoint records, transition.snapshot = some (checkpoint, records) ∧
    ∀ current, state.checkpoint = some current → CursorLe current.cursor checkpoint.cursor) ∨
  (transition.delivered.map (·.2.sequence.toNat) =
      List.range' (state.frontier + 1) transition.delivered.length ∧
    ∀ current, state.checkpoint = some current → ∀ entry ∈ transition.delivered,
      entry.1 = current.cursor.epoch)

theorem Effect.contributes {state next : DurableClientState V} {transition : Transition V}
    (heffect : Effect state transition next)
    (hmappings : transition.mappings = [])
    (hpositive : ∀ entry ∈ transition.delivered, 0 < entry.2.sequence)
    (hchanged : next.confirmed ≠ state.confirmed) : Contributes state transition := by
  cases heffect with
  | recorded _ hrecord =>
    exact absurd (record_outcome_confirmed hrecord hmappings) hchanged
  | decided _ _ _ hdecide =>
    obtain ⟨rfl, _⟩ := decide_conflict_eq_ok hdecide
    exact absurd rfl hchanged
  | @advanced batch checkpoint commits hbatch _ hmoved =>
    have haccepted := validate_pull_batch_eq_ok hbatch
    refine .inr ⟨?_, ?_⟩
    · obtain ⟨_, hsequences⟩ := haccepted.sequences hmoved (haccepted.forall_commits hpositive)
      have hlength := congrArg List.length hsequences
      simp only [List.length_map, List.length_range'] at hlength
      simpa [Transition.delivered, haccepted.delivered, hlength, Function.comp_def] using hsequences
    · intro current hcurrent entry hentry
      simp only [Transition.delivered, haccepted.delivered] at hentry
      obtain ⟨commit, _, rfl⟩ := List.mem_map.mp hentry
      exact (haccepted.continues current hcurrent).2.1
  | @reset snapshot next hreplaces =>
    exact .inl ⟨_, _, rfl, fun current hcurrent => (guard_frontier_eq_ok hreplaces.forward hcurrent).cursor⟩
  | bootstrapped _ _ hreplaces =>
    exact .inl ⟨_, _, rfl, fun current hcurrent => (guard_frontier_eq_ok hreplaces.forward hcurrent).cursor⟩
  | _ => exact absurd rfl hchanged

theorem Run.replayed {first last : ClientRuntime V}
    {edges : List (Trace.Edge (ClientRuntime V) (Transition V))} (hrun : Run first edges last)
    (hfirst : Replayed (AuthorityLog.of []) first.state)
    (hmappings : ∀ edge ∈ edges, edge.label.mappings = [])
    (hpositive : ∀ edge ∈ edges, ∀ entry ∈ edge.label.delivered, 0 < entry.2.sequence) :
    Replayed (AuthorityLog.of (edges.map (·.label))) last.state := by
  refine Trace.Run.lastInduction (motive := fun first edges last =>
    Replayed (AuthorityLog.of []) first.state → (∀ edge ∈ edges, edge.label.mappings = []) →
    (∀ edge ∈ edges, ∀ entry ∈ edge.label.delivered, 0 < entry.2.sequence) →
    Replayed (AuthorityLog.of (edges.map (·.label))) last.state) ?_ ?_ hrun hfirst hmappings hpositive
  · exact fun runtime hfirst _ _ => hfirst
  · intro first edges middle transition last _ hstep ih hfirst hmappings hpositive
    rw [List.forall_mem_append, List.forall_mem_singleton] at hmappings hpositive
    rw [List.map_append, List.map_singleton, AuthorityLog.of_append]
    exact (ih hfirst hmappings.1 hpositive.1).step hstep hmappings.2 hpositive.2

/-- From the empty state on, the confirmed rows are an exact replay of the
authority's history, and nothing else contributes to them. -/
theorem confirmed_is_exact_replay {partition_id : PartitionId} {client_id : ClientId}
    {requested_scope : ScopeIdentity} {subscription_revision : UInt64} {first last : ClientRuntime V}
    {edges : List (Trace.Edge (ClientRuntime V) (Transition V))}
    (hempty : first.state = .empty partition_id client_id requested_scope subscription_revision)
    (hrun : Run first edges last)
    (hmappings : ∀ edge ∈ edges, edge.label.mappings = [])
    (hpositive : ∀ edge ∈ edges, ∀ entry ∈ edge.label.delivered, 0 < entry.2.sequence) :
    ExactReplay (AuthorityLog.of (edges.map (·.label))) last.state ∧
      ∀ edge ∈ edges, edge.target.state.confirmed ≠ edge.source.state.confirmed →
        Contributes edge.source.state edge.label := by
  constructor
  · have hfirst : Replayed (AuthorityLog.of []) first.state := by
      rw [hempty]
      exact .initial rfl rfl rfl
    exact (Run.replayed hrun hfirst hmappings hpositive).toExactReplay
  · intro edge hedge hchanged
    obtain ⟨next, heffect, hstamped⟩ := (hrun.step_of_mem hedge).effect
    obtain ⟨_, htarget⟩ := hstamped.exists_revision
    rw [htarget] at hchanged
    exact heffect.contributes (hmappings edge hedge) (hpositive edge hedge) hchanged

namespace transitions

/-- A pull, a reset that overtakes it, a pull behind the reset and a duplicate
with other contents. -/
theorem confirmed_is_exact_replay_after_reset :
    ∃ (last : ClientRuntime String) (edges : List (Trace.Edge (ClientRuntime String) (Transition String))),
      last.state.confirmed.toList =
        [(RecordId.mk "a", present "new" 4), (RecordId.mk "c", RecordState.Tombstone 3)] ∧
      ExactReplay (AuthorityLog.of (edges.map (·.label))) last.state := by
  have hexecute : (do
      let (edges, last) ← opened.execute [
        pull (checkpoint "one" 1 1) [pull_commit 1 [("a", present "old" 1)]],
        reset (checkpoint "two" 1 3) [("b", present "x" 2), ("c", .Tombstone 3), ("d", .Absent)],
        pull (checkpoint "three" 1 4) [pull_commit 4 [("a", present "new" 4), ("b", .Absent)]],
        pull (checkpoint "three" 1 4) [pull_commit 4 [("a", present "other" 9)]]]
      Except.refuse (¬ (last.state.confirmed.toList =
          [(RecordId.mk "a", present "new" 4), (RecordId.mk "c", RecordState.Tombstone 3)] ∧
        (∀ edge ∈ edges, edge.label.mappings = []) ∧
        ∀ edge ∈ edges, ∀ entry ∈ edge.label.delivered, 0 < entry.2.sequence))
        ClientError.EmptyCommit) = .ok () := by
    decide
  simp only [Except.bind_eq_ok_iff, Except.refuse_eq_ok_iff, not_not] at hexecute
  obtain ⟨⟨edges, last⟩, hlast, hconfirmed, hmappings, hpositive⟩ := hexecute
  exact ⟨last, edges, hconfirmed,
    (confirmed_is_exact_replay rfl (run_of_execute hlast) hmappings hpositive).1⟩

end transitions

end surrealdb_sync_client
