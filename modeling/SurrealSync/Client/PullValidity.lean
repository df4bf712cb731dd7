import Mathlib.Order.Basic
import SurrealSync.Client.Pull

open Std
open surrealdb_sync_protocol surrealdb_sync_protocol.subscription

namespace surrealdb_sync_client

variable {V : Type}

/-- The commit a frame carries, tagged with an epoch. -/
def carried_commit (epoch : UInt64) : PullFrame V → Option (UInt64 × PullCommit V)
  | .Commit _ commit => some (epoch, commit)
  | .Start _ => none
  | .End _ => none

/-- The commits a batch carries, each with the epoch the batch ends in. -/
def delivered_commits (batch : PullBatch V) : List (UInt64 × PullCommit V) :=
  match batch.frames.getLast? with
  | some (.End finish) => batch.frames.filterMap (carried_commit finish.cursor.epoch)
  | _ => []

/-- Sequence of the installed checkpoint, 0 before the first one. -/
def DurableClientState.frontier (state : DurableClientState V) : Nat :=
  state.checkpoint.elim 0 (·.cursor.sequence.toNat)

/-- What the checks of a pull batch establish. -/
structure PullAccepted (state : DurableClientState V) (batch : PullBatch V) (checkpoint : Checkpoint)
    (commits : List (PullCommit V)) : Prop where
  finish : batch.frames.getLast? = some (.End checkpoint)
  delivered : delivered_commits batch = commits.map (checkpoint.cursor.epoch, ·)
  continues : ∀ current, state.checkpoint = some current → checkpoint.scope = current.scope ∧
    checkpoint.cursor.epoch = current.cursor.epoch ∧
    current.cursor.sequence ≤ checkpoint.cursor.sequence
  bounded : ∀ commit ∈ commits, commit.sequence ≤ checkpoint.cursor.sequence
  consecutive : state.frontier < checkpoint.cursor.sequence.toNat →
    commits.map (·.sequence.toNat) =
      List.range' (state.frontier + 1) (checkpoint.cursor.sequence.toNat - state.frontier)

theorem exists_frames_between {frames : List (PullFrame V)} {start finish : Checkpoint}
    (hhead : frames.head? = some (.Start start)) (hlast : frames.getLast? = some (.End finish)) :
    ∃ middle, frames = .Start start :: (middle ++ [.End finish]) := by
  obtain ⟨front, rfl⟩ := List.getLast?_eq_some_iff.mp hlast
  cases front with
  | nil => cases hhead
  | cons first middle =>
    cases hhead
    exact ⟨middle, rfl⟩

theorem carried_commits_of_mapM {token : OpaqueCheckpoint} {frames : List (PullFrame V)}
    {commits : List (PullCommit V)} (hcommits : frames.mapM (frame_commit token) = .ok commits)
    (epoch : UInt64) : frames.filterMap (carried_commit epoch) = commits.map (epoch, ·) := by
  induction frames generalizing commits with
  | nil =>
    cases hcommits
    rfl
  | cons frame frames ih =>
    simp only [List.mapM_cons, Except.bind_eq_ok_iff] at hcommits
    obtain ⟨commit, hcommit, rest, hrest, heq⟩ := hcommits
    cases heq
    cases frame with
    | Commit checkpoint first =>
      simp only [frame_commit] at hcommit
      split at hcommit
      · cases hcommit
      · cases hcommit
        exact congrArg _ (ih hrest)
    | Start checkpoint => cases hcommit
    | End checkpoint => cases hcommit

/-- The pairwise check alone: sequences do not decrease, so the last one bounds
them all. -/
theorem sequence_le_of_successors {commits : List (PullCommit V)} {finish : UInt64}
    (hpairs : ∀ pair ∈ commits.zip commits.tail, pair.2.sequence = pair.1.sequence.saturating_add 1)
    (hlast : ∀ commit, commits.getLast? = some commit → commit.sequence = finish) :
    ∀ commit ∈ commits, commit.sequence ≤ finish := by
  induction commits with
  | nil => simp
  | cons first rest ih =>
    cases rest with
    | nil => simp [hlast first rfl]
    | cons second rest =>
      rw [List.tail_cons, List.zip_cons_cons, List.forall_mem_cons] at hpairs
      obtain ⟨hsuccessor, hpairs⟩ := hpairs
      have hrest := ih hpairs (by simpa using hlast)
      refine List.forall_mem_cons.mpr ⟨?_, hrest⟩
      -- the successor saturates, so it is never below its predecessor
      have hsecond := UInt64.le_iff_toNat_le.mp (hrest second List.mem_cons_self)
      have hnext := UInt64.toNat_saturating_add_one first.sequence
      have hfirst := first.sequence.toNat_lt
      dsimp only at hsuccessor
      rw [← hsuccessor] at hnext
      rw [UInt64.le_iff_toNat_le]
      omega

/-- Together with the counting loop the sequences are consecutive numbers: the
loop would wrap after the largest one, where the pairwise check saturates. -/
theorem consecutive_of_expect_sequence {commits : List (PullCommit V)} {expected last : UInt64}
    (hpairs : ∀ pair ∈ commits.zip commits.tail, pair.2.sequence = pair.1.sequence.saturating_add 1)
    (hloop : commits.foldlM expect_sequence expected = .ok last) :
    commits.map (·.sequence.toNat) = List.range' expected.toNat commits.length := by
  induction commits generalizing expected with
  | nil => rfl
  | cons first rest ih =>
    obtain ⟨next, hfirst, hrest⟩ := Except.foldlM_cons_eq_ok_iff.mp hloop
    simp only [expect_sequence, Except.bind_eq_ok_iff, Except.refuse_eq_ok_iff, ne_eq, not_not,
      Except.ok.injEq] at hfirst
    obtain ⟨_, rfl, rfl⟩ := hfirst
    cases rest with
    | nil => rfl
    | cons second rest =>
      rw [List.tail_cons, List.zip_cons_cons, List.forall_mem_cons] at hpairs
      obtain ⟨hsuccessor, hpairs⟩ := hpairs
      have htail := ih hpairs hrest
      obtain ⟨_, hsecond, _⟩ := Except.foldlM_cons_eq_ok_iff.mp hrest
      simp only [expect_sequence, Except.bind_eq_ok_iff, Except.refuse_eq_ok_iff, ne_eq, not_not,
        Except.ok.injEq] at hsecond
      obtain ⟨_, hsecond, _⟩ := hsecond
      have hnowrap : (first.sequence + 1).toNat = first.sequence.toNat + 1 := by
        have hwrap := UInt64.toNat_add first.sequence 1
        have hnext := UInt64.toNat_saturating_add_one first.sequence
        dsimp only at hsuccessor
        rw [← hsuccessor, hsecond] at hnext
        have hfirst := first.sequence.toNat_lt
        have hone : (1 : UInt64).toNat = 1 := rfl
        omega
      rw [hnowrap] at htail
      rw [List.map_cons, htail, @List.length_cons _ first (second :: rest), List.range'_succ]

/-- A batch that moves the sequence carries exactly the numbers in between. -/
theorem consecutive_of_validate_missing_commits {commits : List (PullCommit V)}
    {current_sequence end_sequence : UInt64} {frontier : Nat} {u : Unit}
    (hpairs : ∀ pair ∈ commits.zip commits.tail, pair.2.sequence = pair.1.sequence.saturating_add 1)
    (hend : ∀ commit, commits.getLast? = some commit → commit.sequence = end_sequence)
    (hmissing : validate_missing_commits current_sequence end_sequence commits = .ok u)
    (hfrontier : current_sequence.toNat = frontier) (hahead : frontier < end_sequence.toNat) :
    commits.map (·.sequence.toNat) = List.range' (frontier + 1) (end_sequence.toNat - frontier) := by
  subst hfrontier
  have hlt : current_sequence < end_sequence := UInt64.lt_iff_toNat_lt.mpr hahead
  simp only [validate_missing_commits, gt_iff_lt, hlt, if_true, Except.bind_eq_ok_iff,
    Except.refuse_eq_ok_iff, ne_eq, not_not] at hmissing
  obtain ⟨last, hloop, hlast⟩ := hmissing
  have hnumbers := consecutive_of_expect_sequence hpairs hloop
  rw [UInt64.toNat_add_one hlt] at hnumbers
  have hnonempty : commits ≠ [] := by
    rintro rfl
    cases hloop
    rw [UInt64.add_sub_cancel] at hlast
    exact absurd (hlast ▸ hlt) (UInt64.lt_irrefl _)
  -- the last number is the end of the batch, which fixes how many there are
  have hcount : current_sequence.toNat + commits.length = end_sequence.toNat := by
    obtain ⟨front, commit, rfl⟩ := List.eq_nil_or_concat commits |>.resolve_left hnonempty
    have hsequence := hend commit (by simp)
    simp only [List.concat_eq_append, List.map_append, List.map_cons, List.map_nil, hsequence,
      List.length_append, List.length_singleton, List.range'_concat] at hnumbers
    have := (List.append_inj' hnumbers rfl).2
    simp only [List.cons.injEq, and_true] at this
    simp only [List.concat_eq_append, List.length_append, List.length_singleton]
    omega
  rw [hnumbers, ← hcount, Nat.add_sub_cancel_left]

theorem validate_pull_batch_eq_ok {state : DurableClientState V} {batch : PullBatch V}
    {checkpoint : Checkpoint} {commits : List (PullCommit V)}
    (hvalid : validate_pull_batch state batch = .ok (checkpoint, commits)) :
    PullAccepted state batch checkpoint commits := by
  unfold validate_pull_batch at hvalid
  split at hvalid
  · rename_i start finish hhead hlast
    simp only [Except.bind_eq_ok_iff, Except.refuse_eq_ok_iff, Except.forM_eq_ok_iff,
      validate_successor, ne_eq, not_not, Except.ok.injEq, Prod.mk.injEq] at hvalid
    obtain ⟨_, _, _, _, _, hcontinues, commits', hcommits, _, hpairs, _, hend, _, hmissing, rfl, rfl⟩ :=
      hvalid
    have hcontinues : ∀ current, state.checkpoint = some current → finish.scope = current.scope ∧
        finish.cursor.epoch = current.cursor.epoch ∧
        current.cursor.sequence ≤ finish.cursor.sequence := by
      intro current hcurrent
      simp only [hcurrent, validate_continuation, Except.bind_eq_ok_iff, Except.refuse_eq_ok_iff, ne_eq,
        not_not, UInt64.not_lt] at hcontinues
      obtain ⟨_, hscope, _, hepoch, hsequence⟩ := hcontinues
      exact ⟨hscope, hepoch, hsequence⟩
    have hend : ∀ commit, commits'.getLast? = some commit → commit.sequence = finish.cursor.sequence := by
      intro commit hcommit
      by_contra hne
      exact hend ⟨commit, hcommit, hne⟩
    refine ⟨hlast, ?_, hcontinues, sequence_le_of_successors hpairs hend, fun hahead => ?_⟩
    · obtain ⟨middle, hframes⟩ := exists_frames_between hhead hlast
      have hmiddle : (batch.frames.drop 1).dropLast = middle := by simp [hframes]
      rw [hmiddle] at hcommits
      simp only [delivered_commits, hlast]
      rw [hframes, List.filterMap_cons_none rfl, List.filterMap_append, carried_commits_of_mapM hcommits]
      exact List.append_nil _
    · refine consecutive_of_validate_missing_commits hpairs hend hmissing ?_ hahead
      cases hcheckpoint : state.checkpoint with
      | none => simp [DurableClientState.frontier, hcheckpoint]
      | some current =>
        simp [DurableClientState.frontier, hcheckpoint, Option.filter, (hcontinues current hcheckpoint).2.1]
  · cases hvalid

/-- The lexicographic order of cursors, epoch first. -/
def CursorLe (earlier later : Cursor) : Prop :=
  earlier.epoch < later.epoch ∨ (earlier.epoch = later.epoch ∧ earlier.sequence ≤ later.sequence)

theorem CursorLe.refl (cursor : Cursor) : CursorLe cursor cursor :=
  .inr ⟨rfl, UInt64.le_refl _⟩

theorem CursorLe.trans {first second third : Cursor} (hfirst : CursorLe first second)
    (hsecond : CursorLe second third) : CursorLe first third := by
  rcases hfirst with hfirst | ⟨hfirst, hsequence⟩
  · rcases hsecond with hsecond | ⟨hsecond, _⟩
    · exact .inl (UInt64.lt_trans hfirst hsecond)
    · exact .inl (hsecond ▸ hfirst)
  · rcases hsecond with hsecond | ⟨hsecond, hnext⟩
    · exact .inl (hfirst ▸ hsecond)
    · exact .inr ⟨hfirst.trans hsecond, UInt64.le_trans hsequence hnext⟩

/-- What the guards of a reset establish against an installed checkpoint. -/
structure SnapshotForward (state : DurableClientState V) (current incoming : Checkpoint) : Prop where
  cursor : CursorLe current.cursor incoming.cursor
  authorization : current.scope.authorization_revision ≤ incoming.scope.authorization_revision
  intent : incoming.scope ≠ current.scope → ¬ state.HasPendingIntent ∧ state.outcomes = []

theorem guard_frontier_eq_ok {state : DurableClientState V} {incoming : Checkpoint} {u : Unit}
    (hguard : guard_frontier state incoming = .ok u) {current : Checkpoint}
    (hcurrent : state.checkpoint = some current) : SnapshotForward state current incoming := by
  simp only [guard_frontier, hcurrent, Except.bind_eq_ok_iff, Except.refuse_eq_ok_iff, not_or,
    not_and, UInt64.not_lt] at hguard
  obtain ⟨_, ⟨hepoch, hsequence⟩, _, hauthorization, hscope⟩ := hguard
  refine ⟨?_, hauthorization, fun hchanged => ?_⟩
  · by_cases hsame : current.cursor.epoch = incoming.cursor.epoch
    · exact .inr ⟨hsame, hsequence hsame.symm⟩
    · exact .inl (UInt64.lt_of_le_of_ne hepoch hsame)
  · simp only [hchanged, ne_eq, not_false_eq_true, if_true, Except.bind_eq_ok_iff,
      Except.refuse_eq_ok_iff, not_not] at hscope
    obtain ⟨_, hpending, houtcomes⟩ := hscope
    exact ⟨hpending, houtcomes⟩

end surrealdb_sync_client
