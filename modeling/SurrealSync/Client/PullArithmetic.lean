import SurrealSync.Basic.Faults
import SurrealSync.Client.PullValidity
import SurrealSync.Client.Step

open Std
open surrealdb_sync_protocol surrealdb_sync_protocol.subscription

namespace surrealdb_sync_client

variable {V : Type}

/-! ### The checks of a pull batch with every unchecked operation in sight -/

/-- The counting loop as it stands; `expected += 1` is unchecked. -/
def expect_sequence_checked (expected : UInt64) (commit : PullCommit V) : Except (Halt ClientError) UInt64 := do
  Halt.lift (Except.refuse (commit.sequence ≠ expected) ClientError.CommitSequenceGap)
  Halt.add expected 1

def validate_missing_commits_checked (current_sequence end_sequence : UInt64) (commits : List (PullCommit V)) :
    Except (Halt ClientError) Unit :=
  if end_sequence > current_sequence then do
    let expected ← Halt.add current_sequence 1
    let expected ← commits.foldlM expect_sequence_checked expected
    let reached ← Halt.sub expected 1
    Halt.lift (Except.refuse (reached ≠ end_sequence) ClientError.CommitSequenceGap)
  else .ok ()

/-- `validate_pull_batch`, which ends with a fault where an operation has no result. A pair of `windows(2)` always
has its two elements. -/
def validate_pull_batch_checked (state : DurableClientState V) (batch : PullBatch V) :
    Except (Halt ClientError) (Checkpoint × List (PullCommit V)) :=
  match batch.frames.head?, batch.frames.getLast? with
  | some (.Start start), some (.End finish) => do
    Halt.lift (Except.refuse (start ≠ finish) ClientError.CheckpointMismatch)
    Halt.lift (validate_scope state finish)
    Halt.lift (validate_continuation state.checkpoint finish)
    let stop ← Halt.sub_length batch.frames.length 1
    let inner ← Halt.slice batch.frames 1 stop
    let commits ← Halt.lift (inner.mapM (frame_commit finish.token))
    Halt.lift (forM (commits.zip commits.tail) validate_successor)
    Halt.lift (Except.refuse (∃ commit ∈ commits.getLast?, commit.sequence ≠ finish.cursor.sequence)
      ClientError.CommitSequenceGap)
    let current_sequence := match state.checkpoint.filter fun current =>
        current.cursor.epoch = finish.cursor.epoch with
      | some current => current.cursor.sequence
      | none => 0
    validate_missing_commits_checked current_sequence finish.cursor.sequence commits
    .ok (finish, commits)
  | _, _ => .error (.refused .InvalidPullFraming)

theorem agrees_expect_sequence (expected : UInt64) (commit : PullCommit V) :
    Halt.Agrees (expect_sequence_checked expected commit) (expect_sequence expected commit) :=
  (Halt.agrees_lift _).bind fun _ _ => Halt.agrees_add expected 1

theorem agrees_validate_missing_commits (current_sequence end_sequence : UInt64) (commits : List (PullCommit V)) :
    Halt.Agrees (validate_missing_commits_checked current_sequence end_sequence commits)
      (validate_missing_commits current_sequence end_sequence commits) := by
  unfold validate_missing_commits_checked validate_missing_commits
  split
  · refine (Halt.agrees_add current_sequence 1).bind (g := fun expected => do
      let expected ← commits.foldlM expect_sequence expected
      Except.refuse (expected - 1 ≠ end_sequence) ClientError.CommitSequenceGap) fun expected _ => ?_
    refine (Halt.Agrees.foldlM agrees_expect_sequence commits expected).bind fun last _ => ?_
    exact (Halt.agrees_sub last 1).bind
      (g := fun reached => Except.refuse (reached ≠ end_sequence) ClientError.CommitSequenceGap)
      fun reached _ => Halt.agrees_lift _
  · exact Halt.agrees_lift (.ok ())

/-- The slice between a first and a last frame that differ is in range. -/
theorem slice_between {frames : List (PullFrame V)} {start finish : Checkpoint}
    (hhead : frames.head? = some (.Start start)) (hlast : frames.getLast? = some (.End finish)) :
    (Halt.sub_length frames.length 1 : Except (Halt ClientError) Nat) = .ok (frames.length - 1) ∧
      (Halt.slice frames 1 (frames.length - 1) : Except (Halt ClientError) (List (PullFrame V))) =
        .ok (frames.drop 1).dropLast := by
  obtain ⟨middle, rfl⟩ := exists_frames_between hhead hlast
  constructor
  · simp [Halt.sub_length]
  · simp [Halt.slice]

theorem validate_pull_batch_unframed {batch : PullBatch V}
    (hframing : ¬ ∃ start finish, batch.frames.head? = some (.Start start) ∧ batch.frames.getLast? = some (.End finish))
    (state : DurableClientState V) :
    validate_pull_batch_checked state batch = .error (.refused .InvalidPullFraming) ∧
      validate_pull_batch state batch = .error .InvalidPullFraming := by
  constructor
  · unfold validate_pull_batch_checked
    split
    · rename_i start finish hhead hlast
      exact absurd ⟨start, finish, hhead, hlast⟩ hframing
    · rfl
  · unfold validate_pull_batch
    split
    · rename_i start finish hhead hlast
      exact absurd ⟨start, finish, hhead, hlast⟩ hframing
    · rfl

/-- A batch whose checks do not fault is judged as without them. -/
theorem agrees_validate_pull_batch (state : DurableClientState V) (batch : PullBatch V) :
    Halt.Agrees (validate_pull_batch_checked state batch) (validate_pull_batch state batch) := by
  by_cases hframing :
      ∃ start finish, batch.frames.head? = some (.Start start) ∧ batch.frames.getLast? = some (.End finish)
  · obtain ⟨start, finish, hhead, hlast⟩ := hframing
    obtain ⟨hlength, hslice⟩ := slice_between hhead hlast
    unfold validate_pull_batch_checked validate_pull_batch
    simp only [hhead, hlast, hlength, hslice, Except.ok_bind]
    refine (Halt.agrees_lift _).bind fun _ _ => ?_
    refine (Halt.agrees_lift _).bind fun _ _ => ?_
    refine (Halt.agrees_lift _).bind fun _ _ => ?_
    refine (Halt.agrees_lift _).bind fun commits _ => ?_
    refine (Halt.agrees_lift _).bind fun _ _ => ?_
    refine (Halt.agrees_lift _).bind fun _ _ => ?_
    exact (agrees_validate_missing_commits _ _ commits).bind fun _ _ => Halt.agrees_lift (.ok (finish, commits))
  · obtain ⟨hchecked, hplain⟩ := validate_pull_batch_unframed hframing state
    rw [hchecked, hplain]
    exact Halt.agrees_lift (.error ClientError.InvalidPullFraming)

/-! ### When the counting loop faults -/

/-- The sequences from `first` on that the pairwise check accepts. -/
def saturating_sequences (first count : Nat) : List Nat := (List.range' first count).map (min 18446744073709551615)

theorem saturating_sequences_succ (first count : Nat) :
    saturating_sequences first (count + 1) = min 18446744073709551615 first :: saturating_sequences (first + 1) count := by
  rw [saturating_sequences, List.range'_succ]
  rfl

/-- Counting on from a sequence that was cut back gives the same. -/
theorem saturating_sequences_shift (first count : Nat) :
    saturating_sequences (min 18446744073709551615 first + 1) count = saturating_sequences (first + 1) count := by
  induction count generalizing first with
  | zero => rfl
  | succ count ih =>
    rw [saturating_sequences_succ, saturating_sequences_succ]
    congr 1
    · omega
    · rw [← ih (min 18446744073709551615 first + 1), ← ih (first + 1)]
      congr 2
      omega

/-- The pairwise check fixes every sequence by the first one. -/
theorem successors_iff {commit : PullCommit V} {commits : List (PullCommit V)} :
    (∀ pair ∈ (commit :: commits).zip commits, pair.2.sequence = pair.1.sequence.saturating_add 1) ↔
      (commit :: commits).map (·.sequence.toNat) = saturating_sequences commit.sequence.toNat (commits.length + 1) := by
  have hfirst : min 18446744073709551615 commit.sequence.toNat = commit.sequence.toNat :=
    Nat.min_eq_right (Nat.le_sub_one_of_lt commit.sequence.toNat_lt)
  rw [List.map_cons, saturating_sequences_succ, hfirst, List.cons.injEq, and_iff_right rfl]
  induction commits generalizing commit with
  | nil => simp [saturating_sequences]
  | cons next commits ih =>
    have hnext : min 18446744073709551615 next.sequence.toNat = next.sequence.toNat :=
      Nat.min_eq_right (Nat.le_sub_one_of_lt next.sequence.toNat_lt)
    have hsuccessor : next.sequence = commit.sequence.saturating_add 1 ↔
        next.sequence.toNat = min 18446744073709551615 (commit.sequence.toNat + 1) := by
      rw [← UInt64.toNat_inj, UInt64.toNat_saturating_add_one, Nat.min_comm]
    have hrest : (∀ pair ∈ (next :: commits).zip commits, pair.2.sequence = pair.1.sequence.saturating_add 1) ↔
        commits.map (·.sequence.toNat) = saturating_sequences (next.sequence.toNat + 1) commits.length := ih hnext
    rw [List.zip_cons_cons, List.forall_mem_cons, hrest, hsuccessor, List.map_cons, List.length_cons,
      saturating_sequences_succ, List.cons.injEq]
    refine and_congr_right fun hsequence => ?_
    -- past the largest sequence both ways of counting on stay there
    rw [hsequence, saturating_sequences_shift]

theorem getLast_saturating_sequences (first count : Nat) :
    (saturating_sequences first (count + 1)).getLast? = some (min 18446744073709551615 (first + count)) := by
  simp [saturating_sequences, List.range'_concat]

theorem expect_sequence_checked_eq_ok {expected next : UInt64} {commit : PullCommit V}
    (hexpect : expect_sequence_checked expected commit = .ok next) :
    commit.sequence = expected ∧ next.toNat = expected.toNat + 1 := by
  obtain ⟨_, hsame, hadd⟩ := Except.bind_eq_ok_iff.mp hexpect
  rw [Halt.lift_eq_ok_iff, Except.refuse_eq_ok_iff, not_not] at hsame
  exact ⟨hsame, Halt.add_eq_ok_iff.mp hadd⟩

theorem faults_expect_sequence_iff {expected : UInt64} {commit : PullCommit V} :
    Halt.Faults (expect_sequence_checked expected commit) ↔
      commit.sequence = expected ∧ 2 ^ 64 ≤ expected.toNat + 1 := by
  rw [expect_sequence_checked, Halt.faults_lift_bind_iff]
  simp only [Except.refuse_eq_ok_iff, ne_eq, not_not, Halt.faults_add_iff, exists_const]
  rfl

/-- A loop that ends has counted the commits. -/
theorem toNat_of_expect_sequences {commits : List (PullCommit V)} {expected last : UInt64}
    (hloop : commits.foldlM expect_sequence_checked expected = .ok last) :
    last.toNat = expected.toNat + commits.length := by
  induction commits generalizing expected with
  | nil =>
    cases hloop
    rfl
  | cons commit commits ih =>
    obtain ⟨next, hexpect, hrest⟩ := Except.foldlM_cons_eq_ok_iff.mp hloop
    have hnext := (expect_sequence_checked_eq_ok hexpect).2
    have hlast := ih hrest
    rw [List.length_cons]
    omega

/-- The loop faults on exactly the commits that follow each other beyond the largest sequence. -/
theorem faults_expect_sequences_iff {commits : List (PullCommit V)} {expected : UInt64}
    (hpairs : ∀ pair ∈ commits.zip commits.tail, pair.2.sequence = pair.1.sequence.saturating_add 1) :
    Halt.Faults (commits.foldlM expect_sequence_checked expected) ↔
      2 ^ 64 ≤ expected.toNat + commits.length ∧
        commits.map (·.sequence.toNat) = saturating_sequences expected.toNat commits.length := by
  induction commits generalizing expected with
  | nil =>
    have hlt := expected.toNat_lt
    refine iff_of_false (Halt.not_faults_ok expected) fun hreaches => ?_
    exact absurd hreaches.1 (Nat.not_le_of_lt hlt)
  | cons commit commits ih =>
    have hlt := expected.toNat_lt
    have hsequences := successors_iff.mp hpairs
    rw [List.foldlM_cons, Halt.faults_bind_iff, faults_expect_sequence_iff, List.length_cons]
    by_cases hsame : commit.sequence = expected
    · subst hsame
      rw [and_iff_left hsequences, and_iff_right rfl]
      by_cases hfull : 2 ^ 64 ≤ commit.sequence.toNat + 1
      · exact iff_of_true (.inl hfull) (by omega)
      · -- the loop goes on with the next sequence
        have hrest : ∀ pair ∈ commits.zip commits.tail, pair.2.sequence = pair.1.sequence.saturating_add 1 := by
          cases commits with
          | nil => simp
          | cons next commits => exact fun pair hpair => hpairs pair (List.mem_cons_of_mem _ hpair)
        obtain ⟨next, hnext⟩ : ∃ next : UInt64, next.toNat = commit.sequence.toNat + 1 :=
          ⟨.ofNat (commit.sequence.toNat + 1), UInt64.toNat_ofNat_of_lt' (Nat.lt_of_not_le hfull)⟩
        have hexpect : expect_sequence_checked commit.sequence commit = .ok next := by
          refine Except.bind_eq_ok_iff.mpr ⟨(), ?_, Halt.add_eq_ok_iff.mpr hnext⟩
          exact Halt.lift_eq_ok_iff.mpr (Except.refuse_of_not (not_not_intro rfl))
        have htail : commits.map (·.sequence.toNat) = saturating_sequences next.toNat commits.length := by
          rw [List.map_cons, saturating_sequences_succ] at hsequences
          rw [hnext]
          exact (List.cons.inj hsequences).2
        have hloop := (@ih next hrest).trans (and_iff_left htail)
        rw [or_iff_right hfull]
        constructor
        · rintro ⟨after, hafter, hfaults⟩
          obtain rfl : next = after := Except.ok.inj (hexpect.symm.trans hafter)
          have hreaches := hloop.mp hfaults
          omega
        · exact fun hreaches => ⟨next, hexpect, hloop.mpr (by omega)⟩
    · refine iff_of_false ?_ ?_
      · rintro (⟨heq, _⟩ | ⟨next, hexpect, _⟩)
        · exact hsame heq
        · exact hsame (expect_sequence_checked_eq_ok hexpect).1
      · rintro ⟨_, hexpected⟩
        rw [List.map_cons, saturating_sequences_succ] at hexpected
        have hhead := (List.cons.inj hexpected).1
        exact hsame (UInt64.toNat_inj.mp (by omega))

theorem faults_validate_missing_commits_iff {current_sequence end_sequence : UInt64} {commits : List (PullCommit V)}
    (hpairs : ∀ pair ∈ commits.zip commits.tail, pair.2.sequence = pair.1.sequence.saturating_add 1) :
    Halt.Faults (validate_missing_commits_checked current_sequence end_sequence commits) ↔
      current_sequence < end_sequence ∧ 2 ^ 64 ≤ current_sequence.toNat + 1 + commits.length ∧
        commits.map (·.sequence.toNat) = saturating_sequences (current_sequence.toNat + 1) commits.length := by
  unfold validate_missing_commits_checked
  by_cases hahead : current_sequence < end_sequence
  · -- the first addition stays below the end of the batch
    have hfirst := UInt64.toNat_add_one hahead
    have hadd : (Halt.add current_sequence 1 : Except (Halt ClientError) UInt64) = .ok (current_sequence + 1) :=
      Halt.add_eq_ok_iff.mpr hfirst
    have hloop := @faults_expect_sequences_iff V commits (current_sequence + 1) hpairs
    rw [hfirst] at hloop
    rw [if_pos hahead, Except.bind_of_ok hadd, Halt.faults_bind_iff, hloop, and_iff_right hahead]
    refine or_iff_left ?_
    rintro ⟨last, hlast, hfaults⟩
    have hcounted := toNat_of_expect_sequences hlast
    have hle : (1 : UInt64) ≤ last := UInt64.le_iff_toNat_le.mpr (by change 1 ≤ last.toNat; omega)
    rw [Except.bind_of_ok (Halt.sub_of_le hle)] at hfaults
    exact Halt.not_faults_lift _ hfaults
  · rw [if_neg hahead]
    exact iff_of_false (Halt.not_faults_ok ()) fun hreaches => hahead hreaches.1

/-- A batch that passes every check before the counting loop, moves the sequence to the largest one, and carries
every commit up to it, the last one perhaps more than once. -/
def ReachesLargest (state : DurableClientState V) (batch : PullBatch V) : Prop :=
  ∃ (finish : Checkpoint) (commits : List (PullCommit V)), batch.frames = .Start finish :: (commits.map (.Commit finish.token) ++ [.End finish]) ∧
    validate_scope state finish = .ok () ∧
    (∀ current, state.checkpoint = some current →
      finish.scope = current.scope ∧ finish.cursor.epoch = current.cursor.epoch) ∧
    finish.cursor.sequence.toNat = 2 ^ 64 - 1 ∧ state.frontier < 2 ^ 64 - 1 ∧
    2 ^ 64 - 1 ≤ state.frontier + commits.length ∧
    commits.map (·.sequence.toNat) = saturating_sequences (state.frontier + 1) commits.length

theorem mapM_frame_commit_iff {token : OpaqueCheckpoint} {frames : List (PullFrame V)} {commits : List (PullCommit V)} :
    frames.mapM (frame_commit token) = .ok commits ↔ frames = commits.map (.Commit token) := by
  rw [Except.mapM_eq_ok_iff]
  constructor
  · intro hcommits
    induction hcommits with
    | nil => rfl
    | @cons frame commit frames commits hcommit _ ih =>
      cases frame with
      | Commit checkpoint first =>
        simp only [frame_commit] at hcommit
        split at hcommit
        · cases hcommit
        · rename_i htoken
          cases hcommit
          rw [not_not.mp htoken, ih]
          rfl
      | Start checkpoint => cases hcommit
      | End checkpoint => cases hcommit
  · rintro rfl
    induction commits with
    | nil => exact .nil
    | cons commit commits ih => exact .cons (by simp [frame_commit]) ih

theorem validate_continuation_eq_ok_iff {installed : Option Checkpoint} {finish : Checkpoint} {u : Unit} :
    validate_continuation installed finish = .ok u ↔ ∀ current, installed = some current →
      finish.scope = current.scope ∧ finish.cursor.epoch = current.cursor.epoch ∧
        current.cursor.sequence ≤ finish.cursor.sequence := by
  cases installed with
  | none => simp [validate_continuation]
  | some current => simp [validate_continuation, Except.bind_eq_ok_iff]

/-- Commits that reach the largest sequence end there. -/
theorem getLast_of_reaches {commits : List (PullCommit V)} {first : Nat} (hfirst : first < 2 ^ 64)
    (hreaches : 2 ^ 64 ≤ first + commits.length)
    (hsequences : commits.map (·.sequence.toNat) = saturating_sequences first commits.length) :
    ∃ commit, commits.getLast? = some commit ∧ commit.sequence.toNat = 2 ^ 64 - 1 := by
  obtain ⟨count, hcount⟩ : ∃ count, commits.length = count + 1 := Nat.exists_eq_add_one.mpr (by omega)
  have hlast := congrArg List.getLast? hsequences
  rw [hcount, getLast_saturating_sequences, List.getLast?_map] at hlast
  obtain ⟨commit, hcommit, hsequence⟩ := Option.map_eq_some_iff.mp hlast
  exact ⟨commit, hcommit, by omega⟩

/-- The sequence a batch is compared with. -/
theorem current_sequence_eq {state : DurableClientState V} {finish : Checkpoint}
    (hepoch : ∀ current, state.checkpoint = some current → finish.cursor.epoch = current.cursor.epoch) :
    (match state.checkpoint.filter fun current => current.cursor.epoch = finish.cursor.epoch with
      | some current => current.cursor.sequence
      | none => 0 : UInt64).toNat = state.frontier := by
  cases hcheckpoint : state.checkpoint with
  | none => simp [DurableClientState.frontier, hcheckpoint]
  | some current => simp [DurableClientState.frontier, hcheckpoint, Option.filter, hepoch current hcheckpoint]

/-- A batch faults exactly when its commits reach the largest sequence. -/
theorem faults_validate_pull_batch_iff {state : DurableClientState V} {batch : PullBatch V} :
    Halt.Faults (validate_pull_batch_checked state batch) ↔ ReachesLargest state batch := by
  unfold validate_pull_batch_checked
  split
  · rename_i start finish hhead hlast
    obtain ⟨hlength, hslice⟩ := slice_between hhead hlast
    obtain ⟨middle, hframes⟩ := exists_frames_between hhead hlast
    have hmiddle : (batch.frames.drop 1).dropLast = middle := by simp [hframes]
    simp only [hlength, hslice, Except.ok_bind, Halt.faults_lift_bind_iff, Except.refuse_eq_ok_iff, exists_const,
      hmiddle, mapM_frame_commit_iff, Except.forM_eq_ok_iff, validate_successor, ne_eq, not_not,
      validate_continuation_eq_ok_iff]
    constructor
    · rintro ⟨rfl, _, hscope, hcontinues, commits, rfl, hpairs, hend, hfaults⟩
      have hsame current (hcurrent : state.checkpoint = some current) :
          start.scope = current.scope ∧ start.cursor.epoch = current.cursor.epoch :=
        ⟨(hcontinues current hcurrent).1, (hcontinues current hcurrent).2.1⟩
      have hfrontier := current_sequence_eq fun current hcurrent => (hsame current hcurrent).2
      rw [Halt.faults_bind_iff, faults_validate_missing_commits_iff hpairs, UInt64.lt_iff_toNat_lt, hfrontier] at hfaults
      rcases hfaults with ⟨hahead, hreaches, hsequences⟩ | ⟨_, _, hfaults⟩
      · have hbound := start.cursor.sequence.toNat_lt
        obtain ⟨last, hlastCommit, hlargest⟩ := getLast_of_reaches (by omega) (by omega) hsequences
        have hsequence : last.sequence = start.cursor.sequence := by
          by_contra hne
          exact hend ⟨last, hlastCommit, hne⟩
        rw [hsequence] at hlargest
        exact ⟨start, commits, hframes, hscope, hsame, hlargest, by omega, by omega, hsequences⟩
      · exact absurd hfaults (Halt.not_faults_ok _)
    · rintro ⟨finish', commits, hcommits, hscope, hsame, hlargest, hbelow, hreaches, hsequences⟩
      rw [hframes, List.cons.injEq, PullFrame.Start.injEq] at hcommits
      obtain ⟨rfl, hinner⟩ := hcommits
      obtain ⟨rfl, hfinish⟩ := List.append_inj' hinner rfl
      cases hfinish
      have hcontinues current (hcurrent : state.checkpoint = some current) : start.scope = current.scope ∧
          start.cursor.epoch = current.cursor.epoch ∧ current.cursor.sequence ≤ start.cursor.sequence := by
        refine ⟨(hsame current hcurrent).1, (hsame current hcurrent).2, UInt64.le_iff_toNat_le.mpr ?_⟩
        rw [hlargest]
        exact Nat.le_sub_one_of_lt current.cursor.sequence.toNat_lt
      have hfrontier := current_sequence_eq fun current hcurrent => (hsame current hcurrent).2
      have hpairs : ∀ pair ∈ commits.zip commits.tail, pair.2.sequence = pair.1.sequence.saturating_add 1 := by
        cases commits with
        | nil => simp
        | cons commit commits =>
          have hfirst : commit.sequence.toNat = state.frontier + 1 := by
            rw [List.length_cons, saturating_sequences_succ, List.map_cons] at hsequences
            have hhead := (List.cons.inj hsequences).1
            omega
          rw [← hfirst] at hsequences
          exact successors_iff.mpr hsequences
      obtain ⟨last, hlastCommit, hlastSequence⟩ := getLast_of_reaches (by omega) (by omega) hsequences
      refine ⟨rfl, (), hscope, hcontinues, commits, rfl, hpairs, ?_, ?_⟩
      · rintro ⟨commit, hcommit, hne⟩
        obtain rfl : last = commit := Option.some.inj (hlastCommit.symm.trans hcommit)
        exact hne (UInt64.toNat_inj.mp (hlastSequence.trans hlargest.symm))
      · rw [Halt.faults_bind_iff, faults_validate_missing_commits_iff hpairs, UInt64.lt_iff_toNat_lt, hfrontier]
        exact .inl ⟨by omega, by omega, hsequences⟩
  · rename_i hframing
    refine iff_of_false ?_ ?_
    · rintro ⟨fault, hfault⟩
      cases hfault
    · rintro ⟨finish, commits, hcommits, _⟩
      exact hframing finish finish (by rw [hcommits]; rfl)
        (by rw [hcommits, ← List.cons_append, List.getLast?_concat])

/-- The arithmetic of a pull batch is safe, unless its commits reach the largest sequence. -/
theorem pull_sequencing_safe_iff (state : DurableClientState V) (batch : PullBatch V) :
    ¬ Halt.Faults (validate_pull_batch_checked state batch) ↔ ¬ ReachesLargest state batch :=
  not_congr faults_validate_pull_batch_iff

open transitions in
/-- A reset leads one short of the largest sequence, and the next commit has it. -/
theorem pull_sequencing_overflows : ∃ prepared self,
    opened.prepare_transition (reset (checkpoint "cp-1" 1 18446744073709551614) []) = .ok prepared ∧
      opened.install prepared = .ok self ∧
      Halt.Faults (validate_pull_batch_checked self.state
        (batch (checkpoint "cp-2" 1 18446744073709551615) [pull_commit 18446744073709551615 []])) := by
  have hexecute : (do
      let prepared ← (opened.prepare_transition (reset (checkpoint "cp-1" 1 18446744073709551614) [])).toOption
      let self ← (opened.install prepared).toOption
      if Halt.Faults (validate_pull_batch_checked self.state
        (batch (checkpoint "cp-2" 1 18446744073709551615) [pull_commit 18446744073709551615 []])) then some ()
      else none) = some () := by
    decide +kernel
  simp only [Option.bind_eq_bind, Option.bind_eq_some_iff, Except.toOption_eq_some_iff] at hexecute
  obtain ⟨prepared, hprepare, self, hinstall, hfaults⟩ := hexecute
  refine ⟨prepared, self, hprepare, hinstall, ?_⟩
  split at hfaults
  · assumption
  · cases hfaults

end surrealdb_sync_client
