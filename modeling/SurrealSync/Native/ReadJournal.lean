import SurrealSync.Client.ReadBatches

open surrealdb_sync_client

namespace surrealdb_rn_core.sync_read

inductive NativeSyncError where
  | InvalidInput
  | Internal
  | RecoveryRequired
  | ReadOutputTooLarge
deriving DecidableEq

def MAX_BATCHES : Nat := 128

def MAX_JOURNAL_BYTES : Nat := 4 * 1024 * 1024

structure JournalEpoch where
  namePrefix : String
  generation : UInt64
deriving DecidableEq

def JournalEpoch.value (epoch : JournalEpoch) : String :=
  epoch.namePrefix ++ ":" ++ epoch.generation.toNat.repr

def JournalEpoch.advance (epoch : JournalEpoch) : Except NativeSyncError JournalEpoch := do
  let generation ← Except.okOr (epoch.generation.checked_add 1) .RecoveryRequired
  return { epoch with generation }

structure Cursor where
  process_epoch : String
  revision : UInt64
deriving DecidableEq

variable {V : Type} [DecidableEq V]

/-- The content of the JSON text of a batch, and the length of that text. -/
structure Batch (V : Type) where
  before : UInt64
  revision : UInt64
  json : CommittedReadBatchV1 V
  length : Nat

structure ReadJournal (V : Type) where
  epoch : JournalEpoch
  batches : List (Batch V)
  bytes : Nat

/-- The fields of the answer to `readSnapshot`. -/
structure Bootstrap (V : Type) where
  snapshot : ReadSnapshotV1 V
  cursor : Cursor

/-- The fields of the answer to `readChanges`, by its kind. -/
inductive Changes (V : Type) where
  | batches (batches : List (CommittedReadBatchV1 V)) (cursor : Cursor)
  | reset_required (snapshot : ReadSnapshotV1 V) (cursor : Cursor)

namespace ReadJournal

def rotate (journal : ReadJournal V) : Except NativeSyncError (ReadJournal V) := do
  let epoch ← journal.epoch.advance
  return { epoch, batches := [], bytes := 0 }

def cursor (journal : ReadJournal V) (revision : UInt64) : Cursor := ⟨journal.epoch.value, revision⟩

def bootstrap (journal : ReadJournal V) (runtime : ClientRuntime V) : Bootstrap V where
  snapshot := runtime.read_snapshot
  cursor := journal.cursor runtime.state.revision

/-- The loop that makes room for a text of `length` bytes. It ends at the latest with no batch left, where the
text fits. -/
def make_room (length : Nat) : List (Batch V) → Nat → List (Batch V) × Nat
  | [], bytes => ([], bytes)
  | old :: batches, bytes =>
    if (old :: batches).length ≥ MAX_BATCHES ∨ bytes + length > MAX_JOURNAL_BYTES then
      make_room length batches (bytes - old.length)
    else (old :: batches, bytes)

/-- `encoded` is the length of the text of the batch, if it can be written. -/
def record (encoded : CommittedReadBatchV1 V → Option Nat) (journal : ReadJournal V)
    (batch : Option (CommittedReadBatchV1 V)) : ReadJournal V :=
  match batch with
  | none => journal
  | some batch =>
    match (encoded batch).filter (· ≤ MAX_JOURNAL_BYTES) with
    | none => { journal with batches := [], bytes := 0 }
    | some length =>
      let (batches, bytes) := make_room length journal.batches journal.bytes
      { journal with
        batches := batches ++ [⟨batch.before_revision, batch.revision, batch, length⟩]
        bytes := bytes + length }

/-- The loop over the batches that are handed out, from the revision `after`. -/
def hand_out (after : UInt64) : List (Batch V) → Except NativeSyncError (List (CommittedReadBatchV1 V) × UInt64)
  | [] => .ok ([], after)
  | batch :: batches => do
    Except.refuse (batch.before ≠ after) NativeSyncError.Internal
    let (rest, after) ← hand_out batch.revision batches
    return (batch.json :: rest, after)

def changes (journal : ReadJournal V) (runtime : ClientRuntime V) (cursor : Cursor) (limit : Nat) :
    Except NativeSyncError (Changes V) := do
  Except.refuse (¬ (1 ≤ limit ∧ limit ≤ MAX_BATCHES)) NativeSyncError.InvalidInput
  let revision := cursor.revision
  let current := runtime.state.revision
  let first := journal.batches.findIdx? (·.before = revision)
  if cursor.process_epoch ≠ journal.epoch.value ∨ revision > current ∨ (revision < current ∧ first.isNone) then
    let reset := journal.bootstrap runtime
    return .reset_required reset.snapshot reset.cursor
  else
    let handed := if revision < current then (journal.batches.drop (first.getD 0)).take limit else []
    let (batches, after) ← hand_out revision handed
    return .batches batches (journal.cursor after)

end ReadJournal

/-! ### The runtimes a journal has seen -/

/-- The runtime cell. `past` holds every runtime it had, the present one included. -/
structure Cell (V : Type) [DecidableEq V] where
  runtime : ClientRuntime V
  journal : ReadJournal V
  past : List (ClientRuntime V)

inductive CellStep (V : Type) [DecidableEq V] where
  /-- A facade mutation. -/
  | install (transition : Transition V)
  /-- A recovery or a bootstrap: the runtime is opened again from the durable state. -/
  | rotate (runtime : ClientRuntime V)

namespace Cell

variable (encoded : CommittedReadBatchV1 V → Option Nat)

/-- A durable state that is opened again is the present one or a later one. -/
def step (cell : Cell V) : CellStep V → Cell V
  | .install transition =>
    match cell.runtime.prepare_transition transition >>= cell.runtime.install_with_read_batch with
    | .ok (batch, runtime) =>
      { runtime, journal := cell.journal.record encoded batch, past := cell.past ++ [runtime] }
    | .error _ => cell
  | .rotate runtime =>
    if runtime.state = cell.runtime.state ∨ cell.runtime.state.revision < runtime.state.revision then
      { runtime, journal := (cell.journal.rotate).toOption.getD cell.journal, past := cell.past ++ [runtime] }
    else cell

end Cell

/-- The batch lies between two runtimes of the cell. -/
def Recorded (past : List (ClientRuntime V)) (batch : CommittedReadBatchV1 V) : Prop :=
  ∃ before ∈ past, ∃ after ∈ past, BatchBetween before after batch

/-- The snapshot is that of a runtime of the cell. -/
def Committed (past : List (ClientRuntime V)) (snapshot : ReadSnapshotV1 V) : Prop :=
  ∃ runtime ∈ past, runtime.read_snapshot = snapshot

theorem Recorded.mono {past more : List (ClientRuntime V)} {batch : CommittedReadBatchV1 V} (hsubset : past ⊆ more)
    (hrecorded : Recorded past batch) : Recorded more batch := by
  obtain ⟨before, hbefore, after, hafter, hbetween⟩ := hrecorded
  exact ⟨before, hsubset hbefore, after, hsubset hafter, hbetween⟩

theorem Committed.mono {past more : List (ClientRuntime V)} {snapshot : ReadSnapshotV1 V} (hsubset : past ⊆ more)
    (hcommitted : Committed past snapshot) : Committed more snapshot := by
  obtain ⟨runtime, hruntime, hsnapshot⟩ := hcommitted
  exact ⟨runtime, hsubset hruntime, hsnapshot⟩

namespace ReadJournal

omit [DecidableEq V] in
theorem make_room_subset (length : Nat) (batches : List (Batch V)) (bytes : Nat) :
    (make_room length batches bytes).1 ⊆ batches := by
  induction batches generalizing bytes with
  | nil => exact fun _ hmem => hmem
  | cons old batches ih =>
    unfold make_room
    split
    · exact List.subset_cons_of_subset _ (ih _)
    · exact fun _ hmem => hmem

omit [DecidableEq V] in
theorem mem_of_record {encoded : CommittedReadBatchV1 V → Option Nat} {journal : ReadJournal V}
    {batch : Option (CommittedReadBatchV1 V)} {kept : Batch V} (hkept : kept ∈ (journal.record encoded batch).batches) :
    kept ∈ journal.batches ∨ batch = some kept.json := by
  unfold record at hkept
  split at hkept
  · exact .inl hkept
  · split at hkept
    · cases hkept
    · rcases List.mem_append.mp hkept with hold | hnew
      · exact .inl (make_room_subset _ _ _ hold)
      · rw [List.mem_singleton] at hnew
        subst hnew
        exact .inr rfl

omit [DecidableEq V] in
theorem rotate_batches {journal rotated : ReadJournal V} (hrotate : journal.rotate = .ok rotated) :
    rotated.batches = [] := by
  obtain ⟨epoch, -, heq⟩ := Except.bind_eq_ok_iff.mp hrotate
  cases heq
  rfl

omit [DecidableEq V] in
theorem mem_of_hand_out {after last : UInt64} {handed : List (Batch V)} {batches : List (CommittedReadBatchV1 V)}
    (hhand : hand_out after handed = .ok (batches, last)) {batch : CommittedReadBatchV1 V} (hbatch : batch ∈ batches) :
    ∃ kept ∈ handed, kept.json = batch := by
  induction handed generalizing after batches with
  | nil =>
    cases hhand
    cases hbatch
  | cons kept handed ih =>
    obtain ⟨-, -, hrest⟩ := Except.bind_eq_ok_iff.mp hhand
    obtain ⟨⟨rest, next⟩, hrest, heq⟩ := Except.bind_eq_ok_iff.mp hrest
    cases heq
    rcases List.mem_cons.mp hbatch with rfl | hbatch
    · exact ⟨kept, List.mem_cons_self, rfl⟩
    · obtain ⟨found, hfound, hjson⟩ := ih hrest hbatch
      exact ⟨found, List.mem_cons_of_mem _ hfound, hjson⟩

/-- What `changes` hands out is in the journal, or is the present snapshot. -/
theorem changes_cases {journal : ReadJournal V} {runtime : ClientRuntime V} {cursor : Cursor} {limit : Nat}
    {changes : Changes V} (hchanges : journal.changes runtime cursor limit = .ok changes) :
    (∃ after, changes = .reset_required runtime.read_snapshot after) ∨
      ∃ batches after, changes = .batches batches after ∧
        ∀ batch ∈ batches, ∃ kept ∈ journal.batches, kept.json = batch := by
  obtain ⟨-, -, hanswer⟩ := Except.bind_eq_ok_iff.mp hchanges
  dsimp only at hanswer
  split at hanswer
  · cases hanswer
    exact .inl ⟨_, rfl⟩
  · obtain ⟨⟨batches, last⟩, hhand, heq⟩ := Except.bind_eq_ok_iff.mp hanswer
    cases heq
    refine .inr ⟨batches, _, rfl, fun batch hbatch => ?_⟩
    obtain ⟨kept, hkept, hjson⟩ := mem_of_hand_out hhand hbatch
    refine ⟨kept, ?_, hjson⟩
    split at hkept
    · exact List.mem_of_mem_drop (List.mem_of_mem_take hkept)
    · cases hkept

end ReadJournal

/-- No two runtimes of a cell share a revision, the present one is the latest, and the journal holds batches
between them. -/
structure Cell.Valid (cell : Cell V) : Prop where
  present : cell.runtime ∈ cell.past
  latest : ∀ runtime ∈ cell.past, runtime.state.revision ≤ cell.runtime.state.revision
  unique : ∀ one ∈ cell.past, ∀ other ∈ cell.past, one.state.revision = other.state.revision → one = other
  batches : ∀ kept ∈ cell.journal.batches, Recorded cell.past kept.json

namespace Cell

variable {encoded : CommittedReadBatchV1 V → Option Nat} {cell : Cell V}

theorem past_subset_step (step : CellStep V) : cell.past ⊆ (cell.step encoded step).past := by
  unfold Cell.step
  repeat' split
  all_goals simp

/-- A runtime that is the present one, or a later one, keeps the runtimes apart. -/
theorem Valid.append {runtime : ClientRuntime V} {journal : ReadJournal V} (hvalid : cell.Valid)
    (hlater : runtime = cell.runtime ∨ cell.runtime.state.revision < runtime.state.revision)
    (hbatches : ∀ kept ∈ journal.batches, Recorded (cell.past ++ [runtime]) kept.json) :
    (⟨runtime, journal, cell.past ++ [runtime]⟩ : Cell V).Valid := by
  have hle : cell.runtime.state.revision ≤ runtime.state.revision := by
    rcases hlater with rfl | hlt
    · exact UInt64.le_refl _
    · exact UInt64.le_of_lt hlt
  have hnew : ∀ old ∈ cell.past, old.state.revision = runtime.state.revision → old = runtime := by
    intro old hold heq
    rcases hlater with rfl | hlt
    · exact hvalid.unique old hold _ hvalid.present heq
    · have hold := hvalid.latest old hold
      rw [heq] at hold
      exact absurd hlt (UInt64.not_lt.mpr hold)
  constructor
  case present => simp
  case latest =>
    intro other hother
    rcases List.mem_append.mp hother with hother | hother
    · exact UInt64.le_trans (hvalid.latest other hother) hle
    · rw [List.mem_singleton.mp hother]
      exact UInt64.le_refl _
  case unique =>
    intro one hone other hother heq
    rcases List.mem_append.mp hone with hone | hone
    · rcases List.mem_append.mp hother with hother | hother
      · exact hvalid.unique one hone other hother heq
      · rw [List.mem_singleton.mp hother] at heq ⊢
        exact hnew one hone heq
    · rw [List.mem_singleton.mp hone] at heq ⊢
      rcases List.mem_append.mp hother with hother | hother
      · exact (hnew other hother heq.symm).symm
      · rw [List.mem_singleton.mp hother]
  case batches => exact hbatches

theorem Valid.step (hvalid : cell.Valid) (step : CellStep V) : (cell.step encoded step).Valid := by
  have hsubset : ∀ runtime : ClientRuntime V, cell.past ⊆ cell.past ++ [runtime] :=
    fun runtime => List.subset_append_left _ _
  cases step with
  | install transition =>
    simp only [Cell.step]
    split
    · rename_i batch runtime hinstall
      obtain ⟨prepared, hprepare, hinstall⟩ := Except.bind_eq_ok_iff.mp hinstall
      obtain ⟨hinstall, hbatch⟩ := ClientRuntime.install_with_read_batch_eq_ok_iff.mp hinstall
      have hstep : Step cell.runtime transition runtime := ⟨prepared, hprepare, hinstall⟩
      refine hvalid.append ?_ ?_
      · rcases UInt64.lt_or_eq_of_le hstep.revision_le with hlt | heq
        · exact .inr hlt
        · exact .inl (hstep.eq_of_revision_eq heq.symm)
      · intro kept hkept
        rcases ReadJournal.mem_of_record hkept with hold | hnew
        · exact (hvalid.batches kept hold).mono (hsubset runtime)
        · rw [hbatch] at hnew
          exact ⟨cell.runtime, hsubset runtime hvalid.present, runtime, by simp, batchBetween_of_committed_batch hnew⟩
    · exact hvalid
  | rotate runtime =>
    simp only [Cell.step]
    split
    · rename_i hlater
      refine hvalid.append (hlater.imp ClientRuntime.ext_state id) ?_
      intro kept hkept
      cases hrotate : cell.journal.rotate with
      | error error =>
        rw [hrotate] at hkept
        exact (hvalid.batches kept hkept).mono (hsubset runtime)
      | ok rotated =>
        rw [hrotate] at hkept
        have hempty := ReadJournal.rotate_batches hrotate
        change kept ∈ rotated.batches at hkept
        rw [hempty] at hkept
        cases hkept
    · exact hvalid

theorem Valid.bootstrap (hvalid : cell.Valid) : Committed cell.past (cell.journal.bootstrap cell.runtime).snapshot :=
  ⟨cell.runtime, hvalid.present, rfl⟩

end Cell

/-- What an answer to `readChanges` holds was committed. -/
def Changes.Served (past : List (ClientRuntime V)) : Changes V → Prop
  | .batches handed _ => ∀ batch ∈ handed, Recorded past batch
  | .reset_required snapshot _ => Committed past snapshot

theorem Changes.Served.mono {past more : List (ClientRuntime V)} {changes : Changes V} (hsubset : past ⊆ more)
    (hserved : changes.Served past) : changes.Served more := by
  cases changes with
  | batches batches cursor => exact fun batch hbatch => (hserved batch hbatch).mono hsubset
  | reset_required snapshot cursor => exact Committed.mono hsubset hserved

theorem Cell.Valid.changes {cell : Cell V} (hvalid : cell.Valid) {cursor : Cursor} {limit : Nat} {changes : Changes V}
    (hchanges : cell.journal.changes cell.runtime cursor limit = .ok changes) : changes.Served cell.past := by
  rcases ReadJournal.changes_cases hchanges with ⟨after, rfl⟩ | ⟨batches, after, rfl, hkept⟩
  · exact ⟨cell.runtime, hvalid.present, rfl⟩
  · intro batch hbatch
    obtain ⟨kept, hmem, rfl⟩ := hkept batch hbatch
    exact hvalid.batches kept hmem

end surrealdb_rn_core.sync_read
