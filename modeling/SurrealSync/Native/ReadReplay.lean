import SurrealSync.Native.ReadJournal

open surrealdb_sync_client

namespace surrealdb_rn_core.sync_read

variable {V : Type}

/-! ### What the journal keeps -/

/-- The kept batches lead from one revision to another, each from where the one before it ended. -/
def Linked : UInt64 → List (Batch V) → UInt64 → Prop
  | start, [], stop => start = stop
  | start, batch :: batches, stop =>
    batch.before = start ∧ batch.before < batch.revision ∧ Linked batch.revision batches stop

/-- The batches of an answer lead from one revision to another. -/
def Adjacent : UInt64 → List (CommittedReadBatchV1 V) → UInt64 → Prop
  | start, [], stop => start = stop
  | start, batch :: batches, stop => batch.before_revision = start ∧ Adjacent batch.revision batches stop

/-- A kept batch is labelled with the revisions of its content. -/
def Labelled (kept : Batch V) : Prop :=
  kept.before = kept.json.before_revision ∧ kept.revision = kept.json.revision

variable {start middle stop : UInt64} {batches later : List (Batch V)}

theorem Linked.append (hfirst : Linked start batches middle) (hlater : Linked middle later stop) :
    Linked start (batches ++ later) stop := by
  induction batches generalizing start with
  | nil =>
    cases hfirst
    exact hlater
  | cons batch batches ih =>
    obtain ⟨hbefore, hlt, hrest⟩ := hfirst
    exact ⟨hbefore, hlt, ih hrest⟩

theorem Linked.split (hlinked : Linked start batches stop) (count : Nat) :
    ∃ middle, Linked start (batches.take count) middle ∧ Linked middle (batches.drop count) stop := by
  induction batches generalizing start count with
  | nil =>
    refine ⟨stop, ?_, ?_⟩
    · rw [List.take_nil]
      exact hlinked
    · rw [List.drop_nil]
      exact rfl
  | cons batch batches ih =>
    cases count with
    | zero => exact ⟨start, rfl, hlinked⟩
    | succ count =>
      obtain ⟨hbefore, hlt, hrest⟩ := hlinked
      obtain ⟨middle, htake, hdrop⟩ := ih hrest count
      exact ⟨middle, ⟨hbefore, hlt, htake⟩, hdrop⟩

theorem Linked.le (hlinked : Linked start batches stop) : start ≤ stop := by
  induction batches generalizing start with
  | nil =>
    cases hlinked
    exact UInt64.le_refl stop
  | cons batch batches ih =>
    obtain ⟨rfl, hlt, hrest⟩ := hlinked
    exact UInt64.le_trans (UInt64.le_of_lt hlt) (ih hrest)

theorem Linked.lt_of_cons {batch : Batch V} (hlinked : Linked start (batch :: batches) stop) : start < stop := by
  obtain ⟨rfl, hlt, hrest⟩ := hlinked
  exact UInt64.lt_of_lt_of_le hlt hrest.le

theorem Linked.adjacent (hlinked : Linked start batches stop) (hlabelled : ∀ kept ∈ batches, Labelled kept) :
    Adjacent start (batches.map (·.json)) stop := by
  induction batches generalizing start with
  | nil => exact hlinked
  | cons batch batches ih =>
    obtain ⟨hbefore, _, hrest⟩ := hlinked
    obtain ⟨hfirst, hlater⟩ := List.forall_mem_cons.mp hlabelled
    refine ⟨hfirst.1.symm.trans hbefore, ?_⟩
    rw [← hfirst.2]
    exact ih hrest hlater

namespace ReadJournal

/-- The check inside the loop never fails on linked batches. -/
theorem hand_out_of_linked (hlinked : Linked start batches stop) :
    hand_out start batches = .ok (batches.map (·.json), stop) := by
  induction batches generalizing start with
  | nil =>
    cases hlinked
    rfl
  | cons batch batches ih =>
    obtain ⟨hbefore, _, hrest⟩ := hlinked
    refine Except.bind_eq_ok_iff.mpr ⟨(), Except.refuse_eq_ok_iff.mpr (not_not_intro hbefore), ?_⟩
    exact Except.bind_eq_ok_iff.mpr ⟨_, ih hrest, rfl⟩

/-- The bytes of the kept texts. -/
def total (batches : List (Batch V)) : Nat := (batches.map (·.length)).sum

/-- Making room drops batches from the front, keeps the count exact and leaves a place. -/
theorem make_room_spec {length bytes : Nat} (hbytes : bytes = total batches) (hfits : length ≤ MAX_JOURNAL_BYTES) :
    ∃ count, make_room length batches bytes = (batches.drop count, total (batches.drop count)) ∧
      (batches.drop count).length < MAX_BATCHES ∧ total (batches.drop count) + length ≤ MAX_JOURNAL_BYTES := by
  subst hbytes
  induction batches with
  | nil =>
    refine ⟨0, rfl, ?_, ?_⟩
    · simp [MAX_BATCHES]
    · simpa [total] using hfits
  | cons old batches ih =>
    by_cases hfull : (old :: batches).length ≥ MAX_BATCHES ∨ total (old :: batches) + length > MAX_JOURNAL_BYTES
    · obtain ⟨count, hroom, hcount, hroomy⟩ := ih
      have hrest : total (old :: batches) - old.length = total batches := by simp [total]
      refine ⟨count + 1, ?_, hcount, hroomy⟩
      rw [make_room, if_pos hfull, hrest, hroom]
      rfl
    · refine ⟨0, ?_, by simpa using (not_or.mp hfull).1, by simpa using (not_or.mp hfull).2⟩
      rw [make_room, if_neg hfull]
      rfl

/-- The loop of the source as it stands: it goes round without effect when it is full and has no batch to drop.
`none` when `rounds` are not enough. -/
def evict (length : Nat) : Nat → List (Batch V) → Nat → Option (List (Batch V) × Nat)
  | 0, _, _ => none
  | rounds + 1, batches, bytes =>
    if batches.length ≥ MAX_BATCHES ∨ bytes + length > MAX_JOURNAL_BYTES then
      match batches with
      | [] => evict length rounds [] bytes
      | old :: batches => evict length rounds batches (bytes - old.length)
    else some (batches, bytes)

/-- With an exact count the loop ends before it runs out of batches. -/
theorem evict_eq_make_room {length bytes : Nat} (hbytes : bytes = total batches) (hfits : length ≤ MAX_JOURNAL_BYTES) :
    evict length (batches.length + 1) batches bytes = some (make_room length batches bytes) := by
  subst hbytes
  induction batches with
  | nil =>
    have hroomy : ¬ (([] : List (Batch V)).length ≥ MAX_BATCHES ∨
        total ([] : List (Batch V)) + length > MAX_JOURNAL_BYTES) := by
      simp only [total, MAX_BATCHES, List.length_nil, List.map_nil, List.sum_nil]
      omega
    rw [evict, if_neg hroomy]
    rfl
  | cons old batches ih =>
    have hrest : total (old :: batches) - old.length = total batches := by simp [total]
    by_cases hfull : (old :: batches).length ≥ MAX_BATCHES ∨ total (old :: batches) + length > MAX_JOURNAL_BYTES
    · rw [evict, if_pos hfull, make_room, if_pos hfull, hrest]
      exact ih
    · rw [evict, if_neg hfull, make_room, if_neg hfull]

/-- The journal of a runtime: its batches lead up to the present revision, and its bytes are counted. -/
structure Sound (journal : ReadJournal V) (current : UInt64) : Prop where
  linked : ∃ start, Linked start journal.batches current
  labelled : ∀ kept ∈ journal.batches, Labelled kept
  bytes : journal.bytes = total journal.batches
  count : journal.batches.length ≤ MAX_BATCHES
  within : journal.bytes ≤ MAX_JOURNAL_BYTES

theorem sound_empty (epoch : JournalEpoch) (current : UInt64) : (⟨epoch, [], 0⟩ : ReadJournal V).Sound current where
  linked := ⟨current, rfl⟩
  labelled := by simp
  bytes := rfl
  count := by simp
  within := by simp

/-- Recording the batch that leads to the next revision. -/
theorem Sound.record {journal : ReadJournal V} {current next : UInt64} (hsound : journal.Sound current)
    (encoded : CommittedReadBatchV1 V → Option Nat) {batch : CommittedReadBatchV1 V}
    (hbefore : batch.before_revision = current) (hrevision : batch.revision = next) (hlt : current < next) :
    (journal.record encoded (some batch)).Sound next := by
  unfold ReadJournal.record
  dsimp only
  split
  · exact sound_empty journal.epoch next
  · rename_i length hlength
    have hfits : length ≤ MAX_JOURNAL_BYTES := by simpa using (Option.filter_eq_some_iff.mp hlength).2
    obtain ⟨count, hroom, hcount, hroomy⟩ := make_room_spec hsound.bytes hfits
    obtain ⟨start, hlinked⟩ := hsound.linked
    obtain ⟨middle, _, hkept⟩ := hlinked.split count
    simp only [hroom]
    constructor
    · refine ⟨middle, hkept.append ⟨hbefore, ?_, hrevision⟩⟩
      change batch.before_revision < batch.revision
      rw [hbefore, hrevision]
      exact hlt
    · intro kept hmem
      rcases List.mem_append.mp hmem with hold | hnew
      · exact hsound.labelled kept (List.mem_of_mem_drop hold)
      · cases List.mem_singleton.mp hnew
        exact ⟨rfl, rfl⟩
    · simp [total]
    · rw [List.length_append, List.length_singleton]
      exact hcount
    · exact hroomy

variable [DecidableEq V]

/-- How an answer goes on from a cursor: from the start, or with batches from the cursor's revision on, at least
one of them unless the cursor is at the present revision. -/
inductive Continues (journal : ReadJournal V) (runtime : ClientRuntime V) (cursor : Cursor) : Changes V → Prop where
  | reset : Continues journal runtime cursor
      (.reset_required runtime.read_snapshot (journal.cursor runtime.state.revision))
  | batches {handed : List (CommittedReadBatchV1 V)} {stop : UInt64}
      (hadjacent : Adjacent cursor.revision handed stop)
      (hkept : ∀ batch ∈ handed, ∃ kept ∈ journal.batches, kept.json = batch)
      (hprogress : cursor.revision = runtime.state.revision ∨ cursor.revision < stop)
      (hstop : stop ≤ runtime.state.revision) :
      Continues journal runtime cursor (.batches handed (journal.cursor stop))

theorem Sound.changes {journal : ReadJournal V} {runtime : ClientRuntime V}
    (hsound : journal.Sound runtime.state.revision) (cursor : Cursor) {limit : Nat}
    (hlimit : 1 ≤ limit ∧ limit ≤ MAX_BATCHES) :
    ∃ answer, journal.changes runtime cursor limit = .ok answer ∧ Continues journal runtime cursor answer := by
  have hguard : Except.refuse (¬ (1 ≤ limit ∧ limit ≤ MAX_BATCHES)) NativeSyncError.InvalidInput = .ok () :=
    Except.refuse_eq_ok_iff.mpr (not_not_intro hlimit)
  simp only [ReadJournal.changes, hguard, Except.ok_bind]
  split
  · exact ⟨_, rfl, .reset⟩
  · rename_i hcontinues
    simp only [not_or, not_and, gt_iff_lt, UInt64.not_lt, ne_eq, not_not] at hcontinues
    obtain ⟨_, hle, hfound⟩ := hcontinues
    by_cases hbehind : cursor.revision < runtime.state.revision
    · -- the first batch to hand out is the one that starts at the cursor
      obtain ⟨first, hfirst⟩ : ∃ first, journal.batches.findIdx? (·.before = cursor.revision) = some first := by
        apply Option.ne_none_iff_exists'.mp
        intro hnone
        exact hfound hbehind (Option.isNone_iff_eq_none.mpr hnone)
      obtain ⟨hlt, hbefore, _⟩ := List.findIdx?_eq_some_iff_getElem.mp hfirst
      rw [decide_eq_true_eq] at hbefore
      obtain ⟨start, hlinked⟩ := hsound.linked
      obtain ⟨middle, _, hdrop⟩ := hlinked.split first
      have hcons := List.drop_eq_getElem_cons hlt
      have hmiddle : middle = cursor.revision := by
        rw [hcons] at hdrop
        exact hdrop.1.symm.trans hbefore
      subst hmiddle
      obtain ⟨stop, htake, hrest⟩ := hdrop.split limit
      have hsubset : ∀ kept ∈ (journal.batches.drop first).take limit, kept ∈ journal.batches :=
        fun kept hmem => List.mem_of_mem_drop (List.mem_of_mem_take hmem)
      refine ⟨.batches (((journal.batches.drop first).take limit).map (·.json)) (journal.cursor stop), ?_, ?_⟩
      · rw [if_pos hbehind, hfirst, Option.getD_some, hand_out_of_linked htake]
        rfl
      · refine .batches (htake.adjacent fun kept hmem => hsound.labelled kept (hsubset kept hmem)) ?_ (.inr ?_) hrest.le
        · intro batch hmem
          obtain ⟨kept, hkept, rfl⟩ := List.mem_map.mp hmem
          exact ⟨kept, hsubset kept hkept, rfl⟩
        · obtain ⟨more, rfl⟩ := Nat.exists_eq_add_of_le hlimit.1
          rw [hcons, Nat.add_comm, List.take_succ_cons] at htake
          exact htake.lt_of_cons
    · have hcurrent : cursor.revision = runtime.state.revision := UInt64.le_antisymm hle (UInt64.not_lt.mp hbehind)
      refine ⟨.batches [] (journal.cursor cursor.revision), ?_, .batches rfl (by simp) (.inl hcurrent) hle⟩
      rw [if_neg hbehind]
      rfl

end ReadJournal

/-! ### Consumers -/

/-- A consumer: what it shows, and where it goes on from. -/
structure Reader (V : Type) where
  snapshot : ReadSnapshotV1 V
  cursor : Cursor

def apply_batch (snapshot : ReadSnapshotV1 V) (batch : CommittedReadBatchV1 V) : ReadSnapshotV1 V :=
  { snapshot with metadata := batch.metadata, rows := apply_read_batch snapshot.rows batch }

def Reader.apply (reader : Reader V) : Changes V → Reader V
  | .batches batches cursor => ⟨batches.foldl apply_batch reader.snapshot, cursor⟩
  | .reset_required snapshot cursor => ⟨snapshot, cursor⟩

variable [DecidableEq V]

/-- A consumer that asks until it is at the present revision, at most `rounds` times. -/
def Reader.catch_up (journal : ReadJournal V) (runtime : ClientRuntime V) (limit : Nat) :
    Nat → Reader V → Option (Reader V)
  | 0, reader => if reader.cursor.revision = runtime.state.revision then some reader else none
  | rounds + 1, reader =>
    if reader.cursor.revision = runtime.state.revision then some reader
    else match journal.changes runtime reader.cursor limit with
      | .ok answer => (reader.apply answer).catch_up journal runtime limit rounds
      | .error _ => none

/-- The cell and every consumer state there was, so that its cursors are all that were issued. -/
structure Replay (V : Type) [DecidableEq V] where
  cell : Cell V
  readers : List (Reader V)

inductive ReplayCall (V : Type) [DecidableEq V] where
  | install (transition : Transition V)
  | rotate (runtime : ClientRuntime V)
  | bootstrap
  | changes (reader : Reader V) (limit : Nat)

/-- An install is followed by `record` of its batch. A runtime is opened again only after a rotation, from the
durable state, which is the present one or a later one. -/
inductive ReplayStep (encoded : CommittedReadBatchV1 V → Option Nat) :
    Replay V → ReplayCall V → Replay V → Prop where
  | install {replay : Replay V} {transition : Transition V} {prepared : PreparedTransition V}
      {batch : Option (CommittedReadBatchV1 V)} {runtime : ClientRuntime V}
      (hprepare : replay.cell.runtime.prepare_transition transition = .ok prepared)
      (hinstall : replay.cell.runtime.install_with_read_batch prepared = .ok (batch, runtime)) :
      ReplayStep encoded replay (.install transition)
        { replay with cell := ⟨runtime, replay.cell.journal.record encoded batch, replay.cell.past ++ [runtime]⟩ }
  | rotate {replay : Replay V} {runtime : ClientRuntime V} {journal : ReadJournal V}
      (hdurable : runtime.state = replay.cell.runtime.state ∨
        replay.cell.runtime.state.revision < runtime.state.revision)
      (hrotate : replay.cell.journal.rotate = .ok journal) :
      ReplayStep encoded replay (.rotate runtime)
        { replay with cell := ⟨runtime, journal, replay.cell.past ++ [runtime]⟩ }
  | bootstrap {replay : Replay V} :
      ReplayStep encoded replay .bootstrap
        { replay with readers := replay.readers ++
          [⟨(replay.cell.journal.bootstrap replay.cell.runtime).snapshot,
            (replay.cell.journal.bootstrap replay.cell.runtime).cursor⟩] }
  | changes {replay : Replay V} {reader : Reader V} {limit : Nat} {answer : Changes V}
      (hreader : reader ∈ replay.readers)
      (hanswer : replay.cell.journal.changes replay.cell.runtime reader.cursor limit = .ok answer) :
      ReplayStep encoded replay (.changes reader limit)
        { replay with readers := replay.readers ++ [reader.apply answer] }

abbrev ReplayRun (encoded : CommittedReadBatchV1 V → Option Nat) (first : Replay V)
    (edges : List (Trace.Edge (Replay V) (ReplayCall V))) (last : Replay V) : Prop :=
  Trace.Run (ReplayStep encoded) first edges last

/-- The consumer shows what a runtime of the cell showed at the consumer's revision. -/
def Follows (past : List (ClientRuntime V)) (reader : Reader V) : Prop :=
  ∃ runtime ∈ past, runtime.state.revision = reader.cursor.revision ∧ runtime.read_snapshot = reader.snapshot

structure Replay.Valid (replay : Replay V) : Prop where
  cell : replay.cell.Valid
  journal : replay.cell.journal.Sound replay.cell.runtime.state.revision
  readers : ∀ reader ∈ replay.readers, Follows replay.cell.past reader

theorem Follows.mono {past more : List (ClientRuntime V)} {reader : Reader V} (hsubset : past ⊆ more)
    (hfollows : Follows past reader) : Follows more reader := by
  obtain ⟨runtime, hmem, hshown⟩ := hfollows
  exact ⟨runtime, hsubset hmem, hshown⟩

/-- One batch leads from the snapshot before it to the snapshot after it. -/
theorem apply_batch_of_between {before after : ClientRuntime V} {batch : CommittedReadBatchV1 V}
    (hbetween : BatchBetween before after batch) : apply_batch before.read_snapshot batch = after.read_snapshot := by
  have hrows := hbetween.replays
  have hmetadata := hbetween.metadata
  unfold apply_batch
  rw [hrows, hmetadata]
  rfl

/-- Adjacent batches of the cell lead from one of its runtimes to another. -/
theorem follows_of_adjacent {cell : Cell V} (hcell : cell.Valid) {runtime : ClientRuntime V}
    (hruntime : runtime ∈ cell.past) {batches : List (CommittedReadBatchV1 V)} {stop : UInt64}
    (hadjacent : Adjacent runtime.state.revision batches stop)
    (hrecorded : ∀ batch ∈ batches, Recorded cell.past batch) :
    ∃ later ∈ cell.past, later.state.revision = stop ∧
      batches.foldl apply_batch runtime.read_snapshot = later.read_snapshot := by
  induction batches generalizing runtime with
  | nil => exact ⟨runtime, hruntime, hadjacent, rfl⟩
  | cons batch batches ih =>
    obtain ⟨hbefore, hrest⟩ := hadjacent
    obtain ⟨hfirst, hlater⟩ := List.forall_mem_cons.mp hrecorded
    obtain ⟨before, hmem, after, hafter, hbetween⟩ := hfirst
    -- the runtime of a revision is unique in the cell
    obtain rfl := hcell.unique before hmem runtime hruntime (hbetween.before_revision.symm.trans hbefore)
    rw [hbetween.revision] at hrest
    obtain ⟨later, hmem', hrevision, hfold⟩ := ih hafter hrest hlater
    refine ⟨later, hmem', hrevision, ?_⟩
    rw [List.foldl_cons, apply_batch_of_between hbetween]
    exact hfold

/-- A consumer that follows the cell follows it after every answer. -/
theorem Replay.Valid.follows {replay : Replay V} (hvalid : replay.Valid) {reader : Reader V}
    (hreader : Follows replay.cell.past reader) {answer : Changes V}
    (hanswer : ReadJournal.Continues replay.cell.journal replay.cell.runtime reader.cursor answer) :
    Follows replay.cell.past (reader.apply answer) := by
  cases hanswer with
  | reset => exact ⟨replay.cell.runtime, hvalid.cell.present, rfl, rfl⟩
  | batches hadjacent hkept _ _ =>
    obtain ⟨runtime, hruntime, hrevision, hsnapshot⟩ := hreader
    rw [← hrevision] at hadjacent
    obtain ⟨later, hlater, hstop, hfold⟩ := follows_of_adjacent hvalid.cell hruntime hadjacent fun batch hbatch => by
      obtain ⟨kept, hmem, rfl⟩ := hkept batch hbatch
      exact hvalid.cell.batches kept hmem
    refine ⟨later, hlater, hstop, ?_⟩
    rw [Reader.apply, ← hsnapshot]
    exact hfold.symm

theorem Replay.Valid.step {encoded : CommittedReadBatchV1 V → Option Nat} {replay next : Replay V}
    {call : ReplayCall V} (hvalid : replay.Valid) (hstep : ReplayStep encoded replay call next) : next.Valid := by
  have hsubset (runtime : ClientRuntime V) : replay.cell.past ⊆ replay.cell.past ++ [runtime] :=
    List.subset_append_left _ _
  cases hstep with
  | @install transition prepared batch runtime hprepare hinstall =>
    have hcell : (replay.cell.step encoded (.install transition)).Valid := hvalid.cell.step (.install transition)
    have hcall : (replay.cell.runtime.prepare_transition transition >>=
        replay.cell.runtime.install_with_read_batch) = .ok (batch, runtime) :=
      Except.bind_eq_ok_iff.mpr ⟨prepared, hprepare, hinstall⟩
    simp only [Cell.step, hcall] at hcell
    refine ⟨hcell, ?_, fun reader hreader => (hvalid.readers reader hreader).mono (hsubset runtime)⟩
    obtain ⟨hinstalled, hbatch⟩ := ClientRuntime.install_with_read_batch_eq_ok_iff.mp hinstall
    have hstep : Step replay.cell.runtime transition runtime := ⟨prepared, hprepare, hinstalled⟩
    cases batch with
    | none =>
      have hrevision := committed_batch_eq_none_iff.mp hbatch.symm
      change replay.cell.journal.Sound runtime.state.revision
      rw [← hrevision]
      exact hvalid.journal
    | some batch =>
      have hbetween := batchBetween_of_committed_batch hbatch.symm
      refine hvalid.journal.record encoded hbetween.before_revision hbetween.revision ?_
      have hne : replay.cell.runtime.state.revision ≠ runtime.state.revision := by
        intro heq
        rw [committed_batch_eq_none_iff.mpr heq] at hbatch
        cases hbatch
      exact UInt64.lt_of_le_of_ne hstep.revision_le hne
  | @rotate runtime journal hdurable hrotate =>
    have hcell : (replay.cell.step encoded (.rotate runtime)).Valid := hvalid.cell.step (.rotate runtime)
    simp only [Cell.step, if_pos hdurable, hrotate, Except.toOption, Option.getD_some] at hcell
    refine ⟨hcell, ?_, fun reader hreader => (hvalid.readers reader hreader).mono (hsubset runtime)⟩
    obtain ⟨epoch, _, heq⟩ := Except.bind_eq_ok_iff.mp hrotate
    cases heq
    exact ReadJournal.sound_empty epoch _
  | bootstrap =>
    refine ⟨hvalid.cell, hvalid.journal, fun reader hreader => ?_⟩
    rcases List.mem_append.mp hreader with hold | hnew
    · exact hvalid.readers reader hold
    · cases List.mem_singleton.mp hnew
      exact ⟨replay.cell.runtime, hvalid.cell.present, rfl, rfl⟩
  | @changes asking limit answer hasking hanswer =>
    refine ⟨hvalid.cell, hvalid.journal, fun reader hreader => ?_⟩
    rcases List.mem_append.mp hreader with hold | hnew
    · exact hvalid.readers reader hold
    · cases List.mem_singleton.mp hnew
      obtain ⟨_, hguard, _⟩ := Except.bind_eq_ok_iff.mp hanswer
      have hlimit : 1 ≤ limit ∧ limit ≤ MAX_BATCHES := not_not.mp (Except.refuse_eq_ok_iff.mp hguard)
      obtain ⟨same, hsame, hcontinues⟩ := hvalid.journal.changes asking.cursor hlimit
      rw [hanswer, Except.ok.injEq] at hsame
      subst hsame
      exact hvalid.follows (hvalid.readers asking hasking) hcontinues

/-- A consumer at the present revision shows the present snapshot. -/
theorem Replay.Valid.current {replay : Replay V} (hvalid : replay.Valid) {reader : Reader V}
    (hreader : Follows replay.cell.past reader)
    (hcurrent : reader.cursor.revision = replay.cell.runtime.state.revision) :
    reader.snapshot = replay.cell.runtime.read_snapshot := by
  obtain ⟨runtime, hruntime, hrevision, hsnapshot⟩ := hreader
  obtain rfl := hvalid.cell.unique runtime hruntime _ hvalid.cell.present (hrevision.trans hcurrent)
  exact hsnapshot.symm

/-- Every answer brings a consumer closer: it is at most as many revisions behind as there are rounds left. -/
theorem Replay.Valid.catch_up {replay : Replay V} (hvalid : replay.Valid) {limit : Nat}
    (hlimit : 1 ≤ limit ∧ limit ≤ MAX_BATCHES) (rounds : Nat) {reader : Reader V}
    (hreader : Follows replay.cell.past reader)
    (hrounds : replay.cell.runtime.state.revision.toNat ≤ reader.cursor.revision.toNat + rounds) :
    ∃ caught, reader.catch_up replay.cell.journal replay.cell.runtime limit rounds = some caught ∧
      caught.cursor.revision = replay.cell.runtime.state.revision ∧
      caught.snapshot = replay.cell.runtime.read_snapshot := by
  induction rounds generalizing reader with
  | zero =>
    have hle : reader.cursor.revision ≤ replay.cell.runtime.state.revision := by
      obtain ⟨runtime, hruntime, hrevision, _⟩ := hreader
      rw [← hrevision]
      exact hvalid.cell.latest runtime hruntime
    have hcurrent : reader.cursor.revision = replay.cell.runtime.state.revision := by
      apply UInt64.toNat_inj.mp
      have := UInt64.le_iff_toNat_le.mp hle
      omega
    exact ⟨reader, by rw [Reader.catch_up, if_pos hcurrent], hcurrent, hvalid.current hreader hcurrent⟩
  | succ rounds ih =>
    by_cases hcurrent : reader.cursor.revision = replay.cell.runtime.state.revision
    · exact ⟨reader, by rw [Reader.catch_up, if_pos hcurrent], hcurrent, hvalid.current hreader hcurrent⟩
    · obtain ⟨answer, hanswer, hcontinues⟩ := hvalid.journal.changes reader.cursor hlimit
      have hfollows := hvalid.follows hreader hcontinues
      rw [Reader.catch_up, if_neg hcurrent, hanswer]
      refine ih hfollows ?_
      cases hcontinues with
      | reset =>
        change replay.cell.runtime.state.revision.toNat ≤ replay.cell.runtime.state.revision.toNat + rounds
        omega
      | @batches handed stop _ _ hprogress _ =>
        rcases hprogress with hsame | hlt
        · exact absurd hsame hcurrent
        · change replay.cell.runtime.state.revision.toNat ≤ stop.toNat + rounds
          have := UInt64.lt_iff_toNat_lt.mp hlt
          omega

/-- A cell that has just been opened. -/
def Replay.opened (runtime : ClientRuntime V) (epoch : JournalEpoch) : Replay V where
  cell := ⟨runtime, ⟨epoch, [], 0⟩, [runtime]⟩
  readers := []

theorem Replay.valid_opened (runtime : ClientRuntime V) (epoch : JournalEpoch) :
    (Replay.opened runtime epoch).Valid where
  cell := {
    present := List.mem_singleton_self _
    latest := by
      intro other hother
      rw [List.mem_singleton.mp hother]
      exact UInt64.le_refl _
    unique := by
      intro one hone other hother _
      rw [List.mem_singleton.mp hone, List.mem_singleton.mp hother]
    batches := by simp [Replay.opened] }
  journal := ReadJournal.sound_empty epoch _
  readers := by simp [Replay.opened]

/-- What the journal promises in a state: it answers every cursor without a gap, its consumers come to show the
present snapshot, its bytes are counted and bounded, and the loop that makes room ends. -/
structure NeverSkips (replay : Replay V) : Prop where
  answers : ∀ (cursor : Cursor) (limit : Nat), 1 ≤ limit → limit ≤ MAX_BATCHES →
    ∃ answer, replay.cell.journal.changes replay.cell.runtime cursor limit = .ok answer ∧
      ReadJournal.Continues replay.cell.journal replay.cell.runtime cursor answer
  current : ∀ reader ∈ replay.readers, reader.cursor.revision = replay.cell.runtime.state.revision →
    reader.snapshot = replay.cell.runtime.read_snapshot
  catches_up : ∀ reader ∈ replay.readers, ∀ limit, 1 ≤ limit → limit ≤ MAX_BATCHES → ∃ rounds caught,
    reader.catch_up replay.cell.journal replay.cell.runtime limit rounds = some caught ∧
      caught.cursor.revision = replay.cell.runtime.state.revision ∧
      caught.snapshot = replay.cell.runtime.read_snapshot
  bytes : replay.cell.journal.bytes = (replay.cell.journal.batches.map (·.length)).sum
  count : replay.cell.journal.batches.length ≤ MAX_BATCHES
  within : replay.cell.journal.bytes ≤ MAX_JOURNAL_BYTES
  evicts : ∀ length ≤ MAX_JOURNAL_BYTES, ∃ rounds,
    ReadJournal.evict length rounds replay.cell.journal.batches replay.cell.journal.bytes =
      some (ReadJournal.make_room length replay.cell.journal.batches replay.cell.journal.bytes)

/-- The read journal never skips a change, in whatever order the cell is mutated, rotated and read. -/
theorem read_journal_never_skips {encoded : CommittedReadBatchV1 V → Option Nat} {runtime : ClientRuntime V}
    {epoch : JournalEpoch} {edges : List (Trace.Edge (Replay V) (ReplayCall V))} {last : Replay V}
    (hrun : ReplayRun encoded (.opened runtime epoch) edges last) : NeverSkips last := by
  have hvalid : last.Valid := hrun.preserves (fun _ _ _ hstep hvalid => Replay.Valid.step hvalid hstep)
    (Replay.valid_opened runtime epoch)
  constructor
  · exact fun cursor limit hpositive hle => hvalid.journal.changes cursor ⟨hpositive, hle⟩
  · exact fun reader hreader hcurrent => hvalid.current (hvalid.readers reader hreader) hcurrent
  · intro reader hreader limit hpositive hle
    refine ⟨last.cell.runtime.state.revision.toNat, ?_⟩
    exact hvalid.catch_up ⟨hpositive, hle⟩ _ (hvalid.readers reader hreader) (Nat.le_add_left _ _)
  · exact hvalid.journal.bytes
  · exact hvalid.journal.count
  · exact hvalid.journal.within
  · exact fun length hfits => ⟨_, ReadJournal.evict_eq_make_room hvalid.journal.bytes hfits⟩

open transitions in
/-- A consumer starts, a commit is queued, and the consumer goes on. The text of the batch has 587 bytes. -/
theorem read_journal_never_skips_commit :
    ∃ last : Replay String, last.cell.runtime.state.revision = 1 ∧ last.cell.journal.bytes = 587 ∧
      last.readers.map (·.cursor.revision) = [0, 1] ∧ NeverSkips last := by
  let epoch : JournalEpoch := ⟨"7f9c24e8-3b1d-4c55-9d2e-2f6f0f2a6c11", 0⟩
  let journal : ReadJournal String := ⟨epoch, [], 0⟩
  let reader : Reader String := ⟨(journal.bootstrap opened).snapshot, (journal.bootstrap opened).cursor⟩
  let encoded : CommittedReadBatchV1 String → Option Nat := fun _ => some 587
  have hexecute : (do
      let prepared ← (opened.prepare_transition (.Enqueue (commit "one" [upsert "a" "x" none]))).toOption
      let (batch, runtime) ← (opened.install_with_read_batch prepared).toOption
      let answer ← ((journal.record encoded batch).changes runtime reader.cursor 1).toOption
      if runtime.state.revision = 1 ∧ (journal.record encoded batch).bytes = 587 ∧
        (reader.apply answer).cursor.revision = 1 then some () else none) = some () := by
    decide +kernel
  simp only [Option.bind_eq_bind, Option.bind_eq_some_iff, Except.toOption_eq_some_iff] at hexecute
  obtain ⟨prepared, hprepare, ⟨batch, runtime⟩, hinstall, answer, hanswer, hexpected⟩ := hexecute
  split at hexpected
  · rename_i hfacts
    obtain ⟨hrevision, hbytes, hcursor⟩ := hfacts
    let installed : Replay String :=
      ⟨⟨runtime, journal.record encoded batch, [opened] ++ [runtime]⟩, [reader]⟩
    have hrun : ReplayRun encoded (.opened opened epoch) _
        { installed with readers := installed.readers ++ [reader.apply answer] } :=
      .cons .bootstrap (.cons (.install hprepare hinstall)
        (.cons (.changes (List.mem_singleton_self reader) hanswer) (.nil _)))
    refine ⟨_, hrevision, hbytes, ?_, read_journal_never_skips hrun⟩
    simp only [installed, List.map_append, List.map_cons, List.map_nil, hcursor]
    rfl
  · cases hexpected

end surrealdb_rn_core.sync_read
