import SurrealSync.Basic.Trace
import SurrealSync.Native.SubscriptionReplay

open Std
open surrealdb_sync_client surrealdb_rn_core.sync_read
open surrealdb_sync_protocol.subscription

namespace surrealdb_rn_core.sync_subscription

variable {V : Type} [DecidableEq V]

/-! ### Consumers -/

def Changes.cursor : Changes V → Cursor
  | .batches _ cursor => cursor
  | .reset_required _ cursor => cursor

/-- A consumer of one subscription: what it shows, and where it goes on from. -/
structure Reader (V : Type) where
  id : String
  frame : Frame V
  cursor : Cursor
deriving DecidableEq

/-- A consumer shows the last frame it was handed. -/
def Reader.apply (reader : Reader V) : Changes V → Reader V
  | .batches batches cursor =>
    { reader with frame := (batches.getLast?.map (·.frame)).getD reader.frame, cursor }
  | .reset_required frame cursor => { reader with frame, cursor }

omit [DecidableEq V] in
theorem Reader.apply_cursor (reader : Reader V) (answer : Changes V) : (reader.apply answer).cursor = answer.cursor := by
  cases answer <;> rfl

/-- A consumer that asks until no batch is left, at most `rounds` times. -/
def Reader.poll (journal : SubscriptionJournal V) (runtime : ClientRuntime V) (limit : Nat) :
    Nat → Reader V → Option (Reader V)
  | 0, _ => none
  | rounds + 1, reader =>
    match journal.changes runtime reader.id reader.cursor limit with
    | .ok (.batches [] cursor) => some { reader with cursor }
    | .ok answer => (reader.apply answer).poll journal runtime limit rounds
    | .error _ => none

/-- The cell with the journal of the subscriptions, every cursor that was handed out, and every state that a
consumer was in. -/
structure Replay (V : Type) [DecidableEq V] where
  cell : Cell V
  journal : SubscriptionJournal V
  issued : List (String × Cursor)
  readers : List (Reader V)

inductive ReplayCall (V : Type) [DecidableEq V] where
  | install (transition : Transition V)
  | rotate (runtime : ClientRuntime V)
  | bootstrap (id : String)
  | changes (id : String) (cursor : Cursor) (limit : Nat)

/-- Both journals record an install and are rotated together. A runtime is opened again only after a rotation, from
the durable state, which is the present one or a later one. Whoever asks with a cursor may have made it up; the
consumers that hold it go on with the answer. -/
inductive ReplayStep (encoded : CommittedReadBatchV1 V → Option Nat)
    (output : BatchJson V → Except NativeSyncError Nat) : Replay V → ReplayCall V → Replay V → Prop where
  | install {replay : Replay V} {transition : Transition V} {prepared : PreparedTransition V}
      {batch : Option (CommittedReadBatchV1 V)} {runtime : ClientRuntime V}
      (hprepare : replay.cell.runtime.prepare_transition transition = .ok prepared)
      (hinstall : replay.cell.runtime.install_with_read_batch prepared = .ok (batch, runtime)) :
      ReplayStep encoded output replay (.install transition)
        { replay with
          cell := ⟨runtime, replay.cell.journal.record encoded batch, replay.cell.past ++ [runtime]⟩
          journal := replay.journal.record output runtime replay.cell.runtime.state.revision }
  | rotate {replay : Replay V} {runtime : ClientRuntime V} {reads : ReadJournal V} {journal : SubscriptionJournal V}
      (hdurable : runtime.state = replay.cell.runtime.state ∨
        replay.cell.runtime.state.revision < runtime.state.revision)
      (hreads : replay.cell.journal.rotate = .ok reads)
      (hrotate : replay.journal.rotate = .ok journal) :
      ReplayStep encoded output replay (.rotate runtime)
        { replay with cell := ⟨runtime, reads, replay.cell.past ++ [runtime]⟩, journal }
  | bootstrap {replay : Replay V} {id : String} {shown : Frame V} {cursor : Cursor}
      (hbootstrap : replay.journal.bootstrap replay.cell.runtime id = .ok (shown, cursor)) :
      ReplayStep encoded output replay (.bootstrap id)
        { replay with
          issued := replay.issued ++ [(id, cursor)]
          readers := replay.readers ++ [⟨id, shown, cursor⟩] }
  | changes {replay : Replay V} {id : String} {cursor : Cursor} {limit : Nat} {answer : Changes V}
      (hanswer : replay.journal.changes replay.cell.runtime id cursor limit = .ok answer) :
      ReplayStep encoded output replay (.changes id cursor limit)
        { replay with
          issued := replay.issued ++ [(id, answer.cursor)]
          readers := replay.readers ++
            (replay.readers.filter fun reader => reader.id = id ∧ reader.cursor = cursor).map (·.apply answer) }

abbrev ReplayRun (encoded : CommittedReadBatchV1 V → Option Nat) (output : BatchJson V → Except NativeSyncError Nat)
    (first : Replay V) (edges : List (Trace.Edge (Replay V) (ReplayCall V))) (last : Replay V) : Prop :=
  Trace.Run (ReplayStep encoded output) first edges last

/-! ### What every state keeps -/

/-- The consumer shows its subscription's frame in a runtime of the cell, at its cursor's revision. -/
structure Follows (past : List (ClientRuntime V)) (reader : Reader V) : Prop where
  issued : Issued reader.id reader.cursor
  shown : ∃ runtime ∈ past, reader.cursor.revision = runtime.state.revision.to_string ∧
    frame runtime reader.id = .ok reader.frame

theorem Follows.mono {past more : List (ClientRuntime V)} {reader : Reader V} (hsubset : past ⊆ more)
    (hfollows : Follows past reader) : Follows more reader := by
  obtain ⟨runtime, hmem, hshown⟩ := hfollows.shown
  exact ⟨hfollows.issued, runtime, hsubset hmem, hshown⟩

/-- The prefix of the epoch is the text of a version 4 UUID. -/
structure Replay.Valid (replay : Replay V) : Prop where
  cell : replay.cell.Valid
  journal : replay.journal.Sound replay.cell.past replay.cell.runtime
  uuid : replay.journal.epoch.namePrefix.utf8ByteSize = 36
  issued : ∀ held ∈ replay.issued, Issued held.1 held.2
  readers : ∀ reader ∈ replay.readers, Follows replay.cell.past reader

omit [DecidableEq V] in
theorem issued_cursor {journal : SubscriptionJournal V} (huuid : journal.epoch.namePrefix.utf8ByteSize = 36)
    {id : String} (hid : valid_subscription_text id) (revision : UInt64) :
    Issued id (journal.cursor id revision) where
  valid := hid
  subscription := rfl
  process := by
    have hdigits := to_string_size journal.epoch.generation
    have hcolon : (":").utf8ByteSize = 1 := rfl
    rw [UInt64.to_string] at hdigits
    simp only [SubscriptionJournal.cursor, JournalEpoch.value, String.utf8ByteSize_append]
    omega
  revision := ⟨revision, rfl⟩

namespace SubscriptionJournal

variable {journal : SubscriptionJournal V} {runtime : ClientRuntime V} {id : String}

theorem bootstrap_eq_ok {shown : Frame V} {cursor : Cursor} (hbootstrap : journal.bootstrap runtime id = .ok (shown, cursor)) :
    valid_subscription_text id ∧ frame runtime id = .ok shown ∧ cursor = journal.cursor id runtime.state.revision := by
  obtain ⟨_, hguard, hrest⟩ := Except.bind_eq_ok_iff.mp hbootstrap
  obtain ⟨found, hfound, heq⟩ := Except.bind_eq_ok_iff.mp hrest
  cases heq
  exact ⟨not_not.mp (Except.refuse_eq_ok_iff.mp hguard), hfound, rfl⟩

theorem record_epoch (output : BatchJson V → Except NativeSyncError Nat) (before : UInt64) :
    (journal.record output runtime before).epoch = journal.epoch := by
  unfold SubscriptionJournal.record
  repeat' split
  all_goals rfl

/-- Whatever cursor is asked with, the cursor of the answer is one of the journal's. -/
theorem changes_eq_ok {cursor : Cursor} {limit : Nat} {answer : Changes V}
    (hanswer : journal.changes runtime id cursor limit = .ok answer) :
    valid_subscription_text id ∧ (1 ≤ limit ∧ limit ≤ MAX_BATCHES) ∧
      ∃ revision, answer.cursor = journal.cursor id revision := by
  obtain ⟨_, hguard, hrest⟩ := Except.bind_eq_ok_iff.mp hanswer
  obtain ⟨_, _, hrest⟩ := Except.bind_eq_ok_iff.mp hrest
  obtain ⟨_, _, hrest⟩ := Except.bind_eq_ok_iff.mp hrest
  have hchecked := Except.refuse_eq_ok_iff.mp hguard
  simp only [not_or, not_not] at hchecked
  refine ⟨hchecked.1, hchecked.2.1, ?_⟩
  dsimp only at hrest
  split at hrest
  · obtain ⟨⟨reset, next⟩, hreset, heq⟩ := Except.bind_eq_ok_iff.mp hrest
    cases heq
    exact ⟨_, (bootstrap_eq_ok hreset).2.2⟩
  · cases hrest
    exact ⟨_, rfl⟩

end SubscriptionJournal

/-- The last batch of an answer carries the frame of the answer's revision. -/
theorem frame_of_leads {past : List (ClientRuntime V)} {id : String} {batches : List (BatchJson V)} {start stop : UInt64}
    (hleads : Leads past id start batches stop) {last : BatchJson V} (hlast : batches.getLast? = some last) :
    ∃ runtime ∈ past, runtime.state.revision = stop ∧ frame runtime id = .ok last.frame := by
  induction batches generalizing start with
  | nil => cases hlast
  | cons batch batches ih =>
    obtain ⟨next, _, _, _, hframe, hrest⟩ := hleads
    cases hbatches : batches with
    | nil =>
      rw [hbatches] at hlast hrest
      cases hlast
      obtain rfl : next = stop := hrest
      exact hframe
    | cons second later =>
      rw [hbatches, List.getLast?_cons_cons, ← hbatches] at hlast
      exact ih hrest hlast

namespace Replay

variable {replay : Replay V}

/-- A consumer that follows the cell follows it after every answer. -/
theorem Valid.follows (hvalid : replay.Valid) {reader : Reader V} (hreader : Follows replay.cell.past reader)
    {revision : UInt64} (hrevision : reader.cursor.revision = revision.to_string) {limit : Nat} {answer : Changes V}
    (hanswer : SubscriptionJournal.Continues replay.cell.past replay.cell.runtime replay.journal reader.id revision limit
      answer) :
    Follows replay.cell.past (reader.apply answer) := by
  have hissued (stop : UInt64) : Issued reader.id (replay.journal.cursor reader.id stop) :=
    issued_cursor hvalid.uuid hreader.issued.valid stop
  cases hanswer with
  | reset hshown => exact ⟨hissued _, replay.cell.runtime, hvalid.cell.present, rfl, hshown⟩
  | @batches handed stop hleads _ _ _ =>
    refine ⟨hissued stop, ?_⟩
    cases hlast : handed.getLast? with
    | none =>
      obtain rfl := List.getLast?_eq_none_iff.mp hlast
      obtain rfl : revision = stop := hleads
      obtain ⟨runtime, hmem, hsame, hshown⟩ := hreader.shown
      exact ⟨runtime, hmem, hrevision.symm.trans hsame, hshown⟩
    | some last =>
      obtain ⟨runtime, hmem, hstop, hframe⟩ := frame_of_leads hleads hlast
      refine ⟨runtime, hmem, ?_, ?_⟩
      · rw [hstop]
        rfl
      · rw [Reader.apply, hlast]
        exact hframe

/-- An answer without batches finds the consumer at the present frame. -/
theorem Valid.poll_nil (hvalid : replay.Valid) {reader : Reader V} (hreader : Follows replay.cell.past reader)
    {revision stop : UInt64} (hrevision : reader.cursor.revision = revision.to_string)
    (hcurrent : revision = replay.cell.runtime.state.revision)
    (hleads : Leads replay.cell.past reader.id revision [] stop) :
    ∃ caught : Reader V, some { reader with cursor := replay.journal.cursor reader.id stop } = some caught ∧
      caught.cursor = replay.journal.cursor reader.id replay.cell.runtime.state.revision ∧
      frame replay.cell.runtime reader.id = .ok caught.frame := by
  obtain rfl : revision = stop := hleads
  refine ⟨_, rfl, by rw [hcurrent], ?_⟩
  obtain ⟨runtime, hmem, hsame, hshown⟩ := hreader.shown
  have hequal := UInt64.to_string_injective (hrevision.symm.trans hsame)
  obtain rfl := hvalid.cell.unique runtime hmem _ hvalid.cell.present (hequal.symm.trans hcurrent)
  exact hshown

/-- A consumer at the present revision of the present process has nothing left to ask for. -/
theorem Valid.poll_current (hvalid : replay.Valid) {id : String} (hid : valid_subscription_text id) (shown : Frame V)
    {limit : Nat} (hlimit : 1 ≤ limit ∧ limit ≤ MAX_BATCHES) (rounds : Nat) :
    (⟨id, shown, replay.journal.cursor id replay.cell.runtime.state.revision⟩ : Reader V).poll replay.journal
        replay.cell.runtime limit (rounds + 1) =
      some ⟨id, shown, replay.journal.cursor id replay.cell.runtime.state.revision⟩ := by
  have hissued := issued_cursor hvalid.uuid hid replay.cell.runtime.state.revision
  rw [Reader.poll, hvalid.journal.changes_current hissued rfl hlimit]

/-- Every answer brings a consumer closer, and the answer without batches comes at the present revision. -/
theorem Valid.poll (hvalid : replay.Valid) {limit : Nat} (hlimit : 1 ≤ limit ∧ limit ≤ MAX_BATCHES) (rounds : Nat)
    {reader : Reader V} (hreader : Follows replay.cell.past reader) {revision : UInt64}
    (hrevision : reader.cursor.revision = revision.to_string)
    (hrounds : replay.cell.runtime.state.revision.toNat ≤ revision.toNat + rounds) :
    ∃ caught, reader.poll replay.journal replay.cell.runtime limit (rounds + 2) = some caught ∧
      caught.cursor = replay.journal.cursor reader.id replay.cell.runtime.state.revision ∧
      frame replay.cell.runtime reader.id = .ok caught.frame := by
  induction rounds generalizing reader revision with
  | zero =>
    obtain ⟨answer, hanswer, hcontinues⟩ := hvalid.journal.changes hreader.issued hrevision hlimit
    rw [Reader.poll, hanswer]
    cases hcontinues with
    | @reset shown hshown => exact ⟨_, hvalid.poll_current hreader.issued.valid shown hlimit 0, rfl, hshown⟩
    | @batches handed stop hleads _ hprogress hstop =>
      -- a batch would lead past the present revision
      have hlength := hleads.length
      have hle := UInt64.le_iff_toNat_le.mp hstop
      obtain rfl := List.length_eq_zero_iff.mp (show handed.length = 0 by omega)
      exact hvalid.poll_nil hreader hrevision (hprogress rfl) hleads
  | succ rounds ih =>
    obtain ⟨answer, hanswer, hcontinues⟩ := hvalid.journal.changes hreader.issued hrevision hlimit
    have hfollows := hvalid.follows hreader hrevision hcontinues
    rw [Reader.poll, hanswer]
    cases hcontinues with
    | @reset shown hshown => exact ⟨_, hvalid.poll_current hreader.issued.valid shown hlimit (rounds + 1), rfl, hshown⟩
    | @batches handed stop hleads _ hprogress hstop =>
      have hlength := hleads.length
      cases handed with
      | nil => exact hvalid.poll_nil hreader hrevision (hprogress rfl) hleads
      | cons first later =>
        rw [List.length_cons] at hlength
        exact ih hfollows rfl (by omega)

theorem Valid.step {encoded : CommittedReadBatchV1 V → Option Nat} {output : BatchJson V → Except NativeSyncError Nat}
    {next : Replay V} {call : ReplayCall V} (hvalid : replay.Valid) (hstep : ReplayStep encoded output replay call next) :
    next.Valid := by
  have hsubset (runtime : ClientRuntime V) : replay.cell.past ⊆ replay.cell.past ++ [runtime] :=
    List.subset_append_left _ _
  cases hstep with
  | @install transition prepared batch runtime hprepare hinstall =>
    have hcell : (replay.cell.step encoded (.install transition)).Valid := hvalid.cell.step (.install transition)
    have hcall : (replay.cell.runtime.prepare_transition transition >>=
        replay.cell.runtime.install_with_read_batch) = .ok (batch, runtime) :=
      Except.bind_eq_ok_iff.mpr ⟨prepared, hprepare, hinstall⟩
    simp only [Cell.step, hcall] at hcell
    obtain ⟨hinstalled, _⟩ := ClientRuntime.install_with_read_batch_eq_ok_iff.mp hinstall
    have hstep : Step replay.cell.runtime transition runtime := ⟨prepared, hprepare, hinstalled⟩
    refine ⟨hcell, hvalid.journal.record hstep (hsubset runtime) (by simp), ?_, hvalid.issued, ?_⟩
    · rw [SubscriptionJournal.record_epoch]
      exact hvalid.uuid
    · exact fun reader hreader => (hvalid.readers reader hreader).mono (hsubset runtime)
  | @rotate runtime reads journal hdurable hreads hrotate =>
    have hcell : (replay.cell.step encoded (.rotate runtime)).Valid := hvalid.cell.step (.rotate runtime)
    simp only [Cell.step, if_pos hdurable, hreads, Except.toOption, Option.getD_some] at hcell
    obtain ⟨epoch, hadvance, heq⟩ := Except.bind_eq_ok_iff.mp hrotate
    obtain ⟨generation, _, hepoch⟩ := Except.bind_eq_ok_iff.mp hadvance
    cases heq
    cases hepoch
    refine ⟨hcell, SubscriptionJournal.sound_empty _, hvalid.uuid, hvalid.issued, ?_⟩
    exact fun reader hreader => (hvalid.readers reader hreader).mono (hsubset runtime)
  | @bootstrap id shown cursor hbootstrap =>
    obtain ⟨hid, hshown, rfl⟩ := SubscriptionJournal.bootstrap_eq_ok hbootstrap
    have hissued := issued_cursor hvalid.uuid hid replay.cell.runtime.state.revision
    refine ⟨hvalid.cell, hvalid.journal, hvalid.uuid, fun held hheld => ?_, fun reader hreader => ?_⟩
    · rcases List.mem_append.mp hheld with hold | hnew
      · exact hvalid.issued held hold
      · cases List.mem_singleton.mp hnew
        exact hissued
    · rcases List.mem_append.mp hreader with hold | hnew
      · exact hvalid.readers reader hold
      · cases List.mem_singleton.mp hnew
        exact ⟨hissued, replay.cell.runtime, hvalid.cell.present, rfl, hshown⟩
  | @changes id cursor limit answer hanswer =>
    obtain ⟨hid, hlimit, revision, hcursor⟩ := SubscriptionJournal.changes_eq_ok hanswer
    refine ⟨hvalid.cell, hvalid.journal, hvalid.uuid, fun held hheld => ?_, fun reader hreader => ?_⟩
    · rcases List.mem_append.mp hheld with hold | hnew
      · exact hvalid.issued held hold
      · cases List.mem_singleton.mp hnew
        rw [hcursor]
        exact issued_cursor hvalid.uuid hid revision
    · rcases List.mem_append.mp hreader with hold | hnew
      · exact hvalid.readers reader hold
      · obtain ⟨asking, hasking, rfl⟩ := List.mem_map.mp hnew
        obtain ⟨hmem, hheld⟩ := List.mem_filter.mp hasking
        obtain ⟨rfl, rfl⟩ := of_decide_eq_true hheld
        have hfollows := hvalid.readers asking hmem
        obtain ⟨reached, hreached⟩ := hfollows.issued.revision
        obtain ⟨same, hsame, hcontinues⟩ := hvalid.journal.changes hfollows.issued hreached hlimit
        rw [hanswer, Except.ok.injEq] at hsame
        subst hsame
        exact hvalid.follows hfollows hreached hcontinues

/-- A cell that has just been opened. -/
def opened (runtime : ClientRuntime V) (reads epoch : JournalEpoch) : Replay V where
  cell := ⟨runtime, ⟨reads, [], 0⟩, [runtime]⟩
  journal := ⟨epoch, ∅⟩
  issued := []
  readers := []

theorem valid_opened (runtime : ClientRuntime V) (reads : JournalEpoch) {epoch : JournalEpoch}
    (huuid : epoch.namePrefix.utf8ByteSize = 36) : (opened runtime reads epoch).Valid where
  cell := (sync_read.Replay.valid_opened runtime reads).cell
  journal := SubscriptionJournal.sound_empty epoch
  uuid := huuid
  issued := by simp [opened]
  readers := by simp [opened]

end Replay

/-- What the journals promise in a state: every cursor that was handed out is answered without a gap, a consumer that
asks on reaches the present frame, the bytes are counted and bounded, and both loops that drop batches end. -/
structure NeverSkips (output : BatchJson V → Except NativeSyncError Nat) (replay : Replay V) : Prop where
  answers : ∀ held ∈ replay.issued, ∀ limit, 1 ≤ limit → limit ≤ MAX_BATCHES →
    ∃ (revision : UInt64) (answer : Changes V), held.2.revision = revision.to_string ∧
      replay.journal.changes replay.cell.runtime held.1 held.2 limit = .ok answer ∧
      SubscriptionJournal.Continues replay.cell.past replay.cell.runtime replay.journal held.1 revision limit answer
  frames : ∀ one ∈ replay.cell.past, ∀ other ∈ replay.cell.past,
    one.state.revision = other.state.revision → one = other
  reaches : ∀ reader ∈ replay.readers, ∀ limit, 1 ≤ limit → limit ≤ MAX_BATCHES → ∃ rounds caught,
    reader.poll replay.journal replay.cell.runtime limit rounds = some caught ∧
      caught.cursor = replay.journal.cursor reader.id replay.cell.runtime.state.revision ∧
      frame replay.cell.runtime reader.id = .ok caught.frame
  bytes : ∀ (id : String) history, replay.journal.histories[id]? = some history →
    history.bytes = (history.batches.map (·.length)).sum ∧ history.bytes ≤ MAX_QUERY_BYTES ∧
      history.batches.length ≤ MAX_BATCHES
  aggregate : (replay.journal.histories.vals.map (·.bytes)).sum ≤ MAX_TOTAL_BYTES
  evicts : ∀ (id : String), ∀ length ≤ MAX_QUERY_BYTES, ∃ rounds,
    BoundedJournal.evict Batch.length MAX_BATCHES MAX_QUERY_BYTES length rounds
        (replay.journal.histories[id]?.getD .default).batches (replay.journal.histories[id]?.getD .default).bytes =
      some (History.make_room length (replay.journal.histories[id]?.getD .default).batches
        (replay.journal.histories[id]?.getD .default).bytes)
  trims : ∀ (transition : Transition V) (runtime : ClientRuntime V) (state : DurableSubscriptions V),
    Step replay.cell.runtime transition runtime → replay.cell.runtime.state.revision ≠ runtime.state.revision →
    runtime.state.subscriptions = some state → ∃ rounds,
      BoundedJournal.settle SubscriptionJournal.trim_round rounds (SubscriptionJournal.extend output runtime
          replay.cell.runtime.state.revision state replay.journal.histories) =
        some (SubscriptionJournal.trim (SubscriptionJournal.extend output runtime
          replay.cell.runtime.state.revision state replay.journal.histories))

/-- The journals of the subscriptions never skip a frame, in whatever order the cell is mutated, rotated and read. -/
theorem subscription_journals_never_skip {encoded : CommittedReadBatchV1 V → Option Nat}
    {output : BatchJson V → Except NativeSyncError Nat} {runtime : ClientRuntime V} {reads epoch : JournalEpoch}
    (huuid : epoch.namePrefix.utf8ByteSize = 36) {edges : List (Trace.Edge (Replay V) (ReplayCall V))}
    {last : Replay V} (hrun : ReplayRun encoded output (.opened runtime reads epoch) edges last) :
    NeverSkips output last := by
  have hvalid : last.Valid := hrun.preserves (fun _ _ _ hstep hvalid => Replay.Valid.step hvalid hstep)
    (Replay.valid_opened runtime reads huuid)
  constructor
  case answers =>
    intro held hheld limit hpositive hle
    have hissued := hvalid.issued held hheld
    obtain ⟨revision, hrevision⟩ := hissued.revision
    obtain ⟨answer, hanswer, hcontinues⟩ := hvalid.journal.changes hissued hrevision ⟨hpositive, hle⟩
    exact ⟨revision, answer, hrevision, hanswer, hcontinues⟩
  case frames => exact hvalid.cell.unique
  case reaches =>
    intro reader hreader limit hpositive hle
    have hfollows := hvalid.readers reader hreader
    obtain ⟨revision, hrevision⟩ := hfollows.issued.revision
    exact ⟨_, hvalid.poll ⟨hpositive, hle⟩ last.cell.runtime.state.revision.toNat hfollows hrevision
      (Nat.le_add_left _ _)⟩
  case bytes =>
    intro id history hget
    obtain ⟨_, hhistory⟩ := hvalid.journal.histories id history hget
    exact ⟨hhistory.bytes, hhistory.within, hhistory.count⟩
  case aggregate => exact hvalid.journal.within
  case evicts =>
    intro id length hfits
    have hhistory := hvalid.journal.histories.getD id
    exact ⟨_, BoundedJournal.evict_eq_makeRoom hhistory.bytes (by decide) hfits⟩
  case trims =>
    intro transition later state hstep hchanged hstate
    have hsubset := List.subset_append_left last.cell.past [later]
    have hextended := hvalid.journal.histories.extend output hstep hsubset (by simp) (hstep.revision_next hchanged) hstate
    exact ⟨_, (SubscriptionJournal.trim_spec hextended).1⟩

open transitions in
/-- A consumer of a window starts, the window is asked for, and the consumer goes on with a batch whose text has 309
bytes. Then the journals are rotated. -/
theorem subscription_journals_never_skip_start :
    ∃ last : Replay String, last.cell.runtime.state.revision = 1 ∧
      last.readers.map (·.cursor) =
        [⟨"7f9c24e8-3b1d-4c55-9d2e-2f6f0f2a6c11:0", "window", "0"⟩,
          ⟨"7f9c24e8-3b1d-4c55-9d2e-2f6f0f2a6c11:0", "window", "1"⟩] ∧
      last.journal.epoch.value = "7f9c24e8-3b1d-4c55-9d2e-2f6f0f2a6c11:1" ∧
      NeverSkips (fun _ => .ok 309) last := by
  let epoch : JournalEpoch := ⟨"7f9c24e8-3b1d-4c55-9d2e-2f6f0f2a6c11", 0⟩
  let journal : SubscriptionJournal String := ⟨epoch, ∅⟩
  let encoded : CommittedReadBatchV1 String → Option Nat := fun _ => some 304
  let output : BatchJson String → Except NativeSyncError Nat := fun _ => .ok 309
  have hexecute : (do
      let (shown, cursor) ← (journal.bootstrap opened "window").toOption
      let prepared ← (opened.prepare_transition (.StartSubscription (start "window" 1 "by_score"))).toOption
      let (batch, runtime) ← (opened.install_with_read_batch prepared).toOption
      let recorded := journal.record output runtime 0
      let answer ← (recorded.changes runtime "window" cursor 1).toOption
      let rotated ← recorded.rotate.toOption
      let reads ← (ReadJournal.record encoded ⟨epoch, [], 0⟩ batch).rotate.toOption
      if runtime.state.revision = 1 ∧ cursor = journal.cursor "window" 0 ∧ answer.cursor = journal.cursor "window" 1 ∧
        rotated.epoch = ⟨epoch.namePrefix, 1⟩ then some () else none) = some () := by
    decide +kernel
  simp only [Option.bind_eq_bind, Option.bind_eq_some_iff, Except.toOption_eq_some_iff] at hexecute
  obtain ⟨⟨shown, cursor⟩, hbootstrap, prepared, hprepare, ⟨batch, runtime⟩, hinstall, answer, hanswer, rotated, hrotate,
    reads, hreads, hexpected⟩ := hexecute
  split at hexpected
  · rename_i hfacts
    obtain ⟨hrevision, rfl, hcursor, hepoch⟩ := hfacts
    have hrun : ReplayRun encoded output (.opened opened epoch epoch) _ _ :=
      .cons (.bootstrap hbootstrap) (.cons (.install hprepare hinstall) (.cons (.changes hanswer)
        (.cons (.rotate (.inl rfl) hreads hrotate) (.nil _))))
    refine ⟨_, hrevision, ?_, ?_, subscription_journals_never_skip (by decide) hrun⟩
    · have hfilter : ([⟨"window", shown, journal.cursor "window" 0⟩] : List (Reader String)).filter
          (fun reader => reader.id = "window" ∧ reader.cursor = journal.cursor "window" 0) =
          [⟨"window", shown, journal.cursor "window" 0⟩] := by
        simp
      simp only [Replay.opened, List.nil_append]
      rw [hfilter]
      simp only [List.map_append, List.map_cons, List.map_nil, Reader.apply_cursor, hcursor]
      decide +kernel
    · simp only [hepoch]
      decide +kernel
  · cases hexpected

end surrealdb_rn_core.sync_subscription
