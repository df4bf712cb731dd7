import SurrealSync.Client.Session

open Std
open surrealdb_sync_protocol surrealdb_sync_protocol.subscription

namespace surrealdb_sync_client

variable {V : Type}

/-- The rows of a snapshot are stored under their own record ids. -/
def Keyed (rows : BTreeMap RecordId (ReadRowV1 V)) : Prop :=
  ∀ (id : RecordId) row, rows[id]? = some row → row.record_id = id

theorem Keyed.update_row {complete : Bool} {rows : BTreeMap RecordId (ReadRowV1 V)} {id : RecordId}
    {update : ReadRowV1 V → ReadRowV1 V} (hkeyed : Keyed rows)
    (hupdate : ∀ row, (update row).record_id = row.record_id) :
    Keyed (update_row complete rows id update) := by
  intro other row hrow
  rw [surrealdb_sync_client.update_row, ExtTreeMap.getElem?_insert] at hrow
  split at hrow
  · rename_i hid
    cases hrow
    rw [hupdate, ← LawfulEqOrd.eq_of_compare hid]
    cases hid : rows[id]? with
    | none => rfl
    | some row => exact hkeyed id row hid
  · exact hkeyed other row hrow

/-- A loop over operations that updates the row of each record. -/
theorem Keyed.foldl {α : Type} {step : BTreeMap RecordId (ReadRowV1 V) → α → BTreeMap RecordId (ReadRowV1 V)}
    (hstep : ∀ rows a, Keyed rows → Keyed (step rows a)) (l : List α)
    {rows : BTreeMap RecordId (ReadRowV1 V)} (hkeyed : Keyed rows) : Keyed (l.foldl step rows) := by
  induction l generalizing rows with
  | nil => exact hkeyed
  | cons a l ih => exact ih (hstep rows a hkeyed)

theorem Keyed.add_pending {complete : Bool} {rows : BTreeMap RecordId (ReadRowV1 V)}
    (hkeyed : Keyed rows) (commit : ClientCommit V) : Keyed (add_pending complete rows commit) := by
  refine Keyed.foldl (fun rows operation hkeyed => ?_) _ hkeyed
  exact hkeyed.update_row fun _ => rfl

theorem Keyed.add_outcome {complete : Bool} {rows : BTreeMap RecordId (ReadRowV1 V)}
    (hkeyed : Keyed rows) (resolved : ResolvedCommit V) : Keyed (add_outcome complete rows resolved) := by
  refine Keyed.foldl (fun rows operation hkeyed => ?_) _ hkeyed
  cases resolved.outcome with
  | Accepted identity sequence mappings => exact hkeyed.update_row fun _ => rfl
  | Conflict identity record_id authoritative => exact hkeyed.update_row fun _ => rfl
  | Rejected identity reason => exact hkeyed

theorem keyed_snapshot (state : DurableClientState V) : Keyed (snapshot state).rows := by
  have hconfirmed : Keyed (state.confirmed.map (confirmed_row state.reset_coverage.isSome)) := by
    intro id row hrow
    rw [ExtTreeMap.getElem?_map] at hrow
    obtain ⟨record, _, rfl⟩ := Option.map_eq_some_iff.mp hrow
    rfl
  refine Keyed.foldl (fun _ resolved hkeyed => hkeyed.add_outcome resolved) _ ?_
  refine Keyed.foldl (fun _ commit hkeyed => hkeyed.add_pending commit) _ ?_
  refine Keyed.foldl (fun _ _ hkeyed => ?_) _ hconfirmed
  exact hkeyed.update_row fun _ => rfl

/-- The record a change is about. -/
def ReadRowChangeV1.record_id : ReadRowChangeV1 V → RecordId
  | .Upsert row => row.record_id
  | .Remove record_id => record_id

/-- The row a change leaves. -/
def ReadRowChangeV1.row : ReadRowChangeV1 V → Option (ReadRowV1 V)
  | .Upsert row => some row
  | .Remove _ => none

/-- What a consumer does with one change: an upsert replaces the row of its id, a
removal deletes it. -/
def apply_row_change (rows : BTreeMap RecordId (ReadRowV1 V)) (change : ReadRowChangeV1 V) :
    BTreeMap RecordId (ReadRowV1 V) :=
  match change with
  | .Upsert row => rows.insert row.record_id row
  | .Remove record_id => rows.erase record_id

def apply_read_batch (rows : BTreeMap RecordId (ReadRowV1 V)) (batch : CommittedReadBatchV1 V) :
    BTreeMap RecordId (ReadRowV1 V) :=
  batch.changes.foldl apply_row_change rows

theorem apply_row_change_getElem? (rows : BTreeMap RecordId (ReadRowV1 V)) (change : ReadRowChangeV1 V)
    (id : RecordId) :
    (apply_row_change rows change)[id]? = if change.record_id = id then change.row else rows[id]? := by
  by_cases hid : change.record_id = id
  · cases change with
    | Upsert row => simp_all [apply_row_change, ReadRowChangeV1.record_id, ReadRowChangeV1.row]
    | Remove record_id => simp_all [apply_row_change, ReadRowChangeV1.record_id, ReadRowChangeV1.row]
  · rw [if_neg hid]
    cases change with
    | Upsert row =>
      exact BTreeMap.getElem?_insert_of_ne (Ne.symm hid)
    | Remove record_id =>
      exact BTreeMap.getElem?_erase_of_ne (Ne.symm hid)

/-- Changes that all lead to one set of rows lead there on the ids they touch,
in whatever order they come. -/
theorem foldl_apply_row_change_getElem? {after : BTreeMap RecordId (ReadRowV1 V)}
    {changes : List (ReadRowChangeV1 V)} (hchanges : ∀ change ∈ changes, after[change.record_id]? = change.row)
    (rows : BTreeMap RecordId (ReadRowV1 V)) (id : RecordId) :
    (changes.foldl apply_row_change rows)[id]? =
      if id ∈ changes.map (·.record_id) then after[id]? else rows[id]? := by
  induction changes generalizing rows with
  | nil => simp
  | cons change changes ih =>
    obtain ⟨hchange, hrest⟩ := List.forall_mem_cons.mp hchanges
    rw [List.foldl_cons, ih hrest, apply_row_change_getElem?]
    by_cases hid : change.record_id = id
    · subst hid
      simp [hchange]
    · simp [hid, Ne.symm hid]

/-- Every id on which two snapshots differ has a row in one of them. -/
theorem mem_keys_of_differs {before after : BTreeMap RecordId (ReadRowV1 V)} {id : RecordId}
    (hdiffers : before[id]? ≠ after[id]?) :
    id ∈ (ExtTreeSet.ofList (before.keys ++ after.keys) : BTreeSet RecordId).toList := by
  rw [ExtTreeSet.mem_toList, ExtTreeSet.mem_ofList, List.contains_iff_mem, List.mem_append,
    ExtTreeMap.mem_keys, ExtTreeMap.mem_keys]
  by_contra hneither
  obtain ⟨hbefore, hafter⟩ := not_or.mp hneither
  exact hdiffers ((ExtTreeMap.getElem?_eq_none hbefore).trans (ExtTreeMap.getElem?_eq_none hafter).symm)

variable [DecidableEq V]

theorem row_change_eq_some {before after : BTreeMap RecordId (ReadRowV1 V)} (hkeyed : Keyed after)
    {id : RecordId} {change : ReadRowChangeV1 V} (hchange : row_change before after id = some change) :
    change.record_id = id ∧ change.row = after[id]? ∧ before[id]? ≠ after[id]? := by
  unfold row_change at hchange
  split at hchange
  · rename_i hdiffers
    split at hchange
    · rename_i row hrow
      cases hchange
      exact ⟨hkeyed id row hrow, hrow.symm, hdiffers⟩
    · rename_i hnone
      cases hchange
      exact ⟨rfl, hnone.symm, hdiffers⟩
  · cases hchange

theorem row_change_isSome {before after : BTreeMap RecordId (ReadRowV1 V)} {id : RecordId}
    (hdiffers : before[id]? ≠ after[id]?) : ∃ change, row_change before after id = some change := by
  unfold row_change
  rw [if_pos hdiffers]
  split
  · exact ⟨_, rfl⟩
  · exact ⟨_, rfl⟩

theorem mem_row_changes {before after : BTreeMap RecordId (ReadRowV1 V)} (hkeyed : Keyed after)
    {change : ReadRowChangeV1 V} (hchange : change ∈ row_changes before after) :
    change.row = after[change.record_id]? ∧ before[change.record_id]? ≠ after[change.record_id]? := by
  obtain ⟨id, _, hid⟩ := List.mem_filterMap.mp hchange
  obtain ⟨rfl, hrow, hdiffers⟩ := row_change_eq_some hkeyed hid
  exact ⟨hrow, hdiffers⟩

theorem nodup_row_changes {before after : BTreeMap RecordId (ReadRowV1 V)} (hkeyed : Keyed after) :
    ((row_changes before after).map (·.record_id)).Nodup := by
  unfold row_changes
  rw [List.map_filterMap]
  refine List.Nodup.filterMap (fun id other changed hid hother => ?_)
    (ExtTreeSet.distinct_toList.imp fun hne heq => hne (LawfulEqOrd.compare_eq_iff_eq.mpr heq))
  obtain ⟨change, hchange, rfl⟩ := Option.map_eq_some_iff.mp hid
  obtain ⟨same, hsame, heq⟩ := Option.map_eq_some_iff.mp hother
  rw [← (row_change_eq_some hkeyed hchange).1, ← heq, (row_change_eq_some hkeyed hsame).1]

/-- The changes between two snapshots replay from the first to the second. -/
theorem foldl_row_changes {before after : BTreeMap RecordId (ReadRowV1 V)} (hkeyed : Keyed after) :
    (row_changes before after).foldl apply_row_change before = after := by
  apply ExtTreeMap.ext_getElem?
  intro id
  rw [foldl_apply_row_change_getElem? fun change hchange => (mem_row_changes hkeyed hchange).1.symm]
  split
  · rfl
  · rename_i huntouched
    by_contra hdiffers
    apply huntouched
    obtain ⟨change, hchange⟩ := row_change_isSome hdiffers
    have hin := List.mem_filterMap.mpr ⟨id, mem_keys_of_differs hdiffers, hchange⟩
    exact List.mem_map.mpr ⟨change, hin, (row_change_eq_some hkeyed hchange).1⟩

/-- What one batch says about the two states it lies between. -/
structure BatchBetween (before after : ClientRuntime V) (batch : CommittedReadBatchV1 V) : Prop where
  before_revision : batch.before_revision = before.state.revision
  revision : batch.revision = after.state.revision
  metadata : batch.metadata = after.read_metadata
  replays : apply_read_batch before.read_snapshot.rows batch = after.read_snapshot.rows
  distinct : (batch.changes.map (·.record_id)).Nodup
  changed : ∀ change ∈ batch.changes,
    before.read_snapshot.rows[change.record_id]? ≠ after.read_snapshot.rows[change.record_id]?

theorem committed_batch_eq_none_iff {before after : DurableClientState V} :
    committed_batch before after = none ↔ before.revision = after.revision := by
  unfold committed_batch
  split
  · simp [*]
  · simp [*]

theorem batchBetween_of_committed_batch {before after : ClientRuntime V} {batch : CommittedReadBatchV1 V}
    (hbatch : committed_batch before.state after.state = some batch) : BatchBetween before after batch := by
  have hkeyed := keyed_snapshot after.state
  unfold committed_batch at hbatch
  split at hbatch
  · cases hbatch
  · cases hbatch
    exact ⟨rfl, rfl, rfl, foldl_row_changes hkeyed, nodup_row_changes hkeyed,
      fun change hchange => (mem_row_changes hkeyed hchange).2⟩

/-- What `install_with_read_batch` returns, when it succeeds. -/
def Session.returned (session : Session V) : Call V → Option (Option (CommittedReadBatchV1 V))
  | .InstallWithReadBatch index => do
    let held ← session.held[index]?
    let (batch, _) ← (session.runtime.install_with_read_batch held.prepared).toOption
    some batch
  | .Prepare _ => none
  | .Clone _ => none
  | .Drop _ => none
  | .Install _ => none

/-- The batches a run of calls returned, in order. -/
def Session.read_batches (edges : List (Trace.Edge (Session V) (Call V))) : List (CommittedReadBatchV1 V) :=
  edges.filterMap fun edge => (edge.source.returned edge.label).join

/-- The call is not the plain install. -/
def Call.IsObserved : Call V → Prop
  | .Install _ => False
  | _ => True

theorem Session.returned_eq {session : Session V} {call : Call V} (hobserved : call.IsObserved) :
    session.returned call =
      (session.installed call).map fun result => committed_batch session.runtime.state result.2.state := by
  cases call with
  | InstallWithReadBatch index =>
    simp only [Session.returned, Session.installed]
    cases session.held[index]? with
    | none => rfl
    | some held =>
      cases hinstall : session.runtime.install_with_read_batch held.prepared with
      | error error => simp [hinstall, Except.toOption]
      | ok result =>
        obtain ⟨batch, after⟩ := result
        have hbatch := (ClientRuntime.install_with_read_batch_eq_ok_iff.mp hinstall).2
        simp [hinstall, Except.toOption, hbatch]
  | Install index => cases hobserved
  | Prepare transition => rfl
  | Clone index => rfl
  | Drop index => rfl

/-- A successful install returns the batch between the two states, and none
exactly when it left the state alone. -/
theorem Session.Ordered.returned {session : Session V} (hordered : session.Ordered) {call : Call V}
    (hobserved : call.IsObserved) {returned : Option (CommittedReadBatchV1 V)}
    (hreturned : session.returned call = some returned) :
    (∀ batch, returned = some batch → BatchBetween session.runtime (session.call call).runtime batch) ∧
      (returned = none ↔ (session.call call).runtime.state = session.runtime.state) := by
  rw [Session.returned_eq hobserved] at hreturned
  obtain ⟨⟨held, after⟩, hinstalled, rfl⟩ := Option.map_eq_some_iff.mp hreturned
  rw [Session.call_runtime, hinstalled, Option.elim_some]
  refine ⟨fun batch hbatch => batchBetween_of_committed_batch hbatch, ?_⟩
  obtain ⟨_, hstep⟩ := hordered.step hinstalled
  rw [committed_batch_eq_none_iff]
  constructor
  · intro hrevision
    rw [hstep.eq_of_revision_eq hrevision.symm]
  · intro hstate
    rw [hstate]

/-- One call: the batch it returns, if any, replays from the rows before it to
the rows after it. -/
theorem Session.Ordered.replays {session : Session V} (hordered : session.Ordered) {call : Call V}
    (hobserved : call.IsObserved) :
    (session.returned call).join.toList.foldl apply_read_batch session.runtime.read_snapshot.rows =
      (session.call call).runtime.read_snapshot.rows := by
  cases hreturned : session.returned call with
  | none =>
    rw [Session.returned_eq hobserved, Option.map_eq_none_iff] at hreturned
    rw [Session.call_runtime, hreturned]
    rfl
  | some returned =>
    obtain ⟨hbatch, hnone⟩ := hordered.returned hobserved hreturned
    cases returned with
    | none =>
      rw [ClientRuntime.read_snapshot, ClientRuntime.read_snapshot, hnone.mp rfl]
      rfl
    | some batch => exact (hbatch batch rfl).replays

theorem Session.Run.replays {first last : Session V} {edges : List (Trace.Edge (Session V) (Call V))}
    (hrun : Session.Run first edges last) (hfirst : first.Ordered)
    (hobserved : ∀ edge ∈ edges, edge.label.IsObserved) :
    (Session.read_batches edges).foldl apply_read_batch first.runtime.read_snapshot.rows =
      last.runtime.read_snapshot.rows := by
  induction hrun with
  | nil session => rfl
  | @cons session _ last call edges hcall _ ih =>
    subst hcall
    obtain ⟨hcall, hrest⟩ := List.forall_mem_cons.mp hobserved
    rw [← ih (hfirst.call call) hrest, ← hfirst.replays hcall, ← List.foldl_append]
    congr 1
    cases hreturned : (session.returned call).join with
    | none => simp [Session.read_batches, hreturned]
    | some batch => simp [Session.read_batches, hreturned]

/-- The read batches returned between two states of a session. -/
structure BatchesReplay (first : Session V) (edges : List (Trace.Edge (Session V) (Call V)))
    (last : Session V) : Prop where
  rows : (Session.read_batches edges).foldl apply_read_batch first.runtime.read_snapshot.rows =
    last.runtime.read_snapshot.rows
  batch : ∀ edge ∈ edges, ∀ batch, edge.source.returned edge.label = some (some batch) →
    BatchBetween edge.source.runtime edge.target.runtime batch
  unchanged : ∀ edge ∈ edges, ∀ returned, edge.source.returned edge.label = some returned →
    (returned = none ↔ edge.target.runtime.state = edge.source.runtime.state)

/-- A consumer that applies every returned batch to the rows it started from
shows the rows of the current read snapshot. -/
theorem read_batches_replay {runtime : ClientRuntime V} {last : Session V}
    {edges : List (Trace.Edge (Session V) (Call V))} (hrun : Session.Run ⟨runtime, []⟩ edges last)
    (hobserved : ∀ edge ∈ edges, edge.label.IsObserved) : BatchesReplay ⟨runtime, []⟩ edges last := by
  have hfirst : (⟨runtime, []⟩ : Session V).Ordered := by simp [Session.Ordered]
  have hordered := Session.Run.ordered hrun hfirst
  refine ⟨Session.Run.replays hrun hfirst hobserved, fun edge hedge batch hreturned => ?_,
    fun edge hedge returned hreturned => ?_⟩
  · rw [hrun.step_of_mem hedge]
    exact ((hordered edge hedge).returned (hobserved edge hedge) hreturned).1 batch rfl
  · rw [hrun.step_of_mem hedge]
    exact ((hordered edge hedge).returned (hobserved edge hedge) hreturned).2

namespace transitions

/-- A commit becomes visible, a reset that drops a confirmed row flips the absence
of the others, and a refused install returns nothing. -/
theorem read_batches_replay_over_reset :
    ∃ (edges : List (Trace.Edge (Session String) (Call String))) (last : Session String),
      last.runtime.state.revision = 3 ∧
      last.runtime.read_snapshot.rows.keys = [RecordId.mk "a", RecordId.mk "c"] ∧
      BatchesReplay ⟨opened, []⟩ edges last := by
  obtain ⟨edges, hrun, hlabels⟩ := Trace.Run.exists_of_function Session.call ⟨opened, []⟩ [
    .Prepare (.Enqueue (commit "one" [upsert "a" "x" none])),
    .Prepare (pull (checkpoint "one" 1 1) [pull_commit 1 [("b", present "y" 1)]]),
    .InstallWithReadBatch 0,
    .InstallWithReadBatch 0,
    .Prepare (pull (checkpoint "one" 1 1) [pull_commit 1 [("b", present "y" 1)]]),
    .InstallWithReadBatch 0,
    .Prepare (reset (checkpoint "two" 1 3) [("c", present "z" 2)]),
    .InstallWithReadBatch 0]
  have hobserved : ∀ edge ∈ edges, edge.label.IsObserved := by
    rw [← List.forall_mem_map (P := Call.IsObserved), hlabels]
    simp [Call.IsObserved]
  exact ⟨edges, _, by decide, by decide +kernel, read_batches_replay hrun hobserved⟩

end transitions

end surrealdb_sync_client
