import SurrealSync.Client.Read
import SurrealSync.Client.Replay

open Std
open surrealdb_sync_protocol surrealdb_sync_protocol.subscription

namespace surrealdb_sync_client

variable {V : Type}

/-! ### What rows show -/

/-- What the records of a scope show, by id: the value, the version an edit builds on, and the reference. -/
abbrev Shown (V : Type) : Type := RecordId → Option (V × BaseVersion × Option RecordId)

def shown_state : RecordState V → Option (V × BaseVersion × Option RecordId)
  | .Present value version reference => some (value, .Exact version, reference)
  | .Absent => none
  | .Tombstone _ => none

def shown_optimistic : OptimisticRecord V → Option (V × BaseVersion × Option RecordId)
  | .Present value base_version reference => some (value, base_version, reference)
  | .Deleted _ => none

def shown_rows (rows : BTreeMap RecordId (RecordState V)) : Shown V := fun id => rows[id]?.bind shown_state

/-- What a client shows its user. -/
def DurableClientState.shown (state : DurableClientState V) : Shown V :=
  fun id => (optimistic_projection state)[id]?.bind shown_optimistic

def show_record (shown : Shown V) (record : AppliedRecord V) : Shown V :=
  Function.update shown record.record_id (shown_state record.state)

def show_commit (shown : Shown V) (commit : PullCommit V) : Shown V := commit.records.foldl show_record shown

def show_operation (shown : Shown V) : Operation V → Shown V
  | .Upsert record_id base_version value reference =>
    Function.update shown record_id (some (value, base_version, reference))
  | .Delete record_id _ => Function.update shown record_id none

theorem shown_apply_record (rows : BTreeMap RecordId (RecordState V)) (record : AppliedRecord V) :
    shown_rows (apply_record rows record) = show_record (shown_rows rows) record := by
  funext id
  by_cases hid : id = record.record_id
  · subst hid
    cases hstate : record.state <;> simp [shown_rows, show_record, apply_record, hstate, shown_state]
  · cases hstate : record.state <;>
      simp [shown_rows, show_record, apply_record, hstate, Function.update_of_ne hid, ExtTreeMap.getElem?_insert,
        ExtTreeMap.getElem?_erase, Ne.symm hid]

theorem shown_apply_commit (rows : BTreeMap RecordId (RecordState V)) (commit : PullCommit V) :
    shown_rows (apply_commit rows commit) = show_commit (shown_rows rows) commit := by
  unfold apply_commit show_commit
  induction commit.records generalizing rows with
  | nil => rfl
  | cons record records ih => rw [List.foldl_cons, List.foldl_cons, ih, shown_apply_record]

theorem shown_apply_operation (projection : BTreeMap RecordId (OptimisticRecord V)) (operation : Operation V) :
    (fun id => (apply_operation projection operation)[id]?.bind shown_optimistic) =
      show_operation (fun id => projection[id]?.bind shown_optimistic) operation := by
  funext id
  cases operation with
  | Upsert record_id base_version value reference =>
    by_cases hid : id = record_id
    · subst hid
      simp [apply_operation, show_operation, shown_optimistic]
    · simp [apply_operation, show_operation, Function.update_of_ne hid, ExtTreeMap.getElem?_insert, Ne.symm hid]
  | Delete record_id base_version =>
    by_cases hid : id = record_id
    · subst hid
      simp [apply_operation, show_operation, shown_optimistic]
    · simp [apply_operation, show_operation, Function.update_of_ne hid, ExtTreeMap.getElem?_insert, Ne.symm hid]

/-- A client shows its confirmed rows under its own operations. -/
theorem shown_eq (state : DurableClientState V) :
    state.shown = (optimistic_operations state).foldl show_operation (shown_rows state.confirmed) := by
  have hbase : (fun id => (state.confirmed.filterMap fun _ record => confirmed_projection record)[id]?.bind
      shown_optimistic) = shown_rows state.confirmed := by
    funext id
    rw [ExtTreeMap.getElem?_filterMap']
    unfold shown_rows
    cases state.confirmed[id]? with
    | none => rfl
    | some record => cases record <;> rfl
  unfold DurableClientState.shown optimistic_projection
  rw [← hbase]
  generalize state.confirmed.filterMap (fun _ record => confirmed_projection record) = projection
  induction optimistic_operations state generalizing projection with
  | nil => rfl
  | cons operation operations ih => rw [List.foldl_cons, List.foldl_cons, ih, shown_apply_operation]

/-- Operations on other records leave a record as it is. -/
theorem show_operations_of_untouched {operations : List (Operation V)} {id : RecordId}
    (huntouched : ∀ operation ∈ operations, operation.record_id ≠ id) (shown : Shown V) :
    operations.foldl show_operation shown id = shown id := by
  induction operations generalizing shown with
  | nil => rfl
  | cons operation operations ih =>
    obtain ⟨hoperation, huntouched⟩ := List.forall_mem_cons.mp huntouched
    rw [List.foldl_cons, ih huntouched]
    cases operation with
    | Upsert record_id base_version value reference => exact Function.update_of_ne hoperation.symm _ _
    | Delete record_id base_version => exact Function.update_of_ne hoperation.symm _ _

/-- No record is under one of these ids or refers to one. -/
def Avoids (ids : RecordId → Prop) (shown : Shown V) : Prop :=
  ∀ id value version reference, shown id = some (value, version, reference) →
    ¬ ids id ∧ ∀ target ∈ reference, ¬ ids target

/-! ### An authority -/

/-- What an authority has at the start of every epoch, and its commits, by epoch and sequence. -/
structure Authority (V : Type) where
  base : UInt64 → Shown V
  commit : UInt64 → Nat → PullCommit V

namespace Authority

def rows (authority : Authority V) (epoch : UInt64) : Nat → Shown V
  | 0 => authority.base epoch
  | sequence + 1 => show_commit (authority.rows epoch sequence) (authority.commit epoch (sequence + 1))

variable (authority : Authority V)

def shows (cursor : Cursor) : Shown V := authority.rows cursor.epoch cursor.sequence.toNat

/-- What a client has been told with this checkpoint; without one it has been told nothing. -/
def told (checkpoint : Option Checkpoint) : Shown V :=
  checkpoint.elim (fun _ => none) fun checkpoint => authority.shows checkpoint.cursor

/-- The authority never has a record under an id that a client has made up, or one that refers to it. -/
def Foreign (provisional : RecordId → Prop) : Prop := ∀ cursor, Avoids provisional (authority.shows cursor)

/-- A message tells the truth about the authority, whenever it arrives. A client without a checkpoint is told about
an epoch from its start only where the epoch has started with nothing. -/
structure Genuine (provisional : RecordId → Prop) (state : DurableClientState V) (transition : Transition V) : Prop where
  mappings : ∀ mapping ∈ transition.mappings, provisional mapping.local_id
  commits : ∀ entry ∈ transition.delivered,
    0 < entry.2.sequence ∧ entry.2 = authority.commit entry.1 entry.2.sequence.toNat
  snapshot : ∀ checkpoint records, transition.snapshot = some (checkpoint, records) →
    shown_rows (records.foldl insert_row ∅) = authority.shows checkpoint.cursor
  first : ∀ batch finish, transition = .PullResponse (.Batch batch) → state.checkpoint = none →
    batch.frames.getLast? = some (.End finish) → authority.base finish.cursor.epoch = fun _ => none

/-- The confirmed rows of a client show what the authority had at the client's cursor. -/
def Follows (state : DurableClientState V) : Prop := shown_rows state.confirmed = authority.told state.checkpoint

end Authority

variable {authority : Authority V} {provisional : RecordId → Prop}

theorem rows_append {epoch : UInt64} {first : Nat} {commits : List (PullCommit V)}
    (hnumbers : commits.map (·.sequence.toNat) = List.range' (first + 1) commits.length)
    (hcommits : ∀ commit ∈ commits, commit = authority.commit epoch commit.sequence.toNat) :
    commits.foldl show_commit (authority.rows epoch first) = authority.rows epoch (first + commits.length) := by
  induction commits generalizing first with
  | nil => rfl
  | cons commit commits ih =>
    obtain ⟨hcommit, hcommits⟩ := List.forall_mem_cons.mp hcommits
    rw [List.map_cons, List.length_cons, List.range'_succ, List.cons.injEq] at hnumbers
    have hnext : show_commit (authority.rows epoch first) commit = authority.rows epoch (first + 1) := by
      rw [hnumbers.1] at hcommit
      rw [hcommit]
      rfl
    rw [List.foldl_cons, hnext, ih hnumbers.2 hcommits, List.length_cons, Nat.add_assoc, Nat.add_comm 1]

theorem shown_apply_commits (rows : BTreeMap RecordId (RecordState V)) (commits : List (PullCommit V)) :
    shown_rows (commits.foldl apply_commit rows) = commits.foldl show_commit (shown_rows rows) := by
  induction commits generalizing rows with
  | nil => rfl
  | cons commit commits ih => rw [List.foldl_cons, List.foldl_cons, ih, shown_apply_commit]

theorem avoids_show_record {ids : RecordId → Prop} {shown : Shown V} (havoids : Avoids ids shown)
    {record : AppliedRecord V} (hid : ¬ ids record.record_id)
    (hreference : ∀ value version reference, record.state = .Present value version (some reference) → ¬ ids reference) :
    Avoids ids (show_record shown record) := by
  intro id value version reference hsome
  by_cases hsame : id = record.record_id
  · subst hsame
    rw [show_record, Function.update_self] at hsome
    refine ⟨hid, fun target htarget => ?_⟩
    cases hstate : record.state with
    | Absent =>
      rw [hstate] at hsome
      cases hsome
    | Tombstone version =>
      rw [hstate] at hsome
      cases hsome
    | Present found exact referred =>
      rw [hstate] at hsome
      cases hsome
      cases htarget
      exact hreference _ _ _ hstate
  · rw [show_record, Function.update_of_ne hsame] at hsome
    exact havoids id value version reference hsome

/-- An authority that starts without an id and commits none never shows it. -/
theorem foreign_of_commits {ids : RecordId → Prop} (hbase : ∀ epoch, Avoids ids (authority.base epoch))
    (hcommits : ∀ epoch n, ∀ record ∈ (authority.commit epoch n).records, ¬ ids record.record_id ∧
      ∀ value version reference, record.state = .Present value version (some reference) → ¬ ids reference) :
    authority.Foreign ids := by
  rintro ⟨epoch, sequence⟩
  unfold Authority.shows
  induction sequence.toNat with
  | zero => exact hbase epoch
  | succ n ih =>
    unfold Authority.rows show_commit
    generalize authority.rows epoch n = shown at ih
    have hrecords := hcommits epoch (n + 1)
    generalize (authority.commit epoch (n + 1)).records = records at hrecords
    induction records generalizing shown with
    | nil => exact ih
    | cons record records ihr =>
      obtain ⟨hrecord, hrecords⟩ := List.forall_mem_cons.mp hrecords
      exact ihr _ (avoids_show_record ih hrecord.1 hrecord.2) hrecords

/-! ### Renamings -/

variable [DecidableEq V]

/-- To rename a row that shows nothing changes nothing. -/
theorem shown_rename_confirmed {rows next : BTreeMap RecordId (RecordState V)} {mapping : IdMapping}
    (hrename : rename_confirmed rows mapping = .ok next) (hlocal : shown_rows rows mapping.local_id = none) :
    shown_rows next = shown_rows rows := by
  have herase : shown_rows (rows.erase mapping.local_id) = shown_rows rows := by
    funext id
    by_cases hid : id = mapping.local_id
    · rw [hid, hlocal]
      simp [shown_rows]
    · simp [shown_rows, ExtTreeMap.getElem?_erase, Ne.symm hid]
  unfold rename_confirmed at hrename
  split at hrename
  · cases hrename
    rfl
  · rename_i state hstate
    have hhidden : shown_state state = none := by
      simpa [shown_rows, hstate] using hlocal
    dsimp only at hrename
    split at hrename
    · split at hrename
      · cases hrename
      · cases hrename
        exact herase
    · rename_i hcanonical
      cases hrename
      rw [← herase]
      funext id
      by_cases hid : id = mapping.canonical_id
      · subst hid
        simp [shown_rows, hhidden, hcanonical]
      · simp [shown_rows, ExtTreeMap.getElem?_insert, Ne.symm hid]

/-- The mapping of an id that is not shown and that nothing shown refers to changes nothing that is shown. -/
theorem shown_apply_id_mapping {state next : DurableClientState V} {mapping : IdMapping}
    (happly : apply_id_mapping state mapping = .ok next)
    (hlocal : shown_rows state.confirmed mapping.local_id = none)
    (hreferences : ∀ id value version reference, shown_rows state.confirmed id = some (value, version, reference) →
      reference ≠ some mapping.local_id) :
    shown_rows next.confirmed = shown_rows state.confirmed := by
  simp only [apply_id_mapping, Except.bind_eq_ok_iff, Except.refuse_eq_ok_iff] at happly
  obtain ⟨_, _, happly⟩ := happly
  split at happly
  · split at happly
    · cases happly
      rfl
    · cases happly
  · obtain ⟨confirmed, hrename, hnext⟩ := Except.bind_eq_ok_iff.mp happly
    cases hnext
    have hrenamed := shown_rename_confirmed hrename hlocal
    rw [← hrenamed] at hreferences ⊢
    funext id
    have hmapped : shown_rows (confirmed.map fun _ record => remap_record record mapping) id =
        (confirmed[id]?.map fun record => remap_record record mapping).bind shown_state := by
      simp [shown_rows]
    change shown_rows (confirmed.map fun _ record => remap_record record mapping) id = shown_rows confirmed id
    rw [hmapped]
    unfold shown_rows
    cases hrecord : confirmed[id]? with
    | none => rfl
    | some record =>
      cases record with
      | Absent => rfl
      | Tombstone version => rfl
      | Present value version reference =>
        have hreference := hreferences id value (.Exact version) reference (by simp [shown_rows, hrecord, shown_state])
        simp [remap_record, shown_state, remap_reference_of_ne hreference]

theorem shown_apply_id_mappings {shown : Shown V} (havoids : Avoids provisional shown) {mappings : List IdMapping}
    {state next : DurableClientState V} (happly : mappings.foldlM apply_id_mapping state = .ok next)
    (hmappings : ∀ mapping ∈ mappings, provisional mapping.local_id) (hshown : shown_rows state.confirmed = shown) :
    shown_rows next.confirmed = shown := by
  induction mappings generalizing state with
  | nil =>
    cases happly
    exact hshown
  | cons mapping mappings ih =>
    obtain ⟨middle, hfirst, hrest⟩ := Except.foldlM_cons_eq_ok_iff.mp happly
    obtain ⟨hlocal, hmappings⟩ := List.forall_mem_cons.mp hmappings
    refine ih hrest hmappings ((shown_apply_id_mapping hfirst ?_ ?_).trans hshown)
    · by_contra hpresent
      obtain ⟨⟨value, version, reference⟩, hsome⟩ := Option.ne_none_iff_exists'.mp hpresent
      exact (havoids _ value version reference (hshown ▸ hsome)).1 hlocal
    · intro id value version reference hsome hreference
      exact (havoids id value version reference (hshown ▸ hsome)).2 _ hreference hlocal

/-! ### Clients -/

omit [DecidableEq V] in
theorem Authority.Foreign.avoids (hforeign : authority.Foreign provisional) (checkpoint : Option Checkpoint) :
    Avoids provisional (authority.told checkpoint) := by
  cases checkpoint with
  | none => exact fun _ _ _ _ hsome => nomatch hsome
  | some checkpoint => exact hforeign checkpoint.cursor

omit [DecidableEq V] in
theorem Authority.Follows.advance {state : DurableClientState V} {batch : PullBatch V} {checkpoint : Checkpoint}
    {commits : List (PullCommit V)} (hfollows : authority.Follows state)
    (hgenuine : authority.Genuine provisional state (.PullResponse (.Batch batch)))
    (haccepted : PullAccepted state batch checkpoint commits)
    (hmoved : ∀ current, state.checkpoint = some current → checkpoint.cursor.sequence ≠ current.cursor.sequence) :
    shown_rows (commits.foldl apply_commit state.confirmed) = authority.shows checkpoint.cursor := by
  have hcommits : ∀ commit ∈ commits, 0 < commit.sequence ∧
      commit = authority.commit checkpoint.cursor.epoch commit.sequence.toNat := by
    intro commit hcommit
    refine hgenuine.commits (checkpoint.cursor.epoch, commit) ?_
    change _ ∈ delivered_commits batch
    rw [haccepted.delivered]
    exact List.mem_map_of_mem hcommit
  obtain ⟨hforward, hsequences⟩ := haccepted.sequences hmoved fun commit hcommit => (hcommits commit hcommit).1
  have hlength : commits.length = checkpoint.cursor.sequence.toNat - state.frontier := by
    simpa using congrArg List.length hsequences
  have htold : shown_rows state.confirmed = authority.rows checkpoint.cursor.epoch state.frontier := by
    rw [hfollows]
    unfold DurableClientState.frontier Authority.told
    cases hcheckpoint : state.checkpoint with
    | none => exact (hgenuine.first batch checkpoint rfl hcheckpoint haccepted.finish).symm
    | some current =>
      have hepoch := (haccepted.continues current hcheckpoint).2.1
      simp only [Option.elim_some, Authority.shows, hepoch]
  rw [← hlength] at hsequences
  rw [shown_apply_commits, htold, rows_append hsequences fun commit hcommit => (hcommits commit hcommit).2, hlength,
    Nat.add_sub_cancel' hforward]
  rfl

/-- A snapshot takes the place of whatever was confirmed. -/
theorem shown_of_snapshotReplaces {state next : DurableClientState V} {checkpoint : Checkpoint}
    {records : List (SnapshotRecord V)} (hreplaces : SnapshotReplaces state checkpoint records next) :
    shown_rows next.confirmed = shown_rows (records.foldl insert_row ∅) ∧ next.checkpoint = some checkpoint := by
  obtain ⟨_, confirmed, hloop, rfl⟩ := hreplaces.replaced
  exact ⟨congrArg shown_rows (foldlM_snapshot_record_eq_ok hloop), rfl⟩

/-- Genuine messages keep a client with the authority, and nothing else moves it. -/
theorem Authority.Follows.effect {state next : DurableClientState V} {transition : Transition V}
    (hforeign : authority.Foreign provisional) (hfollows : authority.Follows state)
    (hgenuine : authority.Genuine provisional state transition) (heffect : Effect state transition next) :
    authority.Follows next := by
  have hsnapshot : ∀ {checkpoint : Checkpoint} {records : List (SnapshotRecord V)},
      transition.snapshot = some (checkpoint, records) → SnapshotReplaces state checkpoint records next →
      authority.Follows next := by
    intro checkpoint records hcarries hreplaces
    obtain ⟨hshown, hcheckpoint⟩ := shown_of_snapshotReplaces hreplaces
    unfold Follows
    rw [hshown, hcheckpoint]
    exact hgenuine.snapshot checkpoint records hcarries
  cases heffect with
  | recorded _ hrecord =>
    simp only [record_outcome, Except.bind_eq_ok_iff, Except.ok.injEq] at hrecord
    obtain ⟨renamed, hrenamed, rfl⟩ := hrecord
    have hcheckpoint : renamed.checkpoint = state.checkpoint := by
      rw [(renamed_of_apply_id_mappings hrenamed).frame]
    have hshown := shown_apply_id_mappings (hforeign.avoids state.checkpoint) hrenamed hgenuine.mappings hfollows
    exact hshown.trans (congrArg authority.told hcheckpoint.symm)
  | decided _ _ _ hdecide =>
    obtain ⟨rfl, _⟩ := decide_conflict_eq_ok hdecide
    exact hfollows
  | @rotated batch checkpoint current hbatch hcurrent hsequence =>
    have haccepted := validate_pull_batch_eq_ok hbatch
    have hcursor : checkpoint.cursor = current.cursor :=
      Cursor.ext (haccepted.continues current hcurrent).2.1 hsequence
    unfold Follows at hfollows
    rw [hcurrent] at hfollows
    change shown_rows state.confirmed = authority.shows checkpoint.cursor
    rw [hcursor]
    exact hfollows
  | advanced hbatch _ hmoved => exact hfollows.advance hgenuine (validate_pull_batch_eq_ok hbatch) hmoved
  | reset hreplaces => exact hsnapshot rfl hreplaces
  | bootstrapped _ _ hreplaces => exact hsnapshot rfl hreplaces
  | _ => exact hfollows

theorem Authority.Follows.run {first last : ClientRuntime V}
    {edges : List (Trace.Edge (ClientRuntime V) (Transition V))} (hforeign : authority.Foreign provisional)
    (hrun : Run first edges last) (hfirst : authority.Follows first.state)
    (hgenuine : ∀ edge ∈ edges, authority.Genuine provisional edge.source.state edge.label) :
    authority.Follows last.state := by
  induction hrun with
  | nil runtime => exact hfirst
  | cons hstep _ ih =>
    obtain ⟨hedge, hgenuine⟩ := List.forall_mem_cons.mp hgenuine
    obtain ⟨next, heffect, hstamped⟩ := hstep.effect
    obtain ⟨_, hafter⟩ := hstamped.exists_revision
    have hnext : authority.Follows next := hfirst.effect hforeign hedge heffect
    refine ih ?_ hgenuine
    rw [hafter]
    exact hnext

/-- The run of a client from its empty state, told only what is true of an authority. -/
structure TruthfulRun (authority : Authority V) (provisional : RecordId → Prop) (first : ClientRuntime V)
    (edges : List (Trace.Edge (ClientRuntime V) (Transition V))) (last : ClientRuntime V) : Prop where
  run : Run first edges last
  empty : ∃ partition_id client_id requested_scope subscription_revision,
    first.state = .empty partition_id client_id requested_scope subscription_revision
  genuine : ∀ edge ∈ edges, authority.Genuine provisional edge.source.state edge.label

theorem TruthfulRun.follows {first last : ClientRuntime V} {edges : List (Trace.Edge (ClientRuntime V) (Transition V))}
    (hforeign : authority.Foreign provisional) (hrun : TruthfulRun authority provisional first edges last) :
    authority.Follows last.state := by
  obtain ⟨_, _, _, _, hempty⟩ := hrun.empty
  refine .run hforeign hrun.run ?_ hrun.genuine
  rw [hempty]
  exact funext fun id => by simp [shown_rows, DurableClientState.empty, Authority.told]

namespace transitions

/-- An authority with one epoch of two commits. -/
def two_commits : Authority String where
  base _ _ := none
  commit _
    | 1 => pull_commit 1 [("a", present "old" 1), ("b", present "x" 1)]
    | _ => pull_commit 2 [("a", present "new" 2), ("b", .Tombstone 2)]

theorem two_commits_foreign : two_commits.Foreign (· = ⟨"temp"⟩) := by
  refine foreign_of_commits (fun _ _ _ _ _ hsome => nomatch hsome) fun epoch n => ?_
  match n with
  | 0 | 1 | _ + 2 => simp [two_commits, pull_commit, present]

end transitions

end surrealdb_sync_client
