import SurrealSync.Native.BootstrapFence
import SurrealSync.Native.Revisions

open Std Except
open surrealdb_sync_protocol surrealdb_sync_protocol.canonical surrealdb_sync_protocol.bootstrap_codec
open surrealdb_sync_client
open surrealdb_rn_core.sync_state

namespace surrealdb_rn_core.sync_bootstrap_store

variable {F V C : Type} {store : Store F V C} {db after : Database C StageTables} {key : SyncStateKey}

/-- The stages are defined before the first of them is written. -/
def Defined (db : Database C StageTables) : Prop :=
  db.stages.defined = true ∨ ∀ id : List String, db.stages.headers[id]? = none

/-- What the writes of one key do to the stages: a step of its own stage, unless the journal has none. -/
structure Written (key : SyncStateKey) (db after : Database C StageTables) : Prop where
  own : StageStep key (view db key) (view after key) ∨ ((view db key).fence = none ∧ view after key = view db key)
  others : ∀ other ≠ key, view after other = view db other
  defined : after.stages.defined = true ∨ after.stages = db.stages

/-- What a transaction of one key does to the stages. -/
def Advances (key : SyncStateKey) (db after : Database C StageTables) : Prop :=
  after = db ∨ Written key db after

theorem defined_of_inspect {inspected : InspectedStage} (hinspect : inspect_stage store db key = .ok inspected) :
    db.stages.defined = true := by
  unfold inspect_stage at hinspect
  obtain ⟨_, hdefined, _⟩ := bind_eq_ok_iff.mp hinspect
  simpa using hdefined

/-- The stage that an inspection finds is the one of the key. -/
theorem header_of_inspect {inspected : InspectedStage} (hinspect : inspect_stage store db key = .ok inspected)
    {stage : Stage} (hstage : inspected.stage = some stage) : (view db key).header = some stage.header := by
  have hheader := (inspect_stage_eq_ok hinspect).1
  rw [hstage] at hheader
  exact hheader.symm

/-- Under the invariant the stage that is found has its incarnation and its fence. -/
theorem Fenced.hasStage {stage : Header} (hfenced : Fenced key (view db key)) (hheader : (view db key).header = some stage) :
    ∃ incarnation counter, HasStage (view db key) stage incarnation counter := by
  rcases hfenced.stage with hnone | ⟨header, incarnation, counter, hstage⟩
  · rw [hnone.header] at hheader
    cases hheader
  · have hfound := hstage.found
    rw [hheader] at hfound
    cases hfound
    exact ⟨incarnation, counter, hstage⟩

theorem Fenced.unstaged (hfenced : Fenced key (view db key)) (hheader : (view db key).header = none) :
    Unstaged (view db key) := by
  rcases hfenced.stage with hnone | ⟨header, incarnation, counter, hstage⟩
  · exact hnone
  · rw [hstage.found] at hheader
    cases hheader

theorem HasStage.read_fence {header : Header} {incarnation counter : UInt64}
    (hstage : HasStage (view db key) header incarnation counter) :
    read_fence db key = .ok (some (fence_text counter (!header.cancelled))) :=
  read_fence_text hstage.fence

theorem parse_fence_of_numbered {header : Header} {incarnation counter : UInt64} {view : StageView}
    (hstage : HasStage view header incarnation counter) {parsed : UInt64}
    (hparse : parse_fence header.incarnation = .ok parsed) : parsed = incarnation := by
  unfold parse_fence at hparse
  rw [hstage.numbered, parse_revision_to_string] at hparse
  exact (ok.inj hparse).symm

/-- Only the fence of a journal is written with its stage. -/
theorem sameRows_write_stages (key other : SyncStateKey) (stages : StageTables) (next : String) :
    SameRows other db (write_fence { db with stages } key next) :=
  SameRows.trans (show SameRows other db { db with stages } from .of_eq rfl fun _ _ => rfl)
    (sameRows_write_fence key other _ next)

/-! ### Journal writes -/

theorem view_of_same {after : Database C StageTables} (hstages : after.stages = db.stages) (hmetas : after.metas = db.metas)
    (other : SyncStateKey) : view after other = view db other := by
  unfold view fence
  rw [hstages, hmetas]

/-- The fence that the guard of a journal write returns. -/
theorem guard_state_write_eq_ok (hfenced : Fenced key (view db key)) {budget : Nat × Nat} {fence : Option String}
    (hguard : guard_state_write store.platform db key budget = .ok fence) :
    (Unstaged (view db key) ∧ fence = none) ∨
      ∃ header incarnation counter next, HasStage (view db key) header incarnation counter ∧
        next.toNat = counter.toNat + 1 ∧ fence = some (fence_text next (!header.cancelled)) := by
  unfold guard_state_write at hguard
  rcases hfenced.stage with hnone | ⟨header, incarnation, counter, hstage⟩
  · rw [read_fence_none hnone.fence] at hguard
    cases hguard
    exact .inl ⟨hnone, rfl⟩
  · rw [hstage.read_fence] at hguard
    obtain ⟨_, hread, hguard⟩ := bind_eq_ok_iff.mp hguard
    cases hread
    obtain ⟨_, _, hguard⟩ := bind_eq_ok_iff.mp hguard
    obtain ⟨found, _, hguard⟩ := bind_eq_ok_iff.mp hguard
    obtain ⟨stage, _, hguard⟩ := bind_eq_ok_iff.mp hguard
    have hrest : ∃ rotated, next_fence (some (fence_text counter (!header.cancelled))) = .ok rotated ∧
        fence = some rotated := by
      dsimp only at hguard
      split at hguard
      all_goals
        obtain ⟨_, _, hguard⟩ := bind_eq_ok_iff.mp hguard
        obtain ⟨_, _, hguard⟩ := bind_eq_ok_iff.mp hguard
        obtain ⟨rotated, hnext, hguard⟩ := bind_eq_ok_iff.mp hguard
        cases hguard
        exact ⟨rotated, hnext, rfl⟩
    obtain ⟨rotated, hnext, rfl⟩ := hrest
    obtain ⟨next, hlater, rfl⟩ := next_fence_text hnext
    exact .inr ⟨header, incarnation, counter, next, hstage, hlater, rfl⟩

/-- A metadata row that is written carries the fence of its journal. -/
theorem view_of_meta_row {row : StoredMetaRow} (hstages : after.stages = db.stages)
    (hmetas : after.metas = db.metas.insert (record_id key) row) :
    view after key = { view db key with fence := row.bootstrap_fence } ∧
      ∀ other ≠ key, view after other = view db other := by
  constructor
  · unfold view fence
    rw [hstages, hmetas, ExtTreeMap.getElem?_insert_self]
    rfl
  · intro other hne
    have hid : record_id other ≠ record_id key := fun hsame => hne (record_id_injective hsame)
    unfold view fence
    rw [hstages, hmetas, BTreeMap.getElem?_insert_of_ne hid]

/-- What a journal write does to the stages: it replaces the fence of its own by the next one, if there is one. -/
structure Rotates (key : SyncStateKey) (db after : Database C StageTables) : Prop where
  stages : after.stages = db.stages
  own : (Unstaged (view db key) ∧ view after key = view db key) ∨
    ∃ header incarnation counter next, HasStage (view db key) header incarnation counter ∧
      next.toNat = counter.toNat + 1 ∧ view after key = { view db key with fence := some (fence_text next (!header.cancelled)) }
  others : ∀ other ≠ key, view after other = view db other

theorem rotates_write_row_diff (hfenced : Fenced key (view db key)) {current : Option NormalizedRows}
    {rows : NormalizedRows} (hwrite : write_row_diff store.platform key current rows db = .ok after) :
    Rotates key db after := by
  obtain ⟨fence, hguard, hafter⟩ := write_row_diff_eq_ok_iff.mp hwrite
  have hstages : after.stages = db.stages := by rw [hafter]
  have hmetas : after.metas = db.metas.insert (record_id key) (rows.meta_row key fence) := by rw [hafter]
  obtain ⟨hown, hothers⟩ := view_of_meta_row hstages hmetas
  refine ⟨hstages, ?_, hothers⟩
  rcases guard_state_write_eq_ok hfenced hguard with ⟨hnone, rfl⟩ | ⟨header, incarnation, counter, next, hstage, hnext, rfl⟩
  · refine .inl ⟨hnone, ?_⟩
    rw [hown]
    exact StageView.ext rfl hnone.fence.symm rfl
  · exact .inr ⟨header, incarnation, counter, next, hstage, hnext, hown⟩

/-- What is written outside the stages and the metadata does not show there. -/
theorem Rotates.then_same {last : Database C StageTables} (hrotates : Rotates key db after)
    (hstages : last.stages = after.stages) (hmetas : last.metas = after.metas) : Rotates key db last := by
  have hview := view_of_same hstages hmetas
  refine ⟨hstages.trans hrotates.stages, ?_, fun other hne => (hview other).trans (hrotates.others other hne)⟩
  rw [hview key]
  exact hrotates.own

theorem Rotates.written (hrotates : Rotates key db after) : Written key db after := by
  refine ⟨?_, hrotates.others, .inr hrotates.stages⟩
  rcases hrotates.own with ⟨hnone, hsame⟩ | ⟨header, incarnation, counter, next, hstage, hnext, hview⟩
  · exact .inr ⟨hnone.fence, hsame⟩
  · rw [hview]
    exact .inl (.rotated hstage hnext)

theorem Written.then_same {last : Database C StageTables} (hwritten : Written key db after)
    (hstages : last.stages = after.stages) (hmetas : last.metas = after.metas) : Written key db last := by
  have hview := view_of_same hstages hmetas
  refine ⟨?_, fun other hne => (hview other).trans (hwritten.others other hne), ?_⟩
  · rw [hview key]
    exact hwritten.own
  · rw [hstages]
    exact hwritten.defined

/-- A finished transaction has all its writes, or none. -/
theorem Advances.finish {α : Type} {outcome : Outcome} {operation : SyncResult (α × Database C StageTables)}
    (hadvances : ∀ value next, operation = .ok (value, next) → Advances key db next) :
    Advances key db (finish outcome db operation).2 := by
  cases operation with
  | error failed => cases outcome <;> exact .inl rfl
  | ok written =>
    obtain ⟨value, next⟩ := written
    cases outcome with
    | Settled => exact hadvances value next rfl
    | Interrupted cause => exact .inl rfl
    | CommitUnknown applied =>
      cases applied with
      | true => exact hadvances value next rfl
      | false => exact .inl rfl
    | RollbackFailed => exact .inl rfl

variable [DecidableEq V]

theorem replace_eq_ok (hfenced : Fenced key (view db key)) {expected_revision : Option UInt64}
    {expected_state : Option (DurableClientState V)} {state : DurableClientState V} {rows : NormalizedRows}
    {disposition : SyncStateWrite}
    (hreplace : replace_v2_in_transaction store.platform key expected_revision expected_state state rows db =
      .ok (disposition, after)) :
    (disposition = .AlreadyCurrent ∧ after = db) ∨ (disposition = .Applied ∧ Rotates key db after) := by
  obtain ⟨loaded, _, _, _, hsame | ⟨happlied, current_rows, _, hwrite⟩⟩ := replace_v2_in_transaction_eq_ok hreplace
  · exact .inl hsame
  · exact .inr ⟨happlied, rotates_write_row_diff hfenced hwrite⟩

theorem apply_transition_eq_ok {current next : DurableClientState V} (hfenced : Fenced (.of next) (view db (.of next)))
    {rows : NormalizedRows} {disposition : SyncStateWrite}
    (happly : apply_transition_in_transaction store.platform current next rows db = .ok (disposition, after)) :
    after = db ∨ Rotates (.of next) db after := by
  unfold apply_transition_in_transaction at happly
  obtain ⟨⟨decided, written⟩, hreplace, happly⟩ := bind_eq_ok_iff.mp happly
  rcases replace_eq_ok hfenced hreplace with ⟨hdecided, hsame⟩ | ⟨hdecided, hrotates⟩
  · cases hdecided
    cases happly
    exact .inl hsame
  · cases hdecided
    obtain ⟨projected, hproject, happly⟩ := bind_eq_ok_iff.mp happly
    cases happly
    have hsame := sameJournal_apply_projection_diff hproject
    refine .inr (hrotates.then_same ?_ ?_)
    · rw [hsame]
    · rw [hsame]

/-- Only a journal that is not there yet is migrated. -/
theorem advances_migrate_v1 {state : DurableClientState V} (hfenced : Fenced key (view db key)) {rows : NormalizedRows}
    {disposition : SyncStateWrite} (hmigrate : migrate_v1 store.platform key state rows db = .ok (disposition, after)) :
    Advances key db after := by
  unfold migrate_v1 at hmigrate
  obtain ⟨loaded, _, hmigrate⟩ := bind_eq_ok_iff.mp hmigrate
  cases loaded with
  | some existing =>
    dsimp only at hmigrate
    split at hmigrate
    · cases hmigrate
      exact .inl rfl
    · cases hmigrate
  | none =>
    obtain ⟨legacy, _, hmigrate⟩ := bind_eq_ok_iff.mp hmigrate
    obtain ⟨decoded, _, hmigrate⟩ := bind_eq_ok_iff.mp hmigrate
    obtain ⟨_, _, hmigrate⟩ := bind_eq_ok_iff.mp hmigrate
    obtain ⟨written, hwrite, hmigrate⟩ := bind_eq_ok_iff.mp hmigrate
    obtain ⟨projected, hproject, hmigrate⟩ := bind_eq_ok_iff.mp hmigrate
    cases hmigrate
    have hsame := sameJournal_apply_projection_diff hproject
    refine .inr ((rotates_write_row_diff hfenced hwrite).then_same ?_ ?_).written
    · rw [hsame]
    · rw [hsame]

theorem advances_load (hfenced : Fenced key (view db key)) (outcome : Outcome) :
    Advances key db (load store.platform outcome key db).2 := by
  unfold load
  split
  · exact .inl rfl
  · split
    · exact .inl rfl
    · exact .inl rfl
    · exact .inl rfl
    · split
      · exact .inl rfl
      · unfold load_legacy
        split
        · exact .inl rfl
        · split
          · exact .inl rfl
          · split
            · exact .inl rfl
            · exact Advances.finish fun _ _ hmigrate => advances_migrate_v1 hfenced hmigrate

theorem advances_apply_transition_atomic {current next : DurableClientState V}
    (hfenced : Fenced (.of next) (view db (.of next))) (outcome : Outcome) :
    Advances (.of next) db (apply_transition_atomic store.platform outcome current next db).2 := by
  unfold apply_transition_atomic
  split
  · exact .inl rfl
  · split
    · exact .inl rfl
    · split
      · rename_i hsame
        subst hsame
        have hload := @advances_load F V C store db (.of current) _ hfenced outcome
        split
        · rename_i hloaded
          rw [hloaded] at hload
          exact hload
        · rename_i hloaded
          rw [hloaded] at hload
          exact hload
      · split
        · exact .inl rfl
        · refine Advances.finish fun _ _ happly => ?_
          rcases apply_transition_eq_ok hfenced happly with hsame | hrotates
          · exact .inl hsame
          · exact .inr hrotates.written

/-! ### Stage operations -/

omit [DecidableEq V] in
theorem owner_of_read_meta {serde : Serde F V} {row : StoredMetaRow} {inventory : Inventory} {state_meta : StateMeta V}
    (hread : read_meta serde key row inventory = .ok state_meta) :
    state_meta.partition_id = key.partition_id.val ∧ state_meta.client_id = key.client_id.val := by
  unfold read_meta at hread
  obtain ⟨_, _, hread⟩ := bind_eq_ok_iff.mp hread
  obtain ⟨_, _, hread⟩ := bind_eq_ok_iff.mp hread
  obtain ⟨_, _, hread⟩ := bind_eq_ok_iff.mp hread
  obtain ⟨_, howner, hread⟩ := bind_eq_ok_iff.mp hread
  obtain ⟨_, _, hread⟩ := bind_eq_ok_iff.mp hread
  cases hread
  rw [refuse_eq_ok_iff, not_or, not_or, not_not, not_not] at howner
  exact ⟨howner.1, howner.2.1⟩

theorem owner_of_restore {serde : Serde F V} {state_meta : StateMeta V} {inventory : Inventory}
    {state : DurableClientState V} (hrestore : restore serde state_meta inventory = .ok state) :
    state.partition_id = ⟨state_meta.partition_id⟩ ∧ state.client_id = ⟨state_meta.client_id⟩ := by
  unfold restore at hrestore
  obtain ⟨_, _, hrestore⟩ := bind_eq_ok_iff.mp hrestore
  obtain ⟨_, _, hrestore⟩ := bind_eq_ok_iff.mp hrestore
  obtain ⟨_, _, hrestore⟩ := bind_eq_ok_iff.mp hrestore
  obtain ⟨_, _, hrestore⟩ := bind_eq_ok_iff.mp hrestore
  obtain ⟨_, _, hrestore⟩ := bind_eq_ok_iff.mp hrestore
  obtain ⟨_, _, hrestore⟩ := bind_eq_ok_iff.mp hrestore
  obtain ⟨_, _, hrestore⟩ := bind_eq_ok_iff.mp hrestore
  obtain ⟨_, _, hrestore⟩ := bind_eq_ok_iff.mp hrestore
  dsimp only at hrestore
  split at hrestore
  · cases hrestore
    exact ⟨rfl, rfl⟩
  · cases hrestore

/-- A state that is loaded is of the journal it is loaded from. -/
theorem owner_of_load_v2 {state : DurableClientState V} (hload : load_v2 store.platform db key = .ok (some state)) :
    db.metas[record_id key]?.isSome ∧ SyncStateKey.of state = key := by
  unfold load_v2 at hload
  obtain ⟨inventory, _, hload⟩ := bind_eq_ok_iff.mp hload
  cases hmeta : db.metas[record_id key]? with
  | none =>
    rw [hmeta] at hload
    dsimp only at hload
    split at hload <;> cases hload
  | some row =>
    rw [hmeta] at hload
    obtain ⟨state_meta, hread, hload⟩ := bind_eq_ok_iff.mp hload
    obtain ⟨restored, hrestore, hload⟩ := bind_eq_ok_iff.mp hload
    cases hload
    obtain ⟨hpartition, hclient⟩ := owner_of_read_meta hread
    obtain ⟨hstate, hstateClient⟩ := owner_of_restore hrestore
    refine ⟨rfl, ?_⟩
    unfold SyncStateKey.of
    rw [hstate, hstateClient, hpartition, hclient]

theorem current_state_eq_ok {state : DurableClientState V} (hcurrent : current_state store db key = .ok state) :
    db.metas[record_id key]?.isSome ∧ SyncStateKey.of state = key := by
  unfold current_state at hcurrent
  obtain ⟨loaded, hload, hcurrent⟩ := bind_eq_ok_iff.mp hcurrent
  rw [okOr_eq_ok_iff] at hcurrent
  cases hcurrent
  exact owner_of_load_v2 hload

omit [DecidableEq V] in
/-- The number and the tables of a stage that is created. -/
theorem create_stage_eq_ok (hfenced : Fenced key (view db key)) (hdefined : db.stages.defined = true)
    (hmeta : db.metas[record_id key]?.isSome) {state : DurableClientState V} {start manifest : Bytes}
    {decoded : BootstrapManifest} {incarnation : UInt64}
    (hclosed : ∀ header, (view db key).header = some header → header.cancelled = true)
    (hcreate : create_stage store key state start manifest decoded db = .ok (incarnation, after)) :
    Created incarnation (view db key) (view after key) ∧ Written key db after ∧ ∀ other, SameRows other db after := by
  unfold create_stage at hcreate
  obtain ⟨read, hread, hcreate⟩ := bind_eq_ok_iff.mp hcreate
  obtain ⟨next, hnext, hcreate⟩ := bind_eq_ok_iff.mp hcreate
  obtain ⟨⟨number, active⟩, hparse, hcreate⟩ := bind_eq_ok_iff.mp hcreate
  obtain ⟨budget, _, hcreate⟩ := bind_eq_ok_iff.mp hcreate
  obtain ⟨_, _, hcreate⟩ := bind_eq_ok_iff.mp hcreate
  cases hcreate
  have hview := @view_write C db key
    { db.stages with headers := db.stages.headers.insert (header_id key) (fresh_header incarnation start manifest) }
    hmeta (fence_text incarnation true)
  have hcreated : Created incarnation (view db key) (view (write_fence { db with
      stages := { db.stages with
        headers := db.stages.headers.insert (header_id key) (fresh_header incarnation start manifest) } } key
      (fence_text incarnation true)) key) := by
    rw [hview]
    dsimp only
    rw [ExtTreeMap.getElem?_insert_self]
    cases hheader : (view db key).header with
    | none =>
      have hnone := hfenced.unstaged hheader
      rw [read_fence_none hnone.fence] at hread
      cases hread
      rw [next_fence_none] at hnext
      cases hnext
      rw [parse_metadata_fence_text] at hparse
      cases hparse
      exact .first start manifest hnone
    | some header =>
      obtain ⟨first, counter, hstage⟩ := hfenced.hasStage hheader
      rw [hstage.read_fence] at hread
      cases hread
      obtain ⟨later, hlater, rfl⟩ := next_fence_text hnext
      rw [parse_metadata_fence_text] at hparse
      cases hparse
      exact .replaced start manifest hstage (hclosed header hheader) hlater
  refine ⟨hcreated, ⟨.inl (.created hcreated), fun other hne => ?_, .inl ?_⟩, fun other => ?_⟩
  · exact view_write_of_ne hne _ (BTreeMap.getElem?_insert_of_ne (header_id_ne hne)) fun _ => rfl
  · rw [stages_write_fence]
    exact hdefined
  · exact sameRows_write_stages key other _ _

omit [DecidableEq V] in
theorem admit_existing_eq_ok {state : DurableClientState V} {start manifest : Bytes} {expected : BootstrapContext}
    {existing : Stage} {answer : Option UInt64}
    (hadmits : admit_existing store key state start manifest expected existing = .ok answer) :
    (existing.header.cancelled = true ∧ answer = none) ∨
      (existing.header.cancelled = false ∧ ∃ incarnation, answer = some incarnation ∧
        parse_fence existing.header.incarnation = .ok incarnation) := by
  unfold admit_existing at hadmits
  obtain ⟨_, _, hadmits⟩ := bind_eq_ok_iff.mp hadmits
  obtain ⟨_, _, hadmits⟩ := bind_eq_ok_iff.mp hadmits
  obtain ⟨_, _, hadmits⟩ := bind_eq_ok_iff.mp hadmits
  obtain ⟨_, _, hadmits⟩ := bind_eq_ok_iff.mp hadmits
  split at hadmits
  · rename_i hcancelled
    obtain ⟨_, _, hadmits⟩ := bind_eq_ok_iff.mp hadmits
    cases hadmits
    exact .inl ⟨hcancelled, rfl⟩
  · rename_i hopen
    obtain ⟨_, _, hadmits⟩ := bind_eq_ok_iff.mp hadmits
    obtain ⟨_, _, hadmits⟩ := bind_eq_ok_iff.mp hadmits
    obtain ⟨incarnation, hparse, hadmits⟩ := bind_eq_ok_iff.mp hadmits
    cases hadmits
    exact .inr ⟨by simpa using hopen, incarnation, rfl, hparse⟩

/-- The definition of the tables shows in no stage. -/
theorem written_of_defined (hwritten : Written key { db with stages := { db.stages with defined := true } } after) :
    Written key db after := by
  refine ⟨hwritten.own, hwritten.others, .inl ?_⟩
  rcases hwritten.defined with hdefined | hsame
  · exact hdefined
  · rw [hsame]

theorem define_eq_self (hdefined : db.stages.defined = true) :
    { db with stages := { db.stages with defined := true } } = db := by
  obtain ⟨metas, states, barriers, components, records, ⟨defined, headers, pages⟩⟩ := db
  cases hdefined
  rfl

theorem begin_in_transaction_eq_ok {start manifest : Bytes} {decoded : BootstrapManifest} {expected : BootstrapContext}
    {incarnation : UInt64} (hfenced : Fenced key (view db key))
    (hbegin : begin_in_transaction store key start manifest decoded expected db = .ok (incarnation, after)) :
    (after = db ∧ ∃ header counter, HasStage (view db key) header incarnation counter ∧ header.cancelled = false) ∨
      (Created incarnation (view db key) (view after key) ∧ Written key db after ∧ ∀ other, SameRows other db after) := by
  unfold begin_in_transaction at hbegin
  obtain ⟨inspection, hinspect, hbegin⟩ := bind_eq_ok_iff.mp hbegin
  obtain ⟨_, _, hbegin⟩ := bind_eq_ok_iff.mp hbegin
  obtain ⟨state, hcurrent, hbegin⟩ := bind_eq_ok_iff.mp hbegin
  obtain ⟨_, _, hbegin⟩ := bind_eq_ok_iff.mp hbegin
  obtain ⟨_, _, hbegin⟩ := bind_eq_ok_iff.mp hbegin
  obtain ⟨_, _, hbegin⟩ := bind_eq_ok_iff.mp hbegin
  obtain ⟨_, _, hbegin⟩ := bind_eq_ok_iff.mp hbegin
  have hdefined := defined_of_inspect hinspect
  obtain ⟨hmeta, -⟩ := current_state_eq_ok hcurrent
  cases hstage : inspection.stage with
  | none =>
    rw [hstage] at hbegin
    have hheader := (inspect_stage_eq_ok hinspect).1
    rw [hstage] at hheader
    refine .inr (create_stage_eq_ok hfenced hdefined hmeta (fun header hfound => ?_) hbegin)
    rw [show (view db key).header = none from hheader.symm] at hfound
    cases hfound
  | some existing =>
    rw [hstage] at hbegin
    obtain ⟨answer, hadmits, hbegin⟩ := bind_eq_ok_iff.mp hbegin
    have hheader := header_of_inspect hinspect hstage
    rcases admit_existing_eq_ok hadmits with ⟨hcancelled, rfl⟩ | ⟨hopen, found, rfl, hparse⟩
    · refine .inr (create_stage_eq_ok hfenced hdefined hmeta (fun header hfound => ?_) hbegin)
      rw [hheader] at hfound
      cases hfound
      exact hcancelled
    · cases hbegin
      obtain ⟨first, counter, hstage⟩ := hfenced.hasStage hheader
      cases parse_fence_of_numbered hstage hparse
      exact .inl ⟨rfl, existing.header, counter, hstage, hopen⟩

/-- `begin` finds the stage that it was asked for, or creates it. -/
theorem begin_eq_ok {start manifest : Bytes} {expected : BootstrapContext} {incarnation : UInt64}
    (hkey : BootstrapContext.key expected = key) (hfenced : Fenced key (view db key)) (hdefined : Defined db)
    (hbegin : begin store start manifest expected db = .ok (incarnation, after)) :
    (after = db ∧ ∃ header counter, HasStage (view db key) header incarnation counter ∧ header.cancelled = false) ∨
      (Created incarnation (view db key) (view after key) ∧ Written key db after ∧ ∀ other, SameRows other db after) := by
  subst hkey
  unfold begin at hbegin
  obtain ⟨_, _, hbegin⟩ := bind_eq_ok_iff.mp hbegin
  obtain ⟨decoded, _, hbegin⟩ := bind_eq_ok_iff.mp hbegin
  obtain ⟨_, _, hbegin⟩ := bind_eq_ok_iff.mp hbegin
  obtain ⟨_, _, hbegin⟩ := bind_eq_ok_iff.mp hbegin
  have hdefining : Fenced (BootstrapContext.key expected)
      (view { db with stages := { db.stages with defined := true } } (BootstrapContext.key expected)) := hfenced
  rcases begin_in_transaction_eq_ok hdefining hbegin with ⟨rfl, header, counter, hstage, hopen⟩ |
    ⟨hcreated, hwritten, hrows⟩
  · refine .inl ⟨define_eq_self ?_, header, counter, hstage, hopen⟩
    rcases hdefined with hdefined | hnone
    · exact hdefined
    · have hfound : db.stages.headers[header_id (BootstrapContext.key expected)]? = some header := hstage.found
      rw [hnone] at hfound
      cases hfound
  · refine .inr ⟨hcreated, written_of_defined hwritten, fun other => ?_⟩
    exact SameRows.trans (show SameRows other db { db with stages := { db.stages with defined := true } } from
      .of_eq rfl fun _ _ => rfl) (hrows other)

omit [DecidableEq V] in
/-- The pages of a key after one more was written. -/
theorem pages_insert (db : Database C StageTables) (key : SyncStateKey) (index : UInt64) (row : PageRow) :
    (fun text : String => (db.stages.pages.insert (page_id key index) row)[[key.partition_id.val, key.client_id.val,
      text]]?) = Function.update (view db key).pages index.to_string (some row) := by
  funext text
  by_cases hsame : text = index.to_string
  · subst hsame
    rw [Function.update_self]
    exact ExtTreeMap.getElem?_insert_self
  · rw [Function.update_of_ne hsame]
    refine BTreeMap.getElem?_insert_of_ne fun hid => hsame ?_
    unfold page_id at hid
    rw [List.cons.injEq, List.cons.injEq, List.cons.injEq] at hid
    exact hid.2.2.1

theorem stage_page_eq_ok {raw : Bytes} {expected : BootstrapContext} {incarnation : UInt64} {answer : Unit}
    (hkey : BootstrapContext.key expected = key) (hfenced : Fenced key (view db key))
    (hpage : stage_page store raw expected incarnation db = .ok (answer, after)) :
    Advances key db after ∧ ∀ other, SameRows other db after := by
  subst hkey
  unfold stage_page at hpage
  obtain ⟨_, _, hpage⟩ := bind_eq_ok_iff.mp hpage
  obtain ⟨page, _, hpage⟩ := bind_eq_ok_iff.mp hpage
  obtain ⟨_, _, hpage⟩ := bind_eq_ok_iff.mp hpage
  obtain ⟨read, hread, hpage⟩ := bind_eq_ok_iff.mp hpage
  obtain ⟨fence, hfence, hpage⟩ := bind_eq_ok_iff.mp hpage
  obtain ⟨inspection, hinspect, hpage⟩ := bind_eq_ok_iff.mp hpage
  obtain ⟨stage, hstage, hpage⟩ := bind_eq_ok_iff.mp hpage
  obtain ⟨_, _, hpage⟩ := bind_eq_ok_iff.mp hpage
  obtain ⟨_, _, hpage⟩ := bind_eq_ok_iff.mp hpage
  obtain ⟨_, _, hpage⟩ := bind_eq_ok_iff.mp hpage
  obtain ⟨_, hopen, hpage⟩ := bind_eq_ok_iff.mp hpage
  obtain ⟨_, _, hpage⟩ := bind_eq_ok_iff.mp hpage
  obtain ⟨_, _, hpage⟩ := bind_eq_ok_iff.mp hpage
  rw [okOr_eq_ok_iff] at hfence hstage
  rw [refuse_eq_ok_iff, Bool.not_eq_true] at hopen
  obtain ⟨number, counter, hfound⟩ := hfenced.hasStage (header_of_inspect hinspect hstage)
  rw [hfound.read_fence, hfence] at hread
  cases hread
  cases hold : stage.pages[page.index]? with
  | some old =>
    rw [hold] at hpage
    obtain ⟨_, _, hpage⟩ := bind_eq_ok_iff.mp hpage
    cases hpage
    exact ⟨.inl rfl, fun other => .refl other db⟩
  | none =>
    rw [hold] at hpage
    obtain ⟨state, _, hpage⟩ := bind_eq_ok_iff.mp hpage
    obtain ⟨_, _, hpage⟩ := bind_eq_ok_iff.mp hpage
    obtain ⟨_, _, hpage⟩ := bind_eq_ok_iff.mp hpage
    obtain ⟨next, hnext, hpage⟩ := bind_eq_ok_iff.mp hpage
    cases hpage
    obtain ⟨later, hlater, rfl⟩ := next_fence_text hnext
    refine ⟨.inr ⟨.inl ?_, fun other hne => ?_, .inl ?_⟩, fun other => sameRows_write_stages _ other _ _⟩
    · rw [view_write (isSome_of_fence hfound.fence)]
      dsimp only
      rw [pages_insert, hopen]
      exact .paged hfound hopen hlater ⟨rfl, rfl, rfl⟩
    · refine view_write_of_ne hne _ rfl fun index => ?_
      exact BTreeMap.getElem?_insert_of_ne (page_key_ne hne index _)
    · rw [stages_write_fence]
      change db.stages.defined = true
      exact defined_of_inspect hinspect

omit [DecidableEq V] in
/-- The stage is closed for good: its pages are gone and the fence is inactive. -/
theorem written_close {inspected : InspectedStage} (hinspect : inspect_stage store db key = .ok inspected)
    {stage : Stage} (hstage : inspected.stage = some stage) (hfenced : Fenced key (view db key))
    (hconsumed : stage.header.consumed_receipt = none) {incarnation counter : UInt64}
    (hfound : HasStage (view db key) stage.header incarnation counter) (next : UInt64)
    (hnext : counter.toNat < next.toNat) (header : Header) (hclosed : header.cancelled = true) (hincarnation : header.incarnation = stage.header.incarnation)
    (base : Database C StageTables) (hmeta : base.metas[record_id key]?.isSome) (hstages : base.stages = db.stages)
    (hothers : ∀ other ≠ key, view base other = view db other) :
    Written key db (write_fence { base with stages := { base.stages with
      pages := delete_pages key stage base.stages.pages
      headers := base.stages.headers.insert (header_id key) header } } key (fence_text next false)) := by
  refine ⟨.inl ?_, fun other hne => ?_, .inl ?_⟩
  · rw [view_write hmeta]
    dsimp only
    rw [ExtTreeMap.getElem?_insert_self, hstages]
    have hgone : (fun index : String => (delete_pages key stage db.stages.pages)[[key.partition_id.val,
        key.client_id.val, index]]?) = fun _ => none := funext (delete_pages_eq_none hinspect hstage hfenced)
    rw [hgone]
    exact .closed hfound hconsumed hnext hclosed hincarnation
  · rw [← hothers other hne]
    exact view_write_of_ne hne _ (BTreeMap.getElem?_insert_of_ne (header_id_ne hne)) (delete_pages_of_ne hne stage _)
  · rw [stages_write_fence]
    dsimp only
    rw [hstages]
    exact defined_of_inspect hinspect

omit [DecidableEq V] in
theorem cancel_eq_ok {manifest : Bytes} {expected : BootstrapContext} {incarnation : UInt64} {answer : Unit}
    (hkey : BootstrapContext.key expected = key) (hfenced : Fenced key (view db key))
    (hcancel : cancel store manifest expected incarnation db = .ok (answer, after)) :
    Advances key db after ∧ ∀ other, SameRows other db after := by
  subst hkey
  unfold cancel at hcancel
  obtain ⟨_, _, hcancel⟩ := bind_eq_ok_iff.mp hcancel
  obtain ⟨read, hread, hcancel⟩ := bind_eq_ok_iff.mp hcancel
  cases read with
  | none =>
    cases hcancel
    exact ⟨.inl rfl, fun other => .refl other db⟩
  | some fence =>
    obtain ⟨inspection, hinspect, hcancel⟩ := bind_eq_ok_iff.mp hcancel
    cases hstage : inspection.stage with
    | none =>
      rw [hstage] at hcancel
      cases hcancel
      exact ⟨.inl rfl, fun other => .refl other db⟩
    | some stage =>
      rw [hstage] at hcancel
      obtain ⟨_, _, hcancel⟩ := bind_eq_ok_iff.mp hcancel
      obtain ⟨_, _, hcancel⟩ := bind_eq_ok_iff.mp hcancel
      obtain ⟨_, _, hcancel⟩ := bind_eq_ok_iff.mp hcancel
      obtain ⟨_, _, hcancel⟩ := bind_eq_ok_iff.mp hcancel
      split at hcancel
      · cases hcancel
        exact ⟨.inl rfl, fun other => .refl other db⟩
      · rename_i hconsumed
        obtain ⟨closed, hclose, hcancel⟩ := bind_eq_ok_iff.mp hcancel
        cases hcancel
        obtain ⟨number, counter, hfound⟩ := hfenced.hasStage (header_of_inspect hinspect hstage)
        rw [hfound.read_fence] at hread
        cases hread
        unfold close_stage at hclose
        obtain ⟨next, hnext, hclose⟩ := bind_eq_ok_iff.mp hclose
        obtain ⟨⟨later, active⟩, hparse, hclose⟩ := bind_eq_ok_iff.mp hclose
        cases hclose
        obtain ⟨_, hlater, rfl⟩ := next_fence_text hnext
        rw [parse_metadata_fence_text] at hparse
        cases hparse
        have hopen : stage.header.consumed_receipt = none := by simpa using hconsumed
        exact ⟨.inr (written_close hinspect hstage hfenced hopen hfound later (by omega)
          { stage.header with cancelled := true } rfl rfl db (isSome_of_fence hfound.fence) rfl fun _ _ => rfl),
          fun other => sameRows_write_stages _ other _ _⟩

theorem save_scope_barrier_eq_ok {barrier : ScopeBarrier} {answer : Unit} (hfenced : Fenced key (view db key))
    (hsave : save_scope_barrier store key barrier db = .ok (answer, after)) :
    Advances key db after ∧ ∀ other, SameRows other db after := by
  unfold save_scope_barrier at hsave
  obtain ⟨_, _, hsave⟩ := bind_eq_ok_iff.mp hsave
  obtain ⟨_, _, hsave⟩ := bind_eq_ok_iff.mp hsave
  obtain ⟨guarded, hguard, hsave⟩ := bind_eq_ok_iff.mp hsave
  cases hsave
  have hwritten : Written key db guarded ∧ ∀ other, SameRows other db guarded := by
    unfold guard_barrier_write at hguard
    obtain ⟨read, hread, hguard⟩ := bind_eq_ok_iff.mp hguard
    rcases hfenced.stage with hnone | ⟨header, incarnation, counter, hstage⟩
    · rw [read_fence_none hnone.fence] at hread
      cases hread
      cases hguard
      exact ⟨⟨.inr ⟨hnone.fence, rfl⟩, fun _ _ => rfl, .inr rfl⟩, fun other => .refl other db⟩
    · rw [hstage.read_fence] at hread
      cases hread
      obtain ⟨inspection, hinspect, hguard⟩ := bind_eq_ok_iff.mp hguard
      obtain ⟨stage, _, hguard⟩ := bind_eq_ok_iff.mp hguard
      obtain ⟨state, _, hguard⟩ := bind_eq_ok_iff.mp hguard
      obtain ⟨budget, _, hguard⟩ := bind_eq_ok_iff.mp hguard
      obtain ⟨_, _, hguard⟩ := bind_eq_ok_iff.mp hguard
      have hrotated : ∃ next, next_fence (some (fence_text counter (!header.cancelled))) = .ok next ∧
          guarded = write_fence db key next := by
        dsimp only at hguard
        split at hguard
        · obtain ⟨_, _, hguard⟩ := bind_eq_ok_iff.mp hguard
          obtain ⟨next, hnext, hguard⟩ := bind_eq_ok_iff.mp hguard
          cases hguard
          exact ⟨next, hnext, rfl⟩
        · obtain ⟨_, _, hguard⟩ := bind_eq_ok_iff.mp hguard
          obtain ⟨_, _, hguard⟩ := bind_eq_ok_iff.mp hguard
          obtain ⟨next, hnext, hguard⟩ := bind_eq_ok_iff.mp hguard
          cases hguard
          exact ⟨next, hnext, rfl⟩
      obtain ⟨_, hnext, rfl⟩ := hrotated
      obtain ⟨later, hlater, rfl⟩ := next_fence_text hnext
      refine ⟨⟨.inl ?_, fun other hne => ?_, .inr (stages_write_fence db key _)⟩,
        fun other => sameRows_write_fence key other db _⟩
      · have hview := @view_write C db key db.stages (isSome_of_fence hstage.fence) (fence_text later (!header.cancelled))
        rw [show view (write_fence db key (fence_text later (!header.cancelled))) key = _ from hview]
        exact .rotated hstage hlater
      · exact @view_write_of_ne C db key other hne db.stages _ rfl fun _ => rfl
  obtain ⟨hwritten, hrows⟩ := hwritten
  exact ⟨.inr (hwritten.then_same rfl rfl), fun other => (hrows other).trans (.of_eq rfl fun _ _ => rfl)⟩

/-- The state that a transition replaces is of the same journal. -/
theorem owner_of_apply_transition {current next : DurableClientState V} {rows : NormalizedRows}
    {disposition : SyncStateWrite}
    (happly : apply_transition_in_transaction store.platform current next rows db = .ok (disposition, after)) :
    SyncStateKey.of current = .of next := by
  unfold apply_transition_in_transaction at happly
  obtain ⟨⟨decided, written⟩, hreplace, _⟩ := bind_eq_ok_iff.mp happly
  obtain ⟨loaded, hload, hexpected, _⟩ := replace_v2_in_transaction_eq_ok hreplace
  cases hexpected rfl
  exact (owner_of_load_v2 hload).2

/-- A transition leaves the tables of the stages alone, and the fence as it is or one further. -/
theorem fence_of_apply_transition {current next : DurableClientState V} {rows : NormalizedRows}
    {disposition : SyncStateWrite} (hkey : SyncStateKey.of next = key) (hfenced : Fenced key (view db key))
    {header : Header} {incarnation counter : UInt64} (hfound : HasStage (view db key) header incarnation counter)
    (happly : apply_transition_in_transaction store.platform current next rows db = .ok (disposition, after)) :
    after.stages = db.stages ∧ (∀ other ≠ key, view after other = view db other) ∧
      ∃ reached : UInt64, counter.toNat ≤ reached.toNat ∧
        fence after key = some (fence_text reached (!header.cancelled)) := by
  subst hkey
  rcases apply_transition_eq_ok hfenced happly with rfl | hrotates
  · exact ⟨rfl, fun _ _ => rfl, counter, le_rfl, hfound.fence⟩
  · refine ⟨hrotates.stages, hrotates.others, ?_⟩
    have hheader := hfound.found
    have hfence := hfound.fence
    rcases hrotates.own with ⟨hnone, -⟩ | ⟨other, number, reached, rotated, hstage, hrotated, hview⟩
    · rw [hnone.header] at hheader
      cases hheader
    · rw [hstage.found] at hheader
      cases hheader
      rw [hstage.fence, Option.some.injEq] at hfence
      obtain ⟨rfl, -⟩ := fence_text_injective hfence
      exact ⟨rotated, by omega, congrArg StageView.fence hview⟩

/-- The marker of a completion. -/
def consumed_header (header : Header) (receipt : Bytes) (revision : UInt64) : Header :=
  { header with cancelled := true, consumed_receipt := some receipt, consumed_revision := some revision.to_string }

theorem apply_completion_eq_ok {clock : CompletionClock} {receipt_bytes : Bytes} {stage : Stage} {checks : Nat}
    {current next : DurableClientState V} {completion : Completion V} {inspected : InspectedStage}
    (hinspect : inspect_stage store db key = .ok inspected) (hstage : inspected.stage = some stage)
    (hfenced : Fenced key (view db key)) (hconsumed : stage.header.consumed_receipt = none)
    {incarnation counter : UInt64} (hfound : HasStage (view db key) stage.header incarnation counter)
    (howner : SyncStateKey.of current = key)
    (happly : apply_completion store clock key receipt_bytes stage checks current next db = .ok (completion, after)) :
    completion = .Applied next ∧ Written key db after ∧
      (view after key).header = some (consumed_header stage.header receipt_bytes next.revision) ∧
      SyncStateKey.of next = key ∧ (store.serde.Faithful →
        Keeps store.platform db after ∧ (Journaled store.platform db key → Stored store.platform after next)) := by
  unfold apply_completion at happly
  obtain ⟨rows, hprepare, happly⟩ := bind_eq_ok_iff.mp happly
  obtain ⟨⟨disposition, mid⟩, htransition, happly⟩ := bind_eq_ok_iff.mp happly
  obtain ⟨read, hread, happly⟩ := bind_eq_ok_iff.mp happly
  obtain ⟨text, hnext, happly⟩ := bind_eq_ok_iff.mp happly
  obtain ⟨⟨later, active⟩, hparse, happly⟩ := bind_eq_ok_iff.mp happly
  obtain ⟨_, _, happly⟩ := bind_eq_ok_iff.mp happly
  cases happly
  have hkey : SyncStateKey.of next = key := by rw [← owner_of_apply_transition htransition, howner]
  obtain ⟨hstages, hothers, reached, hreached, hfence⟩ := fence_of_apply_transition hkey hfenced hfound htransition
  have hmeta := isSome_of_fence hfence
  change read_fence mid key = .ok read at hread
  rw [read_fence_text hfence] at hread
  cases hread
  obtain ⟨_, hlater, rfl⟩ := next_fence_text hnext
  rw [parse_metadata_fence_text] at hparse
  cases hparse
  refine ⟨rfl, ?_, ?_, hkey, fun hserde => ?_⟩
  · exact written_close hinspect hstage hfenced hconsumed hfound later (by omega)
      (consumed_header stage.header receipt_bytes next.revision) rfl rfl mid hmeta hstages hothers
  · have hview := @view_write C mid key { mid.stages with
      pages := delete_pages key stage mid.stages.pages
      headers := mid.stages.headers.insert (header_id key) (consumed_header stage.header receipt_bytes next.revision) }
      hmeta (fence_text later false)
    exact (congrArg StageView.header hview).trans ExtTreeMap.getElem?_insert_self
  · obtain ⟨hkeeps, hstored⟩ := keeps_apply_transition_in_transaction hserde hprepare htransition
    have hrows := fun other => @sameRows_write_stages C mid key other { mid.stages with
      pages := delete_pages key stage mid.stages.pages
      headers := mid.stages.headers.insert (header_id key) (consumed_header stage.header receipt_bytes next.revision) }
      (fence_text later false)
    exact ⟨hkeeps.trans (.of_sameRows hrows), fun hjournaled => (hstored (hkey ▸ hjournaled)).of_sameRows (hrows _)⟩

/-- What a completion that succeeds has found and left. -/
inductive Completed (store : Store F V C) (db after : Database C StageTables) (key : SyncStateKey) (header : Header)
    (receipt : Bytes) : Completion V → Prop where
  | Applied {next : DurableClientState V} (hopen : header.cancelled = false) (hconsumed : header.consumed_receipt = none)
      (hwritten : Written key db after)
      (hmarker : (view after key).header = some (consumed_header header receipt next.revision))
      (howner : SyncStateKey.of next = key)
      (hjournal : store.serde.Faithful →
        Keeps store.platform db after ∧ (Journaled store.platform db key → Stored store.platform after next)) :
      Completed store db after key header receipt (.Applied next)
  | HistoricalSuccess (hconsumed : header.consumed_receipt = some receipt) (hsame : after = db) :
      Completed store db after key header receipt .HistoricalSuccess

theorem complete_eq_ok {receipt_bytes : Bytes} {expected : BootstrapContext} {incarnation : UInt64}
    {clock : CompletionClock} {completion : Completion V} (hkey : BootstrapContext.key expected = key)
    (hfenced : Fenced key (view db key))
    (hcomplete : complete store receipt_bytes expected incarnation clock db = .ok (completion, after)) :
    ∃ header counter, HasStage (view db key) header incarnation counter ∧
      Completed store db after key header receipt_bytes completion := by
  subst hkey
  unfold complete at hcomplete
  obtain ⟨_, _, hcomplete⟩ := bind_eq_ok_iff.mp hcomplete
  obtain ⟨_, _, hcomplete⟩ := bind_eq_ok_iff.mp hcomplete
  obtain ⟨receipt, _, hcomplete⟩ := bind_eq_ok_iff.mp hcomplete
  unfold complete_in_transaction at hcomplete
  obtain ⟨inspection, hinspect, hcomplete⟩ := bind_eq_ok_iff.mp hcomplete
  obtain ⟨stage, hstage, hcomplete⟩ := bind_eq_ok_iff.mp hcomplete
  obtain ⟨_, _, hcomplete⟩ := bind_eq_ok_iff.mp hcomplete
  obtain ⟨parsed, hparse, hcomplete⟩ := bind_eq_ok_iff.mp hcomplete
  obtain ⟨_, hnumber, hcomplete⟩ := bind_eq_ok_iff.mp hcomplete
  obtain ⟨_, _, hcomplete⟩ := bind_eq_ok_iff.mp hcomplete
  rw [okOr_eq_ok_iff] at hstage
  rw [refuse_eq_ok_iff, not_not] at hnumber
  obtain ⟨number, counter, hfound⟩ := hfenced.hasStage (header_of_inspect hinspect hstage)
  have hsame : number = incarnation := (parse_fence_of_numbered hfound hparse).symm.trans hnumber
  refine ⟨stage.header, counter, hsame ▸ hfound, ?_⟩
  cases hconsumed : stage.header.consumed_receipt with
  | some consumed =>
    rw [hconsumed] at hcomplete
    unfold repeat_completion at hcomplete
    obtain ⟨_, hreceipt, hcomplete⟩ := bind_eq_ok_iff.mp hcomplete
    obtain ⟨_, _, hcomplete⟩ := bind_eq_ok_iff.mp hcomplete
    obtain ⟨_, _, hcomplete⟩ := bind_eq_ok_iff.mp hcomplete
    obtain ⟨_, _, hcomplete⟩ := bind_eq_ok_iff.mp hcomplete
    obtain ⟨_, _, hcomplete⟩ := bind_eq_ok_iff.mp hcomplete
    cases hcomplete
    rw [refuse_eq_ok_iff, not_not] at hreceipt
    exact .HistoricalSuccess (hreceipt ▸ hconsumed) rfl
  | none =>
    rw [hconsumed] at hcomplete
    obtain ⟨_, hopen, hcomplete⟩ := bind_eq_ok_iff.mp hcomplete
    obtain ⟨_, _, hcomplete⟩ := bind_eq_ok_iff.mp hcomplete
    obtain ⟨_, _, hcomplete⟩ := bind_eq_ok_iff.mp hcomplete
    obtain ⟨current, hcurrent, hcomplete⟩ := bind_eq_ok_iff.mp hcomplete
    obtain ⟨_, _, hcomplete⟩ := bind_eq_ok_iff.mp hcomplete
    obtain ⟨_, _, hcomplete⟩ := bind_eq_ok_iff.mp hcomplete
    obtain ⟨⟨checks, next⟩, _, hcomplete⟩ := bind_eq_ok_iff.mp hcomplete
    obtain ⟨_, _, hcomplete⟩ := bind_eq_ok_iff.mp hcomplete
    obtain ⟨_, _, hcomplete⟩ := bind_eq_ok_iff.mp hcomplete
    rw [refuse_eq_ok_iff, Bool.not_eq_true] at hopen
    obtain ⟨rfl, hwritten, hmarker, howner, hjournal⟩ := apply_completion_eq_ok hinspect hstage hfenced hconsumed hfound
      (current_state_eq_ok hcurrent).2 hcomplete
    exact .Applied hopen hconsumed hwritten hmarker howner hjournal

end surrealdb_rn_core.sync_bootstrap_store
