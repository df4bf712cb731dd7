import SurrealSync.Native.Mirror

open Std Except
open surrealdb_sync_protocol surrealdb_sync_protocol.subscription surrealdb_sync_client

namespace surrealdb_rn_core.sync_state

variable {F V C S : Type}

/-! ### The rows of one journal -/

/-- The rows of the journal of a key are the same, apart from the fence. -/
structure SameRows (key : SyncStateKey) (db after : Database C S) : Prop where
  vacant : db.metas[record_id key]? = none → after.metas[record_id key]? = none
  meta_row : ∀ row, db.metas[record_id key]? = some row →
    ∃ fence, after.metas[record_id key]? = some { row with bootstrap_fence := fence }
  components : ∀ table (item : String),
    (after.components table)[component_record_id key item]? = (db.components table)[component_record_id key item]?

variable {db between after : Database C S} {key other : SyncStateKey}

theorem SameRows.of_eq (hmetas : after.metas[record_id key]? = db.metas[record_id key]?)
    (hcomponents : ∀ table (item : String),
      (after.components table)[component_record_id key item]? = (db.components table)[component_record_id key item]?) :
    SameRows key db after := by
  refine ⟨fun hnone => hmetas.trans hnone, fun row hrow => ⟨row.bootstrap_fence, ?_⟩, hcomponents⟩
  rw [hmetas, hrow]

theorem SameRows.refl (key : SyncStateKey) (db : Database C S) : SameRows key db db :=
  .of_eq rfl fun _ _ => rfl

theorem SameRows.trans (hfirst : SameRows key db between) (hsecond : SameRows key between after) :
    SameRows key db after := by
  refine ⟨fun hnone => hsecond.vacant (hfirst.vacant hnone), fun row hrow => ?_, fun table item => ?_⟩
  · obtain ⟨fence, hbetween⟩ := hfirst.meta_row row hrow
    obtain ⟨later, hafter⟩ := hsecond.meta_row _ hbetween
    exact ⟨later, hafter⟩
  · rw [hsecond.components, hfirst.components]

theorem sameRows_write_fence (key other : SyncStateKey) (db : Database C S) (fence : String) :
    SameRows other db (write_fence db key fence) := by
  unfold write_fence
  split
  · rename_i row hrow
    by_cases hsame : record_id other = record_id key
    · refine ⟨fun hnone => ?_, fun found hfound => ⟨some fence, ?_⟩, fun _ _ => rfl⟩
      · rw [hsame, hrow] at hnone
        cases hnone
      · rw [hsame, hrow] at hfound
        cases hfound
        rw [hsame]
        exact ExtTreeMap.getElem?_insert_self
    · exact .of_eq (BTreeMap.getElem?_insert_of_ne hsame) fun _ _ => rfl
  · exact .refl other db

theorem SameRows.of_sameJournal (hsame : SameJournal db after) (key : SyncStateKey) : SameRows key db after := by
  rw [hsame]
  exact .of_eq rfl fun _ _ => rfl

theorem component_record_id_ne (hne : other ≠ key) (first second : String) :
    component_record_id other first ≠ component_record_id key second := by
  intro hsame
  unfold component_record_id at hsame
  rw [List.cons.injEq, List.cons.injEq] at hsame
  exact hne (record_id_injective (by rw [record_id, record_id, hsame.1, hsame.2.1]))

theorem delete_rows_of_ne (hne : other ≠ key) (items : List String)
    (rows : BTreeMap (List String) StoredComponentRow) (item : String) :
    (delete_rows key items rows)[component_record_id other item]? = rows[component_record_id other item]? := by
  unfold delete_rows
  induction items generalizing rows with
  | nil => rfl
  | cons first items ih =>
    rw [List.foldl_cons, ih]
    exact BTreeMap.getElem?_erase_of_ne (component_record_id_ne hne item first)

theorem upsert_rows_of_ne (hne : other ≠ key) (version : Int) (entries : List (String × Bytes))
    (rows : BTreeMap (List String) StoredComponentRow) (item : String) :
    (upsert_rows key version entries rows)[component_record_id other item]? = rows[component_record_id other item]? := by
  unfold upsert_rows
  induction entries generalizing rows with
  | nil => rfl
  | cons first entries ih =>
    rw [List.foldl_cons, ih]
    exact BTreeMap.getElem?_insert_of_ne (component_record_id_ne hne item first.1)

/-- A write of one journal leaves the rows of the others. -/
theorem sameRows_write_row_diff {platform : Platform F V C S} {current : Option NormalizedRows} {next : NormalizedRows}
    (hne : other ≠ key) (hwrite : write_row_diff platform key current next db = .ok after) :
    SameRows other db after := by
  obtain ⟨fence, _, rfl⟩ := write_row_diff_eq_ok_iff.mp hwrite
  have hid : record_id other ≠ record_id key := fun hsame => hne (record_id_injective hsame)
  refine .of_eq (BTreeMap.getElem?_insert_of_ne hid) fun table item => ?_
  dsimp only
  rw [upsert_rows_of_ne hne, delete_rows_of_ne hne]

variable {platform : Platform F V C S}

theorem Holds.of_sameRows {rows : NormalizedRows} (hholds : Holds db key rows) (hsame : SameRows key db after) :
    Holds after key rows := by
  obtain ⟨fence, hmeta⟩ := hholds.meta_row
  obtain ⟨later, hafter⟩ := hsame.meta_row _ hmeta
  refine ⟨⟨later, hafter⟩, fun table item => ?_⟩
  rw [hsame.components]
  exact hholds.components table item

theorem Stored.of_sameRows {state : DurableClientState V} (hstored : Stored platform db state)
    (hsame : SameRows (.of state) db after) : Stored platform after state := by
  obtain ⟨rows, hnormalizes, hholds⟩ := hstored.holds
  exact ⟨hstored.valid, rows, hnormalizes, hholds.of_sameRows hsame⟩

theorem Vacant.of_sameRows (hvacant : Vacant db key) (hsame : SameRows key db after) : Vacant after key := by
  refine ⟨hsame.vacant hvacant.meta_row, fun table item => ?_⟩
  rw [hsame.components]
  exact hvacant.components table item

/-! ### Journals over transactions -/

/-- The journal of a key is not there yet, or it holds a state. -/
def Journaled (platform : Platform F V C S) (db : Database C S) (key : SyncStateKey) : Prop :=
  Vacant db key ∨ ∃ state : DurableClientState V, SyncStateKey.of state = key ∧ Stored platform db state

/-- What a transaction does to the journals: each stays what it is, or goes on to a state of no lower revision. -/
structure Keeps (platform : Platform F V C S) (db after : Database C S) : Prop where
  journaled : ∀ key, Journaled platform db key → Journaled platform after key
  stored : ∀ state : DurableClientState V, Stored platform db state →
    ∃ next : DurableClientState V, SyncStateKey.of next = .of state ∧ state.revision ≤ next.revision ∧
      Stored platform after next

theorem Keeps.of_sameRows (hsame : ∀ key, SameRows key db after) : Keeps platform db after := by
  constructor
  · intro key hjournaled
    rcases hjournaled with hvacant | ⟨state, hkey, hstored⟩
    · exact .inl (hvacant.of_sameRows (hsame key))
    · exact .inr ⟨state, hkey, hstored.of_sameRows (hsame _)⟩
  · intro state hstored
    exact ⟨state, rfl, UInt64.le_refl _, hstored.of_sameRows (hsame _)⟩

theorem Keeps.refl (platform : Platform F V C S) (db : Database C S) : Keeps platform db db :=
  .of_sameRows fun key => .refl key db

theorem Keeps.trans (hfirst : Keeps platform db between) (hsecond : Keeps platform between after) :
    Keeps platform db after := by
  refine ⟨fun key hjournaled => hsecond.journaled key (hfirst.journaled key hjournaled), fun state hstored => ?_⟩
  obtain ⟨middle, hkey, hle, hbetween⟩ := hfirst.stored state hstored
  obtain ⟨next, hkey', hle', hafter⟩ := hsecond.stored middle hbetween
  exact ⟨next, hkey'.trans hkey, UInt64.le_trans hle hle', hafter⟩

/-- One journal goes on to a state, and the rows of the others stay. -/
theorem Keeps.of_next {next : DurableClientState V}
    (hnext : Journaled platform db (.of next) → Stored platform after next ∧
      ∀ state, SyncStateKey.of state = .of next → Stored platform db state → state.revision ≤ next.revision)
    (hothers : ∀ key ≠ .of next, SameRows key db after) : Keeps platform db after := by
  constructor
  · intro key hjournaled
    by_cases hsame : key = .of next
    · subst hsame
      exact .inr ⟨next, rfl, (hnext hjournaled).1⟩
    · rcases hjournaled with hvacant | ⟨state, rfl, hstored⟩
      · exact .inl (hvacant.of_sameRows (hothers key hsame))
      · exact .inr ⟨state, rfl, hstored.of_sameRows (hothers _ hsame)⟩
  · intro state hstored
    by_cases hsame : SyncStateKey.of state = .of next
    · obtain ⟨hafter, hle⟩ := hnext (.inr ⟨state, hsame, hstored⟩)
      exact ⟨next, hsame.symm, hle state hsame hstored, hafter⟩
    · exact ⟨state, rfl, UInt64.le_refl _, hstored.of_sameRows (hothers _ hsame)⟩

variable [DecidableEq V] {next : DurableClientState V} {rows : NormalizedRows} {expected : Option UInt64}

omit [DecidableEq V] in
theorem not_stored_of_vacant {state : DurableClientState V} (hvacant : Vacant db (.of state)) :
    ¬ Stored platform db state := by
  intro hstored
  obtain ⟨_, _, hholds⟩ := hstored.holds
  obtain ⟨fence, hmeta⟩ := hholds.meta_row
  rw [hvacant.meta_row] at hmeta
  cases hmeta

omit [DecidableEq V] in
theorem le_of_validate {revision : UInt64} {last : UInt64}
    (hvalidate : validate_next_revision (some last) revision = .ok ()) : last ≤ revision := by
  simp only [validate_next_revision, bind_eq_ok_iff, okOr_eq_ok_iff, refuse_eq_ok_iff, not_not] at hvalidate
  obtain ⟨next, hnext, rfl⟩ := hvalidate
  have hvalue := UInt64.checked_add_eq_some_iff.mp hnext
  exact UInt64.le_iff_toNat_le.mpr (by omega)

/-- A state is replaced only by one that was prepared for its revision. -/
theorem revision_of_replacement {stored : DurableClientState V}
    (hadmits : admit_replacement expected (some stored) next = .ok .Applied) : expected = some stored.revision := by
  unfold admit_replacement at hadmits
  dsimp only at hadmits
  split at hadmits
  · split at hadmits <;> cases hadmits
  · split at hadmits
    · cases hadmits
    · rename_i hexpected
      rw [not_not] at hexpected
      exact hexpected.symm

/-- The rows of a replacement are those of the next state, whatever journal there was before. -/
theorem stored_of_written (hserde : platform.serde.Faithful) (hvalid : next.Valid)
    (hnormalizes : Normalizes platform.serde next rows) {loaded : Option (DurableClientState V)}
    (hload : load_v2 platform db (.of next) = .ok loaded) {current_rows : Option NormalizedRows}
    (hrows : loaded.mapM (normalize_state platform.serde) = .ok current_rows)
    (hwrite : write_row_diff platform (.of next) current_rows rows db = .ok after)
    (hjournaled : Journaled platform db (.of next)) : Stored platform after next := by
  rcases hjournaled with hvacant | ⟨stored, hkey, hstored⟩
  · cases hvacant.load_v2_eq hload
    cases hrows
    exact (hvacant.of_write_row_diff hvalid hnormalizes hwrite).1
  · rw [← hkey] at hload
    cases hstored.load_v2_eq hserde hload
    obtain ⟨first_rows, hfirst, hsome⟩ := bind_eq_ok_iff.mp hrows
    cases hsome
    exact (hstored.of_write_row_diff hkey.symm hvalid (normalize_state_eq_ok_iff.mp hfirst) hnormalizes hwrite).1

theorem keeps_replace (hserde : platform.serde.Faithful)
    (hprepare : prepare_state_write platform expected next = .ok rows) {expected_state : Option (DurableClientState V)}
    {disposition : SyncStateWrite}
    (hreplace : replace_v2_in_transaction platform (.of next) expected expected_state next rows db =
      .ok (disposition, after)) :
    Keeps platform db after ∧ (Journaled platform db (.of next) → Stored platform after next) := by
  obtain ⟨hrevision, hvalid, hnormalizes⟩ := prepare_state_write_eq_ok hprepare
  obtain ⟨loaded, hload, _, hadmits, ⟨rfl, rfl⟩ | ⟨rfl, current_rows, hrows, hwrite⟩⟩ :=
    replace_v2_in_transaction_eq_ok hreplace
  · cases eq_of_admit_alreadyCurrent hadmits
    refine ⟨.refl platform after, ?_⟩
    rintro (hvacant | ⟨stored, hkey, hstored⟩)
    · cases hvacant.load_v2_eq hload
    · rw [← hkey] at hload
      cases hstored.load_v2_eq hserde hload
      exact hstored
  · have hstored := stored_of_written hserde hvalid hnormalizes hload hrows hwrite
    refine ⟨.of_next (fun hjournaled => ⟨hstored hjournaled, fun state hkey hstate => ?_⟩)
      fun key hne => sameRows_write_row_diff hne hwrite, hstored⟩
    rw [← hkey] at hload
    cases hstate.load_v2_eq hserde hload
    cases revision_of_replacement hadmits
    exact le_of_validate hrevision

theorem sameJournal_apply_projection_diff {native : NativeRecords V C} {current next : Projection V}
    (happly : apply_projection_diff native current next db = .ok after) : SameJournal db after := by
  unfold apply_projection_diff at happly
  generalize projected_ids current next = record_ids at happly
  induction record_ids generalizing db with
  | nil =>
    cases happly
    rfl
  | cons first record_ids ih =>
    obtain ⟨between, hfirst, hrest⟩ := foldlM_cons_eq_ok_iff.mp happly
    have hsame : SameJournal db between := by
      obtain ⟨_, rfl⟩ | ⟨write, _, _, _, hperform⟩ := apply_projection_record_eq_ok hfirst
      · rfl
      · obtain ⟨_, rfl⟩ := Write.perform_eq_ok_iff.mp hperform
        rfl
    exact hsame.trans (ih hrest)

theorem keeps_apply_transition_in_transaction (hserde : platform.serde.Faithful) {current : DurableClientState V}
    (hprepare : prepare_state_write platform (some current.revision) next = .ok rows) {disposition : SyncStateWrite}
    (happly : apply_transition_in_transaction platform current next rows db = .ok (disposition, after)) :
    Keeps platform db after ∧ (Journaled platform db (.of next) → Stored platform after next) := by
  unfold apply_transition_in_transaction at happly
  obtain ⟨⟨decided, between⟩, hreplace, happly⟩ := bind_eq_ok_iff.mp happly
  obtain ⟨hkeeps, hstored⟩ := keeps_replace hserde hprepare hreplace
  cases decided with
  | AlreadyCurrent =>
    cases happly
    exact ⟨hkeeps, hstored⟩
  | Applied =>
    obtain ⟨projected, hproject, happly⟩ := bind_eq_ok_iff.mp happly
    cases happly
    have hsame := SameRows.of_sameJournal (sameJournal_apply_projection_diff hproject)
    exact ⟨hkeeps.trans (.of_sameRows hsame), fun hjournaled => (hstored hjournaled).of_sameRows (hsame _)⟩

theorem keeps_migrate_v1 (hserde : platform.serde.Faithful) {state : DurableClientState V}
    (hvalid : state.Valid) (hnormalizes : Normalizes platform.serde state rows) {disposition : SyncStateWrite}
    (hmigrate : migrate_v1 platform (.of state) state rows db = .ok (disposition, after)) : Keeps platform db after := by
  unfold migrate_v1 at hmigrate
  obtain ⟨loaded, hload, hmigrate⟩ := bind_eq_ok_iff.mp hmigrate
  cases loaded with
  | some existing =>
    dsimp only at hmigrate
    split at hmigrate
    · cases hmigrate
      exact .refl platform db
    · cases hmigrate
  | none =>
    obtain ⟨legacy, _, hmigrate⟩ := bind_eq_ok_iff.mp hmigrate
    obtain ⟨decoded, _, hmigrate⟩ := bind_eq_ok_iff.mp hmigrate
    obtain ⟨_, _, hmigrate⟩ := bind_eq_ok_iff.mp hmigrate
    obtain ⟨between, hwrite, hmigrate⟩ := bind_eq_ok_iff.mp hmigrate
    obtain ⟨projected, hproject, hmigrate⟩ := bind_eq_ok_iff.mp hmigrate
    cases hmigrate
    have hkeeps : Keeps platform db between := by
      refine .of_next (fun hjournaled => ⟨?_, fun stored hkey hstored => ?_⟩)
        fun key hne => sameRows_write_row_diff hne hwrite
      · exact stored_of_written hserde hvalid hnormalizes hload rfl hwrite hjournaled
      · rw [← hkey] at hload
        cases hstored.load_v2_eq hserde hload
    have hsame := SameRows.of_sameJournal (sameJournal_apply_projection_diff hproject)
    exact hkeeps.trans (.of_sameRows fun key => (hsame key).trans (.of_eq rfl fun _ _ => rfl))

omit [DecidableEq V] in
/-- A finished transaction has all its writes, or none. -/
theorem Keeps.finish {α : Type} {outcome : Outcome} {operation : SyncResult (α × Database C S)}
    (hkeeps : ∀ value next, operation = .ok (value, next) → Keeps platform db next) :
    Keeps platform db (finish outcome db operation).2 := by
  rcases finish_cases outcome db operation with ⟨failed, hfinish⟩ | ⟨value, after, hok, ⟨_, hfinish⟩ | ⟨_, hfinish⟩⟩
  · rw [hfinish]
    exact .refl platform db
  · rw [hfinish]
    exact hkeeps value after hok
  · rw [hfinish]
    exact hkeeps value after hok

theorem keeps_load (hserde : platform.serde.Faithful) (outcome : Outcome) (key : SyncStateKey) :
    Keeps platform db (load platform outcome key db).2 := by
  unfold load
  split
  · exact .refl platform db
  · split
    · exact .refl platform db
    · exact .refl platform db
    · exact .refl platform db
    · split
      · exact .refl platform db
      · unfold load_legacy
        split
        · exact .refl platform db
        · split
          · exact .refl platform db
          · rename_i state hdecode
            obtain ⟨rfl, hvalid⟩ := decode_record_eq_ok hdecode
            split
            · exact .refl platform db
            · rename_i rows hnormalize
              exact Keeps.finish fun _ _ hmigrate =>
                keeps_migrate_v1 hserde hvalid (normalize_state_eq_ok_iff.mp hnormalize) hmigrate

theorem keeps_apply_transition_atomic (hserde : platform.serde.Faithful) (outcome : Outcome)
    (current next : DurableClientState V) :
    Keeps platform db (apply_transition_atomic platform outcome current next db).2 := by
  unfold apply_transition_atomic
  split
  · exact .refl platform db
  · split
    · exact .refl platform db
    · split
      · have hload := @keeps_load F V C S db platform _ hserde outcome (.of current)
        split
        · rename_i hloaded
          rw [hloaded] at hload
          exact hload
        · rename_i hloaded
          rw [hloaded] at hload
          exact hload
      · split
        · exact .refl platform db
        · rename_i rows hprepare
          exact Keeps.finish fun _ _ happly => (keeps_apply_transition_in_transaction hserde hprepare happly).1

end surrealdb_rn_core.sync_state
