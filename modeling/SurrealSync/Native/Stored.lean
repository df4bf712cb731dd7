import SurrealSync.Native.Journal

open Std Except
open surrealdb_sync_protocol surrealdb_sync_protocol.subscription surrealdb_sync_client

namespace surrealdb_rn_core.sync_state

variable {F V C S : Type} [DecidableEq V] {platform : Platform F V C S}

/-- The journal of the state's own key holds exactly the rows of the state. -/
structure Stored (platform : Platform F V C S) (db : Database C S) (state : DurableClientState V) : Prop where
  valid : state.Valid
  holds : ∃ rows, Normalizes platform.serde state rows ∧ Holds db (.of state) rows

/-- The key has no journal in the present format. -/
structure Vacant (db : Database C S) (key : SyncStateKey) : Prop where
  meta_row : db.metas[record_id key]? = none
  components : ∀ table (item : String), (db.components table)[component_record_id key item]? = none

omit [DecidableEq V] in
/-- The rows that `normalize_state` makes have one of the two formats. -/
theorem Normalizes.known_version {serde : Serde F V} {state : DurableClientState V} {rows : NormalizedRows}
    (hnormalizes : Normalizes serde state rows) :
    rows.format_version = FORMAT_VERSION ∨ rows.format_version = SUBSCRIPTION_FORMAT_VERSION := by
  rw [hnormalizes.version]
  split
  · exact .inr rfl
  · exact .inl rfl

theorem Stored.load_v2_eq {db : Database C S} {state : DurableClientState V} (hstored : Stored platform db state)
    (hserde : platform.serde.Faithful) {loaded : Option (DurableClientState V)}
    (hload : load_v2 platform db (.of state) = .ok loaded) : loaded = some state := by
  obtain ⟨rows, hnormalizes, hholds⟩ := hstored.holds
  exact eq_of_load_v2 hserde hstored.valid hnormalizes hholds hload

omit [DecidableEq V] in
/-- Only the rows of a journal decide what it holds. -/
theorem Stored.of_sameJournal {db next : Database C S} {state : DurableClientState V} (hstored : Stored platform db state)
    (hsame : SameJournal db next) : Stored platform next state := by
  obtain ⟨rows, hnormalizes, hmeta, hcomponents⟩ := hstored.holds
  rw [hsame]
  exact ⟨hstored.valid, rows, hnormalizes, hmeta, hcomponents⟩

omit [DecidableEq V] in
/-- Writing the difference of two states to a journal of the first leaves a journal of the second. -/
theorem Stored.of_write_row_diff {db after : Database C S} {state next : DurableClientState V}
    (hstored : Stored platform db state) (hkey : SyncStateKey.of next = .of state) (hvalid : next.Valid)
    {current_rows rows : NormalizedRows} (hcurrent : Normalizes platform.serde state current_rows)
    (hnext : Normalizes platform.serde next rows)
    (hwrite : write_row_diff platform (.of next) (some current_rows) rows db = .ok after) :
    Stored platform after next ∧ after.records = db.records := by
  obtain ⟨stored_rows, hnormalizes, hholds⟩ := hstored.holds
  have hsame : current_rows = stored_rows := by
    have hfirst := normalize_state_eq_ok_iff.mpr hcurrent
    rw [normalize_state_eq_ok_iff.mpr hnormalizes] at hfirst
    exact (ok.inj hfirst).symm
  refine ⟨⟨hvalid, rows, hnext, ?_⟩, ?_⟩
  · refine holds_of_write_row_diff hnext.known_version (fun table => ?_) hwrite
    rw [hkey, hsame]
    exact hholds.components table
  · obtain ⟨_, _, rfl⟩ := write_row_diff_eq_ok_iff.mp hwrite
    rfl

omit [DecidableEq V] in
/-- So does writing the rows of a state where there is no journal. -/
theorem Vacant.of_write_row_diff {db after : Database C S} {next : DurableClientState V} (hvacant : Vacant db (.of next))
    (hvalid : next.Valid) {rows : NormalizedRows} (hnext : Normalizes platform.serde next rows)
    (hwrite : write_row_diff platform (.of next) none rows db = .ok after) :
    Stored platform after next ∧ after.records = db.records := by
  refine ⟨⟨hvalid, rows, hnext, ?_⟩, ?_⟩
  · refine holds_of_write_row_diff hnext.known_version (fun table item => ?_) hwrite
    rw [show (current_components none table)[item]? = none from ExtTreeMap.getElem?_empty]
    exact hvacant.components table item
  · obtain ⟨_, _, rfl⟩ := write_row_diff_eq_ok_iff.mp hwrite
    rfl

/-! ### Transactions -/

/-- What a replacement found, decided and wrote. -/
theorem replace_v2_in_transaction_eq_ok {key : SyncStateKey} {expected_revision : Option UInt64}
    {expected_state : Option (DurableClientState V)} {state : DurableClientState V} {rows : NormalizedRows}
    {db after : Database C S} {disposition : SyncStateWrite}
    (hreplace : replace_v2_in_transaction platform key expected_revision expected_state state rows db =
      .ok (disposition, after)) :
    ∃ loaded, load_v2 platform db key = .ok loaded ∧ (expected_state.isSome → loaded = expected_state) ∧
      admit_replacement expected_revision loaded state = .ok disposition ∧
      ((disposition = .AlreadyCurrent ∧ after = db) ∨
        disposition = .Applied ∧ ∃ current_rows, loaded.mapM (normalize_state platform.serde) = .ok current_rows ∧
          write_row_diff platform key current_rows rows db = .ok after) := by
  unfold replace_v2_in_transaction at hreplace
  obtain ⟨loaded, hload, hreplace⟩ := bind_eq_ok_iff.mp hreplace
  obtain ⟨_, hexpected, hreplace⟩ := bind_eq_ok_iff.mp hreplace
  obtain ⟨admitted, hadmits, hreplace⟩ := bind_eq_ok_iff.mp hreplace
  have hfound : expected_state.isSome → loaded = expected_state := by
    intro hsome
    by_contra hne
    exact refuse_eq_ok_iff.mp hexpected ⟨hsome, hne⟩
  cases admitted with
  | AlreadyCurrent =>
    cases hreplace
    exact ⟨loaded, hload, hfound, hadmits, .inl ⟨rfl, rfl⟩⟩
  | Applied =>
    obtain ⟨current_rows, hrows, hreplace⟩ := bind_eq_ok_iff.mp hreplace
    obtain ⟨written, hwrite, hreplace⟩ := bind_eq_ok_iff.mp hreplace
    cases hreplace
    exact ⟨loaded, hload, hfound, hadmits, .inr ⟨rfl, current_rows, hrows, hwrite⟩⟩

theorem eq_of_admit_alreadyCurrent {expected : Option UInt64} {current : Option (DurableClientState V)}
    {state : DurableClientState V} (hadmits : admit_replacement expected current state = .ok .AlreadyCurrent) :
    current = some state := by
  unfold admit_replacement at hadmits
  split at hadmits
  · split at hadmits
    · split at hadmits
      · rename_i hsame
        rw [hsame]
      · cases hadmits
    · split at hadmits
      · cases hadmits
      · split at hadmits <;> cases hadmits
  · split at hadmits <;> cases hadmits

end surrealdb_rn_core.sync_state
