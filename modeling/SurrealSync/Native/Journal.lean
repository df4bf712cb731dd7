import SurrealSync.Native.Projection
import SurrealSync.Native.Reading

open Std Except
open surrealdb_sync_protocol surrealdb_sync_protocol.subscription surrealdb_sync_client

namespace surrealdb_rn_core.sync_state

variable {F V C S : Type}

/-! ### The rows of a journal -/

/-- The row of a component, in one of the two formats. -/
structure RowOf (key : SyncStateKey) (item : String) (payload : Bytes) (row : StoredComponentRow) : Prop where
  version : row.format_version = FORMAT_VERSION ∨ row.format_version = SUBSCRIPTION_FORMAT_VERSION
  partition_id : row.partition_id = key.partition_id.val
  client_id : row.client_id = key.client_id.val
  component_key : row.component_key = item
  payload : row.payload = payload

/-- The component rows of one key, exactly: up to the format of each of them. -/
def HoldsTable (key : SyncStateKey) (components : BTreeMap String Bytes)
    (rows : BTreeMap (List String) StoredComponentRow) : Prop :=
  ∀ item, match components[item]? with
    | some payload => ∃ row, rows[component_record_id key item]? = some row ∧ RowOf key item payload row
    | none => rows[component_record_id key item]? = none

/-- The tables hold exactly these rows for the key. -/
structure Holds (db : Database C S) (key : SyncStateKey) (rows : NormalizedRows) : Prop where
  meta_row : ∃ fence, db.metas[record_id key]? = some (rows.meta_row key fence)
  components : ∀ table, HoldsTable key (rows.components table) (db.components table)

theorem record_id_injective {first second : SyncStateKey} (hsame : record_id first = record_id second) :
    first = second := by
  obtain ⟨⟨partition⟩, ⟨client⟩⟩ := first
  obtain ⟨⟨partition'⟩, ⟨client'⟩⟩ := second
  cases hsame
  rfl

theorem component_record_id_inj {key : SyncStateKey} {first second : String} :
    component_record_id key first = component_record_id key second ↔ first = second := by
  simp [component_record_id]

theorem getElem?_delete_rows (key : SyncStateKey) (items : List String)
    (rows : BTreeMap (List String) StoredComponentRow) (item : String) :
    (delete_rows key items rows)[component_record_id key item]? =
      if item ∈ items then none else rows[component_record_id key item]? := by
  unfold delete_rows
  induction items generalizing rows with
  | nil => rfl
  | cons first items ih =>
    rw [List.foldl_cons, ih]
    by_cases hsame : item = first
    · subst hsame
      simp
    · rw [BTreeMap.getElem?_erase_of_ne (by rwa [Ne, component_record_id_inj])]
      simp [hsame]

/-- The row that `write_row_diff` writes for a component. -/
def component_row (key : SyncStateKey) (format_version : Int) (entry : String × Bytes) : StoredComponentRow where
  format_version
  partition_id := key.partition_id.val
  client_id := key.client_id.val
  component_key := entry.1
  payload := entry.2

theorem getElem?_upsert_rows_of_not_mem {key : SyncStateKey} {version : Int} {entries : List (String × Bytes)}
    (rows : BTreeMap (List String) StoredComponentRow) {item : String} (hitem : item ∉ entries.map Prod.fst) :
    (upsert_rows key version entries rows)[component_record_id key item]? = rows[component_record_id key item]? := by
  unfold upsert_rows
  induction entries generalizing rows with
  | nil => rfl
  | cons first entries ih =>
    rw [List.map_cons, List.mem_cons, not_or] at hitem
    rw [List.foldl_cons, ih _ hitem.2]
    exact BTreeMap.getElem?_insert_of_ne (by rw [Ne, component_record_id_inj]; exact hitem.1)

theorem getElem?_upsert_rows_of_mem {key : SyncStateKey} {version : Int} {entries : List (String × Bytes)}
    (hnodup : (entries.map Prod.fst).Nodup) (rows : BTreeMap (List String) StoredComponentRow)
    {entry : String × Bytes} (hentry : entry ∈ entries) :
    (upsert_rows key version entries rows)[component_record_id key entry.1]? = some (component_row key version entry) := by
  induction entries generalizing rows with
  | nil => cases hentry
  | cons first entries ih =>
    obtain ⟨hfresh, hnodup⟩ := List.nodup_cons.mp hnodup
    rcases List.mem_cons.mp hentry with rfl | hlater
    · change (upsert_rows key version entries _)[_]? = _
      rw [getElem?_upsert_rows_of_not_mem _ hfresh, ExtTreeMap.getElem?_insert_self]
      rfl
    · exact ih hnodup _ hlater

/-! ### Writing -/

theorem mem_stale_keys {current next : Inventory} {table : ComponentTable} {item : String} :
    item ∈ stale_keys current next table ↔ item ∈ current table ∧ item ∉ next table := by
  simp [stale_keys]

theorem mem_changed_entries {current next : Inventory} {table : ComponentTable} {entry : String × Bytes} :
    entry ∈ changed_entries current next table ↔
      (next table)[entry.1]? = some entry.2 ∧ (current table)[entry.1]? ≠ some entry.2 := by
  obtain ⟨item, payload⟩ := entry
  simp [changed_entries, ExtTreeMap.mem_toList_iff_getElem?_eq_some]

theorem nodup_changed_entries (current next : Inventory) (table : ComponentTable) :
    ((changed_entries current next table).map Prod.fst).Nodup :=
  (BTreeMap.nodup_keys (next table)).sublist (List.filter_sublist.map _)

/-- The difference of two inventories, applied to the rows of one, leaves the rows of the other. -/
theorem holdsTable_of_diff {key : SyncStateKey} {current next : Inventory} {version : Int}
    (hversion : version = FORMAT_VERSION ∨ version = SUBSCRIPTION_FORMAT_VERSION) {table : ComponentTable}
    {rows : BTreeMap (List String) StoredComponentRow} (hholds : HoldsTable key (current table) rows) :
    HoldsTable key (next table) (upsert_rows key version (changed_entries current next table)
      (delete_rows key (stale_keys current next table) rows)) := by
  intro item
  have hitem := hholds item
  cases hnext : (next table)[item]? with
  | some payload =>
    by_cases hsame : (current table)[item]? = some payload
    · have hunchanged : item ∉ (changed_entries current next table).map Prod.fst := by
        rw [List.mem_map]
        rintro ⟨entry, hentry, rfl⟩
        obtain ⟨hgets, hdiffers⟩ := mem_changed_entries.mp hentry
        rw [hnext] at hgets
        exact hdiffers (hgets ▸ hsame)
      have hkept : item ∉ stale_keys current next table := by
        rw [mem_stale_keys]
        exact fun hstale => hstale.2 (BTreeMap.mem_of_getElem? hnext)
      rw [getElem?_upsert_rows_of_not_mem _ hunchanged, getElem?_delete_rows, if_neg hkept]
      rw [hsame] at hitem
      exact hitem
    · have hentry : (item, payload) ∈ changed_entries current next table := mem_changed_entries.mpr ⟨hnext, hsame⟩
      exact ⟨_, getElem?_upsert_rows_of_mem (nodup_changed_entries current next table) _ hentry,
        hversion, rfl, rfl, rfl, rfl⟩
  | none =>
    have hunchanged : item ∉ (changed_entries current next table).map Prod.fst := by
      rw [List.mem_map]
      rintro ⟨entry, hentry, rfl⟩
      rw [(mem_changed_entries.mp hentry).1] at hnext
      cases hnext
    have hgone : item ∉ next table := by
      intro hmem
      obtain ⟨payload, hpayload⟩ := BTreeMap.exists_of_mem hmem
      rw [hnext] at hpayload
      cases hpayload
    change _ = none
    rw [getElem?_upsert_rows_of_not_mem _ hunchanged, getElem?_delete_rows]
    split
    · rfl
    · rename_i hkept
      have habsent : (current table)[item]? = none := by
        apply ExtTreeMap.getElem?_eq_none
        exact fun hmem => hkept (mem_stale_keys.mpr ⟨hmem, hgone⟩)
      rw [habsent] at hitem
      exact hitem

theorem insert_insert_self {A : Type} (rows : BTreeMap (List String) A) (id : List String) (first second : A) :
    (rows.insert id first).insert id second = rows.insert id second := by
  apply ExtTreeMap.ext_getElem?
  intro other
  by_cases hsame : other = id
  · subst hsame
    simp
  · rw [BTreeMap.getElem?_insert_of_ne hsame, BTreeMap.getElem?_insert_of_ne hsame,
      BTreeMap.getElem?_insert_of_ne hsame]

/-- What a successful `write_row_diff` has done: it got past the guard of the stages, and wrote the components and
the metadata, with the next fence if there was one. -/
theorem write_row_diff_eq_ok_iff {platform : Platform F V C S} {key : SyncStateKey} {current : Option NormalizedRows}
    {next : NormalizedRows} {db after : Database C S} :
    write_row_diff platform key current next db = .ok after ↔
      ∃ fence, guard_state_write platform db key (normalized_budget next) = .ok fence ∧
        after = { db with
          components := fun table => upsert_rows key next.format_version
            (changed_entries (current_components current) next.components table)
            (delete_rows key (stale_keys (current_components current) next.components table) (db.components table))
          metas := db.metas.insert (record_id key) (next.meta_row key fence) } := by
  simp only [write_row_diff, bind_eq_ok_iff]
  refine exists_congr fun fence => and_congr_right fun _ => ?_
  cases fence with
  | none => exact ⟨fun h => (ok.inj h).symm, fun h => congrArg ok h.symm⟩
  | some fence =>
    simp only [write_fence, ExtTreeMap.getElem?_insert_self, ok.injEq]
    rw [insert_insert_self]
    exact eq_comm

/-- Writing the difference to the current rows leaves exactly the next ones. -/
theorem holds_of_write_row_diff {platform : Platform F V C S} {key : SyncStateKey} {current : Option NormalizedRows}
    {next : NormalizedRows} {db after : Database C S}
    (hversion : next.format_version = FORMAT_VERSION ∨ next.format_version = SUBSCRIPTION_FORMAT_VERSION)
    (hholds : ∀ table, HoldsTable key (current_components current table) (db.components table))
    (hwrite : write_row_diff platform key current next db = .ok after) : Holds after key next := by
  obtain ⟨fence, _, rfl⟩ := write_row_diff_eq_ok_iff.mp hwrite
  refine ⟨⟨fence, ?_⟩, fun table => holdsTable_of_diff hversion (hholds table)⟩
  exact ExtTreeMap.getElem?_insert_self

/-! ### Loading -/

/-- An admitted row is in the inventory, and nothing that was there is lost. -/
theorem admit_row_eq_ok {key : SyncStateKey} {table : ComponentTable} {inventory after : Inventory}
    {row : StoredComponentRow} (hadmits : admit_row key table inventory row = .ok after) :
    row.component_key ∉ inventory table ∧ after = inventory.insert table row.component_key row.payload := by
  simp only [admit_row, bind_eq_ok_iff, refuse_eq_ok_iff, pure, Except.pure, ok.injEq] at hadmits
  obtain ⟨_, _, _, _, _, hfresh, _, _, rfl⟩ := hadmits
  exact ⟨hfresh, rfl⟩

theorem getElem?_of_admit_rows {key : SyncStateKey} {table : ComponentTable} {rows : List StoredComponentRow}
    {inventory after : Inventory} (hadmits : rows.foldlM (admit_row key table) inventory = .ok after) :
    (∀ other ≠ table, after other = inventory other) ∧
      (∀ (item : String) (payload : Bytes), (inventory table)[item]? = some payload → (after table)[item]? = some payload) ∧
      ∀ row ∈ rows, (after table)[row.component_key]? = some row.payload := by
  induction rows generalizing inventory with
  | nil =>
    cases hadmits
    exact ⟨fun _ _ => rfl, fun _ _ h => h, by simp⟩
  | cons row rows ih =>
    rw [List.foldlM_cons] at hadmits
    obtain ⟨between, hfirst, hrest⟩ := bind_eq_ok_iff.mp hadmits
    obtain ⟨hfresh, rfl⟩ := admit_row_eq_ok hfirst
    obtain ⟨hothers, hkept, hadmitted⟩ := ih hrest
    refine ⟨?_, ?_, ?_⟩
    · intro other hne
      rw [hothers other hne, Inventory.insert_of_ne hne]
    · intro item payload hitem
      apply hkept
      have hne : item ≠ row.component_key := by
        rintro rfl
        exact hfresh (BTreeMap.mem_of_getElem? hitem)
      rw [Inventory.insert_self, BTreeMap.getElem?_insert_of_ne hne]
      exact hitem
    · intro later hlater
      rcases List.mem_cons.mp hlater with rfl | hlater
      · apply hkept
        simp
      · exact hadmitted later hlater

variable {native : NativeRecords V C}

theorem getElem?_of_load_table {db : Database C S} {key : SyncStateKey} {table : ComponentTable}
    {inventory after : Inventory} (hload : load_table native db key inventory table = .ok after) :
    (∀ other ≠ table, after other = inventory other) ∧
      ∀ (id : List String) (row : StoredComponentRow), (db.components table)[id]? = some row →
        row.partition_id = key.partition_id.val → row.client_id = key.client_id.val → (after table)[row.component_key]? = some row.payload := by
  simp only [load_table, bind_eq_ok_iff, refuse_eq_ok_iff, gt_iff_lt, Nat.not_lt] at hload
  obtain ⟨_, hcount, hadmits⟩ := hload
  obtain ⟨hothers, _, hadmitted⟩ := getElem?_of_admit_rows hadmits
  refine ⟨hothers, fun id row hrow hpartition hclient => hadmitted row ?_⟩
  -- fewer rows are selected than the limit of the statement, so none is missing
  unfold Database.select at hcount ⊢
  rw [List.length_take] at hcount
  rw [List.take_of_length_le (by unfold MAX_COMPONENT_ITEMS at hcount; omega)]
  refine List.mem_filter.mpr ⟨List.mem_append_left _ ?_, by simp [hpartition, hclient]⟩
  exact BTreeMap.mem_vals_iff.mpr ⟨id, hrow⟩

theorem getElem?_of_load_inventory {db : Database C S} {key : SyncStateKey} {inventory : Inventory}
    (hload : load_inventory native db key = .ok inventory) (table : ComponentTable) :
    ∀ (id : List String) (row : StoredComponentRow), (db.components table)[id]? = some row →
      row.partition_id = key.partition_id.val → row.client_id = key.client_id.val → (inventory table)[row.component_key]? = some row.payload := by
  simp only [load_inventory, ComponentTable.all, List.foldlM_cons, List.foldlM_nil, bind_eq_ok_iff, pure, Except.pure,
    ok.injEq] at hload
  obtain ⟨confirmed, hconfirmed, outbox, houtbox, outcomes, houtcomes, id_map, hid_map, last, hlast, rfl⟩ := hload
  obtain ⟨_, hconfirmed⟩ := getElem?_of_load_table hconfirmed
  obtain ⟨houtboxOthers, houtbox⟩ := getElem?_of_load_table houtbox
  obtain ⟨houtcomesOthers, houtcomes⟩ := getElem?_of_load_table houtcomes
  obtain ⟨hid_mapOthers, hid_map⟩ := getElem?_of_load_table hid_map
  obtain ⟨hlastOthers, hlast⟩ := getElem?_of_load_table hlast
  cases table with
  | Confirmed =>
    rw [hlastOthers _ (by decide), hid_mapOthers _ (by decide), houtcomesOthers _ (by decide),
      houtboxOthers _ (by decide)]
    exact hconfirmed
  | Outbox =>
    rw [hlastOthers _ (by decide), hid_mapOthers _ (by decide), houtcomesOthers _ (by decide)]
    exact houtbox
  | Outcome =>
    rw [hlastOthers _ (by decide), hid_mapOthers _ (by decide)]
    exact houtcomes
  | IdMap =>
    rw [hlastOthers _ (by decide)]
    exact hid_map
  | SubscriptionRecord => exact hlast

/-- The inventory of a journal that holds these rows has their components. -/
theorem Holds.getElem?_of_load_inventory {db : Database C S} {key : SyncStateKey} {rows : NormalizedRows}
    (hholds : Holds db key rows) {inventory : Inventory} (hload : load_inventory native db key = .ok inventory)
    {table : ComponentTable} {item : String} {payload : Bytes} (hitem : (rows.components table)[item]? = some payload) :
    (inventory table)[item]? = some payload := by
  have hrow := hholds.components table item
  rw [hitem] at hrow
  obtain ⟨row, hrow, hof⟩ := hrow
  have hloaded := sync_state.getElem?_of_load_inventory hload table _ row hrow hof.partition_id hof.client_id
  rwa [hof.component_key, hof.payload] at hloaded

theorem Holds.containsState {serde : Serde F V} {db : Database C S} {key : SyncStateKey} {rows : NormalizedRows}
    {state : DurableClientState V} (hholds : Holds db key rows) (hcomponents : ComponentsOf serde state rows.components)
    {inventory : Inventory} (hload : load_inventory native db key = .ok inventory) :
    ContainsState serde state inventory := by
  have hencoded : ∀ {T : Type} {derive : serde_json.Derive F T} {entries : List (String × T)} {table : ComponentTable},
      Encodes serde derive entries (rows.components table) → Contains serde derive entries (inventory table) := by
    intro T derive entries table hencodes entry hentry
    obtain ⟨payload, hencode, hget⟩ := hencodes.each entry hentry
    exact ⟨payload, hencode, hholds.getElem?_of_load_inventory hload hget⟩
  exact ⟨hencoded hcomponents.confirmed, hencoded hcomponents.outbox, hencoded hcomponents.outcomes,
    hencoded hcomponents.id_map, hencoded hcomponents.subscriptions⟩

theorem decode_of_read_meta {serde : Serde F V} {key : SyncStateKey} {row : StoredMetaRow} {inventory : Inventory}
    {state_meta : StateMeta V} (hread : read_meta serde key row inventory = .ok state_meta) :
    decode_tagged serde.text serde.state_meta row.payload = .ok state_meta := by
  simp only [read_meta, bind_eq_ok_iff, pure, Except.pure, ok.injEq] at hread
  obtain ⟨_, _, read, hdecode, _, _, _, _, _, _, rfl⟩ := hread
  exact hdecode

variable [DecidableEq V] {platform : Platform F V C S} {state : DurableClientState V} {rows : NormalizedRows}
  {db : Database C S}

/-- What is loaded from a journal that holds the rows of a state is that state, or nothing at all. -/
theorem eq_of_load_v2 (hserde : platform.serde.Faithful) (hvalid : state.Valid)
    (hnormalizes : Normalizes platform.serde state rows) (hholds : Holds db (.of state) rows)
    {loaded : Option (DurableClientState V)} (hload : load_v2 platform db (.of state) = .ok loaded) :
    loaded = some state := by
  obtain ⟨fence, hmeta⟩ := hholds.meta_row
  unfold load_v2 at hload
  obtain ⟨inventory, hinventory, hload⟩ := bind_eq_ok_iff.mp hload
  rw [hmeta] at hload
  obtain ⟨state_meta, hread, hload⟩ := bind_eq_ok_iff.mp hload
  obtain ⟨restored, hrestore, hloaded⟩ := bind_eq_ok_iff.mp hload
  cases hloaded
  have hstored : state_meta = meta_of state :=
    eq_of_decode_tagged hserde.text hserde.state_meta hnormalizes.meta_bytes (decode_of_read_meta hread)
  rw [hstored] at hrestore
  have hcontains := hholds.containsState (componentsOf_of_encode_components hvalid hnormalizes.components) hinventory
  exact congrArg some (eq_of_restore hserde hvalid hcontains hrestore)

end surrealdb_rn_core.sync_state
