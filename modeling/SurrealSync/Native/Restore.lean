import SurrealSync.Client.Validity
import SurrealSync.Native.Rows

open Std Except
open surrealdb_sync_protocol surrealdb_sync_protocol.subscription surrealdb_sync_client

namespace surrealdb_rn_core.sync_state

variable {F V T : Type} {serde : Serde F V}

/-! ### Inventories -/

namespace Inventory

variable {inventory : Inventory} {table other : ComponentTable} {key : String}

@[simp]
theorem insert_self (payload : Bytes) :
    inventory.insert table key payload table = (inventory table).insert key payload := by
  simp [insert]

@[simp]
theorem insert_of_ne (hne : other ≠ table) (payload : Bytes) :
    inventory.insert table key payload other = inventory other := by
  simp [insert, hne]

@[simp]
theorem remove_self : inventory.remove table key table = (inventory table).erase key := by
  simp [remove]

@[simp]
theorem remove_of_ne (hne : other ≠ table) : inventory.remove table key other = inventory other := by
  simp [remove, hne]

/-- What is left after taking these keys of one table. -/
def without (inventory : Inventory) (table : ComponentTable) (keys : List String) : Inventory :=
  keys.foldl (fun inventory key => inventory.remove table key) inventory

@[simp]
theorem without_of_ne (hne : other ≠ table) (keys : List String) :
    inventory.without table keys other = inventory other := by
  induction keys generalizing inventory with
  | nil => rfl
  | cons key keys ih =>
    change (inventory.remove table key).without table keys other = _
    rw [ih, remove_of_ne hne]

theorem getElem?_without (keys : List String) :
    (inventory.without table keys table)[key]? = if key ∈ keys then none else (inventory table)[key]? := by
  induction keys generalizing inventory with
  | nil => rfl
  | cons first keys ih =>
    change ((inventory.remove table first).without table keys table)[key]? = _
    rw [ih, remove_self]
    by_cases heq : key = first
    · subst heq
      simp
    · rw [BTreeMap.getElem?_erase_of_ne heq]
      simp [heq]

theorem isEmpty_without {keys : List String} (hcovered : ∀ key ∉ keys, (inventory table)[key]? = none) :
    (inventory.without table keys table).isEmpty := by
  rw [ExtTreeMap.isEmpty_iff, ExtTreeMap.eq_empty_iff_forall_not_mem]
  intro key hmem
  obtain ⟨payload, hpayload⟩ := BTreeMap.exists_of_mem hmem
  rw [getElem?_without] at hpayload
  split at hpayload
  · cases hpayload
  · rename_i hkey
    rw [hcovered key hkey] at hpayload
    cases hpayload

end Inventory

/-! ### The rows of a table -/

/-- The rows hold exactly these entries, encoded. -/
structure Encodes (serde : Serde F V) (derive : serde_json.Derive F T) (entries : List (String × T))
    (rows : BTreeMap String Bytes) : Prop where
  nodup : (entries.map Prod.fst).Nodup
  each : ∀ entry ∈ entries, ∃ payload, encode_tagged serde.text derive entry.2 = .ok payload ∧
    rows[entry.1]? = some payload
  covered : ∀ key ∉ entries.map Prod.fst, rows[key]? = none

theorem encodes_of_encode_table {derive : serde_json.Derive F T} {entries : List (String × T)}
    {rows : BTreeMap String Bytes} (hnodup : (entries.map Prod.fst).Nodup)
    (hencode : encode_table serde derive entries = .ok rows) : Encodes serde derive entries rows := by
  obtain ⟨heach, hcovered⟩ := (BTreeMap.foldlM_insert_eq_ok_iff hnodup).mp hencode
  refine ⟨hnodup, heach, fun key hkey => ?_⟩
  rw [hcovered key hkey]
  simp

theorem take_components_eq {table : ComponentTable} {read : String → Bytes → SyncResult T}
    {entries : List (String × T)} {inventory : Inventory} (hnodup : (entries.map Prod.fst).Nodup)
    (hread : ∀ entry ∈ entries, ∃ bytes, (inventory table)[entry.1]? = some bytes ∧ read entry.1 bytes = .ok entry.2) :
    take_components table read (entries.map Prod.fst) inventory =
      .ok (entries.map Prod.snd, inventory.without table (entries.map Prod.fst)) := by
  induction entries generalizing inventory with
  | nil => rfl
  | cons entry entries ih =>
    obtain ⟨hfresh, hnodup⟩ := List.nodup_cons.mp hnodup
    obtain ⟨⟨bytes, hget, hvalue⟩, hrest⟩ := List.forall_mem_cons.mp hread
    have hremaining : ∀ later ∈ entries, ∃ bytes,
        (inventory.remove table entry.1 table)[later.1]? = some bytes ∧ read later.1 bytes = .ok later.2 := by
      intro later hlater
      have hne : later.1 ≠ entry.1 := by
        intro heq
        exact hfresh (heq ▸ List.mem_map_of_mem hlater)
      rw [Inventory.remove_self, BTreeMap.getElem?_erase_of_ne hne]
      exact hrest later hlater
    simp only [List.map_cons, take_components, hget, okOr, ok_bind, hvalue, ih hnodup hremaining]
    rfl

/-- A table whose entries are legible is read back. -/
theorem Encodes.take {derive : serde_json.Derive F T} {entries : List (String × T)} {rows : BTreeMap String Bytes}
    (hencodes : Encodes serde derive entries rows) {table : ComponentTable} {inventory : Inventory}
    (hrows : inventory table = rows) (htext : serde.text.Inverse) (hderive : derive.Inverse)
    (hlegible : ∀ entry ∈ entries, Legible serde.text derive entry.2) (read : String → Bytes → SyncResult T)
    (hread : ∀ entry ∈ entries, ∀ bytes, decode_tagged serde.text derive bytes = .ok entry.2 →
      read entry.1 bytes = .ok entry.2) :
    take_components table read (entries.map Prod.fst) inventory =
      .ok (entries.map Prod.snd, inventory.without table (entries.map Prod.fst)) := by
  apply take_components_eq hencodes.nodup
  intro entry hentry
  obtain ⟨payload, hpayload, hget⟩ := hencodes.each entry hentry
  have hdecode := decode_encode_tagged htext hderive (hlegible entry hentry) hpayload
  exact ⟨payload, hrows ▸ hget, hread entry hentry payload hdecode⟩

/-! ### The rows of a state -/

/-- The component rows of a state. -/
structure ComponentsOf (serde : Serde F V) (state : DurableClientState V) (components : Inventory) : Prop where
  confirmed : Encodes serde serde.record_state (confirmed_entries state) (components .Confirmed)
  outbox : Encodes serde serde.commit (outbox_entries state) (components .Outbox)
  outcomes : Encodes serde serde.resolved (outcome_entries state) (components .Outcome)
  id_map : Encodes serde serde.record_id (id_map_entries state) (components .IdMap)
  subscriptions : Encodes serde serde.subscription_row (subscription_records state).toList (components .SubscriptionRecord)

theorem nodup_map_val {A : Type} (records : BTreeMap RecordId A) :
    ((records.toList.map fun entry => (entry.1.val, entry.2)).map Prod.fst).Nodup := by
  have hnodup := records.nodup_keys
  rw [List.map_map]
  have hsame : (Prod.fst ∘ fun entry : RecordId × A => (entry.1.val, entry.2)) = RecordId.val ∘ Prod.fst := rfl
  rw [hsame, ← List.map_map]
  apply hnodup.map
  intro a b heq
  cases a
  cases b
  exact congrArg RecordId.mk heq

theorem nodup_commit_keys {state : DurableClientState V} (hvalid : state.Valid) :
    ((outbox_entries state).map Prod.fst).Nodup ∧ ((outcome_entries state).map Prod.fst).Nodup := by
  have hnodup := hvalid.commit_ids
  rw [DurableClientState.commit_ids, List.nodup_append] at hnodup
  have hinjective : Function.Injective ClientCommitId.val := by
    intro a b heq
    cases a
    cases b
    exact congrArg ClientCommitId.mk heq
  obtain ⟨houtbox, houtcomes, _⟩ := hnodup
  constructor
  · simpa [outbox_entries, Function.comp_def] using houtbox.map hinjective
  · simpa [outcome_entries, Function.comp_def] using houtcomes.map hinjective

theorem componentsOf_of_encode_components {state : DurableClientState V} {components : Inventory}
    (hvalid : state.Valid) (hencode : encode_components serde state = .ok components) :
    ComponentsOf serde state components := by
  simp only [encode_components, bind_eq_ok_iff, pure, Except.pure, ok.injEq] at hencode
  obtain ⟨rows, hrows, confirmed, hconfirmed, outbox, houtbox, outcomes, houtcomes, id_map, hid_map, rfl⟩ := hencode
  obtain ⟨houtbox_keys, houtcome_keys⟩ := nodup_commit_keys hvalid
  exact {
    confirmed := encodes_of_encode_table (nodup_map_val state.confirmed) hconfirmed
    outbox := encodes_of_encode_table houtbox_keys houtbox
    outcomes := encodes_of_encode_table houtcome_keys houtcomes
    id_map := encodes_of_encode_table (nodup_map_val state.id_map) hid_map
    subscriptions := encodes_of_encode_table (subscription_records state).nodup_keys hrows }

/-- What `normalize_state` makes of a state. -/
structure Normalizes (serde : Serde F V) (state : DurableClientState V) (rows : NormalizedRows) : Prop where
  count : component_count state ≤ MAX_COMPONENT_ITEMS
  keys : validate_component_keys state = .ok ()
  meta_bytes : encode_tagged serde.text serde.state_meta (meta_of state) = .ok rows.meta_bytes
  components : encode_components serde state = .ok rows.components
  total : rows.meta_bytes.length + rows.components.bytes ≤ MAX_AGGREGATE_STATE_BYTES
  version : rows.format_version = if state.subscriptions.isSome then SUBSCRIPTION_FORMAT_VERSION else FORMAT_VERSION

theorem normalize_state_eq_ok_iff {state : DurableClientState V} {rows : NormalizedRows} :
    normalize_state serde state = .ok rows ↔ Normalizes serde state rows := by
  simp only [normalize_state, bind_eq_ok_iff, refuse_eq_ok_iff, gt_iff_lt, Nat.not_lt, pure, Except.pure, ok.injEq]
  constructor
  · rintro ⟨_, hcount, _, hkeys, meta_bytes, hmeta, components, hcomponents, _, htotal, rfl⟩
    exact ⟨hcount, hkeys, hmeta, hcomponents, htotal, rfl⟩
  · rintro ⟨hcount, hkeys, hmeta, hcomponents, htotal, hversion⟩
    obtain ⟨version, meta_bytes, components⟩ := rows
    cases hversion
    exact ⟨(), hcount, (), hkeys, meta_bytes, hmeta, components, hcomponents, (), htotal, rfl⟩

/-- Every component of the state, and its metadata, reads back from its text. -/
structure LegibleState (serde : Serde F V) (state : DurableClientState V) : Prop where
  state_meta : Legible serde.text serde.state_meta (meta_of state)
  confirmed : ∀ entry ∈ confirmed_entries state, Legible serde.text serde.record_state entry.2
  outbox : ∀ entry ∈ outbox_entries state, Legible serde.text serde.commit entry.2
  outcomes : ∀ entry ∈ outcome_entries state, Legible serde.text serde.resolved entry.2
  id_map : ∀ entry ∈ id_map_entries state, Legible serde.text serde.record_id entry.2
  subscriptions : ∀ entry ∈ (subscription_records state).toList, Legible serde.text serde.subscription_row entry.2

theorem parse_revision_to_string (n : UInt64) : parse_revision n.to_string = .ok n := by
  simp [parse_revision, okOr, refuse]

theorem strictly_sorted_of_pairwise {K : Type} [Ord K] {l : List K}
    (hsorted : l.Pairwise fun a b => compare a b = .lt) : strictly_sorted l := by
  induction l with
  | nil => rfl
  | cons a l ih =>
    obtain ⟨hhead, htail⟩ := List.pairwise_cons.mp hsorted
    cases l with
    | nil => rfl
    | cons b l =>
      have hlt := hhead b List.mem_cons_self
      simp [strictly_sorted, hlt, ih htail]

theorem meta_count_meta_of (state : DurableClientState V) : meta_count (meta_of state) = component_count state := by
  simp [meta_count, meta_of, component_count, ExtTreeMap.length_keys]

section ReadBack

variable {state : DurableClientState V} {rows : NormalizedRows} {fence : Option String}

/-- The metadata row that belongs to the rows of a state. -/
def NormalizedRows.meta_row (rows : NormalizedRows) (key : SyncStateKey) (bootstrap_fence : Option String) :
    StoredMetaRow where
  format_version := rows.format_version
  partition_id := key.partition_id.val
  client_id := key.client_id.val
  payload := rows.meta_bytes
  bootstrap_fence

theorem read_meta_eq (hserde : serde.Inverse) (hnormalizes : Normalizes serde state rows)
    (hlegible : Legible serde.text serde.state_meta (meta_of state)) :
    read_meta serde (.of state) (rows.meta_row (.of state) fence) rows.components = .ok (meta_of state) := by
  have hlength := length_of_encode_tagged hnormalizes.meta_bytes
  have hdecode := decode_encode_tagged hserde.text hserde.state_meta hlegible hnormalizes.meta_bytes
  have hversion := hnormalizes.version
  have hvalidate : validate_meta_row (.of state) (rows.meta_row (.of state) fence) = .ok () := by
    have hshort : ¬ rows.meta_bytes.length > MAX_SYNC_STATE_BYTES := by omega
    have hknown : FORMAT_VERSION ≤ rows.format_version ∧ rows.format_version ≤ SUBSCRIPTION_FORMAT_VERSION := by
      rw [hversion]
      split <;> decide
    simp [validate_meta_row, NormalizedRows.meta_row, refuse, hshort, hknown]
  have hmatches : decide (rows.format_version = SUBSCRIPTION_FORMAT_VERSION) = (meta_of state).subscriptions.isSome := by
    rw [hversion]
    cases hsubscriptions : state.subscriptions <;> simp [meta_of, hsubscriptions, FORMAT_VERSION, SUBSCRIPTION_FORMAT_VERSION]
  have hsorted : strictly_sorted (meta_of state).confirmed_keys ∧
      strictly_sorted (meta_of state).subscription_record_keys ∧ strictly_sorted (meta_of state).id_map_keys :=
    ⟨strictly_sorted_of_pairwise ExtTreeMap.ordered_keys, strictly_sorted_of_pairwise ExtTreeMap.ordered_keys,
      strictly_sorted_of_pairwise ExtTreeMap.ordered_keys⟩
  have hcount : ¬ (meta_count (meta_of state) > MAX_COMPONENT_ITEMS ∨
      rows.meta_bytes.length + rows.components.bytes > MAX_AGGREGATE_STATE_BYTES) := by
    have hcount := hnormalizes.count
    have htotal := hnormalizes.total
    rw [meta_count_meta_of]
    omega
  have hpartition : (meta_of state).partition_id = state.partition_id.val := rfl
  have hclient : (meta_of state).client_id = state.client_id.val := rfl
  refine bind_eq_ok_iff.mpr ⟨(), hvalidate, ?_⟩
  refine bind_eq_ok_iff.mpr ⟨_, hdecode, ?_⟩
  refine bind_eq_ok_iff.mpr ⟨(), refuse_eq_ok_iff.mpr (not_not.mpr hmatches), ?_⟩
  refine bind_eq_ok_iff.mpr ⟨(), refuse_eq_ok_iff.mpr ?_, ?_⟩
  · simp [SyncStateKey.of, hpartition, hclient, hsorted]
  · exact bind_eq_ok_iff.mpr ⟨(), refuse_eq_ok_iff.mpr hcount, rfl⟩

theorem keys_map_val {A : Type} (records : BTreeMap RecordId A) :
    records.keys.map (·.val) = (records.toList.map fun entry => (entry.1.val, entry.2)).map Prod.fst := by
  rw [← ExtTreeMap.map_fst_toList_eq_keys, List.map_map, List.map_map]
  rfl

theorem ofList_zip_keys {K A : Type} [Ord K] [TransOrd K] [LawfulEqOrd K] (records : BTreeMap K A) :
    ExtTreeMap.ofList (records.keys.zip (records.toList.map Prod.snd)) compare = records := by
  rw [← ExtTreeMap.map_fst_toList_eq_keys, ← List.unzip_fst, ← List.unzip_snd, List.zip_unzip]
  exact BTreeMap.ofList_of_perm (List.Perm.refl _)

theorem restore_subscriptions_eq {inventory : Inventory} (hserde : serde.Inverse)
    (hencodes : Encodes serde serde.subscription_row (subscription_records state).toList (inventory .SubscriptionRecord))
    (hlegible : ∀ entry ∈ (subscription_records state).toList,
      Legible serde.text serde.subscription_row entry.2) :
    restore_subscriptions serde (meta_of state) inventory =
      .ok (state.subscriptions, inventory.without .SubscriptionRecord (subscription_records state).keys) := by
  cases hsubscriptions : state.subscriptions with
  | none =>
    have hkeys : (subscription_records state).keys = [] := by
      simp only [subscription_records, hsubscriptions]
      rfl
    simp [restore_subscriptions, meta_of, hsubscriptions, hkeys, refuse, Inventory.without]
  | some subscriptions =>
    have hrecords : subscription_records state = subscriptions.records := by simp [subscription_records, hsubscriptions]
    rw [hrecords] at hencodes hlegible
    have htake := hencodes.take rfl hserde.text hserde.subscription_row hlegible
      (fun _ => decode_tagged serde.text serde.subscription_row) fun _ _ _ hdecode => hdecode
    rw [ExtTreeMap.map_fst_toList_eq_keys] at htake
    simp only [restore_subscriptions, meta_of, hsubscriptions, Option.map_some, hrecords, ExtTreeMap.isEmpty_empty,
      not_true_eq_false, refuse, if_false, ok_bind, htake, ofList_zip_keys]

variable [DecidableEq V]

/-- The state is put together again from its own rows. -/
theorem restore_eq (hserde : serde.Inverse) (hvalid : state.validate = .ok ()) (hlegible : LegibleState serde state)
    (hcomponents : ComponentsOf serde state rows.components) :
    restore serde (meta_of state) rows.components = .ok state := by
  have hconfirmed_keys : (meta_of state).confirmed_keys.map (·.val) = (confirmed_entries state).map Prod.fst :=
    keys_map_val state.confirmed
  have houtbox_keys : (meta_of state).outbox_keys = (outbox_entries state).map Prod.fst := by
    simp [meta_of, outbox_entries, Function.comp_def]
  have houtcome_keys : (meta_of state).outcome_keys = (outcome_entries state).map Prod.fst := by
    simp [meta_of, outcome_entries, Function.comp_def]
  have hid_map_keys : (meta_of state).id_map_keys.map (·.val) = (id_map_entries state).map Prod.fst :=
    keys_map_val state.id_map
  have hcommit : ∀ entry ∈ outbox_entries state, ∀ bytes, decode_tagged serde.text serde.commit bytes = .ok entry.2 →
      read_commit serde entry.1 bytes = .ok entry.2 := by
    intro entry hentry bytes hdecode
    obtain ⟨commit, _, rfl⟩ := List.mem_map.mp hentry
    simp [read_commit, hdecode, refuse]
  have houtcome : ∀ entry ∈ outcome_entries state, ∀ bytes,
      decode_tagged serde.text serde.resolved bytes = .ok entry.2 → read_outcome serde entry.1 bytes = .ok entry.2 := by
    intro entry hentry bytes hdecode
    obtain ⟨outcome, _, rfl⟩ := List.mem_map.mp hentry
    simp [read_outcome, hdecode, refuse]
  unfold restore
  rw [hconfirmed_keys, houtbox_keys, houtcome_keys, hid_map_keys]
  refine bind_eq_ok_iff.mpr ⟨_, hcomponents.confirmed.take rfl hserde.text hserde.record_state hlegible.confirmed _
    fun _ _ _ hdecode => hdecode, ?_⟩
  refine bind_eq_ok_iff.mpr ⟨_, hcomponents.outbox.take ?_ hserde.text hserde.commit hlegible.outbox _ hcommit, ?_⟩
  · simp
  refine bind_eq_ok_iff.mpr ⟨_, hcomponents.outcomes.take ?_ hserde.text hserde.resolved hlegible.outcomes _ houtcome, ?_⟩
  · simp
  refine bind_eq_ok_iff.mpr ⟨_, hcomponents.id_map.take ?_ hserde.text hserde.record_id hlegible.id_map _
    fun _ _ _ hdecode => hdecode, ?_⟩
  · simp
  refine bind_eq_ok_iff.mpr ⟨_, restore_subscriptions_eq hserde ?_ hlegible.subscriptions, ?_⟩
  · simpa using hcomponents.subscriptions
  refine bind_eq_ok_iff.mpr ⟨(), refuse_eq_ok_iff.mpr ?_, ?_⟩
  · have hcovered := hcomponents.subscriptions.covered
    rw [ExtTreeMap.map_fst_toList_eq_keys] at hcovered
    simp only [Inventory.is_empty, ComponentTable.all, List.all_cons, List.all_nil, Bool.and_true, Bool.and_eq_true,
      not_not]
    refine ⟨?_, ?_, ?_, ?_, Inventory.isEmpty_without (by simpa using hcovered)⟩
    · simpa using Inventory.isEmpty_without hcomponents.confirmed.covered
    · simpa using Inventory.isEmpty_without (by simpa using hcomponents.outbox.covered)
    · simpa using Inventory.isEmpty_without (by simpa using hcomponents.outcomes.covered)
    · simpa using Inventory.isEmpty_without (by simpa using hcomponents.id_map.covered)
  refine bind_eq_ok_iff.mpr ⟨_, parse_revision_to_string state.subscription_revision, ?_⟩
  refine bind_eq_ok_iff.mpr ⟨_, parse_revision_to_string state.revision, ?_⟩
  have hconfirmed : ExtTreeMap.ofList ((meta_of state).confirmed_keys.zip ((confirmed_entries state).map Prod.snd)) compare =
      state.confirmed := by
    rw [confirmed_entries, List.map_map]
    exact ofList_zip_keys state.confirmed
  have hid_map : ExtTreeMap.ofList ((meta_of state).id_map_keys.zip ((id_map_entries state).map Prod.snd)) compare =
      state.id_map := by
    rw [id_map_entries, List.map_map]
    exact ofList_zip_keys state.id_map
  have houtbox : (outbox_entries state).map Prod.snd = state.outbox := by
    simp [outbox_entries, Function.comp_def]
  have houtcomes : (outcome_entries state).map Prod.snd = state.outcomes := by
    simp [outcome_entries, Function.comp_def]
  simp only [hconfirmed, hid_map, houtbox, houtcomes]
  split
  · rfl
  · rename_i _ hrefused
    exact absurd (hvalid.symm.trans hrefused) (by simp)

end ReadBack

end surrealdb_rn_core.sync_state
