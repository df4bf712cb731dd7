import SurrealSync.Native.Restore

open Std Except
open surrealdb_sync_protocol surrealdb_sync_protocol.subscription surrealdb_sync_client

namespace surrealdb_rn_core.sync_state

variable {F V T : Type} {serde : Serde F V}

/-- Two tagged values have different texts, and a float is read back from its text. -/
structure JsonText.Faithful (text : JsonText F) : Prop where
  injective : ∀ first second bytes, text.to_vec first = some bytes → text.to_vec second = some bytes → first = second
  floats : ∀ value, text.number_from_str (text.float_to_string value) = some (.Float value)

/-- The JSON library never reads back anything but what was written; it may refuse to. -/
structure Serde.Faithful (serde : Serde F V) : Prop where
  text : serde.text.Faithful
  state_meta : serde.state_meta.Inverse
  subscription_row : serde.subscription_row.Inverse
  record_state : serde.record_state.Inverse
  commit : serde.commit.Inverse
  resolved : serde.resolved.Inverse
  record_id : serde.record_id.Inverse

theorem floatsStable_of_faithful {text : JsonText F} (htext : text.Faithful) (value : serde_json.Value F) :
    FloatsStable text value := by
  induction value with
  | Null => trivial
  | Bool value => trivial
  | String value => trivial
  | Number value =>
    cases value with
    | PosInt value => trivial
    | NegInt value negative => trivial
    | Float value => exact htext.floats value
  | Array values ih =>
    change FloatsStableList text values
    induction values with
    | nil => trivial
    | cons value values ihtail =>
      obtain ⟨hvalue, hvalues⟩ := List.forall_mem_cons.mp ih
      exact ⟨hvalue, ihtail hvalues⟩
  | Object entries ih =>
    change FloatsStableEntries text entries
    induction entries with
    | nil => trivial
    | cons entry entries ihtail =>
      obtain ⟨hentry, hentries⟩ := List.forall_mem_cons.mp ih
      exact ⟨hentry, ihtail hentries⟩

/-- A payload that is read is read as what it was written for. -/
theorem eq_of_decode_tagged {text : JsonText F} {derive : serde_json.Derive F T} (htext : text.Faithful)
    (hderive : derive.Inverse) {value read : T} {bytes : Bytes} (hencode : encode_tagged text derive value = .ok bytes)
    (hdecode : decode_tagged text derive bytes = .ok read) : read = value := by
  obtain ⟨json, hjson, hbytes, _⟩ := encode_tagged_eq_ok_iff.mp hencode
  simp only [decode_tagged, bind_eq_ok_iff, refuse_eq_ok_iff, okOr_eq_ok_iff] at hdecode
  obtain ⟨_, _, tagged, _, canonical, hcanonical, _, hsame, untagged, huntag, hread⟩ := hdecode
  rw [not_not.mp hsame] at hcanonical
  rw [htext.injective _ _ _ hcanonical hbytes, untag_tag_json (floatsStable_of_faithful htext json)] at huntag
  cases huntag
  rw [hderive value json hjson] at hread
  exact (Option.some.inj hread).symm

/-- The inventory has these entries, encoded, and perhaps others. -/
def Contains (serde : Serde F V) (derive : serde_json.Derive F T) (entries : List (String × T))
    (rows : BTreeMap String Bytes) : Prop :=
  ∀ entry ∈ entries, ∃ payload, encode_tagged serde.text derive entry.2 = .ok payload ∧ rows[entry.1]? = some payload

/-- Components that are taken are the ones that were written. -/
theorem take_components_of_contains {table : ComponentTable} {read : String → Bytes → SyncResult T}
    {entries : List (String × T)} {inventory rest : Inventory} {values : List T}
    (hnodup : (entries.map Prod.fst).Nodup)
    (hcontains : ∀ entry ∈ entries, ∃ bytes, (inventory table)[entry.1]? = some bytes ∧
      ∀ value, read entry.1 bytes = .ok value → value = entry.2)
    (htake : take_components table read (entries.map Prod.fst) inventory = .ok (values, rest)) :
    values = entries.map Prod.snd ∧ rest = inventory.without table (entries.map Prod.fst) := by
  induction entries generalizing inventory values with
  | nil =>
    cases htake
    exact ⟨rfl, rfl⟩
  | cons entry entries ih =>
    obtain ⟨hfresh, hnodup⟩ := List.nodup_cons.mp hnodup
    obtain ⟨⟨bytes, hget, hvalue⟩, hrest⟩ := List.forall_mem_cons.mp hcontains
    have hremaining : ∀ later ∈ entries, ∃ bytes, (inventory.remove table entry.1 table)[later.1]? = some bytes ∧
        ∀ value, read later.1 bytes = .ok value → value = later.2 := by
      intro later hlater
      have hne : later.1 ≠ entry.1 := by
        intro heq
        exact hfresh (heq ▸ List.mem_map_of_mem hlater)
      rw [Inventory.remove_self, BTreeMap.getElem?_erase_of_ne hne]
      exact hrest later hlater
    simp only [List.map_cons, take_components, hget, okOr, ok_bind, bind_eq_ok_iff] at htake
    obtain ⟨value, hread, ⟨later, left⟩, hlater, htaken⟩ := htake
    cases htaken
    obtain ⟨hvalues, hleft⟩ := ih hnodup hremaining hlater
    refine ⟨?_, hleft⟩
    rw [List.map_cons, hvalue value hread, hvalues]

section Agreement

variable {state : DurableClientState V}

/-- The inventory has every component of the state. -/
structure ContainsState (serde : Serde F V) (state : DurableClientState V) (inventory : Inventory) : Prop where
  confirmed : Contains serde serde.record_state (confirmed_entries state) (inventory .Confirmed)
  outbox : Contains serde serde.commit (outbox_entries state) (inventory .Outbox)
  outcomes : Contains serde serde.resolved (outcome_entries state) (inventory .Outcome)
  id_map : Contains serde serde.record_id (id_map_entries state) (inventory .IdMap)
  subscriptions : Contains serde serde.subscription_row (subscription_records state).toList
    (inventory .SubscriptionRecord)

/-- A table of the state that is taken yields its entries. -/
theorem Contains.take {derive : serde_json.Derive F T} {entries : List (String × T)} {table : ComponentTable}
    {inventory rest : Inventory} {values : List T} (htext : serde.text.Faithful) (hderive : derive.Inverse)
    (hcontains : Contains serde derive entries (inventory table)) (hnodup : (entries.map Prod.fst).Nodup)
    {read : String → Bytes → SyncResult T}
    (hread : ∀ key bytes value, read key bytes = .ok value → decode_tagged serde.text derive bytes = .ok value)
    (htake : take_components table read (entries.map Prod.fst) inventory = .ok (values, rest)) :
    values = entries.map Prod.snd ∧ rest = inventory.without table (entries.map Prod.fst) := by
  refine take_components_of_contains hnodup ?_ htake
  intro entry hentry
  obtain ⟨payload, hencode, hget⟩ := hcontains entry hentry
  exact ⟨payload, hget, fun value hvalue => eq_of_decode_tagged htext hderive hencode (hread _ _ _ hvalue)⟩

theorem decode_of_read_commit {key : String} {bytes : Bytes} {commit : ClientCommit V}
    (hread : read_commit serde key bytes = .ok commit) : decode_tagged serde.text serde.commit bytes = .ok commit := by
  simp only [read_commit, bind_eq_ok_iff, refuse_eq_ok_iff, pure, Except.pure, ok.injEq] at hread
  obtain ⟨read, hdecode, _, _, rfl⟩ := hread
  exact hdecode

theorem decode_of_read_outcome {key : String} {bytes : Bytes} {outcome : ResolvedCommit V}
    (hread : read_outcome serde key bytes = .ok outcome) :
    decode_tagged serde.text serde.resolved bytes = .ok outcome := by
  simp only [read_outcome, bind_eq_ok_iff, refuse_eq_ok_iff, pure, Except.pure, ok.injEq] at hread
  obtain ⟨read, hdecode, _, _, rfl⟩ := hread
  exact hdecode

theorem eq_of_restore_subscriptions {inventory rest : Inventory} {subscriptions : Option (DurableSubscriptions V)}
    (hserde : serde.Faithful)
    (hcontains : Contains serde serde.subscription_row (subscription_records state).toList (inventory .SubscriptionRecord))
    (hrestore : restore_subscriptions serde (meta_of state) inventory = .ok (subscriptions, rest)) :
    subscriptions = state.subscriptions := by
  cases hsubscriptions : state.subscriptions with
  | none =>
    simp only [restore_subscriptions, meta_of, hsubscriptions, Option.map_none, bind_eq_ok_iff, refuse_eq_ok_iff,
      ok.injEq, Prod.mk.injEq] at hrestore
    obtain ⟨_, _, rfl, _⟩ := hrestore
    rfl
  | some stored =>
    have hrecords : subscription_records state = stored.records := by simp [subscription_records, hsubscriptions]
    rw [hrecords] at hcontains
    simp only [restore_subscriptions, meta_of, hsubscriptions, Option.map_some, hrecords, bind_eq_ok_iff,
      refuse_eq_ok_iff, ok.injEq, Prod.mk.injEq] at hrestore
    obtain ⟨_, _, ⟨values, left⟩, htake, hrestored, _⟩ := hrestore
    rw [← ExtTreeMap.map_fst_toList_eq_keys] at htake
    obtain ⟨hvalues, _⟩ := hcontains.take hserde.text hserde.subscription_row stored.records.nodup_keys
      (fun _ _ _ hdecode => hdecode) htake
    rw [← hrestored, hvalues, ofList_zip_keys]

variable [DecidableEq V]

/-- A state that is put together from an inventory with the components of another, after its metadata, is that
other state. -/
theorem eq_of_restore {inventory : Inventory} {restored : DurableClientState V} (hserde : serde.Faithful)
    (hvalid : state.Valid) (hcontains : ContainsState serde state inventory)
    (hrestore : restore serde (meta_of state) inventory = .ok restored) : restored = state := by
  obtain ⟨houtbox_keys, houtcome_keys⟩ := nodup_commit_keys hvalid
  unfold restore at hrestore
  obtain ⟨⟨confirmed, left⟩, htaken, hrestore⟩ := bind_eq_ok_iff.mp hrestore
  rw [show (meta_of state).confirmed_keys.map (·.val) = (confirmed_entries state).map Prod.fst from
    keys_map_val state.confirmed] at htaken
  obtain ⟨hconfirmed, rfl⟩ := hcontains.confirmed.take hserde.text hserde.record_state
    (nodup_map_val state.confirmed) (fun _ _ _ hdecode => hdecode) htaken
  obtain ⟨⟨outbox, left⟩, htaken, hrestore⟩ := bind_eq_ok_iff.mp hrestore
  rw [show (meta_of state).outbox_keys = (outbox_entries state).map Prod.fst by
    simp [meta_of, outbox_entries, Function.comp_def]] at htaken
  obtain ⟨houtbox, rfl⟩ := Contains.take hserde.text hserde.commit (by simpa using hcontains.outbox) houtbox_keys
    (fun _ _ _ => decode_of_read_commit) htaken
  obtain ⟨⟨outcomes, left⟩, htaken, hrestore⟩ := bind_eq_ok_iff.mp hrestore
  rw [show (meta_of state).outcome_keys = (outcome_entries state).map Prod.fst by
    simp [meta_of, outcome_entries, Function.comp_def]] at htaken
  obtain ⟨houtcomes, rfl⟩ := Contains.take hserde.text hserde.resolved (by simpa using hcontains.outcomes) houtcome_keys
    (fun _ _ _ => decode_of_read_outcome) htaken
  obtain ⟨⟨canonical_ids, left⟩, htaken, hrestore⟩ := bind_eq_ok_iff.mp hrestore
  rw [show (meta_of state).id_map_keys.map (·.val) = (id_map_entries state).map Prod.fst from
    keys_map_val state.id_map] at htaken
  have hmapped : Contains serde serde.record_id (id_map_entries state)
      (((inventory.without .Confirmed ((confirmed_entries state).map Prod.fst)).without .Outbox
        ((outbox_entries state).map Prod.fst)).without .Outcome ((outcome_entries state).map Prod.fst) .IdMap) := by
    simpa using hcontains.id_map
  obtain ⟨hid_map, rfl⟩ := hmapped.take hserde.text hserde.record_id (nodup_map_val state.id_map)
    (fun _ _ _ hdecode => hdecode) htaken
  obtain ⟨⟨subscriptions, left⟩, hrestored, hrestore⟩ := bind_eq_ok_iff.mp hrestore
  have hsubscriptions := eq_of_restore_subscriptions hserde (by simpa using hcontains.subscriptions) hrestored
  obtain ⟨_, _, hrestore⟩ := bind_eq_ok_iff.mp hrestore
  obtain ⟨subscription_revision, hparsed, hrestore⟩ := bind_eq_ok_iff.mp hrestore
  rw [show (meta_of state).subscription_revision = state.subscription_revision.to_string from rfl,
    parse_revision_to_string] at hparsed
  cases hparsed
  obtain ⟨revision, hparsed, hrestore⟩ := bind_eq_ok_iff.mp hrestore
  rw [show (meta_of state).revision = state.revision.to_string from rfl, parse_revision_to_string] at hparsed
  cases hparsed
  have hconfirmed_map : ExtTreeMap.ofList ((meta_of state).confirmed_keys.zip confirmed) compare = state.confirmed := by
    rw [hconfirmed, confirmed_entries, List.map_map]
    exact ofList_zip_keys state.confirmed
  have hid_map_map : ExtTreeMap.ofList ((meta_of state).id_map_keys.zip canonical_ids) compare = state.id_map := by
    rw [hid_map, id_map_entries, List.map_map]
    exact ofList_zip_keys state.id_map
  have houtbox_list : outbox = state.outbox := by
    simp [houtbox, outbox_entries, Function.comp_def]
  have houtcomes_list : outcomes = state.outcomes := by
    simp [houtcomes, outcome_entries, Function.comp_def]
  simp only [hconfirmed_map, hid_map_map, houtbox_list, houtcomes_list, hsubscriptions] at hrestore
  split at hrestore
  · exact (ok.inj hrestore).symm
  · cases hrestore

end Agreement

end surrealdb_rn_core.sync_state
