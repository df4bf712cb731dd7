import SurrealSync.Client.Subscriptions
import SurrealSync.Client.WindowValidity

open Std
open surrealdb_sync_protocol surrealdb_sync_protocol.subscription

namespace surrealdb_sync_client

variable {V : Type}

/-- A separator that neither first part contains splits both lists alike. -/
theorem append_separator_inj {α : Type} {c : α} {l r s t : List α} (hl : c ∉ l) (hr : c ∉ r)
    (heq : l ++ c :: s = r ++ c :: t) : l = r ∧ s = t := by
  rcases List.append_eq_append_iff.mp heq with ⟨rest, rfl, hrest⟩ | ⟨rest, rfl, hrest⟩
  · cases rest with
    | nil => simpa using hrest
    | cons d rest =>
      cases (List.cons.inj hrest).1
      simp at hr
  · cases rest with
    | nil => simpa [eq_comm] using hrest
    | cons d rest =>
      cases (List.cons.inj hrest).1
      simp at hl

/-- A decimal number ends at the first colon behind it. -/
theorem decimal_colon_inj {m n : Nat} {s t : List Char}
    (heq : Nat.toDigits 10 m ++ ':' :: s = Nat.toDigits 10 n ++ ':' :: t) : m = n ∧ s = t := by
  have hcolon : ∀ k, ':' ∉ Nat.toDigits 10 k := by
    intro k hmem
    have hdigit := Nat.isDigit_of_mem_toDigits (by decide) (by decide) hmem
    exact absurd hdigit (by decide)
  obtain ⟨hdigits, hrest⟩ := append_separator_inj (hcolon m) (hcolon n) heq
  refine ⟨?_, hrest⟩
  rw [← @Nat.ofDigitChars_ten_toDigits m, hdigits, Nat.ofDigitChars_ten_toDigits]

theorem cache_key_toList (epoch : UInt64) (row : SubscriptionRow V) :
    (cache_key epoch row).toList = Nat.toDigits 10 epoch.toNat ++ ':' ::
      (Nat.toDigits 10 row.version.toNat ++ ':' ::
        (Nat.toDigits 10 row.record_id.val.utf8ByteSize ++ ':' :: row.record_id.val.toList)) := by
  have hcolon : (":" : String).toList = [':'] := rfl
  have hnumber : ∀ n : UInt64, (toString n).toList = Nat.toDigits 10 n.toNat := fun n => Nat.toList_repr
  have hsize : ∀ n : Nat, (toString n).toList = Nat.toDigits 10 n := fun n => Nat.toList_repr
  simp only [cache_key, String.toList_append, hcolon, hnumber, hsize, List.append_assoc, List.cons_append,
    List.nil_append]

/-- A cache key determines the epoch, the version and the record of its row. -/
theorem cache_key_inj {epoch other_epoch : UInt64} {row other : SubscriptionRow V}
    (heq : cache_key epoch row = cache_key other_epoch other) :
    epoch = other_epoch ∧ row.version = other.version ∧ row.record_id = other.record_id := by
  have hlist := congrArg String.toList heq
  rw [cache_key_toList, cache_key_toList] at hlist
  obtain ⟨hepoch, hlist⟩ := decimal_colon_inj hlist
  obtain ⟨hversion, hlist⟩ := decimal_colon_inj hlist
  obtain ⟨_, hid⟩ := decimal_colon_inj hlist
  refine ⟨UInt64.toNat_inj.mp hepoch, UInt64.toNat_inj.mp hversion, ?_⟩
  exact congrArg RecordId.mk (String.toList_inj.mp hid)

/-- A cached row that some installed window shows. -/
def DurableSubscriptions.Uses (windows : DurableSubscriptions V) (key : String) : Prop :=
  ∃ (id : String) (slot : SubscriptionSlot) (record_id : RecordId),
    windows.slots[id]? = some slot ∧ slot.members[record_id]? = some key

@[simp]
theorem collect_records_requests (windows : DurableSubscriptions V) :
    (collect_records windows).requests = windows.requests := rfl

@[simp]
theorem collect_records_slots (windows : DurableSubscriptions V) :
    (collect_records windows).slots = windows.slots := rfl

@[simp]
theorem collect_records_cancelled (windows : DurableSubscriptions V) :
    (collect_records windows).cancelled = windows.cancelled := rfl

@[simp]
theorem collect_records_authorization_scope (windows : DurableSubscriptions V) :
    (collect_records windows).authorization_scope = windows.authorization_scope := rfl

theorem mem_used_keys_iff {windows : DurableSubscriptions V} {key : String} :
    key ∈ (ExtTreeSet.ofList (windows.slots.vals.flatMap fun slot => slot.members.vals) : BTreeSet String) ↔
      windows.Uses key := by
  simp only [ExtTreeSet.mem_ofList, List.contains_iff_mem, List.mem_flatMap, BTreeMap.mem_vals_iff]
  constructor
  · rintro ⟨slot, ⟨id, hslot⟩, record_id, hkey⟩
    exact ⟨id, slot, record_id, hslot, hkey⟩
  · rintro ⟨id, slot, record_id, hslot, hkey⟩
    exact ⟨slot, ⟨id, hslot⟩, record_id, hkey⟩

/-- Collection drops unused rows and keeps the others as they are. -/
theorem collect_records_getElem?_records (windows : DurableSubscriptions V) {key : String}
    {row : SubscriptionRow V} :
    (collect_records windows).records[key]? = some row ↔
      windows.Uses key ∧ windows.records[key]? = some row := by
  simp only [collect_records, ExtTreeMap.getElem?_filter', Option.filter_eq_some_iff, decide_eq_true_eq,
    mem_used_keys_iff]
  exact and_comm

theorem uses_of_mem_collect_records {windows : DurableSubscriptions V} {key : String}
    (hmem : key ∈ (collect_records windows).records) : (collect_records windows).Uses key := by
  obtain ⟨row, hrow⟩ := BTreeMap.exists_of_mem hmem
  exact ((collect_records_getElem?_records windows).mp hrow).1

theorem collect_records_rows_of {windows : DurableSubscriptions V} (id : String) {slot : SubscriptionSlot}
    (hslot : windows.slots[id]? = some slot) :
    (collect_records windows).rows_of slot = windows.rows_of slot := by
  apply ExtTreeMap.ext_getElem?
  intro record_id
  rw [DurableSubscriptions.getElem?_rows_of, DurableSubscriptions.getElem?_rows_of]
  cases hkey : slot.members[record_id]? with
  | none => rfl
  | some key =>
    apply Option.ext
    intro row
    have huses : windows.Uses key := ⟨id, slot, record_id, hslot, hkey⟩
    simp [collect_records_getElem?_records, huses]

variable [DecidableEq V]

theorem cache_row_eq_ok_iff {epoch : UInt64} {records next : BTreeMap String (SubscriptionRow V)}
    {row : SubscriptionRow V} :
    cache_row epoch records row = .ok next ↔
      (∀ stored, records[cache_key epoch row]? = some stored → stored = row) ∧
        next = records.insert (cache_key epoch row) row := by
  simp only [cache_row, Except.bind_eq_ok_iff, Except.refuse_eq_ok_iff, Except.ok.injEq]
  constructor
  · rintro ⟨_, hstored, rfl⟩
    refine ⟨fun stored hget => ?_, rfl⟩
    by_contra hne
    exact hstored ⟨stored, hget, hne⟩
  · rintro ⟨hstored, rfl⟩
    exact ⟨(), fun ⟨stored, hget, hne⟩ => hne (hstored stored hget), rfl⟩

/-- The cache only grows, and afterwards holds every row of the window. -/
theorem foldlM_cache_row_eq_ok {epoch : UInt64} {rows : List (SubscriptionRow V)}
    {records next : BTreeMap String (SubscriptionRow V)}
    (hloop : rows.foldlM (cache_row epoch) records = .ok next) :
    (∀ (key : String) row, records[key]? = some row → next[key]? = some row) ∧
      ∀ row ∈ rows, next[cache_key epoch row]? = some row := by
  induction rows generalizing records with
  | nil =>
    cases hloop
    exact ⟨fun _ _ h => h, by simp⟩
  | cons row rows ih =>
    obtain ⟨middle, hrow, hrest⟩ := Except.foldlM_cons_eq_ok_iff.mp hloop
    obtain ⟨hstored, rfl⟩ := cache_row_eq_ok_iff.mp hrow
    obtain ⟨hgrows, hrows⟩ := ih hrest
    refine ⟨fun key other hother => hgrows key other ?_, ?_⟩
    · rw [ExtTreeMap.getElem?_insert]
      split
      · rename_i hkey
        rw [LawfulEqOrd.eq_of_compare hkey] at hstored
        rw [hstored other hother]
      · exact hother
    · refine List.forall_mem_cons.mpr ⟨hgrows _ row ?_, hrows⟩
      exact ExtTreeMap.getElem?_insert_self

/-- The loop succeeds when no stored row disagrees and no two of its rows share a
key. -/
theorem foldlM_cache_row_succeeds {epoch : UInt64} {rows : List (SubscriptionRow V)}
    {records : BTreeMap String (SubscriptionRow V)}
    (hstored : ∀ row ∈ rows, ∀ stored, records[cache_key epoch row]? = some stored → stored = row)
    (hdistinct : ∀ row ∈ rows, ∀ other ∈ rows, cache_key epoch row = cache_key epoch other → row = other) :
    ∃ next, rows.foldlM (cache_row epoch) records = .ok next := by
  induction rows generalizing records with
  | nil => exact ⟨records, rfl⟩
  | cons row rows ih =>
    have hrow := cache_row_eq_ok_iff.mpr ⟨hstored row List.mem_cons_self, rfl⟩
    have hrest : ∃ next,
        rows.foldlM (cache_row epoch) (records.insert (cache_key epoch row) row) = .ok next := by
      apply ih
      · intro other hother stored hget
        rw [ExtTreeMap.getElem?_insert] at hget
        split at hget
        · rename_i hkey
          cases hget
          exact hdistinct row List.mem_cons_self other (List.mem_cons_of_mem _ hother)
            (LawfulEqOrd.eq_of_compare hkey)
        · exact hstored other (List.mem_cons_of_mem _ hother) stored hget
      · intro one hone other hother
        exact hdistinct one (List.mem_cons_of_mem _ hone) other (List.mem_cons_of_mem _ hother)
    obtain ⟨next, hnext⟩ := hrest
    exact ⟨next, Except.foldlM_cons_eq_ok_iff.mpr ⟨_, hrow, hnext⟩⟩

end surrealdb_sync_client
