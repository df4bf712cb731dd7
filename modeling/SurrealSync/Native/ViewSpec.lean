import SurrealSync.Basic.Within
import SurrealSync.Native.View

open Std Except
open surrealdb_sync_protocol surrealdb_sync_client
open surrealdb_rn_core.sync_read (NativeSyncError)

namespace surrealdb_rn_core.sync_view

variable {F : Type}

/-- The result of a read that may only run out of its budget. -/
abbrev Charged {α : Type} (P : α → Prop) (x : Except NativeSyncError α) : Prop :=
  Except.Within .ReadOutputTooLarge P x

theorem visit_charged (work : Work) (operation : Bool) : Charged (fun _ => True) (work.visit operation) :=
  (Within.refuse _).bind fun _ _ => .ok trivial

theorem bytes_charged (work : Work) (n : Nat) : Charged (fun _ => True) (work.bytes n) :=
  (Within.refuse _).bind fun _ _ => .ok trivial

theorem value_charged (value : serde_json.Value F) (work : Work) (depth : Nat) :
    Charged (fun _ => True) (work.value depth value) := by
  induction value generalizing work depth with
  | Null =>
    rw [Work.value]
    exact (Within.refuse _).bind fun _ _ => bytes_charged _ _
  | Bool value =>
    rw [Work.value]
    exact (Within.refuse _).bind fun _ _ => bytes_charged _ _
  | Number value =>
    rw [Work.value]
    exact (Within.refuse _).bind fun _ _ => bytes_charged _ _
  | String text =>
    rw [Work.value]
    exact (Within.refuse _).bind fun _ _ => bytes_charged _ _
  | Array values ih =>
    rw [Work.value]
    refine (Within.refuse _).bind fun _ _ => ?_
    suffices hvalues : ∀ work depth, Charged (fun _ => True) (Work.values work depth values) from hvalues _ _
    intro work depth
    induction values generalizing work with
    | nil =>
      rw [Work.values]
      exact .ok trivial
    | cons value values ihs =>
      obtain ⟨hvalue, hvalues⟩ := List.forall_mem_cons.mp ih
      rw [Work.values]
      exact (hvalue work depth).bind fun work _ => ihs hvalues work
  | Object entries ih =>
    rw [Work.value]
    refine (Within.refuse _).bind fun _ _ => ?_
    suffices hentries : ∀ work depth, Charged (fun _ => True) (Work.entries work depth entries) from hentries _ _
    intro work depth
    induction entries generalizing work with
    | nil =>
      rw [Work.entries]
      exact .ok trivial
    | cons entry entries ihs =>
      obtain ⟨key, value⟩ := entry
      obtain ⟨hvalue, hentries⟩ := List.forall_mem_cons.mp ih
      rw [Work.entries]
      exact (bytes_charged _ _).bind fun work _ => (hvalue work depth).bind fun work _ => ihs hentries work

/-! ### What a selector selects -/

/-- The value at a path; tagged values are atoms. -/
def lookup_path (value : serde_json.Value F) : List String → Option (serde_json.Value F)
  | [] => some value
  | key :: path =>
    if (serde_json.get_key value "$surreal").isSome then none
    else (serde_json.get_key value key).bind fun next => lookup_path next path

theorem field_charged (path : List String) (value : serde_json.Value F) (work : Work) :
    Charged (fun found => found.1 = lookup_path value path) (field work value path) := by
  induction path generalizing value work with
  | nil => exact .ok rfl
  | cons key path ih =>
    rw [field, lookup_path]
    by_cases hatom : (serde_json.get_key value "$surreal").isSome = true
    · rw [if_pos hatom, if_pos hatom]
      exact .ok rfl
    · rw [if_neg hatom, if_neg hatom]
      refine (Within.refuse _).bind fun _ _ => ?_
      cases serde_json.get_key value key with
      | none => exact .ok rfl
      | some next => exact ih next _

/-! ### The effective rows are the visible ones -/

/-- The value a reader of the optimistic projection sees. -/
def present_value {V : Type} : OptimisticRecord V → Option V
  | .Present value _ _ => some value
  | .Deleted _ => none

/-- The records the optimistic projection shows. -/
def visible (state : DurableClientState (serde_json.Value F)) : Rows F :=
  (optimistic_projection state).filterMap fun _ record => present_value record

def overlay (rows : Rows F) : Operation (serde_json.Value F) → Rows F
  | .Upsert record_id _ value _ => rows.insert record_id value
  | .Delete record_id _ => rows.erase record_id

def confirmed_rows (rows : Rows F) (entry : RecordId × RecordState (serde_json.Value F)) : Rows F :=
  match entry.2 with
  | .Present value _ _ => rows.insert entry.1 value
  | .Absent => rows
  | .Tombstone _ => rows

theorem confirmed_entry_charged (found : Rows F × Work) (entry : RecordId × RecordState (serde_json.Value F)) :
    Charged (fun next => next.1 = confirmed_rows found.1 entry) (confirmed_entry found entry) := by
  obtain ⟨rows, work⟩ := found
  refine (visit_charged _ _).bind fun work _ => (Within.refuse _).bind fun _ _ =>
    (bytes_charged _ _).bind fun work _ => ?_
  unfold confirmed_rows
  cases entry.2 with
  | Absent => exact .ok rfl
  | Tombstone version => exact .ok rfl
  | Present value version reference => exact (value_charged value _ _).bind fun work _ => .ok rfl

theorem charge_commit_charged (work : Work) (commit : ClientCommit (serde_json.Value F)) :
    Charged (fun _ => True) (charge_commit work commit) := by
  refine (visit_charged _ _).bind fun work _ => (bytes_charged _ _).bind fun work _ =>
    (bytes_charged _ _).bind fun work _ => Within.foldlM_spend ?_ _ _
  intro work operation
  refine (visit_charged _ _).bind fun work _ => (bytes_charged _ _).bind fun work _ => ?_
  cases operation with
  | Upsert record_id base_version value reference => exact value_charged value _ _
  | Delete record_id base_version => exact .ok trivial

theorem overlay_operation_charged (found : Rows F × Work) (operation : Operation (serde_json.Value F)) :
    Charged (fun next => next.1 = overlay found.1 operation) (overlay_operation found operation) := by
  obtain ⟨rows, work⟩ := found
  refine (visit_charged _ _).bind fun work _ => ?_
  cases operation with
  | Upsert record_id base_version value reference => exact .ok rfl
  | Delete record_id base_version => exact .ok rfl

/-- Each operation keeps the rows and the projection in step: a deletion removes the row
where the projection keeps a tombstone. -/
theorem present_apply_operation (projection : BTreeMap RecordId (OptimisticRecord (serde_json.Value F)))
    (operation : Operation (serde_json.Value F)) :
    (apply_operation projection operation).filterMap (fun _ record => present_value record) =
      overlay (projection.filterMap fun _ record => present_value record) operation := by
  apply ExtTreeMap.ext_getElem?
  intro id
  cases operation with
  | Upsert record_id base_version value reference =>
    simp only [apply_operation, overlay, ExtTreeMap.getElem?_filterMap', ExtTreeMap.getElem?_insert]
    split
    · rfl
    · rfl
  | Delete record_id base_version =>
    simp only [apply_operation, overlay, ExtTreeMap.getElem?_filterMap', ExtTreeMap.getElem?_insert,
      ExtTreeMap.getElem?_erase]
    split
    · rfl
    · rfl

theorem foldl_overlay_present (operations : List (Operation (serde_json.Value F)))
    (projection : BTreeMap RecordId (OptimisticRecord (serde_json.Value F))) :
    operations.foldl overlay (projection.filterMap fun _ record => present_value record) =
      (operations.foldl apply_operation projection).filterMap fun _ record => present_value record := by
  induction operations generalizing projection with
  | nil => rfl
  | cons operation operations ih =>
    rw [List.foldl_cons, List.foldl_cons, ← present_apply_operation, ih]

/-- The value a confirmed record shows. -/
def confirmed_value {V : Type} : RecordState V → Option V
  | .Present value _ _ => some value
  | .Absent => none
  | .Tombstone _ => none

theorem getElem?_confirmed_rows (rows : Rows F) (entry : RecordId × RecordState (serde_json.Value F)) (id : RecordId) :
    (confirmed_rows rows entry)[id]? = if entry.1 = id then (confirmed_value entry.2).or rows[id]? else rows[id]? := by
  obtain ⟨key, record⟩ := entry
  cases record with
  | Absent => simp [confirmed_rows, confirmed_value]
  | Tombstone version => simp [confirmed_rows, confirmed_value]
  | Present value version reference =>
    simp only [confirmed_rows, confirmed_value, ExtTreeMap.getElem?_insert, LawfulEqOrd.compare_eq_iff_eq,
      Option.some_or]

/-- Every key is written at most once, so each entry leaves its own row. -/
theorem getElem?_foldl_confirmed_rows {entries : List (RecordId × RecordState (serde_json.Value F))}
    (hdistinct : (entries.map Prod.fst).Nodup) (rows : Rows F) (id : RecordId) :
    (∀ record, (id, record) ∈ entries →
      (entries.foldl confirmed_rows rows)[id]? = (confirmed_value record).or rows[id]?) ∧
    (id ∉ entries.map Prod.fst → (entries.foldl confirmed_rows rows)[id]? = rows[id]?) := by
  induction entries generalizing rows with
  | nil => simp
  | cons entry entries ih =>
    obtain ⟨hfresh, hdistinct⟩ := List.nodup_cons.mp hdistinct
    obtain ⟨hfound, hother⟩ := ih hdistinct (confirmed_rows rows entry)
    rw [List.foldl_cons]
    refine ⟨fun record hmem => ?_, fun hid => ?_⟩
    · rcases List.mem_cons.mp hmem with rfl | hmem
      · rw [hother hfresh, getElem?_confirmed_rows, if_pos rfl]
      · have hne : entry.1 ≠ id := fun heq => hfresh (heq ▸ List.mem_map.mpr ⟨_, hmem, rfl⟩)
        rw [hfound record hmem, getElem?_confirmed_rows, if_neg hne]
    · rw [List.map_cons, List.mem_cons, not_or] at hid
      rw [hother hid.2, getElem?_confirmed_rows, if_neg fun heq => hid.1 heq.symm]

theorem foldl_confirmed_rows (confirmed : BTreeMap RecordId (RecordState (serde_json.Value F))) :
    confirmed.toList.foldl confirmed_rows ∅ =
      (confirmed.filterMap fun _ record => confirmed_projection record).filterMap
        fun _ record => present_value record := by
  apply ExtTreeMap.ext_getElem?
  intro id
  obtain ⟨hfound, hother⟩ := getElem?_foldl_confirmed_rows (BTreeMap.nodup_keys confirmed) ∅ id
  rw [ExtTreeMap.getElem?_filterMap', ExtTreeMap.getElem?_filterMap']
  cases hget : confirmed[id]? with
  | none =>
    rw [getElem?_eq_none_iff, ← BTreeMap.mem_map_fst_toList_iff] at hget
    rw [hother hget, ExtTreeMap.getElem?_empty]
    rfl
  | some record =>
    rw [hfound record (ExtTreeMap.mem_toList_iff_getElem?_eq_some.mpr hget), ExtTreeMap.getElem?_empty,
      Option.or_none]
    cases record with
    | Absent => rfl
    | Present value version reference => rfl
    | Tombstone version => rfl

variable [DecidableEq F]

mutual

/-- Whether a value satisfies a selector. -/
def selects (selector : Selector F) (value : serde_json.Value F) : Bool :=
  match selector with
  | .All => true
  | .Eq path wanted => (lookup_path value path).any fun found => serde_json.is_scalar found && found = wanted
  | .And terms => selects_all terms value

def selects_all (terms : List (Selector F)) (value : serde_json.Value F) : Bool :=
  match terms with
  | [] => true
  | term :: terms => selects term value && selects_all terms value

end

mutual

theorem matches_charged (selector : Selector F) (value : serde_json.Value F) (work : Work) :
    Charged (fun found => found.1 = selects selector value) (matches_selector selector value work) := by
  cases selector with
  | All =>
    rw [matches_selector, selects]
    exact .ok rfl
  | Eq path wanted =>
    rw [matches_selector, selects]
    refine (field_charged path value work).bind ?_
    rintro ⟨item, work⟩ rfl
    exact .ok rfl
  | And terms =>
    rw [matches_selector, selects]
    exact matches_terms_charged terms value work

theorem matches_terms_charged (terms : List (Selector F)) (value : serde_json.Value F) (work : Work) :
    Charged (fun found => found.1 = selects_all terms value) (matches_terms terms value work) := by
  cases terms with
  | nil =>
    rw [matches_terms, selects_all]
    exact .ok rfl
  | cons term terms =>
    rw [matches_terms, selects_all]
    refine (matches_charged term value work).bind ?_
    rintro ⟨matched, work⟩ hmatched
    change matched = selects term value at hmatched
    rw [← hmatched]
    cases matched with
    | true => exact matches_terms_charged terms value work
    | false => exact .ok rfl

end

/-- The borrowed overlay and the projection show the same records. -/
theorem effective_charged (runtime : ClientRuntime (serde_json.Value F)) (work : Work) :
    Charged (fun found => found.1 = visible runtime.state) (effective runtime work) := by
  refine (Within.foldlM confirmed_entry_charged _ _).bind ?_
  rintro ⟨rows, work⟩ hrows
  refine (Within.foldlM_spend charge_commit_charged _ _).bind fun work _ => ?_
  refine (Within.foldlM_spend (fun work _ => visit_charged work true) _ _).bind fun work _ => ?_
  refine (Within.foldlM overlay_operation_charged _ _).mono fun found hfound => ?_
  rw [hfound, visible, optimistic_projection, ← foldl_overlay_present, ← foldl_confirmed_rows]
  change rows = _ at hrows
  rw [hrows]

end surrealdb_rn_core.sync_view
