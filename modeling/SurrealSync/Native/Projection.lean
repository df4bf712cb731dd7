import SurrealSync.Native.Tables

open Std Except
open surrealdb_sync_protocol surrealdb_sync_client

namespace surrealdb_rn_core.sync_state

variable {V C S : Type} [DecidableEq V] {native : NativeRecords V C}

/-! ### The statements of a transition -/

/-- The private tables that `native_record_id` knows. -/
def GUARDED_TABLES : List String :=
  ["_sync_client_state", "_sync_client_meta", ComponentTable.Confirmed.name, ComponentTable.Outbox.name,
    ComponentTable.Outcome.name, ComponentTable.IdMap.name]

/-- The private tables that it does not know. -/
def UNGUARDED_TABLES : List String := [ComponentTable.SubscriptionRecord.name, "_sync_client_scope_barrier"]

theorem mem_JOURNAL_TABLES_iff {table : String} :
    table ∈ JOURNAL_TABLES ↔ table ∈ GUARDED_TABLES ∨ table ∈ UNGUARDED_TABLES := by
  rw [← List.mem_append]
  rfl

omit [DecidableEq V] in
theorem native_record_id_eq_ok_iff {record_id : RecordId} {native_id : String × String} :
    native_record_id native record_id = .ok native_id ↔
      record_id.val.utf8ByteSize ≤ MAX_RECORD_ID_BYTES ∧ native.parse_simple record_id.val = some native_id ∧
        native_id.1 ∉ GUARDED_TABLES := by
  simp only [native_record_id, bind_eq_ok_iff, refuse_eq_ok_iff, okOr_eq_ok_iff, pure, Except.pure, ok.injEq, gt_iff_lt,
    Nat.not_lt]
  constructor
  · rintro ⟨_, hlength, _, hparse, _, hguarded, rfl⟩
    exact ⟨hlength, hparse, hguarded⟩
  · rintro ⟨hlength, hparse, hguarded⟩
    exact ⟨(), hlength, native_id, hparse, (), hguarded, rfl⟩

/-- What a statement does to its record: the content it leaves, if any. -/
def Write.content : Write C → Option C
  | .upsert _ content => some content
  | .delete _ => none

/-- What the projection shows of a record, as the database would hold it. -/
def Shows (native : NativeRecords V C) (projection : Projection V) (record_id : RecordId) (content : Option C) : Prop :=
  match projection[record_id]? with
  | some (.Present value _ _) => ∃ shown, native.content value = .ok shown ∧ content = some shown
  | some (.Deleted _) => content = none
  | none => content = none

/-- A statement is needed exactly for a record that changes, and leaves what the next projection shows. -/
theorem projection_write_eq_ok_iff {current next : Projection V} {record_id : RecordId} {write : Write C} :
    projection_write native current next record_id = .ok (some write) ↔
      current[record_id]? ≠ next[record_id]? ∧ native_record_id native record_id = .ok write.native_id ∧
        Shows native next record_id write.content := by
  unfold projection_write Shows
  split
  · rename_i hsame
    simp [hsame]
  · rename_i hchanged
    generalize next[record_id]? = shown at hchanged ⊢
    rw [bind_eq_ok_iff]
    constructor
    · rintro ⟨native_id, hnative, hwrite⟩
      refine ⟨hchanged, ?_⟩
      match shown with
      | some (.Present value _ _) =>
        obtain ⟨content, hcontent, hupsert⟩ := bind_eq_ok_iff.mp hwrite
        cases hupsert
        exact ⟨hnative, content, hcontent, rfl⟩
      | some (.Deleted _) =>
        cases hwrite
        exact ⟨hnative, rfl⟩
      | none =>
        cases hwrite
        exact ⟨hnative, rfl⟩
    · rintro ⟨_, hnative, hshows⟩
      refine ⟨write.native_id, hnative, ?_⟩
      match shown, write with
      | some (.Present value _ _), .upsert native_id other =>
        obtain ⟨content, hcontent, hleaves⟩ := hshows
        cases hleaves
        exact bind_eq_ok_iff.mpr ⟨other, hcontent, rfl⟩
      | some (.Present value _ _), .delete native_id =>
        obtain ⟨_, _, hleaves⟩ := hshows
        cases hleaves
      | some (.Deleted _), .upsert native_id other => cases hshows
      | some (.Deleted _), .delete native_id => rfl
      | none, .upsert native_id other => cases hshows
      | none, .delete native_id => rfl

/-- A record of the transition that the application or the server has put into a private table: it changes, its
id is one that the store takes, and it has a content to write, or none. -/
def Intrudes (native : NativeRecords V C) (current next : Projection V) (record_id : RecordId) : Prop :=
  current[record_id]? ≠ next[record_id]? ∧ record_id.val.utf8ByteSize ≤ MAX_RECORD_ID_BYTES ∧
    (∃ native_id, native.parse_simple record_id.val = some native_id ∧ native_id.1 ∈ UNGUARDED_TABLES) ∧
    ∃ content, Shows native next record_id content

/-- The table and the key of a record id, before and after its first colon. -/
def split_record_id (record_id : String) : Option (String × String) :=
  match record_id.toList.span (· ≠ ':') with
  | (table, ':' :: key) => some (String.ofList table, String.ofList key)
  | _ => none

/-- Objects of strings, and a schema that only asks for a reason in the table of the scope barriers. -/
def plain_records : NativeRecords (List (String × String)) (List (String × String)) where
  parse_simple := split_record_id
  content value := .ok value
  schema table content := table ≠ "_sync_client_scope_barrier" ∨ "reason" ∈ content.map Prod.fst
  component_row _ := none

/-- The records that the database holds are the ones the projection shows, among the ids in use. -/
structure Mirrors (native : NativeRecords V C) (used : RecordId → Prop) (projection : Projection V)
    (db : Database C S) : Prop where
  known : ∀ record_id ∈ projection, used record_id
  supported : ∀ record_id value base_version reference,
    projection[record_id]? = some (.Present value base_version reference) →
    ∃ native_id, native_record_id native record_id = .ok native_id
  shows : ∀ record_id native_id, used record_id → native_record_id native record_id = .ok native_id →
    Shows native projection record_id db.records[[native_id.1, native_id.2]]?

/-- `native_record_id` does not put two of the ids in use into one place. -/
def InjectiveOn (native : NativeRecords V C) (used : RecordId → Prop) : Prop :=
  ∀ first second native_id, used first → used second → native_record_id native first = .ok native_id →
    native_record_id native second = .ok native_id → first = second

omit [DecidableEq V] in
theorem Write.perform_eq_ok_iff {write : Write C} {db next : Database C S} :
    write.perform native db = .ok next ↔
      (∀ content, write.content = some content → native.schema write.native_id.1 content) ∧
        next = { db with records := match write.content with
          | some content => db.records.insert [write.native_id.1, write.native_id.2] content
          | none => db.records.erase [write.native_id.1, write.native_id.2] } := by
  cases write with
  | upsert native_id content =>
    simp only [Write.perform, bind_eq_ok_iff, refuse_eq_ok_iff, pure, Except.pure, ok.injEq, Write.content,
      Write.native_id, Option.some.injEq, forall_eq', not_not]
    constructor
    · rintro ⟨_, hschema, rfl⟩
      exact ⟨hschema, rfl⟩
    · rintro ⟨hschema, rfl⟩
      exact ⟨(), hschema, rfl⟩
  | delete native_id =>
    simp only [Write.perform, Write.content, Write.native_id, reduceCtorEq, false_implies, implies_true, true_and,
      ok.injEq]
    exact eq_comm

omit [DecidableEq V] in
/-- A performed statement leaves its content at its own place, and every other place as it was. -/
theorem Write.getElem?_of_perform {write : Write C} {db next : Database C S} (hperform : write.perform native db = .ok next)
    (native_id : String × String) :
    next.records[[native_id.1, native_id.2]]? =
      if native_id = write.native_id then write.content else db.records[[native_id.1, native_id.2]]? := by
  obtain ⟨_, rfl⟩ := Write.perform_eq_ok_iff.mp hperform
  by_cases hsame : native_id = write.native_id
  · rw [if_pos hsame, hsame]
    cases write.content <;> simp
  · rw [if_neg hsame]
    have hplace : ([native_id.1, native_id.2] : List String) ≠ [write.native_id.1, write.native_id.2] := by
      simpa [Prod.ext_iff] using hsame
    cases write.content with
    | some content => exact BTreeMap.getElem?_insert_of_ne hplace
    | none => exact BTreeMap.getElem?_erase_of_ne hplace

/-- Nothing but the records differs. -/
def SameJournal (db next : Database C S) : Prop := next = { db with records := next.records }

theorem SameJournal.trans {first second third : Database C S} (hfirst : SameJournal first second)
    (hsecond : SameJournal second third) : SameJournal first third := by
  unfold SameJournal at *
  rw [hsecond]
  rw [hfirst]

theorem apply_projection_record_eq_ok {current next : Projection V} {record_id : RecordId} {db after : Database C S}
    (happly : apply_projection_record native current next db record_id = .ok after) :
    (current[record_id]? = next[record_id]? ∧ after = db) ∨
      ∃ write, current[record_id]? ≠ next[record_id]? ∧ native_record_id native record_id = .ok write.native_id ∧
        Shows native next record_id write.content ∧ Write.perform native write db = .ok after := by
  obtain ⟨write, hwrite, hperform⟩ := bind_eq_ok_iff.mp happly
  cases write with
  | some write =>
    obtain ⟨hchanged, hnative, hshows⟩ := projection_write_eq_ok_iff.mp hwrite
    exact .inr ⟨write, hchanged, hnative, hshows, hperform⟩
  | none =>
    cases hperform
    refine .inl ⟨?_, rfl⟩
    by_contra hchanged
    unfold projection_write at hwrite
    rw [if_neg hchanged] at hwrite
    obtain ⟨_, _, hwrite⟩ := bind_eq_ok_iff.mp hwrite
    split at hwrite
    · obtain ⟨_, _, hwrite⟩ := bind_eq_ok_iff.mp hwrite
      cases hwrite
    · cases hwrite
    · cases hwrite

section Diff

variable {used : RecordId → Prop} {current next : Projection V}

omit [DecidableEq V] in
theorem shows_congr {record_id : RecordId} (hsame : current[record_id]? = next[record_id]?) (content : Option C) :
    Shows native current record_id content ↔ Shows native next record_id content := by
  unfold Shows
  rw [hsame]

/-- One iteration brings its own record up to date and touches no other. -/
theorem shows_of_apply_record (hinjective : InjectiveOn native used) {record_id : RecordId} (hused : used record_id)
    {db after : Database C S} (happly : apply_projection_record native current next db record_id = .ok after) :
    SameJournal db after ∧
      (∀ native_id, native_record_id native record_id = .ok native_id →
        (Shows native current record_id db.records[[native_id.1, native_id.2]]? ∨
          Shows native next record_id db.records[[native_id.1, native_id.2]]?) →
        Shows native next record_id after.records[[native_id.1, native_id.2]]?) ∧
      ∀ other native_id, used other → other ≠ record_id → native_record_id native other = .ok native_id →
        after.records[[native_id.1, native_id.2]]? = db.records[[native_id.1, native_id.2]]? := by
  obtain ⟨hsame, rfl⟩ | ⟨write, _, hwritten, hleaves, hperform⟩ := apply_projection_record_eq_ok happly
  · refine ⟨rfl, ?_, fun _ _ _ _ _ => rfl⟩
    rintro native_id _ (hshows | hshows)
    · exact (shows_congr hsame _).mp hshows
    · exact hshows
  · refine ⟨?_, ?_, ?_⟩
    · obtain ⟨_, rfl⟩ := Write.perform_eq_ok_iff.mp hperform
      rfl
    · intro native_id hnative _
      rw [hwritten] at hnative
      cases hnative
      rw [Write.getElem?_of_perform hperform, if_pos rfl]
      exact hleaves
    · intro other native_id hother hne hnative
      rw [Write.getElem?_of_perform hperform, if_neg]
      rintro rfl
      exact hne (hinjective other record_id _ hother hused hnative hwritten)

/-- The loop over the records: those it has passed are up to date, the others as they were. -/
theorem shows_of_apply_records (hinjective : InjectiveOn native used) {record_ids : List RecordId}
    (hused : ∀ record_id ∈ record_ids, used record_id) {db after : Database C S}
    (happly : record_ids.foldlM (apply_projection_record native current next) db = .ok after) :
    SameJournal db after ∧
      (∀ record_id ∈ record_ids, ∀ native_id, native_record_id native record_id = .ok native_id →
        (Shows native current record_id db.records[[native_id.1, native_id.2]]? ∨
          Shows native next record_id db.records[[native_id.1, native_id.2]]?) →
        Shows native next record_id after.records[[native_id.1, native_id.2]]?) ∧
      ∀ other native_id, used other → other ∉ record_ids → native_record_id native other = .ok native_id →
        after.records[[native_id.1, native_id.2]]? = db.records[[native_id.1, native_id.2]]? := by
  induction record_ids generalizing db with
  | nil =>
    cases happly
    exact ⟨rfl, by simp, fun _ _ _ _ _ => rfl⟩
  | cons first record_ids ih =>
    rw [List.foldlM_cons] at happly
    obtain ⟨between, hfirst, hrest⟩ := bind_eq_ok_iff.mp happly
    obtain ⟨hfirstUsed, hrestUsed⟩ := List.forall_mem_cons.mp hused
    obtain ⟨hjournal, hself, hothers⟩ := shows_of_apply_record hinjective hfirstUsed hfirst
    obtain ⟨hrestJournal, hrestSelf, hrestOthers⟩ := ih hrestUsed hrest
    refine ⟨hjournal.trans hrestJournal, ?_, ?_⟩
    · intro record_id hmem native_id hnative hshows
      have hrecordUsed := hused record_id hmem
      -- an id may come up again, and then it is up to date already
      by_cases hsame : record_id = first
      · subst hsame
        have hnext := hself native_id hnative hshows
        by_cases hagain : record_id ∈ record_ids
        · exact hrestSelf record_id hagain native_id hnative (.inr hnext)
        · rw [hrestOthers record_id native_id hrecordUsed hagain hnative]
          exact hnext
      · have hlater : record_id ∈ record_ids := (List.mem_cons.mp hmem).resolve_left hsame
        apply hrestSelf record_id hlater native_id hnative
        rwa [hothers record_id native_id hrecordUsed hsame hnative]
    · intro other native_id hother hmem hnative
      rw [List.mem_cons, not_or] at hmem
      rw [hrestOthers other native_id hother hmem.2 hnative, hothers other native_id hother hmem.1 hnative]

omit [DecidableEq V] in
theorem mem_projected_ids {record_id : RecordId} :
    record_id ∈ projected_ids current next ↔ record_id ∈ current ∨ record_id ∈ next := by
  simp [projected_ids]

omit [DecidableEq V] in
theorem mem_projected_ids_of_changed {record_id : RecordId} (hchanged : current[record_id]? ≠ next[record_id]?) :
    record_id ∈ projected_ids current next := by
  rw [mem_projected_ids]
  by_contra hmem
  rw [not_or] at hmem
  rw [ExtTreeMap.getElem?_eq_none hmem.1, ExtTreeMap.getElem?_eq_none hmem.2] at hchanged
  exact hchanged rfl

/-- Every record that changes has an id that the store takes. -/
theorem supported_of_apply_records {record_ids : List RecordId} {db after : Database C S}
    (happly : record_ids.foldlM (apply_projection_record native current next) db = .ok after) :
    ∀ record_id ∈ record_ids, current[record_id]? ≠ next[record_id]? →
      ∃ native_id, native_record_id native record_id = .ok native_id := by
  induction record_ids generalizing db with
  | nil => simp
  | cons first record_ids ih =>
    rw [List.foldlM_cons] at happly
    obtain ⟨between, hfirst, hrest⟩ := bind_eq_ok_iff.mp happly
    intro record_id hmem hchanged
    rcases List.mem_cons.mp hmem with rfl | hlater
    · obtain ⟨hsame, _⟩ | ⟨write, _, hwritten, _⟩ := apply_projection_record_eq_ok hfirst
      · exact absurd hsame hchanged
      · exact ⟨write.native_id, hwritten⟩
    · exact ih hrest record_id hlater hchanged

/-- Applying the difference of two projections turns the records of one into those of the other, and leaves the
journal alone. -/
theorem mirrors_of_apply_projection_diff (hinjective : InjectiveOn native used) {db after : Database C S}
    (hmirrors : Mirrors native used current db) (hknown : ∀ record_id ∈ next, used record_id)
    (happly : apply_projection_diff native current next db = .ok after) :
    SameJournal db after ∧ Mirrors native used next after := by
  have hused : ∀ record_id ∈ projected_ids current next, used record_id := by
    intro record_id hmem
    rcases mem_projected_ids.mp hmem with hcurrent | hnext
    · exact hmirrors.known record_id hcurrent
    · exact hknown record_id hnext
  obtain ⟨hjournal, hself, hothers⟩ := shows_of_apply_records hinjective hused happly
  refine ⟨hjournal, hknown, ?_, ?_⟩
  · intro record_id value base_version reference hpresent
    by_cases hchanged : current[record_id]? = next[record_id]?
    · exact hmirrors.supported record_id value base_version reference (hchanged.trans hpresent)
    · exact supported_of_apply_records happly record_id (mem_projected_ids_of_changed hchanged) hchanged
  · intro record_id native_id hrecord hnative
    have hshows := hmirrors.shows record_id native_id hrecord hnative
    by_cases hmem : record_id ∈ projected_ids current next
    · exact hself record_id hmem native_id hnative (.inl hshows)
    · have hsame : current[record_id]? = next[record_id]? := by
        by_contra hchanged
        exact hmem (mem_projected_ids_of_changed hchanged)
      rw [hothers record_id native_id hrecord hmem hnative]
      exact (shows_congr hsame _).mp hshows

end Diff

end surrealdb_rn_core.sync_state
