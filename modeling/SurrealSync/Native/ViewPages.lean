import SurrealSync.Basic.Sorted
import SurrealSync.Client.Session
import SurrealSync.Native.ViewSpec

open Std Except
open surrealdb_sync_protocol surrealdb_sync_client
open surrealdb_rn_core.sync_read (NativeSyncError)

namespace surrealdb_rn_core.sync_view

variable {F : Type} [DecidableEq F]

abbrev Entry (F : Type) := RecordId × serde_json.Value F

theorem count_rows_charged (selector : Selector F) (entries : List (Entry F)) (count : Nat) (work : Work) :
    Charged (fun found => found.1 = count + (entries.filter fun entry => selects selector entry.2).length)
      (count_rows selector entries count work) := by
  induction entries generalizing count work with
  | nil => exact .ok rfl
  | cons entry entries ih =>
    obtain ⟨id, value⟩ := entry
    rw [count_rows]
    refine (visit_charged _ _).bind fun work _ => (matches_charged selector value work).bind ?_
    rintro ⟨matched, work⟩ hmatched
    change matched = selects selector value at hmatched
    refine (ih _ work).mono fun found hfound => ?_
    rw [hfound, hmatched, List.filter_cons]
    by_cases hselects : selects selector value = true
    · rw [if_pos hselects, if_pos hselects, List.length_cons]
      omega
    · rw [if_neg hselects, if_neg hselects]

/-- The records a page may show: those after the cursor that the selector selects. -/
def remaining (selector : Selector F) (after : Option String) (entries : List (Entry F)) : List (Entry F) :=
  entries.filter fun entry => !after.any (at_or_before entry.1) && selects selector entry.2

theorem select_rows_charged (selector : Selector F) (after : Option String) (limit : Nat) (entries : List (Entry F))
    (selected : List (Entry F)) (hroom : selected.length ≤ limit) (work : Work) :
    Charged (fun found =>
        found.1 = selected ++ (remaining selector after entries).take (limit - selected.length) ∧
        found.2.1 = decide (limit - selected.length < (remaining selector after entries).length))
      (select_rows selector after limit entries selected work) := by
  induction entries generalizing selected work with
  | nil => exact .ok ⟨by simp [remaining], by simp [remaining]⟩
  | cons entry entries ih =>
    obtain ⟨id, value⟩ := entry
    rw [select_rows]
    refine (visit_charged _ _).bind fun work _ => ?_
    by_cases hearlier : after.any (at_or_before id) = true
    · rw [if_pos hearlier]
      have hskip : remaining selector after ((id, value) :: entries) = remaining selector after entries := by
        simp [remaining, hearlier]
      rw [hskip]
      exact ih selected hroom work
    · rw [if_neg hearlier]
      refine (matches_charged selector value work).bind ?_
      rintro ⟨matched, work⟩ hmatched
      change matched = selects selector value at hmatched
      by_cases hselects : selects selector value = true
      · have htake : remaining selector after ((id, value) :: entries) =
            (id, value) :: remaining selector after entries := by
          simp [remaining, hearlier, hselects]
        simp only [hmatched, hselects, if_true, htake]
        by_cases hfull : selected.length = limit
        · rw [if_pos hfull]
          refine .ok ⟨?_, ?_⟩
          · simp [hfull]
          · simp [hfull]
        · rw [if_neg hfull]
          have hone : limit - selected.length = (limit - (selected ++ [(id, value)]).length) + 1 := by
            rw [List.length_append, List.length_singleton]
            omega
          refine (ih (selected ++ [(id, value)]) ?_ work).mono fun found hfound => ?_
          · rw [List.length_append, List.length_singleton]
            omega
          · rw [hfound.1, hfound.2, hone, List.take_succ_cons, List.length_cons, List.append_assoc]
            refine ⟨rfl, ?_⟩
            simp
      · have hskip : remaining selector after ((id, value) :: entries) = remaining selector after entries := by
          simp [remaining, hselects]
        rw [hskip]
        simp only [hmatched, hselects]
        exact ih selected hroom work

theorem summaries_charged (runtime : ClientRuntime (serde_json.Value F)) (ids : List RecordId) (work : Work) :
    Charged (fun _ => True) (summaries runtime ids work) := by
  refine (Within.foldlM_spend ?_ _ _).bind fun found _ => Within.foldlM_spend ?_ _ _
  · intro found commit
    refine (visit_charged _ _).bind fun work _ => Within.foldlM_spend ?_ _ _
    rintro ⟨rows, work⟩ operation
    refine (visit_charged _ _).bind fun work _ => ?_
    cases rows[operation.record_id]? with
    | none => exact .ok trivial
    | some row => exact (bytes_charged _ _).bind fun work _ => .ok trivial
  · intro found resolved
    refine (visit_charged _ _).bind fun work _ => Within.foldlM_spend ?_ _ _
    rintro ⟨rows, work⟩ operation
    refine (visit_charged _ _).bind fun work _ => ?_
    cases rows[operation.record_id]? with
    | none => exact .ok trivial
    | some row =>
      refine (bytes_charged _ _).bind fun work _ => ?_
      cases replacement_of resolved.resolution with
      | none => exact .ok trivial
      | some replacement => exact (bytes_charged _ _).bind fun work _ => .ok trivial

/-- The fields of a row, path by path. -/
def projected (projection : List (List String)) (value : serde_json.Value F) : List (Field F) :=
  projection.map fun path => ⟨path, lookup_path value path⟩

omit [DecidableEq F] in
theorem foldl_append_map {α β : Type} (f : α → β) (l : List α) (found : List β) :
    l.foldl (fun found a => found ++ [f a]) found = found ++ l.map f := by
  induction l generalizing found with
  | nil => simp
  | cons a l ih => rw [List.foldl_cons, ih, List.map_cons, List.append_assoc, List.singleton_append]

omit [DecidableEq F] in
theorem project_charged (projection : List (List String)) (value : serde_json.Value F) (work : Work) :
    Charged (fun found => found.1 = projected projection value)
      (projection.foldlM (project_path value) ([], work)) := by
  have hstep : ∀ (found : List (Field F) × Work) path,
      Charged (fun next => next.1 = found.1 ++ [⟨path, lookup_path value path⟩]) (project_path value found path) := by
    intro found path
    refine (field_charged path value _).bind ?_
    rintro ⟨item, work⟩ hitem
    change item = _ at hitem
    subst hitem
    cases lookup_path value path with
    | none => exact .ok rfl
    | some shown => exact (value_charged shown _ _).bind fun work _ => .ok rfl
  refine (@Within.foldlM _ _ _ _ _ _ (fun fields path => fields ++ [⟨path, lookup_path value path⟩]) hstep projection
    ([], work)).mono fun found hfound => ?_
  rw [hfound, foldl_append_map fun path => (⟨path, lookup_path value path⟩ : Field F), List.nil_append, projected]

/-- What a row shows of a record: its id and the projected fields. -/
def Row.shown (row : Row F) : RecordId × List (Field F) := (row.record_id, row.fields)

omit [DecidableEq F] in
theorem project_rows_charged (projection : List (List String)) (summary : Summaries) (selected : List (Entry F))
    (found : List (Row F) × Work) :
    Charged (fun next => next.1.map Row.shown =
        found.1.map Row.shown ++ selected.map fun entry => (entry.1, projected projection entry.2))
      (selected.foldlM (project_row projection summary) found) := by
  induction selected generalizing found with
  | nil => exact .ok (by simp)
  | cons entry selected ih =>
    rw [List.foldlM_cons]
    have hrow : Charged (fun next => next.1.map Row.shown =
        found.1.map Row.shown ++ [(entry.1, projected projection entry.2)])
        (project_row projection summary found entry) := by
      refine (project_charged projection entry.2 _).bind ?_
      rintro ⟨fields, work⟩ hfields
      change fields = _ at hfields
      exact .ok (by simp [Row.shown, hfields])
    refine hrow.bind fun next hnext => (ih next).mono fun last hlast => ?_
    rw [hlast, hnext, List.map_cons, List.append_assoc, List.singleton_append]

/-- The cursor that a page ending with a record issues. -/
def issued (runtime : ClientRuntime (serde_json.Value F)) (journal : ViewJournal) (token query : String)
    (last : RecordId) : Cursor F where
  token
  process_epoch := journal.view_epoch
  revision := runtime.state.revision.to_string
  scope := scope_wire runtime.read_metadata.scope
  query
  last_record_id := last.val

/-- The cursor a page hands out: none when nothing follows, else one at its last record. -/
def Continues (serde : Serde F) (runtime : ClientRuntime (serde_json.Value F)) (journal : ViewJournal)
    (token query : String) (selected : List (Entry F)) (has_more : Bool) (cursor : Option String) : Prop :=
  match cursor with
  | none => has_more = false
  | some text => has_more = true ∧ text.utf8ByteSize ≤ 8192 ∧
    ∃ last, selected.getLast? = some last ∧ text = (issued runtime journal token query last.1).to_string serde

theorem next_cursor_charged (serde : Serde F) (runtime : ClientRuntime (serde_json.Value F)) (journal : ViewJournal)
    (token query : String) {selected : List (Entry F)} {has_more : Bool}
    (hnonempty : has_more = true → selected ≠ []) :
    Charged (Continues serde runtime journal token query selected has_more)
      (next_cursor serde runtime journal token query selected has_more) := by
  cases has_more with
  | false => exact .ok rfl
  | true =>
    obtain ⟨last, hlast⟩ : ∃ last, selected.getLast? = some last :=
      Option.ne_none_iff_exists'.mp fun hnone => hnonempty rfl (List.getLast?_eq_none_iff.mp hnone)
    simp only [next_cursor, if_true, hlast, Except.okOr, Except.ok_bind]
    refine (Within.refuse _).bind fun _ hfits => .ok ?_
    exact ⟨rfl, Nat.not_lt.mp hfits, last, hlast, rfl⟩

/-- What the answer to a page request shows. -/
structure PageShown (serde : Serde F) (runtime : ClientRuntime (serde_json.Value F)) (journal : ViewJournal)
    (token query : String) (after : Option String) (selector : Selector F) (projection : List (List String))
    (limit : UInt32) (rows : List (Row F)) (cursor : Option String) : Prop where
  rows : rows.map Row.shown =
    ((remaining selector after (visible runtime.state).toList).take limit.toNat).map
      fun entry => (entry.1, projected projection entry.2)
  cursor : Continues serde runtime journal token query
    ((remaining selector after (visible runtime.state).toList).take limit.toNat)
    (decide (limit.toNat < (remaining selector after (visible runtime.state).toList).length)) cursor

theorem read_page_charged (serde : Serde F) (runtime : ClientRuntime (serde_json.Value F)) (journal : ViewJournal)
    (token query : String) (after : Option String) (selector : Selector F) (projection : List (List String))
    {limit : UInt32} (hlimit : 1 ≤ limit) :
    Charged (fun response => ∃ rows cursor work, response = .page rows cursor runtime.read_metadata work ∧
        PageShown serde runtime journal token query after selector projection limit rows cursor)
      (read_page serde runtime journal token query after selector projection limit) := by
  refine (effective_charged runtime _).bind ?_
  rintro ⟨rows, work⟩ hrows
  change rows = _ at hrows
  subst hrows
  refine (select_rows_charged selector after limit.toNat _ [] (Nat.zero_le _) work).bind ?_
  rintro ⟨selected, has_more, work⟩ ⟨hselected, hmore⟩
  simp only [List.length_nil, Nat.sub_zero, List.nil_append] at hselected hmore
  refine (summaries_charged runtime _ work).bind ?_
  rintro ⟨summary, work⟩ _
  refine (project_rows_charged projection summary selected ([], work)).bind ?_
  rintro ⟨shown, work⟩ hshown
  have hnonempty : has_more = true → selected ≠ [] := by
    intro htrue hnil
    rw [hmore, decide_eq_true_eq] at htrue
    rw [hselected, List.take_eq_nil_iff] at hnil
    have hpositive : 1 ≤ limit.toNat := UInt32.le_iff_toNat_le.mp hlimit
    rcases hnil with hzero | hempty
    · omega
    · rw [hempty, List.length_nil] at htrue
      omega
  refine (next_cursor_charged serde runtime journal token query hnonempty).bind fun cursor hcursor => ?_
  refine .ok ⟨shown, cursor, work, rfl, ?_, ?_⟩
  · rw [hshown, ← hselected]
    simp
  · rw [← hselected, ← hmore]
    exact hcursor

/-! ### Requests -/

/-- What the checks of a page request promise, whatever its cursor. -/
structure PageAccepted (serde : Serde F) (runtime : ClientRuntime (serde_json.Value F)) (selector : Selector F)
    (projection : List (List String)) (limit : UInt32) (query : String) : Prop where
  valid : validate_selector selector = .ok ()
  texts : ¬ (runtime.state.partition_id.val.utf8ByteSize > 4096 ∨
    runtime.state.requested_scope.val.utf8ByteSize > 4096)
  rendered : ∀ cursor, query_of serde (.Page 1 selector projection limit cursor) = .ok query
  query_le : ¬ query.utf8ByteSize > 4096
  positive : 1 ≤ limit

/-- A page that was returned passed every check. -/
theorem page_of_read {serde : Serde F} {runtime : ClientRuntime (serde_json.Value F)} {journal : ViewJournal}
    {token input : String} {selector : Selector F} {projection : List (List String)} {limit : UInt32}
    {cursor : Option String} (hrequest : serde.request input = some (.Page 1 selector projection limit cursor))
    {rows : List (Row F)} {next : Option String} {metadata : ReadMetadataV1} {work : Work}
    (hread : read serde runtime journal token input = .ok (.page rows next metadata work)) :
    ∃ query after, PageAccepted serde runtime selector projection limit query ∧
      after_cursor serde runtime journal query (.Page 1 selector projection limit cursor) = .ok (some after) ∧
      PageShown serde runtime journal token query after selector projection limit rows next := by
  simp only [read, hrequest, Except.okOr, Except.ok_bind] at hread
  obtain ⟨_, _, hread⟩ := Except.bind_eq_ok_iff.mp hread
  obtain ⟨_, _, hread⟩ := Except.bind_eq_ok_iff.mp hread
  obtain ⟨_, hselector, hread⟩ := Except.bind_eq_ok_iff.mp hread
  obtain ⟨_, htexts, hread⟩ := Except.bind_eq_ok_iff.mp hread
  obtain ⟨query, hquery, hread⟩ := Except.bind_eq_ok_iff.mp hread
  obtain ⟨_, hquery_le, hread⟩ := Except.bind_eq_ok_iff.mp hread
  obtain ⟨found, hafter, hread⟩ := Except.bind_eq_ok_iff.mp hread
  cases found with
  | none => cases hread
  | some after =>
    have hlimit : 1 ≤ limit := by
      simp only [query_of, Except.bind_eq_ok_iff, Except.refuse_eq_ok_iff, not_or, not_not] at hquery
      obtain ⟨_, ⟨hlimit, _⟩, _⟩ := hquery
      exact hlimit.1
    refine ⟨query, after, ⟨hselector, Except.refuse_eq_ok_iff.mp htexts, fun _ => hquery,
      Except.refuse_eq_ok_iff.mp hquery_le, hlimit⟩, hafter, ?_⟩
    obtain ⟨shown, issued, spent, hresponse, hshown⟩ :=
      (read_page_charged serde runtime journal token query after selector projection hlimit).of_ok hread
    cases hresponse
    exact hshown

/-- Behind its checks, a page request is answered by the branch for pages. -/
theorem read_eq_read_page {serde : Serde F} {runtime : ClientRuntime (serde_json.Value F)} {journal : ViewJournal}
    {token input query : String} {selector : Selector F} {projection : List (List String)} {limit : UInt32}
    {cursor : Option String} (haccepted : PageAccepted serde runtime selector projection limit query)
    (hsize : input.utf8ByteSize ≤ MAX_INPUT)
    (hrequest : serde.request input = some (.Page 1 selector projection limit cursor)) {after : Option String}
    (hafter : after_cursor serde runtime journal query (.Page 1 selector projection limit cursor) =
      .ok (some after)) :
    read serde runtime journal token input =
      read_page serde runtime journal token query after selector projection limit := by
  have hversion : ¬ (Request.Page 1 selector projection limit cursor).protocol_version ≠ 1 := not_not.mpr rfl
  have hselector : validate_selector (Request.Page 1 selector projection limit cursor).selector = .ok () :=
    haccepted.valid
  unfold read
  rw [Except.bind_of_ok (Except.refuse_of_not (Nat.not_lt.mpr hsize)),
    Except.bind_of_ok (Except.okOr_eq_ok_iff.mpr hrequest),
    Except.bind_of_ok (Except.refuse_of_not hversion), Except.bind_of_ok hselector,
    Except.bind_of_ok (Except.refuse_of_not haccepted.texts), Except.bind_of_ok (haccepted.rendered cursor),
    Except.bind_of_ok (Except.refuse_of_not haccepted.query_le), Except.bind_of_ok hafter]

/-- An accepted query at a position is answered with a page, within the budget. -/
theorem read_charged {serde : Serde F} {runtime : ClientRuntime (serde_json.Value F)} {journal : ViewJournal}
    {token input query : String} {selector : Selector F} {projection : List (List String)} {limit : UInt32}
    {cursor : Option String} (haccepted : PageAccepted serde runtime selector projection limit query)
    (hsize : input.utf8ByteSize ≤ MAX_INPUT)
    (hrequest : serde.request input = some (.Page 1 selector projection limit cursor)) {after : Option String}
    (hafter : after_cursor serde runtime journal query (.Page 1 selector projection limit cursor) =
      .ok (some after)) :
    Charged (fun response => ∃ rows next work, response = .page rows next runtime.read_metadata work)
      (read serde runtime journal token input) := by
  rw [read_eq_read_page haccepted hsize hrequest hafter]
  refine (read_page_charged serde runtime journal token query after selector projection haccepted.positive).mono ?_
  rintro response ⟨rows, next, work, hresponse, _⟩
  exact ⟨rows, next, work, hresponse⟩

end surrealdb_rn_core.sync_view
