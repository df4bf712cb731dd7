import SurrealSync.Native.ViewPages

open Std Except
open surrealdb_sync_protocol surrealdb_sync_client
open surrealdb_rn_core.sync_read (NativeSyncError)

namespace surrealdb_rn_core.sync_view

variable {F : Type} [DecidableEq F]

/-- The records a listing is about: those the projection shows and the selector selects,
in the order of their ids. -/
def matching (state : DurableClientState (serde_json.Value F)) (selector : Selector F) : List (Entry F) :=
  (visible state).toList.filter fun entry => selects selector entry.2

theorem matching_sorted (state : DurableClientState (serde_json.Value F)) (selector : Selector F) :
    (matching state selector).Pairwise fun a b => compare a.1 b.1 = .lt :=
  (visible state).ordered_keys_toList.sublist List.filter_sublist

theorem remaining_none (state : DurableClientState (serde_json.Value F)) (selector : Selector F) :
    remaining selector none (visible state).toList = matching state selector := by
  unfold remaining matching
  simp

/-- Behind the last record of a prefix, the rest remains. -/
theorem remaining_after {state : DurableClientState (serde_json.Value F)} {selector : Selector F} {shown : Nat}
    {last : Entry F} (hlast : ((matching state selector).take shown).getLast? = some last) :
    remaining selector (some last.1.val) (visible state).toList = (matching state selector).drop shown := by
  have hfilter : remaining selector (some last.1.val) (visible state).toList =
      (matching state selector).filter fun entry => !(compare entry.1 last.1).isLE := by
    unfold remaining matching
    rw [List.filter_filter]
    rfl
  obtain ⟨front, hfront⟩ := List.getLast?_eq_some_iff.mp hlast
  have hsplit : matching state selector = front ++ last :: (matching state selector).drop shown := by
    calc matching state selector
        = (matching state selector).take shown ++ (matching state selector).drop shown :=
          (List.take_append_drop _ _).symm
      _ = front ++ last :: (matching state selector).drop shown := by
          rw [hfront, List.append_assoc, List.singleton_append]
  have hsorted := matching_sorted state selector
  rw [hfilter]
  rw [hsplit] at hsorted
  have hafter := @Sorted.filter_after (Entry F) RecordId _ _ Prod.fst front
    ((matching state selector).drop shown) last hsorted
  rw [← hsplit] at hafter
  exact hafter

/-- `serde_json` reads back the cursors that views write. -/
def Serde.ReadsCursors (serde : Serde F) : Prop :=
  ∀ (cursor : Cursor F) (scope : ReadScopeV1), cursor.scope = scope_wire scope →
    serde.cursor (cursor.to_string serde) = some cursor

/-- A cursor text that is accepted was issued for this query at this revision, and the
page continues behind its record. -/
theorem after_cursor_issued {serde : Serde F} (hreads : serde.ReadsCursors)
    {runtime first : ClientRuntime (serde_json.Value F)} {journal earlier : ViewJournal} {token query : String}
    {selector : Selector F} {projection : List (List String)} {limit : UInt32} {last : RecordId}
    {rendered : String} {after : Option String}
    (hafter : after_cursor serde runtime journal rendered (.Page 1 selector projection limit
      (some ((issued first earlier token query last).to_string serde))) = .ok (some after)) :
    journal.view_epoch = earlier.view_epoch ∧ runtime.state.revision = first.state.revision ∧
      after = some last.val := by
  have hcursor := hreads (issued first earlier token query last) _ rfl
  simp only [after_cursor, Except.bind_eq_ok_iff] at hafter
  obtain ⟨_, _, cursor, hfound, _, _, hafter⟩ := hafter
  cases (Except.okOr_eq_ok_iff.mp hfound).symm.trans hcursor
  split at hafter
  · cases hafter
  · rename_i hcurrent
    simp only [not_or, not_not, ne_eq] at hcurrent
    obtain ⟨hepoch, hrevision, _, _⟩ := hcurrent
    obtain ⟨_, _, hafter⟩ := Except.bind_eq_ok_iff.mp hafter
    cases hafter
    exact ⟨hepoch.symm, (UInt64.to_string_injective hrevision).symm, rfl⟩

/-- A remembered cursor of the current state is accepted for its own query. -/
theorem after_cursor_of_issued {serde : Serde F} (hreads : serde.ReadsCursors)
    {runtime : ClientRuntime (serde_json.Value F)} {journal earlier : ViewJournal} {token query : String}
    {selector : Selector F} {projection : List (List String)} {limit : UInt32} {last : RecordId}
    (hepoch : journal.view_epoch = earlier.view_epoch)
    (hsize : ((issued runtime earlier token query last).to_string serde).utf8ByteSize ≤ 8192)
    (hissued : journal.issued_view_cursor ((issued runtime earlier token query last).to_string serde)) :
    after_cursor serde runtime journal query (.Page 1 selector projection limit
      (some ((issued runtime earlier token query last).to_string serde))) = .ok (some (some last.val)) := by
  have hcursor := hreads (issued runtime earlier token query last) _ rfl
  unfold after_cursor
  refine Except.bind_eq_ok_iff.mpr ⟨(), Except.refuse_eq_ok_iff.mpr (Nat.not_lt.mpr hsize), ?_⟩
  refine Except.bind_eq_ok_iff.mpr ⟨_, Except.okOr_eq_ok_iff.mpr hcursor, ?_⟩
  refine Except.bind_eq_ok_iff.mpr ⟨(), Except.refuse_eq_ok_iff.mpr (not_not.mpr rfl), ?_⟩
  rw [if_neg]
  · exact Except.bind_eq_ok_iff.mpr ⟨(), Except.refuse_eq_ok_iff.mpr (not_not.mpr rfl), rfl⟩
  · simp only [not_or, not_not, ne_eq]
    exact ⟨hepoch.symm, rfl, rfl, hissued⟩

/-- A cursor of the size that views issue is remembered. -/
theorem issued_remember {journal : ViewJournal} {cursor : String} (hsize : cursor.utf8ByteSize ≤ 8192) :
    (journal.remember_view_cursor cursor).issued_view_cursor cursor ∧
      (journal.remember_view_cursor cursor).view_epoch = journal.view_epoch := by
  have hroom : ∀ cursors, ∃ kept, make_cursor_room cursor.utf8ByteSize cursors = some kept := by
    intro cursors
    induction cursors with
    | nil =>
      refine ⟨[], ?_⟩
      rw [make_cursor_room, if_neg (by omega)]
    | cons old cursors ih =>
      rw [make_cursor_room]
      split
      · exact ih
      · exact ⟨_, rfl⟩
  obtain ⟨kept, hkept⟩ := hroom journal.view_cursors
  simp [ViewJournal.remember_view_cursor, hkept, ViewJournal.issued_view_cursor, ViewJournal.view_epoch]

/-- A listing of a fixed selector, projection and limit: each page after the first is
asked for with the cursor the page before it returned, in a state reached from there. The
last argument is the cursor of the last page. -/
inductive Listing (serde : Serde F) (selector : Selector F) (projection : List (List String)) (limit : UInt32) :
    ClientRuntime (serde_json.Value F) → ViewJournal → List (List (Row F)) → Option String → Prop where
  | first {runtime : ClientRuntime (serde_json.Value F)} {journal : ViewJournal} {token input : String}
      {rows : List (Row F)} {next : Option String} {metadata : ReadMetadataV1} {work : Work}
      (hrequest : serde.request input = some (.Page 1 selector projection limit none))
      (hread : read serde runtime journal token input = .ok (.page rows next metadata work)) :
      Listing serde selector projection limit runtime journal [rows] next
  | next {earlier runtime : ClientRuntime (serde_json.Value F)} {before journal : ViewJournal}
      {edges : List (Trace.Edge (ClientRuntime (serde_json.Value F)) (Transition (serde_json.Value F)))}
      {pages : List (List (Row F))} {cursor token input : String} {rows : List (Row F)} {next : Option String}
      {metadata : ReadMetadataV1} {work : Work}
      (hlisting : Listing serde selector projection limit earlier before pages (some cursor))
      (hrun : Run earlier edges runtime)
      (hrequest : serde.request input = some (.Page 1 selector projection limit (some cursor)))
      (hread : read serde runtime journal token input = .ok (.page rows next metadata work)) :
      Listing serde selector projection limit runtime journal (pages ++ [rows]) next

/-- Where a listing stands: it has shown a prefix of the matching records, and its cursor
stands at the last of them while more follow. -/
structure ListedTo (serde : Serde F) (selector : Selector F) (projection : List (List String)) (limit : UInt32)
    (runtime : ClientRuntime (serde_json.Value F)) (journal : ViewJournal) (pages : List (List (Row F)))
    (cursor : Option String) : Prop where
  positive : 1 ≤ limit.toNat
  rows : pages.flatten.map Row.shown =
    ((matching runtime.state selector).take (pages.length * limit.toNat)).map
      fun entry => (entry.1, projected projection entry.2)
  started : (pages.length - 1) * limit.toNat ≤ (matching runtime.state selector).length
  complete : cursor = none → (matching runtime.state selector).length ≤ pages.length * limit.toNat
  continued : ∀ text, cursor = some text → text.utf8ByteSize ≤ 8192 ∧
    pages.length * limit.toNat < (matching runtime.state selector).length ∧
    ∃ earlier token query last, earlier.view_epoch = journal.view_epoch ∧
      PageAccepted serde runtime selector projection limit query ∧
      text = (issued runtime earlier token query last.1).to_string serde ∧
      ((matching runtime.state selector).take (pages.length * limit.toNat)).getLast? = some last

/-- The step of a listing: a page that continues behind `shown` records. -/
theorem ListedTo.extend {serde : Serde F} {selector : Selector F} {projection : List (List String)} {limit : UInt32}
    {runtime : ClientRuntime (serde_json.Value F)} {journal : ViewJournal} {pages : List (List (Row F))}
    {token query : String} {after : Option String} {rows : List (Row F)} {next : Option String}
    (haccepted : PageAccepted serde runtime selector projection limit query)
    (hrows : pages.flatten.map Row.shown =
      ((matching runtime.state selector).take (pages.length * limit.toNat)).map
        fun entry => (entry.1, projected projection entry.2))
    (hstarted : pages.length * limit.toNat ≤ (matching runtime.state selector).length)
    (hremaining : remaining selector after (visible runtime.state).toList =
      (matching runtime.state selector).drop (pages.length * limit.toNat))
    (hshown : PageShown serde runtime journal token query after selector projection limit rows next) :
    ListedTo serde selector projection limit runtime journal (pages ++ [rows]) next := by
  have hlength : (pages ++ [rows]).length * limit.toNat = pages.length * limit.toNat + limit.toNat := by
    rw [List.length_append, List.length_singleton, Nat.add_mul, Nat.one_mul]
  have hpage := hshown.rows
  have hcursor := hshown.cursor
  rw [hremaining] at hpage hcursor
  rw [List.length_drop] at hcursor
  have hpositive : 1 ≤ limit.toNat := UInt32.le_iff_toNat_le.mp haccepted.positive
  refine ⟨hpositive, ?_, ?_, ?_, ?_⟩
  · rw [hlength, List.take_add, List.map_append, List.flatten_append, List.map_append, hrows]
    simpa using hpage
  · simpa using hstarted
  · rintro rfl
    simp only [Continues, decide_eq_false_iff_not] at hcursor
    rw [hlength]
    omega
  · rintro text rfl
    obtain ⟨hmore, hsize, last, hlast, htext⟩ := hcursor
    rw [decide_eq_true_eq] at hmore
    refine ⟨hsize, by rw [hlength]; omega, journal, token, query, last, rfl, haccepted, htext, ?_⟩
    rw [hlength, List.take_add, List.getLast?_append, hlast, Option.some_or]

theorem listedTo_of_listing {serde : Serde F} (hreads : serde.ReadsCursors) {selector : Selector F}
    {projection : List (List String)} {limit : UInt32} {runtime : ClientRuntime (serde_json.Value F)}
    {journal : ViewJournal} {pages : List (List (Row F))} {cursor : Option String}
    (hlisting : Listing serde selector projection limit runtime journal pages cursor) :
    ListedTo serde selector projection limit runtime journal pages cursor := by
  induction hlisting with
  | first hrequest hread =>
    obtain ⟨query, after, haccepted, hafter, hshown⟩ := page_of_read hrequest hread
    cases hafter
    rw [← List.nil_append [_]]
    refine ListedTo.extend haccepted (by simp) ?_ ?_ hshown
    · simp
    · simpa using remaining_none _ selector
  | @next earlier runtime before journal edges pages cursor token input rows next metadata work _ hrun hrequest hread
      ih =>
    obtain ⟨query, after, haccepted, hafter, hshown⟩ := page_of_read hrequest hread
    obtain ⟨_, hmore, origin, fresh, rendered, last, hepoch, _, rfl, hlast⟩ := ih.continued cursor rfl
    obtain ⟨_, hrevision, rfl⟩ := after_cursor_issued hreads hafter
    -- the page was answered at the revision the cursor names, so in the same state
    obtain rfl := eq_of_run_of_revision_eq hrun hrevision
    exact ListedTo.extend haccepted ih.rows (Nat.le_of_lt hmore) (remaining_after hlast) hshown

omit [DecidableEq F] in
theorem getElem?_visible {state : DurableClientState (serde_json.Value F)} {id : RecordId}
    {value : serde_json.Value F} :
    (visible state)[id]? = some value ↔ ∃ base_version reference,
      (optimistic_projection state)[id]? = some (.Present value base_version reference) := by
  rw [visible, ExtTreeMap.getElem?_filterMap', Option.bind_eq_some_iff]
  constructor
  · rintro ⟨record, hrecord, hvalue⟩
    cases record with
    | Present found base_version reference =>
      cases hvalue
      exact ⟨base_version, reference, hrecord⟩
    | Deleted base_version => cases hvalue
  · rintro ⟨base_version, reference, hrecord⟩
    exact ⟨_, hrecord, rfl⟩

theorem mem_matching_iff {state : DurableClientState (serde_json.Value F)} {selector : Selector F}
    {entry : Entry F} :
    entry ∈ matching state selector ↔ (∃ base_version reference,
      (optimistic_projection state)[entry.1]? = some (.Present entry.2 base_version reference)) ∧
      selects selector entry.2 := by
  rw [matching, List.mem_filter, ExtTreeMap.mem_toList_iff_getElem?_eq_some, getElem?_visible]

/-- The answer to a count request. -/
theorem count_of_read {serde : Serde F} {runtime : ClientRuntime (serde_json.Value F)} {journal : ViewJournal}
    {token input : String} {selector : Selector F} (hrequest : serde.request input = some (.Count 1 selector))
    {response : Response F} (hread : read serde runtime journal token input = .ok response) :
    ∃ work, response = .count (matching runtime.state selector).length runtime.read_metadata work := by
  simp only [read, hrequest, Except.okOr, Except.ok_bind, query_of, after_cursor] at hread
  obtain ⟨_, _, hread⟩ := Except.bind_eq_ok_iff.mp hread
  obtain ⟨_, _, hread⟩ := Except.bind_eq_ok_iff.mp hread
  obtain ⟨_, _, hread⟩ := Except.bind_eq_ok_iff.mp hread
  obtain ⟨_, _, hread⟩ := Except.bind_eq_ok_iff.mp hread
  obtain ⟨_, _, hread⟩ := Except.bind_eq_ok_iff.mp hread
  obtain ⟨⟨rows, work⟩, hrows, hread⟩ := Except.bind_eq_ok_iff.mp hread
  obtain ⟨⟨count, work⟩, hcount, hread⟩ := Except.bind_eq_ok_iff.mp hread
  have heffective : rows = visible runtime.state := (effective_charged runtime _).of_ok hrows
  have hmatches : count = 0 + _ := (count_rows_charged selector rows.toList 0 _).of_ok hcount
  cases hread
  rw [hmatches, heffective, Nat.zero_add]
  exact ⟨work, rfl⟩

/-- What the bounded view promises about a state. -/
structure BoundedView (serde : Serde F) (runtime : ClientRuntime (serde_json.Value F)) : Prop where
  shows : ∀ (work : Work) (rows : Rows F) (charged : Work), effective runtime work = .ok (rows, charged) → ∀ (id : RecordId) (value : serde_json.Value F),
    rows[id]? = some value ↔ ∃ base_version reference,
      (optimistic_projection runtime.state)[id]? = some (OptimisticRecord.Present value base_version reference)
  matches_projection : ∀ (selector : Selector F) (entry : Entry F), entry ∈ matching runtime.state selector ↔ (∃ base_version reference,
    (optimistic_projection runtime.state)[entry.1]? = some (OptimisticRecord.Present entry.2 base_version reference)) ∧
    selects selector entry.2
  count : ∀ journal token input selector response, serde.request input = some (.Count 1 selector) →
    read serde runtime journal token input = .ok response →
    ∃ work, response = .count (matching runtime.state selector).length runtime.read_metadata work
  increasing : ∀ selector projection limit journal pages cursor,
    Listing serde selector projection limit runtime journal pages cursor →
    (pages.flatten.map (·.record_id)).Pairwise fun a b => compare a b = .lt
  complete : ∀ selector projection limit journal pages,
    Listing serde selector projection limit runtime journal pages none →
    pages.flatten.map Row.shown =
      (matching runtime.state selector).map fun entry => (entry.1, projected projection entry.2)
  as_many : ∀ selector projection limit journal pages,
    Listing serde selector projection limit runtime journal pages none →
    pages.flatten.length = (matching runtime.state selector).length
  finite : ∀ selector projection limit journal pages cursor,
    Listing serde selector projection limit runtime journal pages cursor →
    pages.length ≤ (matching runtime.state selector).length + 1
  remembered : ∀ selector projection limit journal pages text,
    Listing serde selector projection limit runtime journal pages (some text) →
    ∀ later : ViewJournal, (later.remember_view_cursor text).issued_view_cursor text
  continued : ∀ selector projection limit journal pages text,
    Listing serde selector projection limit runtime journal pages (some text) →
    ∀ (later : ViewJournal) token input, later.view_epoch = journal.view_epoch → later.issued_view_cursor text →
    input.utf8ByteSize ≤ MAX_INPUT →
    serde.request input = some (.Page 1 selector projection limit (some text)) →
    (∃ rows next work, read serde runtime later token input = .ok (.page rows next runtime.read_metadata work)) ∨
      read serde runtime later token input = .error .ReadOutputTooLarge

/-- The bounded local view agrees with the optimistic projection: it shows the same
records, counts them, and lists each of them once, in order, in finitely many pages. -/
theorem bounded_view_agrees {serde : Serde F} (hreads : serde.ReadsCursors)
    (runtime : ClientRuntime (serde_json.Value F)) : BoundedView serde runtime where
  shows := by
    intro work rows charged heffective id value
    have hrows : rows = visible runtime.state := (effective_charged runtime work).of_ok heffective
    rw [hrows, getElem?_visible]
  matches_projection := fun _ _ => mem_matching_iff
  count := fun _ _ _ _ _ hrequest hread => count_of_read hrequest hread
  increasing := by
    intro selector projection limit journal pages cursor hlisting
    have hlisted := listedTo_of_listing hreads hlisting
    have hids : pages.flatten.map (·.record_id) =
        ((matching runtime.state selector).take (pages.length * limit.toNat)).map (·.1) := by
      have hfirst := congrArg (List.map Prod.fst) hlisted.rows
      rw [List.map_map, List.map_map] at hfirst
      exact hfirst
    rw [hids, List.pairwise_map]
    exact (matching_sorted runtime.state selector).sublist (List.take_sublist _ _)
  complete := by
    intro selector projection limit journal pages hlisting
    have hlisted := listedTo_of_listing hreads hlisting
    rw [hlisted.rows, List.take_of_length_le (hlisted.complete rfl)]
  as_many := by
    intro selector projection limit journal pages hlisting
    have hlisted := listedTo_of_listing hreads hlisting
    have hlength := congrArg List.length hlisted.rows
    rw [List.length_map, List.length_map, List.take_of_length_le (hlisted.complete rfl)] at hlength
    exact hlength
  finite := by
    intro selector projection limit journal pages cursor hlisting
    have hlisted := listedTo_of_listing hreads hlisting
    have hpages : (pages.length - 1) * 1 ≤ (pages.length - 1) * limit.toNat :=
      Nat.mul_le_mul_left _ hlisted.positive
    have hstarted := hlisted.started
    omega
  remembered := by
    intro selector projection limit journal pages text hlisting later
    exact (issued_remember ((listedTo_of_listing hreads hlisting).continued text rfl).1).1
  continued := by
    intro selector projection limit journal pages text hlisting later token input hepoch hissued hsize hrequest
    obtain ⟨htext, _, earlier, fresh, query, last, horigin, haccepted, rfl, _⟩ :=
      (listedTo_of_listing hreads hlisting).continued text rfl
    have hread := @read_charged F _ serde runtime later token input query selector projection limit _ haccepted hsize
      hrequest _ (after_cursor_of_issued hreads (hepoch.trans horigin.symm) htext hissued)
    rcases hread with ⟨response, hread, rows, next, work, rfl⟩ | hbudget
    · exact .inl ⟨rows, next, work, hread⟩
    · exact .inr hbudget

namespace listing

/-! ### A reader for the texts of one query -/

def read_revision (text : List Char) : Option (serde_json.Value Unit × List Char) :=
  match serde_json.expect "null" text with
  | some rest => some (.Null, rest)
  | none => do
    let (revision, rest) ← serde_json.read_quoted text
    some (.String revision, rest)

/-- An entry of an object, whatever its key. -/
def read_entry {A : Type} (value : List Char → Option (A × List Char)) (text : List Char) :
    Option (A × List Char) := do
  let (_, rest) ← serde_json.read_quoted text
  let rest ← serde_json.expect ":" rest
  value rest

def read_scope (text : List Char) : Option (serde_json.Value Unit × List Char) := do
  let rest ← serde_json.expect "\x7b" text
  let (authorization_revision, rest) ← read_entry read_revision rest
  let rest ← serde_json.expect "," rest
  let (partition_id, rest) ← read_entry serde_json.read_quoted rest
  let rest ← serde_json.expect "," rest
  let (scope_identity, rest) ← read_entry serde_json.read_quoted rest
  let rest ← serde_json.expect "," rest
  let (subscription_revision, rest) ← read_entry serde_json.read_quoted rest
  let rest ← serde_json.expect "\x7d" rest
  some (.Object [("authorizationRevision", authorization_revision), ("partitionId", .String partition_id),
    ("scopeIdentity", .String scope_identity), ("subscriptionRevision", .String subscription_revision)], rest)

/-- Reads the fields of a cursor in the order in which they are written. -/
def read_cursor (text : String) : Option (Cursor Unit) := do
  let rest ← serde_json.expect "\x7b\"token\":" text.toList
  let (token, rest) ← serde_json.read_quoted rest
  let rest ← serde_json.expect ",\"processEpoch\":" rest
  let (process_epoch, rest) ← serde_json.read_quoted rest
  let rest ← serde_json.expect ",\"revision\":" rest
  let (revision, rest) ← serde_json.read_quoted rest
  let rest ← serde_json.expect ",\"scope\":" rest
  let (scope, rest) ← read_scope rest
  let rest ← serde_json.expect ",\"query\":" rest
  let (query, rest) ← serde_json.read_quoted rest
  let rest ← serde_json.expect ",\"lastRecordId\":" rest
  let (last_record_id, rest) ← serde_json.read_quoted rest
  let _ ← serde_json.expect "\x7d" rest
  some { token, process_epoch, revision, scope, query, last_record_id }

/-- The text of a page request for the names of all records, one at a time. -/
def page_start : String :=
  "\x7b\"protocolVersion\":1,\"operation\":\"page\",\"selector\":\x7b\"kind\":\"all\"\x7d,\"projection\":" ++
    "[[\"name\"]],\"limit\":1,\"cursor\":"

def page_text (cursor : Option String) : String :=
  page_start ++ (match cursor with
    | some cursor => serde_json.quote cursor
    | none => "null") ++ "\x7d"

def read_request (text : String) : Option (Request Unit) := do
  let rest ← serde_json.expect page_start text.toList
  match serde_json.read_quoted rest with
  | some (cursor, _) => some (.Page 1 .All [["name"]] 1 (some cursor))
  | none => some (.Page 1 .All [["name"]] 1 none)

def serde : Serde Unit where
  number _ := "0.0"
  request := read_request
  cursor := read_cursor

theorem read_revision_null (rest : List Char) : read_revision ("null".toList ++ rest) = some (.Null, rest) := by
  rw [read_revision, serde_json.expect_append]

theorem read_revision_quote (revision : String) (rest : List Char) :
    read_revision ((serde_json.quote revision).toList ++ rest) = some (.String revision, rest) := by
  have hnull : serde_json.expect "null" ((serde_json.quote revision).toList ++ rest) = none := by
    simp [serde_json.expect, serde_json.quote]
  rw [read_revision, hnull]
  simp [serde_json.read_quoted_quote]

theorem read_entry_quote {A : Type} {value : List Char → Option (A × List Char)} (key : String) {text rest : List Char}
    {found : A} (hvalue : value text = some (found, rest)) :
    read_entry value ((serde_json.quote key).toList ++ (":".toList ++ text)) = some (found, rest) := by
  unfold read_entry
  rw [serde_json.read_quoted_quote]
  simp only [Option.bind_eq_bind, Option.bind_some, serde_json.expect_append, hvalue]

theorem read_scope_wire (scope : ReadScopeV1) (rest : List Char) :
    read_scope ((serde_json.to_string serde.number (scope_wire scope)).toList ++ rest) =
      some (scope_wire scope, rest) := by
  obtain ⟨partition_id, scope_identity, subscription_revision, authorization_revision⟩ := scope
  have hentry := fun key value rest => read_entry_quote key (serde_json.read_quoted_quote value rest)
  unfold read_scope scope_wire
  simp only [serde_json.to_string, serde_json.entries_to_strings, serde_json.comma_separated, String.toList_append,
    List.append_assoc, serde_json.expect_append, Option.bind_eq_bind, Option.bind_some]
  cases authorization_revision with
  | none =>
    simp only [serde_json.to_string]
    rw [read_entry_quote _ (read_revision_null _)]
    simp only [Option.bind_some, serde_json.expect_append, hentry]
  | some revision =>
    simp only [serde_json.to_string]
    rw [read_entry_quote _ (read_revision_quote _ _)]
    simp only [Option.bind_some, serde_json.expect_append, hentry]

theorem serde_reads : serde.ReadsCursors := by
  rintro ⟨token, process_epoch, revision, scope, query, last_record_id⟩ wire rfl
  change read_cursor _ = _
  unfold read_cursor Cursor.to_string
  simp only [String.toList_append, List.append_assoc, serde_json.expect_append, serde_json.read_quoted_quote,
    read_scope_wire, Option.bind_eq_bind, Option.bind_some]
  have hend : serde_json.expect "\x7d" "\x7d".toList = some [] := by decide
  rw [hend, Option.bind_some]

theorem read_request_page_text (cursor : Option String) :
    serde.request (page_text cursor) = some (.Page 1 .All [["name"]] 1 cursor) := by
  change read_request _ = _
  unfold read_request page_text
  cases cursor with
  | none =>
    simp only [String.toList_append, List.append_assoc, serde_json.expect_append, Option.bind_eq_bind, Option.bind_some]
    have hnull : serde_json.read_quoted ("null".toList ++ "\x7d".toList) = none := by decide
    rw [hnull]
  | some cursor =>
    simp only [String.toList_append, List.append_assoc, serde_json.expect_append, serde_json.read_quoted_quote,
      Option.bind_eq_bind, Option.bind_some]

theorem page_text_size {cursor : String} (hcursor : cursor.utf8ByteSize ≤ 2000) :
    (page_text (some cursor)).utf8ByteSize ≤ MAX_INPUT := by
  have hquote := serde_json.quote_size_le cursor
  have hstart : page_start.utf8ByteSize ≤ 200 := by decide +kernel
  have hend : ("\x7d").utf8ByteSize = 1 := rfl
  simp only [page_text, String.utf8ByteSize_append, MAX_INPUT]
  omega

def person (name : String) : serde_json.Value Unit := .Object [("name", .String name)]

/-- Two confirmed records. -/
def people : DurableClientState (serde_json.Value Unit) :=
  { DurableClientState.empty ⟨"partition"⟩ ⟨"client"⟩ ⟨"scope"⟩ 1 with
    confirmed := ExtTreeMap.ofList [
      (RecordId.mk "a", RecordState.Present (person "ada") 1 none),
      (RecordId.mk "b", RecordState.Present (person "bob") 1 none)] }

def runtime : ClientRuntime (serde_json.Value Unit) := ⟨people, by decide +kernel⟩

def journal : ViewJournal := ⟨⟨"process", 0⟩, []⟩

/-- What a test looks at: the ids of a page and its cursor. -/
def page_of : Except NativeSyncError (Response Unit) → Option (List RecordId × Option String)
  | .ok (.page rows next _ _) => some (rows.map (·.record_id), next)
  | _ => none

theorem page_of_eq_some {answer : Except NativeSyncError (Response Unit)} {ids : List RecordId} {next : Option String}
    (hpage : page_of answer = some (ids, next)) :
    ∃ rows metadata work, answer = .ok (.page rows next metadata work) ∧ rows.map (·.record_id) = ids := by
  unfold page_of at hpage
  split at hpage
  · cases hpage
    exact ⟨_, _, _, rfl, rfl⟩
  · cases hpage

/-- The cursor behind the first record. -/
def behind_a : String :=
  (issued runtime journal "token" (query_to_string serde .All [["name"]] 1) ⟨"a"⟩).to_string serde

theorem accepted : PageAccepted serde runtime .All [["name"]] 1 (query_to_string serde .All [["name"]] 1) where
  valid := rfl
  texts := by decide +kernel
  rendered _ := by
    refine Except.bind_eq_ok_iff.mpr ⟨(), Except.refuse_of_not (by decide +kernel), ?_⟩
    exact Except.bind_eq_ok_iff.mpr ⟨(), Except.refuse_of_not (by decide), rfl⟩
  query_le := by decide +kernel
  positive := by decide

/-- A listing with pages of one record over two records, with a null cursor at its end. -/
theorem bounded_view_agrees_two_pages :
    ∃ (pages : List (List (Row Unit))) (later : ViewJournal), BoundedView serde runtime ∧
      Listing serde .All [["name"]] 1 runtime later pages none ∧ pages.length = 2 ∧
      pages.flatten.map (·.record_id) = [⟨"a"⟩, ⟨"b"⟩] := by
  have hone : page_of (read serde runtime journal "token" (page_text none)) = some ([⟨"a"⟩], some behind_a) := by
    rw [read_eq_read_page accepted (by decide +kernel) (read_request_page_text none) rfl]
    decide +kernel
  have hcursor : behind_a.utf8ByteSize ≤ 2000 := by decide +kernel
  have htext : behind_a.utf8ByteSize ≤ 8192 := by omega
  have htwo : page_of (read serde runtime (journal.remember_view_cursor behind_a) "token"
      (page_text (some behind_a))) = some ([⟨"b"⟩], none) := by
    obtain ⟨hissued, hepoch⟩ := @issued_remember journal _ htext
    rw [read_eq_read_page accepted (page_text_size hcursor) (read_request_page_text (some behind_a))
      (after_cursor_of_issued serde_reads hepoch htext hissued)]
    decide +kernel
  obtain ⟨first, _, _, hfirst, hfirst_ids⟩ := page_of_eq_some hone
  obtain ⟨second, _, _, hsecond, hsecond_ids⟩ := page_of_eq_some htwo
  have hlisting := Listing.next (.first (read_request_page_text none) hfirst) (.nil runtime)
    (read_request_page_text (some behind_a)) hsecond
  refine ⟨_, _, bounded_view_agrees serde_reads runtime, hlisting, rfl, ?_⟩
  simp [hfirst_ids, hsecond_ids]

end listing

end surrealdb_rn_core.sync_view
