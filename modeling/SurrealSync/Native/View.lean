import SurrealSync.Native.JsonText
import SurrealSync.Native.ReadJournal

open Std
open surrealdb_sync_protocol surrealdb_sync_client
open surrealdb_rn_core.sync_read (NativeSyncError JournalEpoch)

namespace surrealdb_rn_core.sync_view

def MAX_INPUT : Nat := 16 * 1024

def MAX_VISITS : Nat := 16384

def MAX_NODES : Nat := 65536

def MAX_VALUE_BYTES : Nat := 4 * 1024 * 1024

variable {F : Type}

inductive Selector (F : Type) where
  | All
  | Eq (path : List String) (value : serde_json.Value F)
  | And (terms : List (Selector F))

inductive Request (F : Type) where
  | Count (protocol_version : UInt8) (selector : Selector F)
  | Page (protocol_version : UInt8) (selector : Selector F) (projection : List (List String)) (limit : UInt32)
      (cursor : Option String)

structure Cursor (F : Type) where
  token : String
  process_epoch : String
  revision : String
  scope : serde_json.Value F
  query : String
  last_record_id : String

structure Work where
  records_visited : Nat
  operations_visited : Nat
  value_nodes_visited : Nat
  value_bytes_visited : Nat
deriving DecidableEq

def Work.default : Work := ⟨0, 0, 0, 0⟩

/-- The part of `ReadJournal` that views use. -/
structure ViewJournal where
  epoch : JournalEpoch
  view_cursors : List String

/-- What `serde_json` does with texts: how it writes numbers and what it reads. -/
structure Serde (F : Type) where
  number : serde_json.Number F → String
  request : String → Option (Request F)
  cursor : String → Option (Cursor F)

/-! ### The work a read is charged -/

def Work.visit (work : Work) (operation : Bool) : Except NativeSyncError Work := do
  let work := if operation then { work with operations_visited := work.operations_visited + 1 }
    else { work with records_visited := work.records_visited + 1 }
  Except.refuse (work.records_visited + work.operations_visited > MAX_VISITS) .ReadOutputTooLarge
  .ok work

def Work.bytes (work : Work) (n : Nat) : Except NativeSyncError Work := do
  let work := { work with value_bytes_visited := work.value_bytes_visited + n }
  Except.refuse (work.value_bytes_visited > MAX_VALUE_BYTES) .ReadOutputTooLarge
  .ok work

mutual

def Work.value (work : Work) (depth : Nat) (value : serde_json.Value F) : Except NativeSyncError Work := do
  let work := { work with value_nodes_visited := work.value_nodes_visited + 1 }
  Except.refuse (work.value_nodes_visited > MAX_NODES ∨ depth > 64) .ReadOutputTooLarge
  match value with
  | .String text => work.bytes text.utf8ByteSize
  | .Array values => work.values (depth + 1) values
  | .Object entries => work.entries (depth + 1) entries
  | .Null => work.bytes 24
  | .Bool _ => work.bytes 24
  | .Number _ => work.bytes 24

def Work.values (work : Work) (depth : Nat) (values : List (serde_json.Value F)) :
    Except NativeSyncError Work :=
  match values with
  | [] => .ok work
  | value :: values => do
    let work ← work.value depth value
    work.values depth values

def Work.entries (work : Work) (depth : Nat) (entries : List (String × serde_json.Value F)) :
    Except NativeSyncError Work :=
  match entries with
  | [] => .ok work
  | (key, value) :: entries => do
    let work ← work.bytes key.utf8ByteSize
    let work ← work.value depth value
    work.entries depth entries

end

/-! ### Selectors -/

/-- Rust's `char::is_control`. -/
def is_control (c : Char) : Bool := c.toNat < 32 || (127 ≤ c.toNat && c.toNat < 160)

def path_valid (path : List String) : Bool :=
  path ≠ [] && path.length ≤ 8 && path.all fun s =>
    s ≠ "" && s.utf8ByteSize ≤ 128 && s ∉ ["__proto__", "constructor", "prototype", "$surreal"] &&
      !s.toList.any is_control

/-- The value an equation may ask for. -/
def wanted_valid : serde_json.Value F → Bool
  | .Null => true
  | .Bool _ => true
  | .String text => text.utf8ByteSize ≤ 1024
  | .Number _ => false
  | .Array _ => false
  | .Object _ => false

/-- Only equations may be joined, so the recursion of the source ends with them. -/
def validate_term : Selector F → Except NativeSyncError Unit
  | .Eq path value => Except.refuse (¬ (path_valid path ∧ wanted_valid value)) .InvalidInput
  | .All => .error .InvalidInput
  | .And _ => .error .InvalidInput

def validate_selector (selector : Selector F) : Except NativeSyncError Unit :=
  match selector with
  | .All => .ok ()
  | .Eq .. => validate_term selector
  | .And terms => do
    Except.refuse (terms = [] ∨ terms.length > 8) .InvalidInput
    forM terms validate_term

/-- Tagged lossless values are canonical atoms, never traversable domain objects. -/
def field (work : Work) (value : serde_json.Value F) :
    List String → Except NativeSyncError (Option (serde_json.Value F) × Work)
  | [] => .ok (some value, work)
  | key :: path =>
    if (serde_json.get_key value "$surreal").isSome then .ok (none, work)
    else do
      let work := { work with value_nodes_visited := work.value_nodes_visited + 1 }
      Except.refuse (work.value_nodes_visited > MAX_NODES) .ReadOutputTooLarge
      match serde_json.get_key value key with
      | none => .ok (none, work)
      | some next => field work next path

section Reads

variable [DecidableEq F]

mutual

def matches_selector (selector : Selector F) (value : serde_json.Value F) (work : Work) :
    Except NativeSyncError (Bool × Work) :=
  match selector with
  | .All => .ok (true, work)
  | .Eq path wanted => do
    let (got, work) ← field work value path
    .ok (got.any fun found => serde_json.is_scalar found && found = wanted, work)
  | .And terms => matches_terms terms value work

def matches_terms (terms : List (Selector F)) (value : serde_json.Value F) (work : Work) :
    Except NativeSyncError (Bool × Work) :=
  match terms with
  | [] => .ok (true, work)
  | term :: terms => do
    let (matched, work) ← matches_selector term value work
    if matched then matches_terms terms value work else .ok (false, work)

end

/-! ### The effective rows -/

abbrev Rows (F : Type) := BTreeMap RecordId (serde_json.Value F)

def confirmed_entry (found : Rows F × Work) (entry : RecordId × RecordState (serde_json.Value F)) :
    Except NativeSyncError (Rows F × Work) := do
  let (rows, work) := found
  let work ← work.visit false
  Except.refuse (entry.1.val.utf8ByteSize > 4096) .ReadOutputTooLarge
  let work ← work.bytes entry.1.val.utf8ByteSize
  match entry.2 with
  | .Present value _ _ => do
    let work ← work.value 0 value
    .ok (rows.insert entry.1 value, work)
  | .Absent => .ok (rows, work)
  | .Tombstone _ => .ok (rows, work)

/-- Every historical operation is charged, including ones the overlay leaves out. -/
def charge_operation (work : Work) (operation : Operation (serde_json.Value F)) : Except NativeSyncError Work := do
  let work ← work.visit true
  let work ← work.bytes operation.record_id.val.utf8ByteSize
  match operation with
  | .Upsert _ _ value _ => work.value 0 value
  | .Delete .. => .ok work

def charge_commit (work : Work) (commit : ClientCommit (serde_json.Value F)) : Except NativeSyncError Work := do
  let work ← work.visit true
  let work ← work.bytes commit.identity.client_commit_id.val.utf8ByteSize
  let work ← work.bytes commit.identity.fingerprint.val.utf8ByteSize
  commit.operations.foldlM charge_operation work

def overlay_operation (found : Rows F × Work) (operation : Operation (serde_json.Value F)) :
    Except NativeSyncError (Rows F × Work) := do
  let (rows, work) := found
  let work ← work.visit true
  match operation with
  | .Upsert record_id _ value _ => .ok (rows.insert record_id value, work)
  | .Delete record_id _ => .ok (rows.erase record_id, work)

def effective (runtime : ClientRuntime (serde_json.Value F)) (work : Work) :
    Except NativeSyncError (Rows F × Work) := do
  let state := runtime.state
  let commits := state.outcomes.map (·.local_commit) ++ state.outbox
  let (rows, work) ← state.confirmed.toList.foldlM confirmed_entry (∅, work)
  let work ← commits.foldlM charge_commit work
  let work ← commits.foldlM (fun work _ => work.visit true) work
  (optimistic_operations state).foldlM overlay_operation (rows, work)

/-! ### Summaries -/

structure Summary where
  pending : List CommitIdentity
  conflicts : List ReadConflictV1
  accepted : List ReadAcceptedV1
deriving DecidableEq

def identity_bytes (identity : CommitIdentity) : Nat :=
  identity.client_commit_id.val.utf8ByteSize + identity.fingerprint.val.utf8ByteSize

/-- The identity a resolution replaced the conflict with, as the pattern binds it. -/
def replacement_of : Option ConflictResolution → Option CommitIdentity
  | some (.KeepLocal replacement) => some replacement
  | some (.Merge replacement) => some replacement
  | some .KeepServer => none
  | some .PreferServerPolicyV1 => none
  | none => none

abbrev Summaries := BTreeMap RecordId Summary

def summarize_pending (commit : ClientCommit (serde_json.Value F)) (found : Summaries × Work)
    (operation : Operation (serde_json.Value F)) : Except NativeSyncError (Summaries × Work) := do
  let (rows, work) := found
  let work ← work.visit true
  match rows[operation.record_id]? with
  | none => .ok (rows, work)
  | some row => do
    let work ← work.bytes (identity_bytes commit.identity)
    .ok (rows.insert operation.record_id { row with pending := row.pending ++ [commit.identity] }, work)

def summarize_outcome (resolved : ResolvedCommit (serde_json.Value F)) (found : Summaries × Work)
    (operation : Operation (serde_json.Value F)) : Except NativeSyncError (Summaries × Work) := do
  let (rows, work) := found
  let work ← work.visit true
  match rows[operation.record_id]? with
  | none => .ok (rows, work)
  | some row => do
    let work ← work.bytes (identity_bytes resolved.local_commit.identity)
    let work ← match replacement_of resolved.resolution with
      | some replacement => work.bytes (identity_bytes replacement)
      | none => .ok work
    let row := match resolved.outcome with
      | .Accepted _ sequence _ => { row with accepted := row.accepted ++ [{
          identity := resolved.local_commit.identity
          sequence
          status := if resolved.covered_by_reset then .CoveredByAuthorizedReset else .AwaitingPullEpochUnknown }] }
      | .Conflict .. => { row with conflicts := row.conflicts ++ [{
          identity := resolved.local_commit.identity
          resolution := resolved.resolution }] }
      | .Rejected .. => row
    .ok (rows.insert operation.record_id row, work)

def summaries (runtime : ClientRuntime (serde_json.Value F)) (ids : List RecordId) (work : Work) :
    Except NativeSyncError (Summaries × Work) := do
  let rows : Summaries := ExtTreeMap.ofList (ids.map fun id => (id, Summary.mk [] [] []))
  let found ← runtime.state.outbox.foldlM (fun (found : Summaries × Work) commit => do
    let work ← found.2.visit true
    commit.operations.foldlM (summarize_pending commit) (found.1, work)) (rows, work)
  runtime.state.outcomes.foldlM (fun (found : Summaries × Work) resolved => do
    let work ← found.2.visit true
    resolved.local_commit.operations.foldlM (summarize_outcome resolved) (found.1, work)) found

/-! ### The view journal -/

def ViewJournal.view_epoch (journal : ViewJournal) : String := journal.epoch.value

def ViewJournal.issued_view_cursor (journal : ViewJournal) (cursor : String) : Bool :=
  journal.view_cursors.any fun issued => issued = cursor

/-- The loop that makes room for a cursor of `length` bytes, or finds that nothing can. -/
def make_cursor_room (length : Nat) : List String → Option (List String)
  | [] => if length > 256 * 1024 then none else some []
  | old :: cursors =>
    if (old :: cursors).length ≥ 64 ∨ ((old :: cursors).map String.utf8ByteSize).sum + length > 256 * 1024 then
      make_cursor_room length cursors
    else some (old :: cursors)

def ViewJournal.remember_view_cursor (journal : ViewJournal) (cursor : String) : ViewJournal :=
  match make_cursor_room cursor.utf8ByteSize journal.view_cursors with
  | some cursors => { journal with view_cursors := cursors ++ [cursor] }
  | none => { journal with view_cursors := [] }

/-! ### Texts -/

/-- The scope of the metadata as `metadata_wire` leaves it: revisions are decimal texts. -/
def scope_wire (scope : ReadScopeV1) : serde_json.Value F :=
  .Object [
    ("authorizationRevision", match scope.authorization_revision with
      | some revision => .String revision.to_string
      | none => .Null),
    ("partitionId", .String scope.partition_id.val),
    ("scopeIdentity", .String scope.scope_identity.val),
    ("subscriptionRevision", .String scope.subscription_revision.to_string)]

/-- `serde_json::to_string` of a cursor, its fields in the order of the struct. -/
def Cursor.to_string (serde : Serde F) (cursor : Cursor F) : String :=
  "\x7b\"token\":" ++ serde_json.quote cursor.token ++
    ",\"processEpoch\":" ++ serde_json.quote cursor.process_epoch ++
    ",\"revision\":" ++ serde_json.quote cursor.revision ++
    ",\"scope\":" ++ serde_json.to_string serde.number cursor.scope ++
    ",\"query\":" ++ serde_json.quote cursor.query ++
    ",\"lastRecordId\":" ++ serde_json.quote cursor.last_record_id ++ "\x7d"

def path_to_string (path : List String) : String :=
  "[" ++ serde_json.comma_separated (path.map serde_json.quote) ++ "]"

mutual

def Selector.to_string (serde : Serde F) : Selector F → String
  | .All => "\x7b\"kind\":\"all\"\x7d"
  | .Eq path value => "\x7b\"kind\":\"eq\",\"path\":" ++ path_to_string path ++ ",\"value\":" ++
      serde_json.to_string serde.number value ++ "\x7d"
  | .And terms => "\x7b\"kind\":\"and\",\"terms\":[" ++
      serde_json.comma_separated (Selector.to_strings serde terms) ++ "]\x7d"

def Selector.to_strings (serde : Serde F) : List (Selector F) → List String
  | [] => []
  | term :: terms => Selector.to_string serde term :: Selector.to_strings serde terms

end

omit [DecidableEq F] in
@[simp]
theorem Selector.to_string_all (serde : Serde F) : Selector.to_string serde .All = "\x7b\"kind\":\"all\"\x7d" := by
  with_unfolding_all rfl

omit [DecidableEq F] in
@[simp]
theorem Selector.to_string_eq (serde : Serde F) (path : List String) (value : serde_json.Value F) :
    Selector.to_string serde (.Eq path value) = "\x7b\"kind\":\"eq\",\"path\":" ++ path_to_string path ++
      ",\"value\":" ++ serde_json.to_string serde.number value ++ "\x7d" := by
  with_unfolding_all rfl

omit [DecidableEq F] in
@[simp]
theorem Selector.to_string_and (serde : Serde F) (terms : List (Selector F)) :
    Selector.to_string serde (.And terms) = "\x7b\"kind\":\"and\",\"terms\":[" ++
      serde_json.comma_separated (terms.map (Selector.to_string serde)) ++ "]\x7d" := by
  have hterms : Selector.to_strings serde terms = terms.map (Selector.to_string serde) := by
    induction terms with
    | nil => with_unfolding_all rfl
    | cons term terms ih =>
      rw [List.map_cons, ← ih]
      with_unfolding_all rfl
  rw [← hterms]
  with_unfolding_all rfl

/-- `serde_json::to_string(&(selector, projection, limit))`. -/
def query_to_string (serde : Serde F) (selector : Selector F) (projection : List (List String)) (limit : UInt32) :
    String :=
  "[" ++ selector.to_string serde ++ ",[" ++ serde_json.comma_separated (projection.map path_to_string) ++ "]," ++
    limit.toNat.repr ++ "]"

/-! ### The read -/

structure Field (F : Type) where
  path : List String
  value : Option (serde_json.Value F)

structure Row (F : Type) where
  record_id : RecordId
  fields : List (Field F)
  pending : List CommitIdentity
  conflicts : List ReadConflictV1
  accepted : List ReadAcceptedV1

inductive Response (F : Type) where
  | stale_cursor (metadata : ReadMetadataV1)
  | count (observed_count : Nat) (metadata : ReadMetadataV1) (work : Work)
  | page (rows : List (Row F)) (next_cursor : Option String) (metadata : ReadMetadataV1) (work : Work)

def Request.protocol_version : Request F → UInt8
  | .Count protocol_version _ => protocol_version
  | .Page protocol_version _ _ _ _ => protocol_version

def Request.selector : Request F → Selector F
  | .Count _ selector => selector
  | .Page _ selector _ _ _ => selector

def query_of (serde : Serde F) : Request F → Except NativeSyncError String
  | .Count .. => .ok ""
  | .Page _ selector projection limit _ => do
    Except.refuse (¬ (1 ≤ limit ∧ limit ≤ 64) ∨ projection = [] ∨ projection.length > 16 ∨
      ∃ path ∈ projection, ¬ path_valid path) .InvalidInput
    Except.refuse (¬ projection.Nodup) .InvalidInput
    .ok (query_to_string serde selector projection limit)

/-- Where a page continues, or nothing when its cursor is stale. -/
def after_cursor (serde : Serde F) (runtime : ClientRuntime (serde_json.Value F)) (journal : ViewJournal)
    (query : String) : Request F → Except NativeSyncError (Option (Option String))
  | .Page _ _ _ _ (some raw) => do
    Except.refuse (raw.utf8ByteSize > 8192) .InvalidInput
    let cursor ← Except.okOr (serde.cursor raw) .InvalidInput
    Except.refuse (cursor.to_string serde ≠ raw) .InvalidInput
    if cursor.process_epoch ≠ journal.view_epoch ∨ cursor.revision ≠ runtime.state.revision.to_string ∨
        cursor.scope ≠ scope_wire runtime.read_metadata.scope ∨ ¬ journal.issued_view_cursor raw then
      .ok none
    else do
      Except.refuse (cursor.query ≠ query) .InvalidInput
      .ok (some (some cursor.last_record_id))
  | .Page _ _ _ _ none => .ok (some none)
  | .Count .. => .ok (some none)

def count_rows (selector : Selector F) :
    List (RecordId × serde_json.Value F) → Nat → Work → Except NativeSyncError (Nat × Work)
  | [], count, work => .ok (count, work)
  | (_, value) :: entries, count, work => do
    let work ← work.visit false
    let (matched, work) ← matches_selector selector value work
    count_rows selector entries (if matched then count + 1 else count) work

/-- The comparison `id.0 <= *last`. -/
def at_or_before (id : RecordId) (last : String) : Bool := (compare id.val last).isLE

/-- The selection loop: it stops at the first match that no longer fits. -/
def select_rows (selector : Selector F) (after : Option String) (limit : Nat) :
    List (RecordId × serde_json.Value F) → List (RecordId × serde_json.Value F) → Work →
      Except NativeSyncError (List (RecordId × serde_json.Value F) × Bool × Work)
  | [], selected, work => .ok (selected, false, work)
  | (id, value) :: entries, selected, work => do
    let work ← work.visit false
    if after.any (at_or_before id) then select_rows selector after limit entries selected work
    else do
      let (matched, work) ← matches_selector selector value work
      if matched then
        if selected.length = limit then .ok (selected, true, work)
        else select_rows selector after limit entries (selected ++ [(id, value)]) work
      else select_rows selector after limit entries selected work

def project_path (value : serde_json.Value F) (found : List (Field F) × Work) (path : List String) :
    Except NativeSyncError (List (Field F) × Work) := do
  let (item, work) ← field found.2 value path
  let work ← match item with
    | some shown => work.value 0 shown
    | none => .ok work
  .ok (found.1 ++ [⟨path, item⟩], work)

def project_row (projection : List (List String)) (summary : Summaries) (found : List (Row F) × Work)
    (entry : RecordId × serde_json.Value F) : Except NativeSyncError (List (Row F) × Work) := do
  let (fields, work) ← projection.foldlM (project_path entry.2) ([], found.2)
  let row := summary[entry.1]?.getD ⟨[], [], []⟩
  .ok (found.1 ++ [⟨entry.1, fields, row.pending, row.conflicts, row.accepted⟩], work)

/-- `token` is the fresh identifier of the cursor. -/
def next_cursor (serde : Serde F) (runtime : ClientRuntime (serde_json.Value F)) (journal : ViewJournal)
    (token query : String) (selected : List (RecordId × serde_json.Value F)) (has_more : Bool) :
    Except NativeSyncError (Option String) := do
  if has_more then do
    let last ← Except.okOr selected.getLast? .Internal
    let cursor : Cursor F := {
      token
      process_epoch := journal.view_epoch
      revision := runtime.state.revision.to_string
      scope := scope_wire runtime.read_metadata.scope
      query
      last_record_id := last.1.val }
    Except.refuse ((cursor.to_string serde).utf8ByteSize > 8192) .ReadOutputTooLarge
    .ok (some (cursor.to_string serde))
  else .ok none

/-- The branch of `read` for a count. -/
def read_count (runtime : ClientRuntime (serde_json.Value F)) (selector : Selector F) :
    Except NativeSyncError (Response F) := do
  let (rows, work) ← effective runtime .default
  let (count, work) ← count_rows selector rows.toList 0 work
  .ok (.count count runtime.read_metadata work)

/-- The branch of `read` for a page after the given record. -/
def read_page (serde : Serde F) (runtime : ClientRuntime (serde_json.Value F)) (journal : ViewJournal)
    (token query : String) (after : Option String) (selector : Selector F) (projection : List (List String))
    (limit : UInt32) : Except NativeSyncError (Response F) := do
  let (rows, work) ← effective runtime .default
  let (selected, has_more, work) ← select_rows selector after limit.toNat rows.toList [] work
  let (summary, work) ← summaries runtime (selected.map (·.1)) work
  let (rows, work) ← selected.foldlM (project_row projection summary) ([], work)
  let cursor ← next_cursor serde runtime journal token query selected has_more
  .ok (.page rows cursor runtime.read_metadata work)

def read (serde : Serde F) (runtime : ClientRuntime (serde_json.Value F)) (journal : ViewJournal)
    (token input : String) : Except NativeSyncError (Response F) := do
  Except.refuse (input.utf8ByteSize > MAX_INPUT) .InvalidInput
  let request ← Except.okOr (serde.request input) .InvalidInput
  Except.refuse (request.protocol_version ≠ 1) .InvalidInput
  validate_selector request.selector
  Except.refuse (runtime.state.partition_id.val.utf8ByteSize > 4096 ∨
    runtime.state.requested_scope.val.utf8ByteSize > 4096) .ReadOutputTooLarge
  let query ← query_of serde request
  Except.refuse (query.utf8ByteSize > 4096) .InvalidInput
  match ← after_cursor serde runtime journal query request with
  | none => .ok (.stale_cursor runtime.read_metadata)
  | some after =>
    match request with
    | .Count _ selector => read_count runtime selector
    | .Page _ selector projection limit _ =>
      read_page serde runtime journal token query after selector projection limit

end Reads

end surrealdb_rn_core.sync_view
