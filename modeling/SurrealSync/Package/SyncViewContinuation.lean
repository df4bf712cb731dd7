import SurrealSync.Native.ViewListing
import SurrealSync.Package.SyncViewAgreement

open Std Except
open surrealdb.types (F64)
open surrealdb_sync_protocol surrealdb_sync_client
open surrealdb_rn_core.sync_read (NativeSyncError)
open surrealdb_rn_core.sync_view
open canonical (CanonicalFloat)

namespace react_native_surrealdb.sync_view

open wire

variable {F : Type} {engine : Engine F}

/-! ### The next request -/

/-- The same request with its cursor replaced. -/
def SyncViewRequest.continued (cursor : String) : SyncViewRequest F → SyncViewRequest F
  | .count selector => .count selector
  | .page selector projection limit _ => .page selector projection limit (some (some cursor))

/-- The record that a cursor stands at. -/
def behind (serde : Serde F) (cursor : Option String) : Option String :=
  (cursor.bind serde.cursor).map (·.last_record_id)

section Continuation

variable [DecidableEq F] {serde : Serde F} {runtime : ClientRuntime (serde_json.Value F)}
  {journal later : ViewJournal} {token : String}

/-- The request fits with the cursor behind the last record of its page: its text has at most 16384 bytes. -/
def NextFits (engine : Engine F) (serde : Serde F) (runtime : ClientRuntime (serde_json.Value F))
    (journal : ViewJournal) (token : String) (request : SyncViewRequest F) : Prop :=
  ∀ (selector : Selector F) (projection : List (List String)) (limit : UInt32) (cursor : Option String) (last : Entry F),
    request.native engine = some (.Page 1 selector projection limit cursor) →
    ((remaining selector (behind serde cursor) (visible runtime.state).toList).take limit.toNat).getLast? = some last →
    ((request.continued ((issued runtime journal token (request.query engine) last.1).to_string serde)).stringify
      engine).utf8ByteSize ≤ MAX_INPUT

/-- A page continues behind the record of its cursor. -/
theorem after_cursor_eq_behind {query : String} {selector : Selector F} {projection : List (List String)}
    {limit : UInt32} {cursor after : Option String}
    (hafter : after_cursor serde runtime journal query (.Page 1 selector projection limit cursor) = .ok (some after)) :
    after = behind serde cursor := by
  cases cursor with
  | none =>
    cases hafter
    rfl
  | some raw =>
    obtain ⟨_, _, hafter⟩ := bind_eq_ok_iff.mp hafter
    obtain ⟨found, hfound, hafter⟩ := bind_eq_ok_iff.mp hafter
    obtain ⟨_, _, hafter⟩ := bind_eq_ok_iff.mp hafter
    split at hafter
    · cases hafter
    · obtain ⟨_, _, hafter⟩ := bind_eq_ok_iff.mp hafter
      cases hafter
      simp [behind, okOr_eq_ok_iff.mp hfound]

/-- What an answer with a cursor tells of the request. -/
structure PageRead (engine : Engine F) (serde : Serde F) (runtime : ClientRuntime (serde_json.Value F))
    (journal : ViewJournal) (token : String) (request : SyncViewRequest F) (cursor : String)
    (selector : SyncViewSelector) (projection : List (List String)) (limit : F64 F) (previous : Option (Option String))
    (n : Int) (record : Entry F) : Prop where
  shape : request = .page selector projection limit previous
  integer : integer engine limit = some n
  range : 0 ≤ n ∧ n < 2 ^ 32
  accepted : PageAccepted serde runtime selector.native projection (.ofNat n.toNat) (request.query engine)
  last : ((remaining selector.native (behind serde previous.join) (visible runtime.state).toList).take
    (UInt32.ofNat n.toNat).toNat).getLast? = some record
  text : cursor = (issued runtime journal token (request.query engine) record.1).to_string serde
  size : cursor.utf8ByteSize ≤ 8192

omit [DecidableEq F] in
theorem native_page {selector : SyncViewSelector} {projection : List (List String)} {limit : F64 F}
    (cursor : Option (Option String)) {n : Int} (hinteger : integer engine limit = some n) (hrange : 0 ≤ n ∧ n < 2 ^ 32) :
    (SyncViewRequest.page selector projection limit cursor).native engine =
      some (.Page 1 selector.native projection (.ofNat n.toNat) cursor.join) := by
  simp only [SyncViewRequest.native, hinteger, if_pos hrange]

theorem exists_page_of_read (hexact : engine.Exact) {request : SyncViewRequest F} {input cursor : String}
    (hinput : serde.request input = request.native engine) {rows : List (Row F)} {metadata : ReadMetadataV1}
    {work : Work}
    (hread : surrealdb_rn_core.sync_view.read serde runtime journal token input =
      .ok (.page rows (some cursor) metadata work)) :
    ∃ selector projection limit previous n record,
      PageRead engine serde runtime journal token request cursor selector projection limit previous n record := by
  have hsome : request.native engine ≠ none := by
    intro hnone
    obtain ⟨_, _, hread⟩ := bind_eq_ok_iff.mp hread
    obtain ⟨found, hfound, _⟩ := bind_eq_ok_iff.mp hread
    rw [hinput, hnone] at hfound
    cases hfound
  cases request with
  | count selector =>
    obtain ⟨spent, hcount⟩ := count_of_read hinput hread
    cases hcount
  | page selector projection limit previous =>
    cases hinteger : integer engine limit with
    | none => exact absurd (by simp [SyncViewRequest.native, hinteger]) hsome
    | some n =>
      by_cases hrange : 0 ≤ n ∧ n < 2 ^ 32
      · rw [native_page previous hinteger hrange] at hinput
        obtain ⟨query, after, haccepted, hafter, hshown⟩ := page_of_read hinput hread
        obtain ⟨_, hsize, record, hlast, hcursor⟩ := hshown.cursor
        have hquery : query = (SyncViewRequest.page selector projection limit previous).query engine :=
          ((query_of_page_iff hexact hinteger hrange).mp (haccepted.rendered previous.join)).2
        rw [after_cursor_eq_behind hafter] at hlast
        rw [hquery] at haccepted hcursor
        exact ⟨selector, projection, limit, previous, n, record, rfl, hinteger, hrange, haccepted, hlast, hcursor, hsize⟩
      · exact absurd (by simp only [SyncViewRequest.native, hinteger, if_neg hrange]) hsome

variable {request : SyncViewRequest F} {cursor : String} {selector : SyncViewSelector} {projection : List (List String)}
  {limit : F64 F} {previous : Option (Option String)} {n : Int} {record : Entry F}

omit [DecidableEq F] in
theorem encodeSyncViewRequest_eq {value : SyncViewRequest F} {text : String}
    (hencoded : encodeSyncViewRequest engine value = .ok text) : value.stringify engine = text := by
  cases value with
  | count selector =>
    obtain ⟨_, _, hrest⟩ := bind_eq_ok_iff.mp hencoded
    obtain ⟨_, _, heq⟩ := bind_eq_ok_iff.mp hrest
    exact ok.inj heq
  | page selector projection limit cursor =>
    obtain ⟨_, _, hpage⟩ := bind_eq_ok_iff.mp hencoded
    obtain ⟨_, _, hrest⟩ := bind_eq_ok_iff.mp hpage
    obtain ⟨_, _, heq⟩ := bind_eq_ok_iff.mp hrest
    exact ok.inj heq

/-- The next request passes every check that the one before it passed, whatever its cursor. -/
theorem PageRead.within_iff (hexact : engine.Exact)
    (hpage : PageRead engine serde runtime journal token request cursor selector projection limit previous n record) :
    ((request.continued cursor).Shaped engine ∧ (request.continued cursor).Within engine String.utf8ByteSize) ↔
      ((request.continued cursor).stringify engine).utf8ByteSize ≤ MAX_INPUT := by
  have hcontinued : request.continued cursor = .page selector projection limit (some (some cursor)) := by
    rw [hpage.shape]
    rfl
  have hchecked := (@query_of_page_iff _ _ serde hexact selector projection limit (some (some cursor)) n hpage.integer
    hpage.range _).mp (hpage.accepted.rendered (some cursor))
  rw [hcontinued, shaped_and_within_iff]
  exact ⟨fun hholds => hholds.2.2, fun hfits => ⟨validate_selector_native_iff.mp hpage.accepted.valid, hchecked.1, hfits⟩⟩

theorem PageRead.exists_encode (hexact : engine.Exact)
    (hpage : PageRead engine serde runtime journal token request cursor selector projection limit previous n record)
    (hfits : ((request.continued cursor).stringify engine).utf8ByteSize ≤ MAX_INPUT) :
    ∃ text, encodeSyncViewRequest engine (request.continued cursor) = .ok text := by
  have hcursor : ∀ text, (request.continued cursor).cursor = some text → utf16Length text ≤ 8192 := by
    intro text htext
    rw [hpage.shape] at htext
    cases htext
    exact Nat.le_trans (utf16Length_le cursor) hpage.size
  obtain ⟨hshaped, hwithin⟩ := (hpage.within_iff hexact).mpr hfits
  exact (exists_encodeSyncViewRequest_iff hcursor).mpr ⟨hshaped, hwithin.mono utf16Length_le⟩

/-- The native read answers the next request where it stands, or runs out of its budget. -/
theorem PageRead.read_charged (hcursors : serde.ReadsCursors)
    (hpage : PageRead engine serde runtime journal token request cursor selector projection limit previous n record)
    (hepoch : later.view_epoch = journal.view_epoch) (hissued : later.issued_view_cursor cursor)
    (hnext : serde.request ((request.continued cursor).stringify engine) = (request.continued cursor).native engine)
    (hfits : ((request.continued cursor).stringify engine).utf8ByteSize ≤ MAX_INPUT) (fresh : String) :
    Charged (fun response => ∃ rows next work, response = .page rows next runtime.read_metadata work)
      (surrealdb_rn_core.sync_view.read serde runtime later fresh ((request.continued cursor).stringify engine)) := by
  have hnative : (request.continued cursor).native engine =
      some (.Page 1 selector.native projection (.ofNat n.toNat) (some cursor)) := by
    rw [hpage.shape]
    exact native_page (some (some cursor)) hpage.integer hpage.range
  have hafter : after_cursor serde runtime later (request.query engine) (.Page 1 selector.native projection
      (.ofNat n.toNat) (some cursor)) = .ok (some (some record.1.val)) := by
    have hsize := hpage.size
    rw [hpage.text] at hsize hissued ⊢
    exact after_cursor_of_issued hcursors hepoch hsize hissued
  rw [hnative] at hnext
  exact surrealdb_rn_core.sync_view.read_charged hpage.accepted hfits hnext hafter

/-- The condition is about the one record that the page ends with. -/
theorem PageRead.nextFits_iff
    (hpage : PageRead engine serde runtime journal token request cursor selector projection limit previous n record) :
    NextFits engine serde runtime journal token request ↔
      ((request.continued cursor).stringify engine).utf8ByteSize ≤ MAX_INPUT := by
  have hnative : request.native engine = some (.Page 1 selector.native projection (.ofNat n.toNat) previous.join) := by
    rw [hpage.shape]
    exact native_page previous hpage.integer hpage.range
  rw [hpage.text]
  constructor
  · exact fun hfits => hfits _ _ _ _ record hnative hpage.last
  · intro hfits other paths most held last hother hlast
    rw [hnative] at hother
    cases hother
    rw [hpage.last] at hlast
    cases hlast
    exact hfits

end Continuation

section Sample

/-- A text or null. -/
def text_value : serde_json.Value Unit → serde_json.Value CanonicalFloat
  | .String text => .String text
  | _ => .Null

def scope_value : serde_json.Value Unit → serde_json.Value CanonicalFloat
  | .Object entries => .Object (entries.map fun entry => (entry.1, text_value entry.2))
  | _ => .Null

def typed_cursor (cursor : Cursor Unit) : Cursor CanonicalFloat :=
  ⟨cursor.token, cursor.process_epoch, cursor.revision, scope_value cursor.scope, cursor.query, cursor.last_record_id⟩

def ada : serde_json.Value CanonicalFloat := .Object [("name", .String "ada")]

/-- Two confirmed records. -/
def pair : DurableClientState (serde_json.Value CanonicalFloat) :=
  { opened "partition" with
    confirmed := ExtTreeMap.ofList [
      (RecordId.mk "a", RecordState.Present ada 1 none),
      (RecordId.mk "b", RecordState.Present ada 1 none)] }

def paired : ClientRuntime (serde_json.Value CanonicalFloat) := ⟨pair, by decide +kernel⟩

/-- The cursor behind the first record. -/
def behind_a : String :=
  (issued paired view_journal "token" (everything.query small_engine) ⟨"a"⟩).to_string view_serde

/-- The JSON library at the first request and the one that continues it. -/
def page_request (text : String) : Option (Request CanonicalFloat) :=
  if text = everything.stringify small_engine then everything.native small_engine
  else if text = (everything.continued behind_a).stringify small_engine then
    (everything.continued behind_a).native small_engine
  else none

def page_serde : Serde CanonicalFloat :=
  { view_serde with request := page_request, cursor := fun text => (listing.read_cursor text).map typed_cursor }

theorem page_serde_request : page_serde.request = page_request := rfl

theorem page_serde_cursor (text : String) :
    page_serde.cursor text = (listing.serde.cursor text).map typed_cursor := rfl

theorem page_serde_reads : page_serde.ReadsCursors := by
  rintro ⟨token, process_epoch, revision, scope, query, last_record_id⟩ wire rfl
  have hscope : scope_value (scope_wire wire) = scope_wire wire := by
    obtain ⟨partition_id, scope_identity, subscription_revision, authorization_revision⟩ := wire
    cases authorization_revision <;> rfl
  have htext : serde_json.to_string page_serde.number (scope_wire wire) =
      serde_json.to_string listing.serde.number (scope_wire wire) := by
    obtain ⟨partition_id, scope_identity, subscription_revision, authorization_revision⟩ := wire
    cases authorization_revision <;>
      simp only [scope_wire, serde_json.to_string, serde_json.entries_to_strings]
  have hread := listing.serde_reads ⟨token, process_epoch, revision, scope_wire wire, query, last_record_id⟩ wire rfl
  have hsame : Cursor.to_string page_serde ⟨token, process_epoch, revision, scope_wire wire, query, last_record_id⟩ =
      Cursor.to_string listing.serde ⟨token, process_epoch, revision, scope_wire wire, query, last_record_id⟩ := by
    unfold Cursor.to_string
    simp only [htext]
  rw [page_serde_cursor, hsame, hread, Option.map_some, typed_cursor, hscope]

theorem reads_first : page_serde.request (everything.stringify small_engine) = everything.native small_engine := by
  rw [page_serde_request]
  unfold page_request
  rw [if_pos rfl]

theorem reads_next : page_serde.request ((everything.continued behind_a).stringify small_engine) =
    (everything.continued behind_a).native small_engine := by
  have hother : (everything.continued behind_a).stringify small_engine ≠ everything.stringify small_engine := by
    decide +kernel
  rw [page_serde_request]
  unfold page_request
  rw [if_neg hother, if_pos rfl]

/-- The cursor of an answer. -/
def cursor_of : Except NativeSyncError (Response CanonicalFloat) → Option String
  | .ok (.page _ next _ _) => next
  | _ => none

theorem exists_of_cursor_of {found : Except NativeSyncError (Response CanonicalFloat)}
    (hcursor : (cursor_of found).isSome) : ∃ rows cursor metadata work, found = .ok (.page rows (some cursor) metadata work) := by
  unfold cursor_of at hcursor
  split at hcursor
  · obtain ⟨cursor, rfl⟩ := Option.isSome_iff_exists.mp hcursor
    exact ⟨_, _, _, _, rfl⟩
  · cases hcursor

theorem exists_first_page : ∃ rows metadata work, surrealdb_rn_core.sync_view.read page_serde paired view_journal "token"
    (everything.stringify small_engine) = .ok (.page rows (some behind_a) metadata work) := by
  have hcursor : (cursor_of (surrealdb_rn_core.sync_view.read page_serde paired view_journal "token"
      (everything.stringify small_engine))).isSome = true := by
    decide +kernel
  obtain ⟨rows, cursor, metadata, work, hread⟩ := exists_of_cursor_of hcursor
  obtain ⟨selector, projection, limit, previous, n, record, hpage⟩ := exists_page_of_read small_engine_exact reads_first hread
  obtain ⟨hselector, hprojection, hlimit, hprevious⟩ := SyncViewRequest.page.inj hpage.shape
  have hone : integer small_engine (.finite (double 1)) = some 1 := by decide +kernel
  have hn : n = 1 := Option.some.inj (hpage.integer.symm.trans (hlimit ▸ hone))
  have hlast : (((remaining .All (behind page_serde none) (visible paired.state).toList).take
      (UInt32.ofNat (1 : Int).toNat).toNat).getLast?.map (·.1)) = some ⟨"a"⟩ := by
    decide +kernel
  have hrecord : record.1 = ⟨"a"⟩ := by
    have hfound := hpage.last
    rw [← hselector, ← hprevious, hn] at hfound
    have hsame := congrArg (Option.map (·.1)) hfound
    exact Option.some.inj (hsame.symm.trans hlast)
  have hcursor : cursor = behind_a := by
    rw [hpage.text, hrecord]
    rfl
  exact ⟨rows, metadata, work, hcursor ▸ hread⟩

/-- The text of the first request, up to its cursor. -/
def paged_text : String :=
  "\x7b\"protocolVersion\":1,\"operation\":\"page\",\"selector\":\x7b\"kind\":\"all\"\x7d,\"projection\":[[\"name\"]],\"limit\":1"

theorem stringify_continued (cursor : String) : (everything.continued cursor).stringify small_engine =
    paged_text ++ (",\"cursor\":" ++ serde_json.quote cursor) ++ "\x7d" := by
  have hpaged : "\x7b\"protocolVersion\":1,\"operation\":\"page\",\"selector\":" ++ SyncViewSelector.all.stringify ++
      ",\"projection\":[" ++ serde_json.comma_separated ([["name"]].map stringifyPath) ++ "],\"limit\":" ++
      stringifyNumber small_engine (.finite (double 1)) = paged_text := by
    decide +kernel
  rw [← hpaged]
  rfl

end Sample

end react_native_surrealdb.sync_view
