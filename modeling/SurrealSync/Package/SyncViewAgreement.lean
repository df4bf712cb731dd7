import SurrealSync.Basic.Binary64
import SurrealSync.Package.SyncViewRows

open Std Except
open surrealdb.types (F64 Types)
open surrealdb_sync_protocol surrealdb_sync_protocol.canonical surrealdb_sync_client
open surrealdb_rn_core.sync_view surrealdb_rn_core.sync_client surrealdb_rn_core.sync_codec
open surrealdb_rn_core.sync_state (MAX_COMPONENT_KEY_BYTES native_record_id native_record_id_eq_ok_iff)

namespace react_native_surrealdb.sync_view

open wire sync_read_codec

variable {G C S : Type} {T : Types} {engine : Engine CanonicalFloat}
  {serde : surrealdb_rn_core.sync_view.Serde CanonicalFloat} {library : surrealdb_rn_core.wire.Platform T.recorded}
  {platform : surrealdb_rn_core.sync_state.Platform G (serde_json.Value CanonicalFloat) C S}
  {codec : Codec (serde_json.Value CanonicalFloat)}

/-- What is relied on of the engine and of the libraries: the numbers of the engine, that values are written and read
alike, that the codec takes the canonical values of the bridge, and that an empty text is no record id. -/
structure Connected (engine : Engine CanonicalFloat) (library : surrealdb_rn_core.wire.Platform T.recorded)
    (platform : surrealdb_rn_core.sync_state.Platform G (serde_json.Value CanonicalFloat) C S)
    (codec : Codec (serde_json.Value CanonicalFloat)) : Prop where
  exact : engine.Exact
  readable : Readable library engine.toDoubles
  codec : ∀ json canonical, codec.canonical_json json = .ok canonical → canonical_json library json = .ok canonical.tree
  simple : platform.native.parse_simple "" = none

variable {runtime : ClientRuntime (serde_json.Value CanonicalFloat)} {journal : ViewJournal} {token : String}

/-! ### What a page shows of a client's state -/

theorem Connected.canonical_of_taken (hconnected : Connected engine library platform codec)
    {value : serde_json.Value CanonicalFloat} (htaken : Taken codec value) : Canonical library value := by
  obtain ⟨canonical, hcanonical⟩ := htaken
  exact canonical_of_canonical_json (hconnected.codec value canonical hcanonical)

theorem replacement_of_eq_replacement {V : Type} {resolved : ResolvedCommit V} :
    replacement_of resolved.resolution = resolved.replacement := by
  unfold ResolvedCommit.replacement
  match resolved.resolution with
  | none => rfl
  | some .KeepServer => rfl
  | some .PreferServerPolicyV1 => rfl
  | some (.KeepLocal replacement) => rfl
  | some (.Merge replacement) => rfl

/-- What is told of a record of a client is presented. -/
theorem presented_of_told {state : DurableClientState (serde_json.Value CanonicalFloat)}
    (hwritten : Written platform codec state) (hvalid : state.Valid) {summary : Summary}
    (htold : summary.Told state MAX_VISITS) : Presented summary := by
  have hvisits : MAX_VISITS ≤ 100000 := by decide
  refine ⟨fun identity hidentity => ?_, fun conflict hconflict => ?_, fun accepted haccepted => ?_,
    Nat.le_trans htold.pending_length hvisits, Nat.le_trans htold.conflicts_length hvisits,
    Nat.le_trans htold.accepted_length hvisits⟩
  · obtain ⟨commit, hcommit, rfl⟩ := htold.pending identity hidentity
    exact hwritten.presentable_pending hcommit
  · obtain ⟨resolved, hresolved, hidentity, hresolution⟩ := htold.conflicts conflict hconflict
    rw [hidentity, hresolution]
    refine ⟨hwritten.presentable_settled hresolved, fun replacement hreplacement => ?_⟩
    have hresolution : resolved.replacement = some replacement := by
      rwa [← replacement_of_eq_replacement]
    exact hwritten.presentable_replacement hvalid hresolved hresolution
  · obtain ⟨resolved, hresolved, hidentity⟩ := htold.accepted accepted haccepted
    rw [hidentity]
    exact hwritten.presentable_settled hresolved

/-- The rows of a page are records that the client sees. -/
theorem exists_entry_of_row {query : String} {selector : Selector CanonicalFloat} {projection : List (List String)}
    {limit : UInt32} {rows : List (Row CanonicalFloat)} {cursor : Option String}
    (hshown : PageShown serde runtime journal token query none selector projection limit rows cursor)
    {row : Row CanonicalFloat} (hrow : row ∈ rows) :
    ∃ value base_version reference,
      (optimistic_projection runtime.state)[row.record_id]? = some (.Present value base_version reference) ∧
        row.fields = projected projection value := by
  have hmem : row.shown ∈ rows.map Row.shown := List.mem_map_of_mem hrow
  rw [hshown.rows, remaining_none] at hmem
  obtain ⟨entry, hentry, hsame⟩ := List.mem_map.mp hmem
  obtain ⟨⟨base_version, reference, hpresent⟩, _⟩ := mem_matching_iff.mp (List.mem_of_mem_take hentry)
  obtain ⟨hid, hfields⟩ := Prod.mk.inj hsame
  rw [hid] at hpresent
  exact ⟨entry.2, base_version, reference, hpresent, hfields.symm⟩

theorem showable_of_row (hconnected : Connected engine library platform codec)
    (hwritten : Written platform codec runtime.state) {query : String} {selector : Selector CanonicalFloat}
    {projection : List (List String)} {limit : UInt32} {rows : List (Row CanonicalFloat)} {cursor : Option String}
    (hshown : PageShown serde runtime journal token query none selector projection limit rows cursor)
    {row : Row CanonicalFloat} (hrow : row ∈ rows) (htold : row.summary.Told runtime.state MAX_VISITS) :
    Showable library projection row := by
  obtain ⟨value, base_version, reference, hpresent, hfields⟩ := exists_entry_of_row hshown hrow
  obtain ⟨native_id, hnative⟩ := hwritten.shown row.record_id value base_version reference hpresent
  obtain ⟨hsize, hparsed, _⟩ := native_record_id_eq_ok_iff.mp hnative
  refine ⟨fun hempty => ?_, Nat.le_trans hsize (by decide), presented_of_told hwritten runtime.is_valid htold,
    value, hconnected.canonical_of_taken (hwritten.taken_of_shown hpresent), hfields⟩
  rw [hempty, hconnected.simple] at hparsed
  cases hparsed

theorem nodup_of_page {query : String} {selector : Selector CanonicalFloat} {projection : List (List String)}
    {limit : UInt32} {rows : List (Row CanonicalFloat)} {cursor : Option String}
    (hshown : PageShown serde runtime journal token query none selector projection limit rows cursor) :
    (rows.map fun row => row.record_id.val).Nodup := by
  have hids : rows.map (fun row => row.record_id.val) =
      ((matching runtime.state selector).take limit.toNat).map fun entry => entry.1.val := by
    have hsame := congrArg (List.map fun shown => shown.1.val) hshown.rows
    rw [remaining_none, List.map_map, List.map_map] at hsame
    exact hsame
  have hkeys : ((matching runtime.state selector).take limit.toNat).map Prod.fst |>.Nodup :=
    ((visible runtime.state).nodup_keys.sublist (List.filter_sublist.map Prod.fst)).sublist
      ((List.take_sublist _ _).map Prod.fst)
  have hinjective : Function.Injective RecordId.val := by
    rintro ⟨first⟩ ⟨second⟩ rfl
    rfl
  have hvals := hkeys.map hinjective
  rw [List.map_map] at hvals
  rw [hids]
  exact hvals

theorem paged_of_page {query : String} {selector : Selector CanonicalFloat} {projection : List (List String)}
    {limit : UInt32} {rows : List (Row CanonicalFloat)} {cursor : Option String}
    (hshown : PageShown serde runtime journal token query none selector projection limit rows cursor) :
    Paged rows limit.toNat cursor := by
  have hlength : rows.length = min limit.toNat (matching runtime.state selector).length := by
    have hsame := congrArg List.length hshown.rows
    rwa [remaining_none, List.length_map, List.length_map, List.length_take] at hsame
  refine ⟨by omega, ?_⟩
  rintro text rfl
  obtain ⟨hmore, hsize, _⟩ := hshown.cursor
  rw [remaining_none, decide_eq_true_eq] at hmore
  exact ⟨by omega, hsize⟩

/-! ### The answers that JavaScript accepts -/

theorem texts_of_read {input : String} {response : Response CanonicalFloat}
    (hread : surrealdb_rn_core.sync_view.read serde runtime journal token input = .ok response) :
    runtime.state.partition_id.val.utf8ByteSize ≤ 4096 ∧ runtime.state.requested_scope.val.utf8ByteSize ≤ 4096 := by
  obtain ⟨_, _, hread⟩ := bind_eq_ok_iff.mp hread
  obtain ⟨_, _, hread⟩ := bind_eq_ok_iff.mp hread
  obtain ⟨_, _, hread⟩ := bind_eq_ok_iff.mp hread
  obtain ⟨_, _, hread⟩ := bind_eq_ok_iff.mp hread
  obtain ⟨_, htexts, _⟩ := bind_eq_ok_iff.mp hread
  have hbounds := refuse_eq_ok_iff.mp htexts
  omega

theorem request_of_read {input : String} {response : Response CanonicalFloat}
    (hread : surrealdb_rn_core.sync_view.read serde runtime journal token input = .ok response) :
    ∃ request, serde.request input = some request := by
  obtain ⟨_, _, hread⟩ := bind_eq_ok_iff.mp hread
  obtain ⟨request, hrequest, _⟩ := bind_eq_ok_iff.mp hread
  exact ⟨request, okOr_eq_ok_iff.mp hrequest⟩

theorem exists_limit_of_native {selector : SyncViewSelector} {projection : List (List String)}
    {limit : F64 CanonicalFloat} {cursor : Option (Option String)} {request : Request CanonicalFloat}
    (hnative : (SyncViewRequest.page selector projection limit cursor).native engine = some request) :
    ∃ n : Nat, integer engine limit = some (n : Int) ∧ n < 2 ^ 32 ∧
      request = .Page 1 selector.native projection (.ofNat n) cursor.join := by
  simp only [SyncViewRequest.native] at hnative
  split at hnative
  · rename_i value hinteger
    split at hnative
    · rename_i hrange
      obtain ⟨n, rfl⟩ := Int.eq_ofNat_of_zero_le hrange.1
      cases hnative
      exact ⟨n, hinteger, by omega, by rw [Int.toNat_natCast]⟩
    · cases hnative
  · cases hnative

/-- The metadata decide, once everything else of an answer is accepted. -/
theorem decode_iff_of_rest {json : String} {properties : List (String × serde_json.Value CanonicalFloat)}
    {request : SyncViewRequest CanonicalFloat} (hexact : engine.Exact)
    (hjson : json.utf8ByteSize ≤ MAX_OUTPUT)
    (hversion : properties.lookup "protocolVersion" = some (.Number (.PosInt 1)))
    (hsnapshot : properties.lookup "snapshot" = none)
    (hmetadata : properties.lookup "metadata" = some (metadata_wire runtime.read_metadata))
    (htexts : runtime.state.partition_id.val.utf8ByteSize ≤ 4096 ∧
      runtime.state.requested_scope.val.utf8ByteSize ≤ 4096)
    (hkind : properties.lookup "kind" ≠ some (.String "stale_cursor"))
    (hrest : ∃ result, decodeAnswer engine properties request = .ok result) :
    (∃ result, decodeSyncViewResult engine json (.Object properties) request = .ok result) ↔
      runtime.state.partition_id.val ≠ "" ∧ runtime.state.requested_scope.val ≠ "" := by
  have hunits : ¬ utf16Length json > 256 * 1024 := Nat.not_lt.mpr (Nat.le_trans (utf16Length_le json) hjson)
  have hone : safeInteger engine (some (.Number (.PosInt 1))) = some 1 := safeInteger_counter hexact (n := 1) (by decide)
  obtain ⟨result, hresult⟩ := hrest
  unfold decodeSyncViewResult
  rw [bind_of_ok (refuse_of_not hunits)]
  simp only [object, ok_bind, hversion, hsnapshot, hmetadata, hone, if_neg hkind]
  rw [bind_of_ok (refuse_of_not (by simp))]
  rw [show runtime.read_metadata = metadata runtime.state from rfl,
    validateSyncReadMetadata_metadata_wire runtime.is_valid]
  rw [← text_eq_ok_iff (F := CanonicalFloat) htexts.1, ← text_eq_ok_iff (F := CanonicalFloat) htexts.2]
  constructor
  · rintro ⟨shown, hshown⟩
    obtain ⟨_, hchecked, _⟩ := bind_eq_ok_iff.mp hshown
    obtain ⟨_, hpartition, hchecked⟩ := bind_eq_ok_iff.mp hchecked
    obtain ⟨_, hscope, _⟩ := bind_eq_ok_iff.mp hchecked
    exact ⟨hpartition, hscope⟩
  · rintro ⟨hpartition, hscope⟩
    refine ⟨result, ?_⟩
    rw [bind_of_ok hpartition, bind_of_ok hscope, pure_bind]
    exact hresult

/-- The answer to a first request of a client is accepted exactly when the texts of its scope are not empty. -/
theorem answer_accepted_iff (hconnected : Connected engine library platform codec)
    (hreached : Reached platform codec runtime.state) {request : SyncViewRequest CanonicalFloat}
    (hfirst : request.cursor = none) (hreads : serde.request (request.stringify engine) = request.native engine)
    {response : Response CanonicalFloat} {text : String}
    (hread : surrealdb_rn_core.sync_view.read serde runtime journal token (request.stringify engine) = .ok response)
    (houtput : output serde response.to_value = .ok text) :
    (∃ result, decodeSyncViewResult engine text response.to_value request = .ok result) ↔
      runtime.state.partition_id.val ≠ "" ∧ runtime.state.requested_scope.val ≠ "" := by
  have htexts := texts_of_read hread
  have hjson : text.utf8ByteSize ≤ MAX_OUTPUT := by
    obtain ⟨_, hsize, htext⟩ := bind_eq_ok_iff.mp houtput
    cases htext
    exact Nat.not_lt.mp (refuse_eq_ok_iff.mp hsize)
  have hexact := hconnected.exact
  cases request with
  | count selector =>
    obtain ⟨count, work, rfl, hbounded, hcount⟩ := count_answer_of_read hreads hread
    refine decode_iff_of_rest hexact hjson rfl rfl rfl htexts (by simp) ?_
    obtain ⟨result, hresult⟩ := @exists_decodeCount CanonicalFloat [
      ("kind", .String "count"),
      ("metadata", metadata_wire runtime.read_metadata),
      ("observedCount", .String count.repr),
      ("protocolVersion", .Number (.PosInt 1)),
      ("work", work.to_value)] count rfl rfl hcount
    refine ⟨result, ?_⟩
    exact (bind_of_ok (validateWork_to_value hexact hbounded)).trans hresult
  | page selector projection limit cursor =>
    have hnone : cursor.join = none := hfirst
    have hnative : ∃ n : Nat, integer engine limit = some (n : Int) ∧ n < 2 ^ 32 ∧
        serde.request ((SyncViewRequest.page selector projection limit cursor).stringify engine) =
          some (.Page 1 selector.native projection (.ofNat n) none) := by
      obtain ⟨request, hrequest⟩ := request_of_read hread
      have hsome : (SyncViewRequest.page selector projection limit cursor).native engine = some request :=
        hreads.symm.trans hrequest
      obtain ⟨n, hinteger, hn, rfl⟩ := exists_limit_of_native hsome
      rw [hnone] at hrequest
      exact ⟨n, hinteger, hn, hrequest⟩
    obtain ⟨n, hinteger, hn, hrequest⟩ := hnative
    obtain ⟨query, rows, next, work, rfl, _, hshown, hbounded, htold⟩ := page_answer_of_read hrequest hread
    have hlimit : (UInt32.ofNat n).toNat = n := UInt32.toNat_ofNat_of_lt' hn
    have hpaged := paged_of_page hshown
    rw [hlimit] at hpaged
    refine decode_iff_of_rest hexact hjson rfl rfl rfl htexts (by simp) ?_
    have hshowable : ∀ row ∈ rows, Showable library projection row := fun row hrow =>
      showable_of_row hconnected hreached.written_spec hshown hrow (htold row hrow)
    have hpage := fun properties => @exists_decodePage T library engine hexact hconnected.readable projection rows
      hshowable (nodup_of_page hshown) limit n hinteger next hpaged properties
    obtain ⟨result, hresult⟩ := hpage [
      ("kind", .String "page"),
      ("metadata", metadata_wire runtime.read_metadata),
      ("nextCursor", next.elim .Null .String),
      ("protocolVersion", .Number (.PosInt 1)),
      ("rows", .Array (rows.map Row.to_value)),
      ("work", work.to_value)] rfl rfl
    refine ⟨result, ?_⟩
    exact (bind_of_ok (validateWork_to_value hexact hbounded)).trans hresult

/-! ### Both sides agree -/

section Sample

theorem toNat_bits {n : Nat} (hn : n < 2 ^ 53) : (UInt64.ofNat (Binary64.ofNat n)).toNat = Binary64.ofNat n :=
  UInt64.toNat_ofNat_of_lt' (Nat.lt_trans (Binary64.ofNat_lt hn) (by decide))

theorem finite_bits {n : Nat} (hn : n < 2 ^ 53) : Cbor.FiniteBits (.ofNat (Binary64.ofNat n)) := by
  have hlt := Binary64.ofNat_lt hn
  rw [Cbor.FiniteBits, toNat_bits hn]
  omega

theorem normalized_bits {n : Nat} (hn : n < 2 ^ 53) : UInt64.ofNat (Binary64.ofNat n) ≠ NEGATIVE_ZERO := by
  have hlt := Binary64.ofNat_lt hn
  have hzero : NEGATIVE_ZERO.toNat = 2 ^ 63 := rfl
  rw [ne_eq, ← UInt64.toNat_inj, toNat_bits hn]
  omega

theorem finite_zero : Cbor.FiniteBits 0 := by decide

theorem normalized_zero : (0 : UInt64) ≠ NEGATIVE_ZERO := by decide

/-- The double of a natural number, where it is one. -/
def double (n : Nat) : CanonicalFloat :=
  if hn : n < 2 ^ 53 then ⟨.ofNat (Binary64.ofNat n), finite_bits hn, normalized_bits hn⟩
  else ⟨0, finite_zero, normalized_zero⟩

theorem integer_double {n : Nat} (hn : n < 2 ^ 53) : Binary64.integer (double n).bits.toNat = some (n : Int) := by
  rw [double, dif_pos hn, toNat_bits hn, Binary64.integer_ofNat hn]

/-- An engine for requests and answers whose numbers are small integers. -/
def small_engine : Engine CanonicalFloat where
  parse
    | .PosInt n => double n.toNat
    | .NegInt _ _ => double 0
    | .Float value => value
  stringify value := .Float value
  literal _ := .finite (double 0)
  integer value := Binary64.integer value.bits.toNat
  text value := match Binary64.integer value.bits.toNat with
    | some n => n.repr
    | none => ""
  compare length
    | .finite value => (Binary64.integer value.bits.toNat).map (compare (length : Int))
    | .inf => some .lt
    | .neg_inf => some .gt
    | .NaN => none

theorem small_engine_exact : small_engine.Exact where
  integer n hn := integer_double hn
  text x n hinteger _ := by
    change (match Binary64.integer x.bits.toNat with
      | some n => n.repr
      | none => "") = _
    rw [show Binary64.integer x.bits.toNat = some (n : Int) from hinteger]
    rfl
  compare length x n hinteger := by
    change (Binary64.integer x.bits.toNat).map _ = _
    rw [show Binary64.integer x.bits.toNat = some n from hinteger, Option.map_some]

theorem integer_finite_double {n : Nat} (hn : n < 2 ^ 53) :
    integer small_engine (.finite (double n)) = some (n : Int) := integer_double hn

/-- The base64 of the library is strict: it reads what it writes. -/
def strict_platform : surrealdb_rn_core.wire.Platform surrealdb_rn_core.wire.text_types.recorded :=
  { surrealdb_rn_core.sync_http_codec.record_platform with
    base64 := ⟨fun bytes => String.ofList (encodeBase64 bytes), fun text =>
      (decodeBase64 text.toList).filter fun bytes => String.ofList (encodeBase64 bytes) = text⟩ }

theorem strict_readable : Readable strict_platform small_engine.toDoubles where
  literal text value hliteral := by cases hliteral
  base64_encode bytes := rfl
  base64_decode text bytes hdecode := by
    obtain ⟨_, hsame⟩ := Option.filter_eq_some_iff.mp hdecode
    exact of_decide_eq_true hsame

/-! The client of the samples has not pulled anything. -/

def view_platform : surrealdb_rn_core.sync_state.Platform Empty (serde_json.Value CanonicalFloat) Unit Unit where
  serde := {
    text := ⟨fun _ => none, fun _ => none, fun _ => "", fun _ => none⟩
    state_meta := ⟨fun _ => none, fun _ => none⟩
    subscription_row := ⟨fun _ => none, fun _ => none⟩
    record_state := ⟨fun _ => none, fun _ => none⟩
    commit := ⟨fun _ => none, fun _ => none⟩
    resolved := ⟨fun _ => none, fun _ => none⟩
    record_id := ⟨fun _ => none, fun _ => none⟩
    state_from_slice := fun _ => none }
  native := {
    parse_simple := surrealdb_rn_core.sync_state.split_record_id
    content := fun _ => .ok ()
    schema := fun _ _ => true
    component_row := fun _ => none }
  load_stage _ _ := .ok none

/-- A codec of texts. -/
def view_codec : Codec (serde_json.Value CanonicalFloat) where
  ciborium := Cbor.deterministic
  sha256 := bootstrap_codec.sha256_digest
  canonical_json
    | .String text => .ok ⟨.String text, trivial⟩
    | _ => .error .InvalidInput

theorem view_connected : Connected small_engine strict_platform view_platform view_codec where
  exact := small_engine_exact
  readable := strict_readable
  codec json canonical hcanonical := by
    cases json with
    | String text =>
      cases hcanonical
      rfl
    | _ => cases hcanonical
  simple := by decide

/-- The first name of every record. -/
def everything : SyncViewRequest CanonicalFloat := .page .all [["name"]] (.finite (double 1)) none

/-- A hundred characters of two bytes. -/
def wide_key : String := String.ofList (List.replicate 100 'é')

def wide : SyncViewRequest CanonicalFloat := .count (.eq ⟨[wide_key], .null⟩)

def everything_text : String :=
  "\x7b\"protocolVersion\":1,\"operation\":\"page\",\"selector\":\x7b\"kind\":\"all\"\x7d,\"projection\":[[\"name\"]],\"limit\":1\x7d"

def wide_text : String :=
  "\x7b\"protocolVersion\":1,\"operation\":\"count\",\"selector\":\x7b\"kind\":\"eq\",\"path\":[\"" ++ wide_key ++
    "\"],\"value\":null\x7d\x7d"

/-- The JSON library at the requests of the samples. -/
def view_request (text : String) : Option (Request CanonicalFloat) :=
  if text = everything_text then some (.Page 1 .All [["name"]] 1 none)
  else if text = wide_text then some (.Count 1 (.Eq [wide_key] .Null))
  else none

def view_serde : surrealdb_rn_core.sync_view.Serde CanonicalFloat where
  number
    | .PosInt n => n.to_string
    | .NegInt n _ => n.to_string
    | .Float _ => ""
  request := view_request
  cursor _ := none

theorem view_serde_request : view_serde.request = view_request := rfl

theorem reads_everything :
    view_serde.request (everything.stringify small_engine) = everything.native small_engine := by
  have htext : everything.stringify small_engine = everything_text := by decide +kernel
  have hinteger := integer_finite_double (n := 1) (by omega)
  have hread : view_request everything_text = some (.Page 1 .All [["name"]] 1 none) := by
    unfold view_request
    rw [if_pos rfl]
  rw [view_serde_request, htext, hread]
  simp only [everything, SyncViewRequest.native, hinteger]
  rfl

theorem reads_wide : view_serde.request (wide.stringify small_engine) = wide.native small_engine := by
  have htext : wide.stringify small_engine = wide_text := by decide +kernel
  have hother : wide_text ≠ everything_text := by decide +kernel
  have hread : view_request wide_text = some (.Count 1 (.Eq [wide_key] .Null)) := by
    unfold view_request
    rw [if_neg hother, if_pos rfl]
  rw [view_serde_request, htext, hread]
  rfl

/-- A client that was opened for the first time. -/
def opened (partition_id : String) : DurableClientState (serde_json.Value CanonicalFloat) :=
  .empty ⟨partition_id⟩ ⟨"client"⟩ ⟨"scope"⟩ 1

def named : ClientRuntime (serde_json.Value CanonicalFloat) := ⟨opened "partition", by decide +kernel⟩

def unnamed : ClientRuntime (serde_json.Value CanonicalFloat) := ⟨opened "", by decide +kernel⟩

def view_journal : ViewJournal := ⟨⟨"process", 0⟩, []⟩

/-- The text of the answer, when there is one. -/
def answer (runtime : ClientRuntime (serde_json.Value CanonicalFloat)) (input : String) : Option String :=
  (surrealdb_rn_core.sync_view.read view_serde runtime view_journal "token" input).toOption.bind fun response =>
    (output view_serde response.to_value).toOption

theorem exists_of_answer {input : String} (hanswer : (answer runtime input).isSome = true) :
    ∃ response text, surrealdb_rn_core.sync_view.read view_serde runtime view_journal "token" input = .ok response ∧
      output view_serde response.to_value = .ok text := by
  unfold answer at hanswer
  cases hread : surrealdb_rn_core.sync_view.read view_serde runtime view_journal "token" input with
  | error error =>
    rw [hread] at hanswer
    cases hanswer
  | ok response =>
    rw [hread] at hanswer
    cases houtput : output view_serde response.to_value with
    | error error =>
      simp [Except.toOption, houtput] at hanswer
    | ok text => exact ⟨response, text, rfl, houtput⟩

theorem everything_answered : (answer named (everything.stringify small_engine)).isSome = true ∧
    (answer unnamed (everything.stringify small_engine)).isSome = true := by decide +kernel

end Sample

end react_native_surrealdb.sync_view
