import SurrealSync.Protocol.HttpGrammar

open Except

namespace surrealdb_sync_protocol.canonical

/-! ### The size of a value on the wire -/

mutual

/-- The levels below a value on the wire: a tag is a level of its own. -/
def wire_depth : CanonicalTree → Nat
  | .None => 1
  | .Array values => wire_depth_of_list values
  | .Object values => wire_depth_of_entries values
  | .RecordId _ key => wire_depth key + 2
  | .Null | .Bool _ | .Int _ | .Float _ | .String _ | .Bytes _ => 0

def wire_depth_of_list : List CanonicalTree → Nat
  | [] => 0
  | value :: values => max (wire_depth value + 1) (wire_depth_of_list values)

def wire_depth_of_entries : List (String × CanonicalTree) → Nat
  | [] => 0
  | (_, value) :: entries => max (wire_depth value + 1) (wire_depth_of_entries entries)

end

mutual

/-- The data items of a value on the wire. -/
def wire_items : CanonicalTree → Nat
  | .None => 2
  | .Array values => 1 + wire_items_of_list values
  | .Object values => 1 + wire_items_of_entries values
  | .RecordId _ key => 3 + wire_items key
  | .Null | .Bool _ | .Int _ | .Float _ | .String _ | .Bytes _ => 1

def wire_items_of_list : List CanonicalTree → Nat
  | [] => 0
  | value :: values => wire_items value + wire_items_of_list values

def wire_items_of_entries : List (String × CanonicalTree) → Nat
  | [] => 0
  | (_, value) :: entries => 1 + wire_items value + wire_items_of_entries entries

end

theorem wire_depth_Array_lt_iff {values : List CanonicalTree} {levels : Nat} :
    wire_depth (.Array values) < levels + 1 ↔ ∀ value ∈ values, wire_depth value < levels := by
  rw [wire_depth]
  induction values with
  | nil => simp [wire_depth_of_list]
  | cons value values ih =>
    rw [wire_depth_of_list, List.forall_mem_cons, ← ih]
    omega

theorem wire_depth_Object_lt_iff {values : List (String × CanonicalTree)} {levels : Nat} :
    wire_depth (.Object values) < levels + 1 ↔ ∀ entry ∈ values, wire_depth entry.2 < levels := by
  rw [wire_depth]
  induction values with
  | nil => simp [wire_depth_of_entries]
  | cons entry values ih =>
    rw [wire_depth_of_entries, List.forall_mem_cons, ← ih]
    omega

theorem depth_to_cbor_lt_iff {value : CanonicalTree} {levels : Nat} :
    (to_cbor value).depth < levels ↔ wire_depth value < levels := by
  induction value generalizing levels with
  | None => rfl
  | Null => rfl
  | Bool value => rfl
  | Int value => rfl
  | Float value => rfl
  | String value => rfl
  | Bytes value => rfl
  | Array values ih =>
    cases levels with
    | zero => simp
    | succ levels =>
      rw [to_cbor, to_cbor_list_eq, Cbor.depth_Array_lt_iff, wire_depth_Array_lt_iff, List.forall_mem_map]
      exact forall₂_congr fun value hvalue => ih value hvalue
  | Object values ih =>
    cases levels with
    | zero => simp
    | succ levels =>
      rw [to_cbor_Object, Cbor.depth_Map_lt_iff, wire_depth_Object_lt_iff]
      simp only [(object_entries_perm values).mem_iff, List.forall_mem_map]
      refine forall₂_congr fun entry hentry => ?_
      rw [ih entry hentry, Cbor.depth]
      omega
  | RecordId table key ih =>
    have hkey : (to_cbor key).depth = wire_depth key := by
      have hle := @ih ((to_cbor key).depth + 1)
      have hge := @ih (wire_depth key + 1)
      omega
    simp [to_cbor, Cbor.depth, Cbor.depthOfList, wire_depth, hkey]

theorem depth_to_cbor (value : CanonicalTree) : (to_cbor value).depth = wire_depth value := by
  have hle := @depth_to_cbor_lt_iff value ((to_cbor value).depth + 1)
  have hge := @depth_to_cbor_lt_iff value (wire_depth value + 1)
  omega

theorem items_to_cbor (value : CanonicalTree) : (to_cbor value).items = wire_items value := by
  induction value with
  | None => rfl
  | Null => rfl
  | Bool value => rfl
  | Int value => rfl
  | Float value => rfl
  | String value => rfl
  | Bytes value => rfl
  | Array values ih =>
    rw [items_to_cbor_Array, wire_items]
    congr 1
    induction values with
    | nil => rfl
    | cons value values ihvalues =>
      obtain ⟨hvalue, hvalues⟩ := List.forall_mem_cons.mp ih
      rw [List.map_cons, List.sum_cons, wire_items_of_list, hvalue, ihvalues hvalues]
  | Object values ih =>
    rw [items_to_cbor_Object, wire_items]
    congr 1
    induction values with
    | nil => rfl
    | cons entry values ihvalues =>
      obtain ⟨hentry, hvalues⟩ := List.forall_mem_cons.mp ih
      rw [List.map_cons, List.sum_cons, wire_items_of_entries, hentry, ihvalues hvalues]
  | RecordId table key ih =>
    simp [to_cbor, Cbor.items, Cbor.itemsOfList, wire_items, ih]
    omega

end surrealdb_sync_protocol.canonical

namespace surrealdb_sync_protocol.http_codec

open canonical

/-! ### The trees keep to the limits of one item -/

/-- What the scanner and the reader ask of one item. -/
def Wire (item : Cbor) : Prop := item.Regular ∧ WithinLimits item

@[simp]
theorem wire_integer (value : UInt64) : (integer value).Every Wire := ⟨trivial, trivial⟩

theorem wire_bounded_text {limit : Nat} {value : String} (hlimit : limit ≤ MAX_STRING_BYTES)
    (h : BoundedText limit value) : (Cbor.Text value).Every Wire :=
  ⟨trivial, Nat.le_trans h.2 hlimit⟩

theorem wire_identity {value : String} (h : IdentityText value) : (Cbor.Text value).Every Wire :=
  wire_bounded_text (by decide) h

theorem wire_checkpoint_text {value : String} (h : CheckpointText value) : (Cbor.Text value).Every Wire :=
  wire_bounded_text (by decide) h

private theorem eq_append_of_isPrefixOf? {l₁ l₂ rest : List UInt8} (h : l₁.isPrefixOf? l₂ = some rest) :
    l₂ = l₁ ++ rest := by
  induction l₁ generalizing l₂ with
  | nil =>
    simp only [List.isPrefixOf?, Option.some.injEq] at h
    exact h
  | cons a l₁ ih =>
    cases l₂ with
    | nil => simp [List.isPrefixOf?] at h
    | cons b l₂ =>
      simp only [List.isPrefixOf?, beq_iff_eq, Option.ite_none_right_eq_some] at h
      obtain ⟨rfl, h⟩ := h
      rw [List.cons_append, ih h]

theorem wire_fingerprint {value : String} (h : validate_fingerprint value = .ok ()) :
    (Cbor.Text value).Every Wire := by
  simp only [validate_fingerprint, bind_eq_ok_iff, okOr_eq_ok_iff, refuse_eq_ok_iff, not_or, Decidable.not_not] at h
  obtain ⟨hex, hhex, hlength, -⟩ := h
  have hsize := congrArg List.length (eq_append_of_isPrefixOf? hhex)
  rw [String.length_as_bytes, List.length_append, hlength, String.length_as_bytes] at hsize
  refine ⟨trivial, ?_⟩
  rw [WithinLimits, hsize]
  decide

theorem wire_value {value : CanonicalValue} (h : Admitted.value value) : (to_cbor value.tree).Every Wire := by
  obtain ⟨hshaped, -⟩ := validate_eq_ok_iff.mp h
  exact Cbor.Every_and_iff.mpr ⟨regular_to_cbor _, withinLimits_to_cbor hshaped⟩

theorem wire_list {α : Type} {p : α → Prop} {tree : α → Cbor} (htree : ∀ a, p a → (tree a).Every Wire)
    {values : List α} (h : BoundedList p values) : (Cbor.Array (values.map tree)).Every Wire := by
  obtain ⟨hlength, hvalues⟩ := h
  rw [Cbor.Every_Array_iff, List.forall_mem_map]
  refine ⟨⟨trivial, ?_⟩, fun a ha => htree a (hvalues a ha)⟩
  rw [WithinLimits, List.length_map]
  exact hlength

/-- The array of a constructor or a record. -/
theorem wire_fields {values : List Cbor} (hlength : values.length ≤ 16) (h : ∀ value ∈ values, value.Every Wire) :
    (Cbor.Array values).Every Wire := by
  rw [Cbor.Every_Array_iff]
  exact ⟨⟨trivial, Nat.le_trans hlength (by decide)⟩, h⟩

theorem wire_reference {reference : Option RecordId} (h : Admitted.reference reference) :
    (grammar.optional_record_id reference).Every Wire := by
  cases reference with
  | none => exact ⟨trivial, trivial⟩
  | some record_id => exact wire_identity h

theorem wire_base_version (version : BaseVersion) : (encode_base_version version).Every Wire := by
  cases version <;> exact wire_fields (by simp) (by simp)

theorem wire_operation {operation : Operation CanonicalValue} (h : Admitted.operation operation) :
    (grammar.operation operation).Every Wire := by
  cases operation with
  | Upsert record_id base_version value reference =>
    obtain ⟨hid, hvalue, hreference⟩ := h
    apply wire_fields (by simp)
    simp [wire_identity hid, wire_base_version, wire_value hvalue, wire_reference hreference]
  | Delete record_id base_version =>
    apply wire_fields (by simp)
    simp [wire_identity h]

theorem wire_identity_pair {identity : CommitIdentity} (h : Admitted.identity identity) :
    (grammar.identity identity).Every Wire := by
  obtain ⟨hid, hfingerprint⟩ := h
  apply wire_fields (by simp)
  simp [wire_identity hid, wire_fingerprint hfingerprint]

theorem wire_push_request {request : PushRequest CanonicalValue} (h : Admitted.push_request request) :
    (grammar.push_request request).Every Wire := by
  obtain ⟨hpartition, hclient, hoperations, hid, hfingerprint⟩ := h
  have hcommit : (grammar.commit request.commit).Every Wire := by
    apply wire_fields (by simp)
    simp [wire_identity hid, wire_fingerprint hfingerprint, wire_list (fun _ => wire_operation) hoperations]
  apply wire_fields (by simp)
  simp [wire_identity hpartition, wire_identity hclient, hcommit]

theorem wire_record_state {state : RecordState CanonicalValue} (h : Admitted.record_state state) :
    (grammar.record_state state).Every Wire := by
  cases state with
  | Absent => exact wire_fields (by simp) (by simp)
  | Present value version reference =>
    obtain ⟨hvalue, hreference⟩ := h
    apply wire_fields (by simp)
    simp [wire_value hvalue, wire_reference hreference]
  | Tombstone version => exact wire_fields (by simp) (by simp)

theorem wire_id_mapping {mapping : IdMapping} (h : Admitted.id_mapping mapping) :
    (grammar.id_mapping mapping).Every Wire := by
  obtain ⟨hlocal, hcanonical⟩ := h
  apply wire_fields (by simp)
  simp [wire_identity hlocal, wire_identity hcanonical]

theorem wire_outcome {outcome : DurableOutcome CanonicalValue} (h : Admitted.outcome outcome) :
    (grammar.outcome outcome).Every Wire := by
  cases outcome with
  | Accepted identity sequence id_mappings =>
    obtain ⟨hmappings, hidentity⟩ := h
    apply wire_fields (by simp)
    simp [wire_identity_pair hidentity, wire_list (fun _ => wire_id_mapping) hmappings]
  | Conflict identity record_id authoritative =>
    obtain ⟨hidentity, hid, hstate⟩ := h
    apply wire_fields (by simp)
    simp [wire_identity_pair hidentity, wire_identity hid, wire_record_state hstate]
  | Rejected identity reason =>
    apply wire_fields (by simp)
    simp [wire_identity_pair h]

theorem wire_push_response {response : PushResponse CanonicalValue} (h : Admitted.push_response response) :
    (grammar.push_response response).Every Wire := by
  obtain ⟨hpartition, hclient, houtcome⟩ := h
  apply wire_fields (by simp)
  simp [wire_identity hpartition, wire_identity hclient, wire_outcome houtcome]

theorem wire_pull_request {request : PullRequest} (h : Admitted.pull_request request) :
    (grammar.pull_request request).Every Wire := by
  obtain ⟨hcheckpoint, hpartition, hclient, hscope⟩ := h
  have hoptional : (grammar.optional_checkpoint request.checkpoint).Every Wire := by
    cases hnone : request.checkpoint with
    | none => exact ⟨trivial, trivial⟩
    | some checkpoint =>
      rw [hnone] at hcheckpoint
      exact wire_checkpoint_text hcheckpoint
  apply wire_fields (by simp)
  simp [wire_identity hpartition, wire_identity hclient, wire_identity hscope, hoptional]

theorem wire_checkpoint {checkpoint : Checkpoint} (h : Admitted.checkpoint checkpoint) :
    (grammar.checkpoint checkpoint).Every Wire := by
  obtain ⟨htoken, hidentity⟩ := h
  have hcursor : (Cbor.Array [integer checkpoint.cursor.epoch, integer checkpoint.cursor.sequence]).Every Wire :=
    wire_fields (by simp) (by simp)
  have hscope : (Cbor.Array [.Text checkpoint.scope.identity.val, integer checkpoint.scope.authorization_revision,
      integer checkpoint.scope.subscription_revision]).Every Wire :=
    wire_fields (by simp) (by simp [wire_identity hidentity])
  apply wire_fields (by simp)
  simp [wire_checkpoint_text htoken, hcursor, hscope]

theorem wire_record {record_id : RecordId} {state : RecordState CanonicalValue} (h : Admitted.record record_id state) :
    (grammar.record record_id state).Every Wire := by
  obtain ⟨hid, hstate⟩ := h
  apply wire_fields (by simp)
  simp [wire_identity hid, wire_record_state hstate]

theorem wire_pull_frame {frame : PullFrame CanonicalValue} (h : Admitted.pull_frame frame) :
    (grammar.pull_frame frame).Every Wire := by
  cases frame with
  | Start checkpoint =>
    apply wire_fields (by simp)
    simp [wire_checkpoint h]
  | Commit checkpoint commit =>
    obtain ⟨hcheckpoint, hrecords⟩ := h
    have hlist : (Cbor.Array (commit.records.map grammar.applied_record)).Every Wire :=
      wire_list (fun _ => wire_record) hrecords
    have hcommit : (grammar.pull_commit commit).Every Wire := by
      apply wire_fields (by simp)
      simp [hlist]
    apply wire_fields (by simp)
    simp [wire_checkpoint_text hcheckpoint, hcommit]
  | End checkpoint =>
    apply wire_fields (by simp)
    simp [wire_checkpoint h]

theorem wire_pull_response {response : PullResponse CanonicalValue} (h : Admitted.pull_response response) :
    (grammar.pull_response response).Every Wire := by
  cases response with
  | Batch batch =>
    apply wire_fields (by simp)
    simp [wire_list (fun _ => wire_pull_frame) h]
  | Reset reset =>
    obtain ⟨hrecords, hcheckpoint⟩ := h
    have hlist : (Cbor.Array (reset.records.map grammar.snapshot_record)).Every Wire :=
      wire_list (fun _ => wire_record) hrecords
    apply wire_fields (by simp)
    simp [wire_checkpoint hcheckpoint, hlist]

/-! ### The bytes of a message and the limits of its item -/

variable {ciborium : Ciborium}

/-- The decoder of a kind accepts what its encoder wrote exactly when the scanner does,
which counts levels and items over the whole envelope. -/
theorem decode_typed_encode_iff {α : Type} {kind : UInt64} {encoder : α → Budgeted Cbor}
    {decoder : Cbor → Result α} {erase : α → α} {tree : α → Cbor} {admitted : α → Prop} {items : α → Nat}
    (hemits : ∀ message, Emits (encoder message) (tree message) (admitted message) (items message))
    (hdecodes : ∀ message, admitted message → decoder (tree message) = .ok (erase message))
    (hwire : ∀ message, admitted message → (tree message).Every Wire)
    (herase : ∀ message, encoder (erase message) = encoder message)
    {message : α} {bytes : List UInt8} (hencode : encode_message ciborium kind (encoder message) = .ok bytes) :
    items message + 4 ≤ MAX_TOTAL_ITEMS ∧
      (decode_typed ciborium kind decoder (fun message => encode_message ciborium kind (encoder message)) bytes =
          .ok (erase message) ↔
        (tree message).depth < MAX_DEPTH ∧ 4 + (tree message).items ≤ MAX_TOTAL_ITEMS) := by
  obtain ⟨budget, payload, rest, hfamily, hrun, hwrite⟩ := encode_family_message_eq_ok_iff.mp hencode
  obtain ⟨hbounded, hroom⟩ := bounded_of_family hfamily
  obtain ⟨hadmitted, htree, htaken, -⟩ := hemits message budget (payload, rest) hbounded hrun
  dsimp only at htree htaken
  subst htree
  have hlength := (encode_cbor_value_eq_ok_iff.mp hwrite).2
  have henvelope : (envelope kind (tree message)).Every Wire := by
    have hname : (Cbor.Text V1_NAME).Every Wire := wire_identity ⟨by decide, by decide⟩
    apply wire_fields (by simp)
    simp [hname, hwire message hadmitted]
  obtain ⟨hregular, hlimits⟩ := Cbor.Every_and_iff.mp henvelope
  have hdepth : (envelope kind (tree message)).depth ≤ MAX_DEPTH ↔ (tree message).depth < MAX_DEPTH := by
    rw [← Nat.lt_succ_iff, Nat.succ_eq_add_one, envelope, family_envelope, Cbor.depth_Array_lt_iff]
    simp [Cbor.depth, integer, MAX_DEPTH]
  have hitems : (envelope kind (tree message)).items = 4 + (tree message).items := by
    simp [envelope, family_envelope, Cbor.items_Array]
    omega
  have hread (payload : Cbor) : decode_message ciborium bytes kind = .ok payload ↔
      ((tree message).depth < MAX_DEPTH ∧ 4 + (tree message).items ≤ MAX_TOTAL_ITEMS) ∧ tree message = payload := by
    rw [decode_message, decode_family_message_eq_ok_iff, ← envelope,
      read_cbor_value_iff hregular hwrite hlength, hdepth, hitems]
    constructor
    · rintro ⟨⟨-, hdepth, hitems⟩, hsame⟩
      exact ⟨⟨hdepth, hitems⟩, (family_envelope_inj hsame).2.2⟩
    · rintro ⟨⟨hdepth, hitems⟩, rfl⟩
      exact ⟨⟨hlimits, hdepth, hitems⟩, rfl⟩
  refine ⟨by omega, ?_⟩
  constructor
  · intro hdecode
    obtain ⟨payload, hpayload, -⟩ := bind_eq_ok_iff.mp hdecode
    exact ((hread payload).mp hpayload).1
  · intro hfits
    have hpayload := (hread (tree message)).mpr ⟨hfits, rfl⟩
    simp [decode_typed, hpayload, hdecodes message hadmitted, herase, hencode, require_typed_canonical, refuse,
      pure, Except.pure]

theorem encoder_without_sources (response : PullResponse CanonicalValue) :
    Encoder.pull_response response.without_sources = Encoder.pull_response response := by
  cases response with
  | Reset reset => rfl
  | Batch batch =>
    have hframe (frame : PullFrame CanonicalValue) :
        Encoder.pull_frame frame.without_source = Encoder.pull_frame frame := by
      cases frame <;> rfl
    simp [PullResponse.without_sources, Encoder.pull_response, List.mapM_map, Function.comp_def, hframe]

/-! ### What the four decoders accept -/

/-- The value of an operation has at most `depth` levels below it. -/
def OperationWithin (depth : Nat) : Operation CanonicalValue → Prop
  | .Upsert _ _ value _ => wire_depth value.tree ≤ depth
  | .Delete _ _ => True

def StateWithin (depth : Nat) : RecordState CanonicalValue → Prop
  | .Present value _ _ => wire_depth value.tree ≤ depth
  | .Absent | .Tombstone _ => True

def OutcomeWithin (depth : Nat) : DurableOutcome CanonicalValue → Prop
  | .Conflict _ _ authoritative => StateWithin depth authoritative
  | .Accepted .. | .Rejected .. => True

def FrameWithin (depth : Nat) : PullFrame CanonicalValue → Prop
  | .Commit _ commit => ∀ applied ∈ commit.records, StateWithin depth applied.state
  | .Start _ | .End _ => True

def state_items : RecordState CanonicalValue → Nat
  | .Absent => 2
  | .Present value _ _ => 4 + wire_items value.tree
  | .Tombstone _ => 3

def frame_items : PullFrame CanonicalValue → Nat
  | .Start _ | .End _ => 11
  | .Commit _ commit => 6 + (commit.records.map fun applied => 2 + state_items applied.state).sum

/-- The scanner's limits for a pull response: a value of a batch is eight levels below
the envelope, one of a reset five. -/
def PullResponseFits : PullResponse CanonicalValue → Prop
  | .Batch batch =>
    (∀ frame ∈ batch.frames, FrameWithin (MAX_DEPTH - 8) frame) ∧
      7 + (batch.frames.map frame_items).sum ≤ MAX_TOTAL_ITEMS
  | .Reset reset => ∀ snapshot ∈ reset.records, StateWithin (MAX_DEPTH - 5) snapshot.state

@[simp]
theorem depth_Text (value : String) : (Cbor.Text value).depth = 0 := rfl

@[simp]
theorem depth_integer (value : UInt64) : (integer value).depth = 0 := rfl

@[simp]
theorem depth_optional_record_id (reference : Option RecordId) :
    (grammar.optional_record_id reference).depth = 0 := by
  cases reference <;> rfl

theorem depth_record_state_lt_iff {state : RecordState CanonicalValue} {depth : Nat} :
    (grammar.record_state state).depth < depth + 2 ↔ StateWithin depth state := by
  cases state with
  | Absent => simp [grammar.record_state, Cbor.depth_Array_lt_iff, StateWithin]
  | Present value version reference =>
    have hdepth : wire_depth value.tree < depth + 1 ↔ wire_depth value.tree ≤ depth := by omega
    simp [grammar.record_state, Cbor.depth_Array_lt_iff, StateWithin, depth_to_cbor, hdepth]
  | Tombstone version => simp [grammar.record_state, Cbor.depth_Array_lt_iff, StateWithin]

theorem depth_push_request_lt_iff {request : PushRequest CanonicalValue} :
    (grammar.push_request request).depth < MAX_DEPTH ↔
      ∀ operation ∈ request.commit.operations, OperationWithin (MAX_DEPTH - 5) operation := by
  have hoperation (operation : Operation CanonicalValue) :
      (grammar.operation operation).depth < 29 ↔ OperationWithin 27 operation := by
    cases operation with
    | Upsert record_id base_version value reference =>
      have hversion : (encode_base_version base_version).depth < 28 := by
        cases base_version <;> simp [encode_base_version, Cbor.depth_Array_lt_iff]
      simp [grammar.operation, Cbor.depth_Array_lt_iff, OperationWithin, depth_to_cbor, hversion]
      omega
    | Delete record_id base_version => simp [grammar.operation, Cbor.depth_Array_lt_iff, OperationWithin]
  simp [grammar.push_request, grammar.commit, MAX_DEPTH, Cbor.depth_Array_lt_iff, hoperation]

theorem depth_push_response_lt_iff {response : PushResponse CanonicalValue} :
    (grammar.push_response response).depth < MAX_DEPTH ↔ OutcomeWithin (MAX_DEPTH - 4) response.outcome := by
  have hidentity (identity : CommitIdentity) : (grammar.identity identity).depth < 30 := by
    simp [grammar.identity, Cbor.depth_Array_lt_iff]
  have houtcome : (grammar.outcome response.outcome).depth < 31 ↔ OutcomeWithin 28 response.outcome := by
    cases response.outcome with
    | Accepted identity sequence id_mappings =>
      simp [grammar.outcome, Cbor.depth_Array_lt_iff, hidentity, OutcomeWithin, grammar.id_mapping]
    | Conflict identity record_id authoritative =>
      simp [grammar.outcome, Cbor.depth_Array_lt_iff, hidentity, OutcomeWithin,
        @depth_record_state_lt_iff authoritative 28]
    | Rejected identity reason => simp [grammar.outcome, Cbor.depth_Array_lt_iff, hidentity, OutcomeWithin]
  simp [grammar.push_response, MAX_DEPTH, Cbor.depth_Array_lt_iff, houtcome]

theorem depth_pull_request_lt (request : PullRequest) : (grammar.pull_request request).depth < MAX_DEPTH := by
  have hcheckpoint : (grammar.optional_checkpoint request.checkpoint).depth = 0 := by
    cases request.checkpoint <;> rfl
  simp [grammar.pull_request, MAX_DEPTH, Cbor.depth_Array_lt_iff, hcheckpoint]

theorem depth_checkpoint (checkpoint : Checkpoint) : (grammar.checkpoint checkpoint).depth = 2 := rfl

theorem items_record_state (state : RecordState CanonicalValue) :
    (grammar.record_state state).items = state_items state := by
  cases state with
  | Absent => simp [grammar.record_state, Cbor.items_Array, state_items]
  | Present value version reference =>
    simp [grammar.record_state, Cbor.items_Array, state_items, items_to_cbor]
    omega
  | Tombstone version => simp [grammar.record_state, Cbor.items_Array, state_items]

theorem items_pull_frame (frame : PullFrame CanonicalValue) :
    (grammar.pull_frame frame).items = frame_items frame := by
  cases frame with
  | Start checkpoint => rfl
  | Commit checkpoint commit =>
    have hrecord (applied : AppliedRecord CanonicalValue) :
        (grammar.applied_record applied).items = 2 + state_items applied.state := by
      simp [grammar.applied_record, grammar.record, Cbor.items_Array, items_record_state]
      omega
    have hrecords : (commit.records.map grammar.applied_record).map Cbor.items =
        commit.records.map fun applied => 2 + state_items applied.state := by
      rw [List.map_map]
      exact List.map_congr_left fun applied _ => hrecord applied
    simp only [grammar.pull_frame, grammar.pull_commit, Cbor.items_Array, hrecords, frame_items, List.map_cons,
      List.map_nil, List.sum_cons, List.sum_nil, items_integer, items_Text]
    omega
  | End checkpoint => rfl

theorem pull_response_fits_iff {response : PullResponse CanonicalValue}
    (hcovered : covered_items response + 4 ≤ MAX_TOTAL_ITEMS) :
    ((grammar.pull_response response).depth < MAX_DEPTH ∧
        4 + (grammar.pull_response response).items ≤ MAX_TOTAL_ITEMS) ↔ PullResponseFits response := by
  cases response with
  | Batch batch =>
    have hframe (frame : PullFrame CanonicalValue) :
        (grammar.pull_frame frame).depth < 30 ↔ FrameWithin 24 frame := by
      cases frame with
      | Start checkpoint => simp [grammar.pull_frame, Cbor.depth_Array_lt_iff, depth_checkpoint, FrameWithin]
      | Commit checkpoint commit =>
        simp [grammar.pull_frame, grammar.pull_commit, grammar.applied_record, grammar.record,
          Cbor.depth_Array_lt_iff, FrameWithin, fun state => @depth_record_state_lt_iff state 24]
      | End checkpoint => simp [grammar.pull_frame, Cbor.depth_Array_lt_iff, depth_checkpoint, FrameWithin]
    have hframes : (batch.frames.map grammar.pull_frame).map Cbor.items = batch.frames.map frame_items := by
      rw [List.map_map]
      exact List.map_congr_left fun frame _ => items_pull_frame frame
    have hitems : 4 + (grammar.pull_response (.Batch batch)).items = 7 + (batch.frames.map frame_items).sum := by
      simp only [grammar.pull_response, Cbor.items_Array, hframes, List.map_cons, List.map_nil, List.sum_cons,
        List.sum_nil, items_integer]
      omega
    rw [hitems]
    simp [grammar.pull_response, MAX_DEPTH, Cbor.depth_Array_lt_iff, hframe, PullResponseFits]
  | Reset reset =>
    have hrecord (snapshot : SnapshotRecord CanonicalValue) :
        (grammar.snapshot_record snapshot).depth < 30 ↔ StateWithin 27 snapshot.state := by
      simp [grammar.snapshot_record, grammar.record, Cbor.depth_Array_lt_iff,
        @depth_record_state_lt_iff snapshot.state 27]
    have hcheckpoint : (grammar.checkpoint reset.checkpoint).items = 9 := rfl
    have hitems : 4 + (grammar.pull_response (.Reset reset)).items ≤ MAX_TOTAL_ITEMS := by
      rw [covered_items, MAX_TOTAL_ITEMS] at hcovered
      rw [grammar.pull_response, Cbor.items_Array, MAX_TOTAL_ITEMS]
      simp only [Cbor.items_Array, hcheckpoint, List.map_cons, List.map_nil, List.sum_cons, List.sum_nil,
        items_integer]
      -- Only an empty reset takes less than its tree has, and it is far below the limit.
      by_cases hempty : reset.records = []
      · simp [hempty]
      · have hlength := List.length_pos_iff.mpr hempty
        omega
    simp only [hitems, and_true]
    simp [grammar.pull_response, MAX_DEPTH, Cbor.depth_Array_lt_iff, depth_checkpoint, hrecord, PullResponseFits]

/-- Every message that the encoder emits is accepted by the decoder of its kind
exactly when its values are not nested deeper than the envelope leaves room for and,
for a batch, when the envelope as a whole keeps to the scanner's number of items. -/
theorem encoded_messages_decode_iff (ciborium : Ciborium) :
    (∀ request bytes, encode_push_request ciborium request = .ok bytes →
      (decode_push_request ciborium bytes = .ok request ↔
        ∀ operation ∈ request.commit.operations, OperationWithin (MAX_DEPTH - 5) operation)) ∧
    (∀ response bytes, encode_push_response ciborium response = .ok bytes →
      (decode_push_response ciborium bytes = .ok response ↔ OutcomeWithin (MAX_DEPTH - 4) response.outcome)) ∧
    (∀ request bytes, encode_pull_request ciborium request = .ok bytes →
      decode_pull_request ciborium bytes = .ok request) ∧
    (∀ response bytes, encode_pull_response ciborium response = .ok bytes →
      (decode_pull_response ciborium bytes = .ok response.without_sources ↔ PullResponseFits response)) := by
  refine ⟨?_, ?_, ?_, ?_⟩
  · intro request bytes hencode
    obtain ⟨hitems, hiff⟩ := decode_typed_encode_iff emits_push_request
      (fun _ => decode_push_request_grammar) (fun _ => wire_push_request) (fun _ => rfl) hencode
    rw [← depth_push_request_lt_iff]
    apply hiff.trans
    simp only [and_iff_left_iff_imp]
    omega
  · intro response bytes hencode
    obtain ⟨hitems, hiff⟩ := decode_typed_encode_iff emits_push_response
      (fun _ => decode_push_response_grammar) (fun _ => wire_push_response) (fun _ => rfl) hencode
    rw [← depth_push_response_lt_iff]
    apply hiff.trans
    simp only [and_iff_left_iff_imp]
    omega
  · intro request bytes hencode
    obtain ⟨hitems, hiff⟩ := decode_typed_encode_iff emits_pull_request
      (fun _ => decode_pull_request_grammar) (fun _ => wire_pull_request) (fun _ => rfl) hencode
    exact hiff.mpr ⟨depth_pull_request_lt request, by omega⟩
  · intro response bytes hencode
    obtain ⟨hitems, hiff⟩ := decode_typed_encode_iff emits_pull_response
      (fun _ => decode_pull_response_grammar) (fun _ => wire_pull_response) encoder_without_sources hencode
    exact hiff.trans (pull_response_fits_iff hitems)

/-- An empty array within `depth` arrays of one element. -/
def nested_array : Nat → CanonicalTree
  | 0 => .Array []
  | depth + 1 => .Array [nested_array depth]

theorem ordered_nested_array (depth : Nat) : EachValue KeysOrdered (nested_array depth) := by
  induction depth with
  | zero => exact ⟨trivial, trivial⟩
  | succ depth ih => exact ⟨trivial, ih, trivial⟩

/-- A request that upserts one nested array. -/
def nested_request (depth : Nat) : PushRequest CanonicalValue where
  schema_version := .V1
  partition_id := ⟨"p"⟩
  client_id := ⟨"c"⟩
  commit := {
    identity := ⟨⟨"k"⟩, ⟨"sha256:0123456789abcdef0123456789abcdef0123456789abcdef0123456789abcdef"⟩⟩
    operations := [.Upsert ⟨"r"⟩ .Absent ⟨nested_array depth, ordered_nested_array depth⟩ none] }

theorem encoded_messages_decode_iff_nested :
    ∃ bytes, encode_push_request Cbor.deterministic (nested_request 27) = .ok bytes ∧
      decode_push_request Cbor.deterministic bytes = .ok (nested_request 27) := by
  have hemitted : (encode_push_request Cbor.deterministic (nested_request 27)).isOk = true := by decide +kernel
  obtain ⟨bytes, hencode⟩ := isOk_eq_true_iff.mp hemitted
  refine ⟨bytes, hencode, ?_⟩
  rw [(encoded_messages_decode_iff Cbor.deterministic).1 _ _ hencode]
  simp [nested_request, OperationWithin, nested_array, wire_depth, wire_depth_of_list, MAX_DEPTH]

/-- One level more is emitted and refused. -/
theorem encoded_push_request_refused :
    ∃ bytes, encode_push_request Cbor.deterministic (nested_request 28) = .ok bytes ∧
      ∀ message, decode_push_request Cbor.deterministic bytes ≠ .ok message := by
  have hemitted : (encode_push_request Cbor.deterministic (nested_request 28)).isOk = true := by decide +kernel
  have hrefused : (encode_push_request Cbor.deterministic (nested_request 28) >>=
      decode_push_request Cbor.deterministic).isOk = false := by decide +kernel
  obtain ⟨bytes, hencode⟩ := isOk_eq_true_iff.mp hemitted
  refine ⟨bytes, hencode, ?_⟩
  intro message hdecode
  rw [hencode, ok_bind, hdecode] at hrefused
  cases hrefused

end surrealdb_sync_protocol.http_codec
