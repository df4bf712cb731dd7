import SurrealSync.Protocol.HttpCodec

open Except

namespace surrealdb_sync_protocol

variable {V : Type}

/-- A commit as the pull bytes carry it. -/
def PullCommit.without_source (commit : PullCommit V) : PullCommit V := { commit with source := none }

def PullFrame.without_source : PullFrame V → PullFrame V
  | .Start checkpoint => .Start checkpoint
  | .Commit checkpoint commit => .Commit checkpoint commit.without_source
  | .End checkpoint => .End checkpoint

def PullResponse.without_sources : PullResponse V → PullResponse V
  | .Batch batch => .Batch ⟨batch.frames.map PullFrame.without_source⟩
  | .Reset snapshot => .Reset snapshot

end surrealdb_sync_protocol

namespace surrealdb_sync_protocol.http_codec

open canonical

/-! ### The tree of every message -/

namespace grammar

def optional_record_id : Option RecordId → Cbor
  | some value => .Text value.val
  | none => .Null

def operation : Operation CanonicalValue → Cbor
  | .Upsert record_id base_version value reference =>
    .Array [integer 0, .Text record_id.val, encode_base_version base_version, to_cbor value.tree,
      optional_record_id reference]
  | .Delete record_id base_version => .Array [integer 1, .Text record_id.val, integer base_version]

def commit (commit : ClientCommit CanonicalValue) : Cbor :=
  .Array [.Text commit.identity.client_commit_id.val, .Text commit.identity.fingerprint.val,
    .Array (commit.operations.map operation)]

def push_request (request : PushRequest CanonicalValue) : Cbor :=
  .Array [.Text request.partition_id.val, .Text request.client_id.val, commit request.commit]

def identity (identity : CommitIdentity) : Cbor :=
  .Array [.Text identity.client_commit_id.val, .Text identity.fingerprint.val]

def record_state : RecordState CanonicalValue → Cbor
  | .Absent => .Array [integer 0]
  | .Present value version reference =>
    .Array [integer 1, to_cbor value.tree, integer version, optional_record_id reference]
  | .Tombstone version => .Array [integer 2, integer version]

def id_mapping (mapping : IdMapping) : Cbor :=
  .Array [.Text mapping.local_id.val, .Text mapping.canonical_id.val]

def outcome : DurableOutcome CanonicalValue → Cbor
  | .Accepted identity' sequence id_mappings =>
    .Array [integer 0, identity identity', integer sequence, .Array (id_mappings.map id_mapping)]
  | .Conflict identity' record_id authoritative =>
    .Array [integer 1, identity identity', .Text record_id.val, record_state authoritative]
  | .Rejected identity' reason => .Array [integer 2, identity identity', integer (reject_reason reason)]

def push_response (response : PushResponse CanonicalValue) : Cbor :=
  .Array [.Text response.partition_id.val, .Text response.client_id.val, outcome response.outcome]

def optional_checkpoint : Option OpaqueCheckpoint → Cbor
  | some checkpoint => .Text checkpoint.val
  | none => .Null

def pull_request (request : PullRequest) : Cbor :=
  .Array [.Text request.partition_id.val, .Text request.client_id.val, optional_checkpoint request.checkpoint,
    .Text request.requested_scope.val, integer request.subscription_revision]

def checkpoint (checkpoint : Checkpoint) : Cbor :=
  .Array [.Text checkpoint.token.val,
    .Array [integer checkpoint.cursor.epoch, integer checkpoint.cursor.sequence],
    .Array [.Text checkpoint.scope.identity.val, integer checkpoint.scope.authorization_revision,
      integer checkpoint.scope.subscription_revision]]

def record (record_id : RecordId) (state : RecordState CanonicalValue) : Cbor :=
  .Array [.Text record_id.val, record_state state]

def applied_record (applied : AppliedRecord CanonicalValue) : Cbor := record applied.record_id applied.state

def snapshot_record (snapshot : SnapshotRecord CanonicalValue) : Cbor := record snapshot.record_id snapshot.state

def pull_commit (commit : PullCommit CanonicalValue) : Cbor :=
  .Array [integer commit.sequence, .Array (commit.records.map applied_record)]

def pull_frame : PullFrame CanonicalValue → Cbor
  | .Start checkpoint' => .Array [integer 0, checkpoint checkpoint']
  | .Commit checkpoint commit => .Array [integer 1, .Text checkpoint.val, pull_commit commit]
  | .End checkpoint' => .Array [integer 2, checkpoint checkpoint']

def pull_response : PullResponse CanonicalValue → Cbor
  | .Batch batch => .Array [integer 0, .Array (batch.frames.map pull_frame)]
  | .Reset reset =>
    .Array [integer 1, integer (reset_reason reset.reason), checkpoint reset.checkpoint,
      .Array (reset.records.map snapshot_record)]

end grammar

/-! ### What the encoder has checked -/

def BoundedText (limit : Nat) (value : String) : Prop := value ≠ "" ∧ value.utf8ByteSize ≤ limit

def IdentityText (value : String) : Prop := BoundedText MAX_IDENTITY_BYTES value

def CheckpointText (value : String) : Prop := BoundedText MAX_CHECKPOINT_BYTES value

/-- A list within the limit of its container, of elements with `p`. -/
def BoundedList {α : Type} (p : α → Prop) (values : List α) : Prop :=
  values.length ≤ MAX_CONTAINER_ITEMS ∧ ∀ value ∈ values, p value

namespace Admitted

def value (value : CanonicalValue) : Prop := validate value.tree = .ok ()

def reference : Option RecordId → Prop
  | some record_id => IdentityText record_id.val
  | none => True

def operation : Operation CanonicalValue → Prop
  | .Upsert record_id _ value' reference' => IdentityText record_id.val ∧ value value' ∧ reference reference'
  | .Delete record_id _ => IdentityText record_id.val

def identity (identity : CommitIdentity) : Prop :=
  IdentityText identity.client_commit_id.val ∧ validate_fingerprint identity.fingerprint.val = .ok ()

def commit (commit : ClientCommit CanonicalValue) : Prop :=
  BoundedList operation commit.operations ∧ identity commit.identity

def push_request (request : PushRequest CanonicalValue) : Prop :=
  IdentityText request.partition_id.val ∧ IdentityText request.client_id.val ∧ commit request.commit

def record_state : RecordState CanonicalValue → Prop
  | .Absent => True
  | .Present value' _ reference' => value value' ∧ reference reference'
  | .Tombstone _ => True

def id_mapping (mapping : IdMapping) : Prop :=
  IdentityText mapping.local_id.val ∧ IdentityText mapping.canonical_id.val

def outcome : DurableOutcome CanonicalValue → Prop
  | .Accepted identity' _ id_mappings => BoundedList id_mapping id_mappings ∧ identity identity'
  | .Conflict identity' record_id authoritative =>
    identity identity' ∧ IdentityText record_id.val ∧ record_state authoritative
  | .Rejected identity' _ => identity identity'

def push_response (response : PushResponse CanonicalValue) : Prop :=
  IdentityText response.partition_id.val ∧ IdentityText response.client_id.val ∧ outcome response.outcome

def optional_checkpoint : Option OpaqueCheckpoint → Prop
  | some checkpoint => CheckpointText checkpoint.val
  | none => True

def pull_request (request : PullRequest) : Prop :=
  optional_checkpoint request.checkpoint ∧ IdentityText request.partition_id.val ∧
    IdentityText request.client_id.val ∧ IdentityText request.requested_scope.val

def checkpoint (checkpoint : Checkpoint) : Prop :=
  CheckpointText checkpoint.token.val ∧ IdentityText checkpoint.scope.identity.val

def record (record_id : RecordId) (state : RecordState CanonicalValue) : Prop :=
  IdentityText record_id.val ∧ record_state state

def applied_record (applied : AppliedRecord CanonicalValue) : Prop := record applied.record_id applied.state

def snapshot_record (snapshot : SnapshotRecord CanonicalValue) : Prop := record snapshot.record_id snapshot.state

def pull_commit (commit : PullCommit CanonicalValue) : Prop := BoundedList applied_record commit.records

def pull_frame : PullFrame CanonicalValue → Prop
  | .Start checkpoint' => checkpoint checkpoint'
  | .Commit checkpoint commit => CheckpointText checkpoint.val ∧ pull_commit commit
  | .End checkpoint' => checkpoint checkpoint'

def pull_response : PullResponse CanonicalValue → Prop
  | .Batch batch => BoundedList pull_frame batch.frames
  | .Reset reset => BoundedList snapshot_record reset.records ∧ checkpoint reset.checkpoint

end Admitted

/-! ### Items of the trees -/

@[simp]
theorem items_Text (value : String) : (Cbor.Text value).items = 1 := rfl

@[simp]
theorem items_integer (value : UInt64) : (integer value).items = 1 := rfl

@[simp]
theorem items_optional_record_id (reference : Option RecordId) :
    (grammar.optional_record_id reference).items = 1 := by
  cases reference <;> rfl

@[simp]
theorem items_optional_checkpoint (checkpoint : Option OpaqueCheckpoint) :
    (grammar.optional_checkpoint checkpoint).items = 1 := by
  cases checkpoint <;> rfl

theorem items_encode_base_version_le (version : BaseVersion) : (encode_base_version version).items ≤ 3 := by
  cases version <;> simp [encode_base_version, Cbor.items_Array]

/-! ### What the encoder emits

The items that an encoder method takes cover those of the tree it gives, except for
the two inner arrays of a checkpoint and one of their numbers. -/

theorem emits_bounded_text (limit : Nat) (value : String) :
    Emits (Encoder.bounded_text limit value) (.Text value) (BoundedText limit value) 1 := by
  refine Emits.imp ((Emits.lift _).bind ((Emits.take_bytes _).bind ((Emits.take_items 1).bind (Emits.pure _)))) ?_ ?_
  · rintro ⟨hrefuse, -⟩
    rw [refuse_eq_ok_iff, not_or, Nat.not_lt] at hrefuse
    exact hrefuse
  · omega

theorem emits_fingerprint (fingerprint : Fingerprint) :
    Emits (Encoder.fingerprint fingerprint) (.Text fingerprint.val)
      (validate_fingerprint fingerprint.val = .ok ()) 1 := by
  refine Emits.imp ((Emits.lift _).bind ((Emits.take_bytes _).bind ((Emits.take_items 1).bind (Emits.pure _)))) ?_ ?_
  · rintro ⟨hvalid, -⟩
    exact hvalid
  · omega

theorem emits_vec {α : Type} (values : List α) :
    Emits (Encoder.vec values.length) () (values.length ≤ MAX_CONTAINER_ITEMS) (values.length + 1) := by
  refine Emits.imp ((Emits.lift _).bind (Emits.take_items _)) ?_ ?_
  · rintro ⟨hrefuse, -⟩
    rw [refuse_eq_ok_iff, Nat.not_lt] at hrefuse
    exact hrefuse
  · omega

theorem emits_canonical_value (value : CanonicalValue) :
    Emits (Encoder.canonical_value value) (to_cbor value.tree) (Admitted.value value) (to_cbor value.tree).items :=
  Emits.imp ((emits_validate value.tree).bind (Emits.pure _)) And.left (Nat.le_refl _)

theorem emits_optional_record_id (reference : Option RecordId) :
    Emits (Encoder.optional_record_id reference) (grammar.optional_record_id reference)
      (Admitted.reference reference) 1 := by
  cases reference with
  | none => exact Emits.imp ((Emits.take_items 1).bind (Emits.pure _)) (fun _ => trivial) (by omega)
  | some record_id => exact emits_bounded_text _ _

theorem emits_operation (operation : Operation CanonicalValue) :
    Emits (Encoder.operation operation) (grammar.operation operation) (Admitted.operation operation)
      (grammar.operation operation).items := by
  cases operation with
  | Upsert record_id base_version value reference =>
    refine Emits.imp ((Emits.take_items 6).bind ((emits_bounded_text _ _).bind ((emits_canonical_value _).bind
      ((emits_optional_record_id _).bind (Emits.pure _))))) ?_ ?_
    · rintro ⟨-, hid, hvalue, hreference, -⟩
      exact ⟨hid, hvalue, hreference⟩
    · have hversion := items_encode_base_version_le base_version
      simp [grammar.operation, Cbor.items_Array]
      omega
  | Delete record_id base_version =>
    refine Emits.imp ((Emits.take_items 4).bind ((emits_bounded_text _ _).bind (Emits.pure _))) ?_ ?_
    · rintro ⟨-, hid, -⟩
      exact hid
    · simp [grammar.operation, Cbor.items_Array]

/-- The elements of a vector, after the charge for their container. -/
theorem emits_list {α : Type} {encode : α → Budgeted Cbor} {tree : α → Cbor} {p : α → Prop} {items : α → Nat}
    (hencode : ∀ a, Emits (encode a) (tree a) (p a) (items a)) {β : Type} {values : List α}
    {next : List Cbor → Budgeted β} {result : β} {condition : Prop} {rest : Nat}
    (hnext : Emits (next (values.map tree)) result condition rest) :
    Emits (do Encoder.vec values.length; next (← values.mapM encode)) result (BoundedList p values ∧ condition)
      (values.length + 1 + (values.map items).sum + rest) := by
  refine Emits.imp ((emits_vec values).bind ((Emits.mapM hencode values).bind hnext)) ?_ ?_
  · rintro ⟨hlength, hall, hcondition⟩
    exact ⟨⟨hlength, hall⟩, hcondition⟩
  · omega

theorem emits_commit (commit : ClientCommit CanonicalValue) :
    Emits (Encoder.commit commit) (grammar.commit commit) (Admitted.commit commit) (grammar.commit commit).items := by
  refine Emits.imp ((Emits.take_items 4).bind (emits_list emits_operation ((emits_bounded_text _ _).bind
    ((emits_fingerprint _).bind (Emits.pure _))))) ?_ ?_
  · rintro ⟨-, hoperations, hid, hfingerprint, -⟩
    exact ⟨hoperations, hid, hfingerprint⟩
  · simp [grammar.commit, Cbor.items_Array, Function.comp_def]
    omega

theorem emits_push_request (request : PushRequest CanonicalValue) :
    Emits (Encoder.push_request request) (grammar.push_request request) (Admitted.push_request request)
      (grammar.push_request request).items := by
  refine Emits.imp ((Emits.lift _).bind ((Emits.take_items 5).bind ((emits_bounded_text _ _).bind
    ((emits_bounded_text _ _).bind ((emits_commit _).bind (Emits.pure _)))))) ?_ ?_
  · rintro ⟨-, -, hpartition, hclient, hcommit, -⟩
    exact ⟨hpartition, hclient, hcommit⟩
  · simp [grammar.push_request, Cbor.items_Array]

theorem emits_identity (identity : CommitIdentity) :
    Emits (Encoder.identity identity) (grammar.identity identity) (Admitted.identity identity)
      (grammar.identity identity).items := by
  refine Emits.imp ((Emits.take_items 3).bind ((emits_bounded_text _ _).bind ((emits_fingerprint _).bind
    (Emits.pure _)))) ?_ ?_
  · rintro ⟨-, hid, hfingerprint, -⟩
    exact ⟨hid, hfingerprint⟩
  · simp [grammar.identity, Cbor.items_Array]

theorem emits_record_state (state : RecordState CanonicalValue) :
    Emits (Encoder.record_state state) (grammar.record_state state) (Admitted.record_state state)
      (grammar.record_state state).items := by
  cases state with
  | Absent =>
    refine Emits.imp ((Emits.take_items 2).bind (Emits.pure _)) (fun _ => trivial) ?_
    simp [grammar.record_state, Cbor.items_Array]
  | Present value version reference =>
    refine Emits.imp ((Emits.take_items 5).bind ((emits_canonical_value _).bind ((emits_optional_record_id _).bind
      (Emits.pure _)))) ?_ ?_
    · rintro ⟨-, hvalue, hreference, -⟩
      exact ⟨hvalue, hreference⟩
    · simp [grammar.record_state, Cbor.items_Array]
      omega
  | Tombstone version =>
    refine Emits.imp ((Emits.take_items 3).bind (Emits.pure _)) (fun _ => trivial) ?_
    simp [grammar.record_state, Cbor.items_Array]

theorem emits_id_mapping (mapping : IdMapping) :
    Emits (Encoder.id_mapping mapping) (grammar.id_mapping mapping) (Admitted.id_mapping mapping)
      (grammar.id_mapping mapping).items := by
  refine Emits.imp ((Emits.take_items 3).bind ((emits_bounded_text _ _).bind ((emits_bounded_text _ _).bind
    (Emits.pure _)))) ?_ ?_
  · rintro ⟨-, hlocal, hcanonical, -⟩
    exact ⟨hlocal, hcanonical⟩
  · simp [grammar.id_mapping, Cbor.items_Array]

theorem emits_outcome (outcome : DurableOutcome CanonicalValue) :
    Emits (Encoder.outcome outcome) (grammar.outcome outcome) (Admitted.outcome outcome)
      (grammar.outcome outcome).items := by
  cases outcome with
  | Accepted identity sequence id_mappings =>
    refine Emits.imp ((Emits.take_items 5).bind (emits_list emits_id_mapping ((emits_identity _).bind
      (Emits.pure _)))) ?_ ?_
    · rintro ⟨-, hmappings, hidentity, -⟩
      exact ⟨hmappings, hidentity⟩
    · simp [grammar.outcome, Cbor.items_Array, Function.comp_def]
      omega
  | Conflict identity record_id authoritative =>
    refine Emits.imp ((Emits.take_items 5).bind ((emits_identity _).bind ((emits_bounded_text _ _).bind
      ((emits_record_state _).bind (Emits.pure _))))) ?_ ?_
    · rintro ⟨-, hidentity, hid, hstate, -⟩
      exact ⟨hidentity, hid, hstate⟩
    · simp [grammar.outcome, Cbor.items_Array]
      omega
  | Rejected identity reason =>
    refine Emits.imp ((Emits.take_items 4).bind ((emits_identity _).bind (Emits.pure _))) ?_ ?_
    · rintro ⟨-, hidentity, -⟩
      exact hidentity
    · simp [grammar.outcome, Cbor.items_Array]
      omega

theorem emits_push_response (response : PushResponse CanonicalValue) :
    Emits (Encoder.push_response response) (grammar.push_response response) (Admitted.push_response response)
      (grammar.push_response response).items := by
  refine Emits.imp ((Emits.lift _).bind ((Emits.take_items 5).bind ((emits_bounded_text _ _).bind
    ((emits_bounded_text _ _).bind ((emits_outcome _).bind (Emits.pure _)))))) ?_ ?_
  · rintro ⟨-, -, hpartition, hclient, houtcome, -⟩
    exact ⟨hpartition, hclient, houtcome⟩
  · simp [grammar.push_response, Cbor.items_Array]

theorem emits_optional_checkpoint (checkpoint : Option OpaqueCheckpoint) :
    Emits (Encoder.optional_checkpoint checkpoint) (grammar.optional_checkpoint checkpoint)
      (Admitted.optional_checkpoint checkpoint) 0 := by
  cases checkpoint with
  | none => exact Emits.pure _
  | some checkpoint => exact Emits.imp (emits_bounded_text _ _) id (by omega)

theorem emits_pull_request (request : PullRequest) :
    Emits (Encoder.pull_request request) (grammar.pull_request request) (Admitted.pull_request request)
      (grammar.pull_request request).items := by
  refine Emits.imp ((Emits.lift _).bind ((Emits.take_items 8).bind ((emits_optional_checkpoint _).bind
    ((emits_bounded_text _ _).bind ((emits_bounded_text _ _).bind ((emits_bounded_text _ _).bind
      (Emits.pure _))))))) ?_ ?_
  · rintro ⟨-, -, hcheckpoint, hpartition, hclient, hscope, -⟩
    exact ⟨hcheckpoint, hpartition, hclient, hscope⟩
  · simp [grammar.pull_request, Cbor.items_Array]

/-- Three fewer items than the tree of the checkpoint has. -/
theorem emits_checkpoint (checkpoint : Checkpoint) :
    Emits (Encoder.checkpoint checkpoint) (grammar.checkpoint checkpoint) (Admitted.checkpoint checkpoint) 6 := by
  refine Emits.imp ((Emits.take_items 4).bind ((emits_bounded_text _ _).bind ((emits_bounded_text _ _).bind
    (Emits.pure _)))) ?_ ?_
  · rintro ⟨-, htoken, hidentity, -⟩
    exact ⟨htoken, hidentity⟩
  · omega

theorem emits_record (record_id : RecordId) (state : RecordState CanonicalValue) :
    Emits (Encoder.record record_id state) (grammar.record record_id state) (Admitted.record record_id state)
      (grammar.record record_id state).items := by
  refine Emits.imp ((Emits.take_items 3).bind ((emits_bounded_text _ _).bind ((emits_record_state _).bind
    (Emits.pure _)))) ?_ ?_
  · rintro ⟨-, hid, hstate, -⟩
    exact ⟨hid, hstate⟩
  · simp [grammar.record, Cbor.items_Array]

theorem emits_applied_record (applied : AppliedRecord CanonicalValue) :
    Emits (Encoder.applied_record applied) (grammar.applied_record applied) (Admitted.applied_record applied)
      (grammar.applied_record applied).items :=
  emits_record applied.record_id applied.state

theorem emits_snapshot_record (snapshot : SnapshotRecord CanonicalValue) :
    Emits (Encoder.snapshot_record snapshot) (grammar.snapshot_record snapshot) (Admitted.snapshot_record snapshot)
      (grammar.snapshot_record snapshot).items :=
  emits_record snapshot.record_id snapshot.state

theorem emits_pull_commit (commit : PullCommit CanonicalValue) :
    Emits (Encoder.pull_commit commit) (grammar.pull_commit commit) (Admitted.pull_commit commit)
      (grammar.pull_commit commit).items := by
  refine Emits.imp ((Emits.take_items 3).bind (emits_list emits_applied_record (Emits.pure _))) ?_ ?_
  · rintro ⟨-, hrecords, -⟩
    exact hrecords
  · simp [grammar.pull_commit, Cbor.items_Array, Function.comp_def]
    omega

theorem emits_pull_frame (frame : PullFrame CanonicalValue) :
    Emits (Encoder.pull_frame frame) (grammar.pull_frame frame) (Admitted.pull_frame frame) 0 := by
  cases frame with
  | Start checkpoint =>
    refine Emits.imp ((Emits.take_items 3).bind ((emits_checkpoint _).bind (Emits.pure _))) ?_ (Nat.zero_le _)
    rintro ⟨-, hcheckpoint, -⟩
    exact hcheckpoint
  | Commit checkpoint commit =>
    refine Emits.imp ((Emits.take_items 4).bind ((emits_bounded_text _ _).bind ((emits_pull_commit _).bind
      (Emits.pure _)))) ?_ (Nat.zero_le _)
    rintro ⟨-, hcheckpoint, hcommit, -⟩
    exact ⟨hcheckpoint, hcommit⟩
  | End checkpoint =>
    refine Emits.imp ((Emits.take_items 3).bind ((emits_checkpoint _).bind (Emits.pure _))) ?_ (Nat.zero_le _)
    rintro ⟨-, hcheckpoint, -⟩
    exact hcheckpoint

/-- What a response takes covers the records of a reset, not the frames of a batch. -/
def covered_items : PullResponse CanonicalValue → Nat
  | .Batch _ => 0
  | .Reset reset => 12 + reset.records.length + ((reset.records.map grammar.snapshot_record).map Cbor.items).sum

theorem emits_pull_response (response : PullResponse CanonicalValue) :
    Emits (Encoder.pull_response response) (grammar.pull_response response) (Admitted.pull_response response)
      (covered_items response) := by
  cases response with
  | Batch batch =>
    refine Emits.imp ((Emits.take_items 3).bind (emits_list emits_pull_frame (Emits.pure _))) ?_ (Nat.zero_le _)
    rintro ⟨-, hframes, -⟩
    exact hframes
  | Reset reset =>
    refine Emits.imp ((Emits.take_items 5).bind (emits_list emits_snapshot_record ((emits_checkpoint _).bind
      (Emits.pure _)))) ?_ ?_
    · rintro ⟨-, hrecords, hcheckpoint, -⟩
      exact ⟨hrecords, hcheckpoint⟩
    · simp [covered_items, Function.comp_def]
      omega

/-! ### What the decoder reads back -/

@[simp]
theorem unsigned_integer (value : UInt64) : unsigned (integer value) = .ok value := by
  simp [unsigned, integer, okOr]

theorem decode_bounded_text_Text {limit : Nat} {value : String} (h : BoundedText limit value) :
    decode_bounded_text limit (.Text value) = .ok value := by
  obtain ⟨hempty, hlength⟩ := h
  have hpass : ¬ (value = "" ∨ value.utf8ByteSize > limit) := by
    rw [not_or, Nat.not_lt]
    exact ⟨hempty, hlength⟩
  simp [decode_bounded_text, text, refuse, if_neg hpass, pure, Except.pure]

theorem identity_Text {value : String} (h : IdentityText value) : identity (.Text value) = .ok value :=
  decode_bounded_text_Text h

theorem checkpoint_text_Text {value : String} (h : CheckpointText value) :
    checkpoint_text (.Text value) = .ok value :=
  decode_bounded_text_Text h

theorem fingerprint_text_Text {value : String} (h : validate_fingerprint value = .ok ()) :
    fingerprint_text (.Text value) = .ok value := by
  simp [fingerprint_text, text, h, pure, Except.pure]

theorem array_vec_Array {values : List Cbor} (hlength : values.length ≤ MAX_CONTAINER_ITEMS) :
    array_vec (.Array values) = .ok values := by
  simp [array_vec, refuse, if_neg (Nat.not_lt.mpr hlength), pure, Except.pure]

/-- The array of a constructor: its number and at most four fields. -/
theorem array_kind_Array (kind : UInt64) {values : List Cbor} (hlength : values.length ≤ 4) :
    array_kind (.Array (integer kind :: values)) = .ok (kind.toNat, values) := by
  have hfits : (integer kind :: values).length ≤ MAX_CONTAINER_ITEMS := by
    rw [List.length_cons, MAX_CONTAINER_ITEMS]
    omega
  simp [array_kind, array_vec_Array hfits, pure, Except.pure]

theorem vec_decode_map {α : Type} {p : α → Prop} {tree : α → Cbor} {decode : Cbor → Result α} {erase : α → α}
    (hdecode : ∀ a, p a → decode (tree a) = .ok (erase a)) {values : List α} (hvalues : BoundedList p values) :
    vec_decode (.Array (values.map tree)) decode = .ok (values.map erase) := by
  obtain ⟨hlength, hvalues⟩ := hvalues
  have hall : (values.map tree).mapM decode = .ok (values.map erase) := by
    clear hlength
    induction values with
    | nil => rfl
    | cons a values ih =>
      obtain ⟨ha, hvalues⟩ := List.forall_mem_cons.mp hvalues
      simp [List.mapM_cons, hdecode a ha, ih hvalues, pure, Except.pure]
  rw [← List.length_map tree] at hlength
  rw [vec_decode, array_vec_Array hlength, ok_bind, hall]

@[simp]
theorem decode_base_version_encode (version : BaseVersion) :
    decode_base_version (encode_base_version version) = .ok version := by
  cases version <;>
    simp [decode_base_version, encode_base_version, array_vec, refuse, MAX_CONTAINER_ITEMS, pure, Except.pure]

@[simp]
theorem decode_reject_reason_reject_reason (reason : RejectReason) :
    decode_reject_reason (reject_reason reason) = .ok reason := by
  cases reason <;> rfl

@[simp]
theorem decode_reset_reason_reset_reason (reason : ResetReason) :
    decode_reset_reason (reset_reason reason) = .ok reason := by
  cases reason <;> rfl

theorem optional_record_id_grammar {reference : Option RecordId} (h : Admitted.reference reference) :
    optional_record_id (grammar.optional_record_id reference) = .ok reference := by
  cases reference with
  | none => rfl
  | some record_id => simp [grammar.optional_record_id, optional_record_id, identity_Text h, pure, Except.pure]

theorem optional_checkpoint_grammar {checkpoint : Option OpaqueCheckpoint}
    (h : Admitted.optional_checkpoint checkpoint) :
    optional_checkpoint (grammar.optional_checkpoint checkpoint) = .ok checkpoint := by
  cases checkpoint with
  | none => rfl
  | some checkpoint =>
    simp [grammar.optional_checkpoint, optional_checkpoint, checkpoint_text_Text h, pure, Except.pure]

theorem decode_identity_grammar {identity : CommitIdentity} (h : Admitted.identity identity) :
    decode_identity (grammar.identity identity) = .ok identity := by
  obtain ⟨hid, hfingerprint⟩ := h
  simp [grammar.identity, decode_identity, identity_Text hid, fingerprint_text_Text hfingerprint, pure, Except.pure]

theorem decode_checkpoint_grammar {checkpoint : Checkpoint} (h : Admitted.checkpoint checkpoint) :
    decode_checkpoint (grammar.checkpoint checkpoint) = .ok checkpoint := by
  obtain ⟨htoken, hidentity⟩ := h
  simp [grammar.checkpoint, decode_checkpoint, identity_Text hidentity, checkpoint_text_Text htoken, pure, Except.pure]

theorem decode_operation {operation : Operation CanonicalValue} (h : Admitted.operation operation) :
    Decoder.operation (grammar.operation operation) = .ok operation := by
  cases operation with
  | Upsert record_id base_version value reference =>
    obtain ⟨hid, hvalue, hreference⟩ := h
    rw [grammar.operation, Decoder.operation, array_kind_Array 0 (by simp)]
    simp [identity_Text hid, from_cbor_to_cbor hvalue, optional_record_id_grammar hreference, pure, Except.pure]
  | Delete record_id base_version =>
    rw [grammar.operation, Decoder.operation, array_kind_Array 1 (by simp)]
    simp [identity_Text h, pure, Except.pure]

theorem decode_commit {commit : ClientCommit CanonicalValue} (h : Admitted.commit commit) :
    Decoder.commit (grammar.commit commit) = .ok commit := by
  obtain ⟨hoperations, hid, hfingerprint⟩ := h
  have hlist := vec_decode_map (fun _ => decode_operation) hoperations
  rw [List.map_id'] at hlist
  simp [grammar.commit, Decoder.commit, identity_Text hid, fingerprint_text_Text hfingerprint, hlist, pure, Except.pure]

theorem decode_push_request_grammar {request : PushRequest CanonicalValue} (h : Admitted.push_request request) :
    Decoder.push_request (grammar.push_request request) = .ok request := by
  obtain ⟨hpartition, hclient, hcommit⟩ := h
  obtain ⟨⟨⟩, partition_id, client_id, commit⟩ := request
  simp [grammar.push_request, Decoder.push_request, identity_Text hpartition, identity_Text hclient,
    decode_commit hcommit, pure, Except.pure]

theorem decode_record_state {state : RecordState CanonicalValue} (h : Admitted.record_state state) :
    Decoder.record_state (grammar.record_state state) = .ok state := by
  cases state with
  | Absent =>
    rw [grammar.record_state, Decoder.record_state, array_kind_Array 0 (by simp)]
    rfl
  | Present value version reference =>
    obtain ⟨hvalue, hreference⟩ := h
    rw [grammar.record_state, Decoder.record_state, array_kind_Array 1 (by simp)]
    simp [from_cbor_to_cbor hvalue, optional_record_id_grammar hreference, pure, Except.pure]
  | Tombstone version =>
    rw [grammar.record_state, Decoder.record_state, array_kind_Array 2 (by simp)]
    simp [pure, Except.pure]

theorem decode_id_mapping {mapping : IdMapping} (h : Admitted.id_mapping mapping) :
    Decoder.id_mapping (grammar.id_mapping mapping) = .ok mapping := by
  obtain ⟨hlocal, hcanonical⟩ := h
  simp [grammar.id_mapping, Decoder.id_mapping, identity_Text hlocal, identity_Text hcanonical, pure, Except.pure]

theorem decode_outcome {outcome : DurableOutcome CanonicalValue} (h : Admitted.outcome outcome) :
    Decoder.outcome (grammar.outcome outcome) = .ok outcome := by
  cases outcome with
  | Accepted identity sequence id_mappings =>
    obtain ⟨hmappings, hidentity⟩ := h
    have hlist := vec_decode_map (fun _ => decode_id_mapping) hmappings
    rw [List.map_id'] at hlist
    rw [grammar.outcome, Decoder.outcome, array_kind_Array 0 (by simp)]
    simp [decode_identity_grammar hidentity, hlist, pure, Except.pure]
  | Conflict identity record_id authoritative =>
    obtain ⟨hidentity, hid, hstate⟩ := h
    rw [grammar.outcome, Decoder.outcome, array_kind_Array 1 (by simp)]
    simp [decode_identity_grammar hidentity, identity_Text hid, decode_record_state hstate, pure, Except.pure]
  | Rejected identity reason =>
    rw [grammar.outcome, Decoder.outcome, array_kind_Array 2 (by simp)]
    simp [decode_identity_grammar h, pure, Except.pure]

theorem decode_push_response_grammar {response : PushResponse CanonicalValue} (h : Admitted.push_response response) :
    Decoder.push_response (grammar.push_response response) = .ok response := by
  obtain ⟨hpartition, hclient, houtcome⟩ := h
  obtain ⟨⟨⟩, partition_id, client_id, outcome⟩ := response
  simp [grammar.push_response, Decoder.push_response, identity_Text hpartition, identity_Text hclient,
    decode_outcome houtcome, pure, Except.pure]

theorem decode_pull_request_grammar {request : PullRequest} (h : Admitted.pull_request request) :
    Decoder.pull_request (grammar.pull_request request) = .ok request := by
  obtain ⟨hcheckpoint, hpartition, hclient, hscope⟩ := h
  obtain ⟨⟨⟩, partition_id, client_id, checkpoint, requested_scope, subscription_revision⟩ := request
  simp [grammar.pull_request, Decoder.pull_request, identity_Text hpartition, identity_Text hclient,
    identity_Text hscope, optional_checkpoint_grammar hcheckpoint, pure, Except.pure]

theorem decode_applied_record {applied : AppliedRecord CanonicalValue} (h : Admitted.applied_record applied) :
    Decoder.applied_record (grammar.applied_record applied) = .ok applied := by
  obtain ⟨hid, hstate⟩ := h
  simp [grammar.applied_record, grammar.record, Decoder.applied_record, identity_Text hid,
    decode_record_state hstate, pure, Except.pure]

theorem decode_snapshot_record {snapshot : SnapshotRecord CanonicalValue} (h : Admitted.snapshot_record snapshot) :
    Decoder.snapshot_record (grammar.snapshot_record snapshot) = .ok snapshot := by
  obtain ⟨hid, hstate⟩ := h
  simp [grammar.snapshot_record, grammar.record, Decoder.snapshot_record, identity_Text hid,
    decode_record_state hstate, pure, Except.pure]

theorem decode_pull_commit {commit : PullCommit CanonicalValue} (h : Admitted.pull_commit commit) :
    Decoder.pull_commit (grammar.pull_commit commit) = .ok commit.without_source := by
  have hlist := vec_decode_map (fun _ => decode_applied_record) h
  rw [List.map_id'] at hlist
  simp [grammar.pull_commit, Decoder.pull_commit, PullCommit.without_source, hlist, pure, Except.pure]

theorem decode_pull_frame {frame : PullFrame CanonicalValue} (h : Admitted.pull_frame frame) :
    Decoder.pull_frame (grammar.pull_frame frame) = .ok frame.without_source := by
  cases frame with
  | Start checkpoint =>
    rw [grammar.pull_frame, Decoder.pull_frame, array_kind_Array 0 (by simp)]
    simp [decode_checkpoint_grammar h, PullFrame.without_source, pure, Except.pure]
  | Commit checkpoint commit =>
    obtain ⟨hcheckpoint, hcommit⟩ := h
    rw [grammar.pull_frame, Decoder.pull_frame, array_kind_Array 1 (by simp)]
    simp [checkpoint_text_Text hcheckpoint, decode_pull_commit hcommit, PullFrame.without_source, pure, Except.pure]
  | End checkpoint =>
    rw [grammar.pull_frame, Decoder.pull_frame, array_kind_Array 2 (by simp)]
    simp [decode_checkpoint_grammar h, PullFrame.without_source, pure, Except.pure]

theorem decode_pull_response_grammar {response : PullResponse CanonicalValue} (h : Admitted.pull_response response) :
    Decoder.pull_response (grammar.pull_response response) = .ok response.without_sources := by
  cases response with
  | Batch batch =>
    have hlist := vec_decode_map (fun _ => decode_pull_frame) h
    rw [grammar.pull_response, Decoder.pull_response, array_kind_Array 0 (by simp)]
    simp [hlist, PullResponse.without_sources, pure, Except.pure]
  | Reset reset =>
    obtain ⟨hrecords, hcheckpoint⟩ := h
    have hlist := vec_decode_map (fun _ => decode_snapshot_record) hrecords
    rw [List.map_id'] at hlist
    rw [grammar.pull_response, Decoder.pull_response, array_kind_Array 1 (by simp)]
    simp [decode_checkpoint_grammar hcheckpoint, hlist, PullResponse.without_sources, pure, Except.pure]

/-! ### The two sides of one message kind -/

/-- The item that the bytes of a message of a family hold. -/
def family_envelope (family : String) (kind : UInt64) (payload : Cbor) : Cbor :=
  .Array [.Text family, integer SCHEMA_V1, integer kind, payload]

/-- The item that the bytes of an HTTP message hold. -/
def envelope (kind : UInt64) (payload : Cbor) : Cbor := family_envelope V1_NAME kind payload

theorem encode_family_message_eq_ok_iff {ciborium : Ciborium} {family : String} {kind : UInt64}
    {payload : Budgeted Cbor} {bytes : List UInt8} :
    encode_family_message ciborium family kind payload = .ok bytes ↔
      ∃ encoder tree rest, (Encoder.family family).run Encoder.new = .ok ((), encoder) ∧
        payload.run encoder = .ok (tree, rest) ∧
        encode_cbor_value ciborium (family_envelope family kind tree) = .ok bytes := by
  simp only [encode_family_message, bind_eq_ok_iff, Prod.exists, family_envelope]
  grind

theorem text_eq_ok_iff {item : Cbor} {value : String} : text item = .ok value ↔ item = .Text value := by
  cases item <;> simp [text]

theorem unsigned_eq_ok_iff {item : Cbor} {value : UInt64} : unsigned item = .ok value ↔ item = integer value := by
  constructor
  · intro h
    cases item with
    | Integer number =>
      rw [unsigned, okOr_eq_ok_iff] at h
      rw [integer, CborInteger.eq_ofUInt64_of_toUInt64? h]
    | Bytes _ => simp [unsigned] at h
    | Float _ => simp [unsigned] at h
    | Text _ => simp [unsigned] at h
    | Bool _ => simp [unsigned] at h
    | Null => simp [unsigned] at h
    | Tag _ _ => simp [unsigned] at h
    | Array _ => simp [unsigned] at h
    | Map _ => simp [unsigned] at h
  · rintro rfl
    exact unsigned_integer value

theorem integer_injective {value value' : UInt64} (h : integer value = integer value') : value = value' := by
  have hread := unsigned_integer value
  rw [h, unsigned_integer] at hread
  exact (Except.ok.inj hread).symm

theorem family_envelope_inj {family family' : String} {kind kind' : UInt64} {payload payload' : Cbor}
    (h : family_envelope family kind payload = family_envelope family' kind' payload') :
    family = family' ∧ kind = kind' ∧ payload = payload' := by
  simp only [family_envelope, Cbor.Array.injEq, List.cons.injEq, Cbor.Text.injEq, true_and, and_true] at h
  obtain ⟨hfamily, hkind, hpayload⟩ := h
  exact ⟨hfamily, integer_injective hkind, hpayload⟩

/-- The bytes that a decoder of a family and a kind takes hold an envelope of both. -/
theorem decode_family_message_eq_ok_iff {ciborium : Ciborium} {family : String} {kind : UInt64}
    {bytes : List UInt8} {payload : Cbor} :
    decode_family_message ciborium bytes family kind = .ok payload ↔
      read_cbor_value ciborium MAX_ENCODED_BYTES bytes = .ok (family_envelope family kind payload) := by
  simp only [decode_family_message, bind_eq_ok_iff]
  constructor
  · rintro ⟨decoded, hread, h⟩
    rw [hread]
    split at h
    · simp only [bind_eq_ok_iff, refuse_eq_ok_iff, text_eq_ok_iff, unsigned_eq_ok_iff, pure, Except.pure,
        ok.injEq, Decidable.not_not] at h
      obtain ⟨_, rfl, _, rfl, _, rfl, _, rfl, _, rfl, _, rfl, rfl⟩ := h
      rfl
    · cases h
  · intro hread
    refine ⟨_, hread, ?_⟩
    simp [family_envelope, text, refuse, pure, Except.pure]

/-- An encoder made by `Encoder::family` has no more than a new one. -/
theorem bounded_of_family {family : String} {encoder : Budget}
    (h : (Encoder.family family).run Encoder.new = .ok ((), encoder)) :
    encoder.Bounded ∧ encoder.remaining_items + 4 ≤ MAX_TOTAL_ITEMS := by
  have hemits : Emits (Encoder.family family) () (True ∧ True) (4 + 0) :=
    (Emits.take_items 4).bind (Emits.take_bytes _)
  obtain ⟨-, -, hitems, hbounded⟩ := hemits Encoder.new ((), encoder) ⟨Nat.le_refl _, Nat.le_refl _⟩ h
  exact ⟨hbounded, hitems⟩

/-- The encoder and the decoder of one message kind agree: the decoder reads every tree
that the encoder gives back to its message, and of the trees of one message only one
passes the comparison of its bytes. -/
structure TypedGrammar {α : Type} (ciborium : Ciborium) (kind : UInt64) (encoder : α → Budgeted Cbor)
    (decoder : Cbor → Result α) (erase : α → α) : Prop where
  decodes : ∀ message budget tree rest, budget.Bounded → (encoder message).run budget = .ok (tree, rest) →
    decoder tree = .ok (erase message)
  unique : ∀ message tree tree' bytes bytes' encoded,
    decoder tree = .ok message → decoder tree' = .ok message →
    encode_cbor_value ciborium (envelope kind tree) = .ok bytes →
    encode_cbor_value ciborium (envelope kind tree') = .ok bytes' →
    encode_message ciborium kind (encoder message) = .ok encoded →
    require_typed_canonical bytes encoded = .ok () → require_typed_canonical bytes' encoded = .ok () →
    tree = tree'

theorem TypedGrammar.of_emits {α : Type} {ciborium : Ciborium} {kind : UInt64} {encoder : α → Budgeted Cbor}
    {decoder : Cbor → Result α} {erase : α → α} {tree : α → Cbor} {admitted : α → Prop} {items : α → Nat}
    (hemits : ∀ message, Emits (encoder message) (tree message) (admitted message) (items message))
    (hdecodes : ∀ message, admitted message → decoder (tree message) = .ok (erase message)) :
    TypedGrammar ciborium kind encoder decoder erase where
  decodes := by
    intro message budget tree' rest hbounded hrun
    obtain ⟨hadmitted, htree, -⟩ := hemits message budget (tree', rest) hbounded hrun
    dsimp only at htree
    rw [htree]
    exact hdecodes message hadmitted
  unique := by
    intro message first second bytes bytes' encoded _ _ hfirst hsecond _ hbytes hbytes'
    rw [require_typed_canonical, refuse_eq_ok_iff, Decidable.not_not] at hbytes hbytes'
    subst hbytes hbytes'
    exact (family_envelope_inj (encode_cbor_value_inj hfirst hsecond)).2.2

/-- The encoder and the decoder are inverse on the trees of all four messages, up to
the source identities that the pull bytes leave out. -/
theorem typed_grammar_round_trip (ciborium : Ciborium) :
    TypedGrammar ciborium PUSH_REQUEST Encoder.push_request Decoder.push_request id ∧
      TypedGrammar ciborium PUSH_RESPONSE Encoder.push_response Decoder.push_response id ∧
      TypedGrammar ciborium PULL_REQUEST Encoder.pull_request Decoder.pull_request id ∧
      TypedGrammar ciborium PULL_RESPONSE Encoder.pull_response Decoder.pull_response
        PullResponse.without_sources :=
  ⟨.of_emits emits_push_request fun _ => decode_push_request_grammar,
    .of_emits emits_push_response fun _ => decode_push_response_grammar,
    .of_emits emits_pull_request fun _ => decode_pull_request_grammar,
    .of_emits emits_pull_response fun _ => decode_pull_response_grammar⟩

/-- A batch of one commit with the identity of its source. -/
def sourced_batch : PullResponse CanonicalValue :=
  .Batch ⟨[.Commit ⟨"c"⟩ {
    sequence := 1
    source := some ⟨⟨"k"⟩, ⟨"f"⟩⟩
    records := [⟨⟨"r"⟩, .Present ⟨.Int 7, trivial⟩ 2 none⟩] }]⟩

theorem typed_grammar_round_trip_sourced_batch :
    (Encoder.pull_response sourced_batch).run Encoder.new =
        .ok (grammar.pull_response sourced_batch, ⟨4070, 4194302⟩) ∧
      Decoder.pull_response (grammar.pull_response sourced_batch) = .ok sourced_batch.without_sources ∧
      sourced_batch.without_sources ≠ sourced_batch := by
  refine ⟨rfl, ?_, ?_⟩
  · exact (typed_grammar_round_trip Cbor.deterministic).2.2.2.decodes sourced_batch Encoder.new _ _
      ⟨Nat.le_refl _, Nat.le_refl _⟩ rfl
  · simp [sourced_batch, PullResponse.without_sources, PullFrame.without_source, PullCommit.without_source]

end surrealdb_sync_protocol.http_codec
