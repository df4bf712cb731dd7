import SurrealSync.Protocol.Bootstrap
import SurrealSync.Protocol.HttpLimits

open Except

namespace surrealdb_sync_protocol.bootstrap_codec

open canonical http_codec

/-! ### The trees of the payloads -/

namespace tree

def scope (s : ScopeSnapshot) : Cbor :=
  .Array [.Text s.identity.val, integer s.authorization_revision, integer s.subscription_revision]

def context (c : BootstrapContext) : Cbor :=
  .Array [.Text c.authority_id, .Text c.principal_id, .Text c.partition_id.val, .Text c.client_id.val,
    .Text c.journal_generation, scope c.scope]

def start (r : BootstrapStartRequest) : Cbor :=
  .Array [.Text r.partition_id.val, .Text r.client_id.val, .Text r.request_id, .Text r.requested_scope.val,
    integer r.subscription_revision, .Text r.journal_generation]

def manifest (m : BootstrapManifest) : Cbor :=
  .Array [.Text m.session_id, .Text m.start_request_id, .Bytes m.start_fingerprint.bytes, context m.context,
    .Array [integer m.cursor.epoch, integer m.cursor.sequence],
    .Array [integer m.limits.max_records, integer m.limits.max_pages, integer m.limits.max_content_bytes],
    integer m.page_count, integer m.record_count, integer m.content_bytes, .Bytes m.root.bytes,
    integer m.expires_at]

def page_request (r : BootstrapPageRequest) : Cbor :=
  .Array [.Text r.partition_id.val, .Text r.client_id.val, .Text r.session_id, integer r.index]

def page (p : BootstrapPage) : Cbor :=
  .Array [.Text p.session_id, .Bytes p.manifest_digest.bytes, integer p.index,
    .Array (p.records.map grammar.snapshot_record)]

def complete (r : BootstrapCompleteRequest) : Cbor :=
  .Array [.Text r.partition_id.val, .Text r.client_id.val, .Text r.session_id, .Bytes r.manifest_digest.bytes]

def receipt (r : BootstrapReceipt) : Cbor :=
  .Array [.Text r.session_id, .Bytes r.manifest_digest.bytes, grammar.checkpoint r.checkpoint, integer r.expires_at]

end tree

/-! ### What the encoder has checked -/

namespace Admitted

def context (c : BootstrapContext) : Prop :=
  IdentityText c.authority_id ∧ IdentityText c.principal_id ∧ IdentityText c.partition_id.val ∧
    IdentityText c.client_id.val ∧ IdentityText c.journal_generation ∧ IdentityText c.scope.identity.val

def start (r : BootstrapStartRequest) : Prop :=
  IdentityText r.partition_id.val ∧ IdentityText r.client_id.val ∧ IdentityText r.request_id ∧
    IdentityText r.requested_scope.val ∧ IdentityText r.journal_generation

def manifest (m : BootstrapManifest) : Prop :=
  context m.context ∧ IdentityText m.session_id ∧ IdentityText m.start_request_id

def page_request (r : BootstrapPageRequest) : Prop :=
  IdentityText r.partition_id.val ∧ IdentityText r.client_id.val ∧ IdentityText r.session_id

def page (p : BootstrapPage) : Prop :=
  IdentityText p.session_id ∧ BoundedList http_codec.Admitted.snapshot_record p.records

def complete (r : BootstrapCompleteRequest) : Prop :=
  IdentityText r.partition_id.val ∧ IdentityText r.client_id.val ∧ IdentityText r.session_id

def receipt (r : BootstrapReceipt) : Prop :=
  IdentityText r.session_id ∧ http_codec.Admitted.checkpoint r.checkpoint

end Admitted

theorem emits_digest (digest : BootstrapDigest) :
    Emits (Encoder.digest digest.bytes) (.Bytes digest.bytes) True 0 :=
  Emits.imp (((Emits.take_bytes 32).bind (Emits.take_items 1)).bind (Emits.pure _)) (fun _ => trivial) (Nat.zero_le _)

theorem emits_context (c : BootstrapContext) :
    Emits (encode_payload.context c) (tree.context c) (Admitted.context c) 0 := by
  have hscope : Emits (encode_payload.scope c.scope) (tree.scope c.scope) (IdentityText c.scope.identity.val) 0 := by
    refine Emits.imp ((Emits.take_items 3).bind ((emits_bounded_text _ _).bind (Emits.pure _))) ?_ (Nat.zero_le _)
    rintro ⟨-, hidentity, -⟩
    exact hidentity
  refine Emits.imp ((Emits.take_items 7).bind ((emits_bounded_text _ _).bind ((emits_bounded_text _ _).bind
    ((emits_bounded_text _ _).bind ((emits_bounded_text _ _).bind ((emits_bounded_text _ _).bind (hscope.bind
      (Emits.pure _)))))))) ?_ (Nat.zero_le _)
  rintro ⟨-, hauthority, hprincipal, hpartition, hclient, hgeneration, hscope, -⟩
  exact ⟨hauthority, hprincipal, hpartition, hclient, hgeneration, hscope⟩

theorem emits_start (r : BootstrapStartRequest) :
    Emits (encode_payload.start r) (tree.start r) (Admitted.start r) 0 := by
  refine Emits.imp ((Emits.take_items 7).bind ((emits_bounded_text _ _).bind ((emits_bounded_text _ _).bind
    ((emits_bounded_text _ _).bind ((emits_bounded_text _ _).bind ((emits_bounded_text _ _).bind
      (Emits.pure _))))))) ?_ (Nat.zero_le _)
  rintro ⟨-, hpartition, hclient, hid, hscope, hgeneration, -⟩
  exact ⟨hpartition, hclient, hid, hscope, hgeneration⟩

theorem emits_manifest (m : BootstrapManifest) :
    Emits (encode_payload.manifest m) (tree.manifest m) (Admitted.manifest m) 0 := by
  refine Emits.imp ((Emits.take_items 12).bind ((emits_context _).bind ((emits_bounded_text _ _).bind
    ((emits_bounded_text _ _).bind ((emits_digest _).bind ((emits_digest _).bind (Emits.pure _))))))) ?_
    (Nat.zero_le _)
  rintro ⟨-, hcontext, hsession, hstart, -⟩
  exact ⟨hcontext, hsession, hstart⟩

theorem emits_page_request (r : BootstrapPageRequest) :
    Emits (encode_payload.page_request r) (tree.page_request r) (Admitted.page_request r) 0 := by
  refine Emits.imp ((Emits.take_items 5).bind ((emits_bounded_text _ _).bind ((emits_bounded_text _ _).bind
    ((emits_bounded_text _ _).bind (Emits.pure _))))) ?_ (Nat.zero_le _)
  rintro ⟨-, hpartition, hclient, hsession, -⟩
  exact ⟨hpartition, hclient, hsession⟩

theorem emits_page (p : BootstrapPage) :
    Emits (encode_payload.page p) (tree.page p) (Admitted.page p) 0 := by
  refine Emits.imp ((Emits.take_items 5).bind ((emits_bounded_text _ _).bind ((emits_digest _).bind
    (emits_list emits_snapshot_record (Emits.pure _))))) ?_ (Nat.zero_le _)
  rintro ⟨-, hsession, -, hrecords, -⟩
  exact ⟨hsession, hrecords⟩

theorem emits_complete (r : BootstrapCompleteRequest) :
    Emits (encode_payload.complete r) (tree.complete r) (Admitted.complete r) 0 := by
  refine Emits.imp ((Emits.take_items 5).bind ((emits_bounded_text _ _).bind ((emits_bounded_text _ _).bind
    ((emits_bounded_text _ _).bind ((emits_digest _).bind (Emits.pure _)))))) ?_ (Nat.zero_le _)
  rintro ⟨-, hpartition, hclient, hsession, -⟩
  exact ⟨hpartition, hclient, hsession⟩

theorem emits_receipt (r : BootstrapReceipt) :
    Emits (encode_payload.receipt r) (tree.receipt r) (Admitted.receipt r) 0 := by
  refine Emits.imp ((Emits.take_items 5).bind ((emits_bounded_text _ _).bind ((emits_digest _).bind
    ((emits_checkpoint _).bind (Emits.pure _))))) ?_ (Nat.zero_le _)
  rintro ⟨-, hsession, -, hcheckpoint, -⟩
  exact ⟨hsession, hcheckpoint⟩

/-! ### What the decoder reads back -/

@[simp]
theorem decoded_digest_Bytes (digest : BootstrapDigest) : decoded_digest (.Bytes digest.bytes) = .ok digest := by
  simp [decoded_digest, digest.length]

theorem decode_context_tree {c : BootstrapContext} (h : Admitted.context c) :
    decode_context (tree.context c) = .ok c := by
  obtain ⟨hauthority, hprincipal, hpartition, hclient, hgeneration, hscope⟩ := h
  simp [tree.context, tree.scope, decode_context, decode_scope, identity_Text hauthority, identity_Text hprincipal,
    identity_Text hpartition, identity_Text hclient, identity_Text hgeneration, identity_Text hscope, pure, Except.pure]

theorem decode_start {r : BootstrapStartRequest} (h : Admitted.start r) :
    decode_payload.start (tree.start r) = .ok r := by
  obtain ⟨hpartition, hclient, hid, hscope, hgeneration⟩ := h
  simp [tree.start, decode_payload.start, identity_Text hpartition, identity_Text hclient, identity_Text hid,
    identity_Text hscope, identity_Text hgeneration, pure, Except.pure]

theorem decode_manifest {m : BootstrapManifest} (h : Admitted.manifest m) :
    decode_payload.manifest (tree.manifest m) = .ok m := by
  obtain ⟨hcontext, hsession, hstart⟩ := h
  simp [tree.manifest, decode_payload.manifest, decode_context_tree hcontext, identity_Text hsession,
    identity_Text hstart, pure, Except.pure]

theorem decode_page_request {r : BootstrapPageRequest} (h : Admitted.page_request r) :
    decode_payload.page_request (tree.page_request r) = .ok r := by
  obtain ⟨hpartition, hclient, hsession⟩ := h
  simp [tree.page_request, decode_payload.page_request, identity_Text hpartition, identity_Text hclient,
    identity_Text hsession, pure, Except.pure]

theorem decode_snapshot_records {records : List (SnapshotRecord CanonicalValue)}
    (h : BoundedList http_codec.Admitted.snapshot_record records) :
    vec_decode (.Array (records.map grammar.snapshot_record)) Decoder.snapshot_record = .ok records := by
  have hlist := vec_decode_map (fun _ => decode_snapshot_record) h
  rw [List.map_id'] at hlist
  exact hlist

theorem decode_page {p : BootstrapPage} (h : Admitted.page p) : decode_payload.page (tree.page p) = .ok p := by
  obtain ⟨hsession, hrecords⟩ := h
  simp [tree.page, decode_payload.page, decode_snapshot_records hrecords, identity_Text hsession, pure, Except.pure]

theorem decode_complete {r : BootstrapCompleteRequest} (h : Admitted.complete r) :
    decode_payload.complete (tree.complete r) = .ok r := by
  obtain ⟨hpartition, hclient, hsession⟩ := h
  simp [tree.complete, decode_payload.complete, identity_Text hpartition, identity_Text hclient,
    identity_Text hsession, pure, Except.pure]

theorem decode_receipt {r : BootstrapReceipt} (h : Admitted.receipt r) :
    decode_payload.receipt (tree.receipt r) = .ok r := by
  obtain ⟨hsession, hcheckpoint⟩ := h
  simp [tree.receipt, decode_payload.receipt, decode_checkpoint_grammar hcheckpoint, identity_Text hsession, pure,
    Except.pure]

/-! ### The trees are regular items -/

@[simp]
theorem wire_digest (digest : BootstrapDigest) : (Cbor.Bytes digest.bytes).Every Wire := by
  refine ⟨trivial, ?_⟩
  rw [WithinLimits, digest.length]
  decide

theorem wire_context {c : BootstrapContext} (h : Admitted.context c) : (tree.context c).Every Wire := by
  obtain ⟨hauthority, hprincipal, hpartition, hclient, hgeneration, hidentity⟩ := h
  have hscope : (tree.scope c.scope).Every Wire := wire_fields (by simp) (by simp [wire_identity hidentity])
  apply wire_fields (by simp)
  simp [wire_identity hauthority, wire_identity hprincipal, wire_identity hpartition, wire_identity hclient,
    wire_identity hgeneration, hscope]

theorem wire_start {r : BootstrapStartRequest} (h : Admitted.start r) : (tree.start r).Every Wire := by
  obtain ⟨hpartition, hclient, hid, hscope, hgeneration⟩ := h
  apply wire_fields (by simp)
  simp [wire_identity hpartition, wire_identity hclient, wire_identity hid, wire_identity hscope,
    wire_identity hgeneration]

theorem wire_manifest {m : BootstrapManifest} (h : Admitted.manifest m) : (tree.manifest m).Every Wire := by
  obtain ⟨hcontext, hsession, hstart⟩ := h
  have hcursor : (Cbor.Array [integer m.cursor.epoch, integer m.cursor.sequence]).Every Wire :=
    wire_fields (by simp) (by simp)
  have hlimits : (Cbor.Array [integer m.limits.max_records, integer m.limits.max_pages,
      integer m.limits.max_content_bytes]).Every Wire :=
    wire_fields (by simp) (by simp)
  apply wire_fields (by simp)
  simp [wire_context hcontext, wire_identity hsession, wire_identity hstart, hcursor, hlimits]

theorem wire_page_request {r : BootstrapPageRequest} (h : Admitted.page_request r) :
    (tree.page_request r).Every Wire := by
  obtain ⟨hpartition, hclient, hsession⟩ := h
  apply wire_fields (by simp)
  simp [wire_identity hpartition, wire_identity hclient, wire_identity hsession]

theorem wire_snapshot_records {records : List (SnapshotRecord CanonicalValue)}
    (h : BoundedList http_codec.Admitted.snapshot_record records) :
    (Cbor.Array (records.map grammar.snapshot_record)).Every Wire :=
  wire_list (fun _ => wire_record) h

theorem wire_page {p : BootstrapPage} (h : Admitted.page p) : (tree.page p).Every Wire := by
  obtain ⟨hsession, hrecords⟩ := h
  apply wire_fields (by simp)
  simp [wire_identity hsession, wire_snapshot_records hrecords]

theorem wire_complete {r : BootstrapCompleteRequest} (h : Admitted.complete r) : (tree.complete r).Every Wire := by
  obtain ⟨hpartition, hclient, hsession⟩ := h
  apply wire_fields (by simp)
  simp [wire_identity hpartition, wire_identity hclient, wire_identity hsession]

theorem wire_receipt {r : BootstrapReceipt} (h : Admitted.receipt r) : (tree.receipt r).Every Wire := by
  obtain ⟨hsession, hcheckpoint⟩ := h
  apply wire_fields (by simp)
  simp [wire_identity hsession, wire_checkpoint hcheckpoint]

/-! ### Round trips -/

variable {ciborium : Ciborium}

theorem encode_message_eq_ok_iff {kind : UInt64} {payload : Budgeted Cbor} {bytes : List UInt8} :
    encode_message ciborium kind payload = .ok bytes ↔
      encode_family_message ciborium BOOTSTRAP_NAME kind payload = .ok bytes ∧
        preflight_canonical_cbor bytes = .ok () := by
  simp only [encode_message, bind_eq_ok_iff, Unique.exists_iff, PUnit.default_eq_unit, pure, Except.pure, ok.injEq]
  grind

/-- The bytes of a message hold its envelope and nothing else: a decoder of a family
and a kind takes them exactly for those of the message. -/
theorem decode_family_message_of_encode {α : Type} {kind : UInt64} {encoder : α → Budgeted Cbor} {tree : α → Cbor}
    {admitted : α → Prop} (hemits : ∀ message, Emits (encoder message) (tree message) (admitted message) 0)
    (hwire : ∀ message, admitted message → (tree message).Every Wire) {message : α} {bytes : List UInt8}
    (hencode : encode_message ciborium kind (encoder message) = .ok bytes) :
    admitted message ∧ ∀ family kind' payload, decode_family_message ciborium bytes family kind' = .ok payload ↔
      family = BOOTSTRAP_NAME ∧ kind' = kind ∧ payload = tree message := by
  obtain ⟨hfamily, hpreflight⟩ := encode_message_eq_ok_iff.mp hencode
  obtain ⟨budget, payload, rest, hnew, hrun, hwrite⟩ := encode_family_message_eq_ok_iff.mp hfamily
  obtain ⟨hadmitted, htree, -⟩ := hemits message budget (payload, rest) (bounded_of_family hnew).1 hrun
  dsimp only at htree
  subst htree
  have henvelope : (family_envelope BOOTSTRAP_NAME kind (tree message)).Every Wire := by
    have hname : (Cbor.Text BOOTSTRAP_NAME).Every Wire := wire_identity ⟨by decide, by decide⟩
    apply wire_fields (by simp)
    simp [hname, hwire message hadmitted]
  obtain ⟨hregular, -⟩ := Cbor.Every_and_iff.mp henvelope
  obtain ⟨hbytes, hlength⟩ := encode_cbor_value_eq_ok_iff.mp hwrite
  rw [hbytes, preflight_encode_iff (fits_of_encode_cbor_value hwrite)] at hpreflight
  refine ⟨hadmitted, ?_⟩
  intro family kind' payload
  rw [decode_family_message_eq_ok_iff, read_cbor_value_iff hregular hwrite hlength]
  constructor
  · rintro ⟨-, hsame⟩
    obtain ⟨hname, hkind, hpayload⟩ := family_envelope_inj hsame
    exact ⟨hname.symm, hkind.symm, hpayload.symm⟩
  · rintro ⟨rfl, rfl, rfl⟩
    exact ⟨hpreflight, rfl⟩

/-- The ten messages of both families. -/
inductive MessageKind where
  | BootstrapStart
  | BootstrapManifest
  | BootstrapPageRequest
  | BootstrapPage
  | BootstrapComplete
  | BootstrapReceipt
  | PushRequest
  | PushResponse
  | PullRequest
  | PullResponse
deriving DecidableEq

namespace MessageKind

def family : MessageKind → String
  | .BootstrapStart | .BootstrapManifest | .BootstrapPageRequest | .BootstrapPage | .BootstrapComplete
  | .BootstrapReceipt => BOOTSTRAP_NAME
  | .PushRequest | .PushResponse | .PullRequest | .PullResponse => V1_NAME

def number : MessageKind → UInt64
  | .BootstrapStart => 0
  | .BootstrapManifest => 1
  | .BootstrapPageRequest => 2
  | .BootstrapPage => 3
  | .BootstrapComplete => 4
  | .BootstrapReceipt => 5
  | .PushRequest => PUSH_REQUEST
  | .PushResponse => PUSH_RESPONSE
  | .PullRequest => PULL_REQUEST
  | .PullResponse => PULL_RESPONSE

theorem eq_of_family_of_number {kind other : MessageKind} (hfamily : kind.family = other.family)
    (hnumber : kind.number = other.number) : kind = other := by
  cases kind <;> cases other <;> first | rfl | exact absurd hnumber (by decide) | exact absurd hfamily (by decide)

/-- The decoder of the kind succeeds on the bytes. -/
def Accepts (ciborium : Ciborium) (bytes : List UInt8) : MessageKind → Prop
  | .BootstrapStart => ∃ message, decode_bootstrap_start ciborium bytes = .ok message
  | .BootstrapManifest => ∃ message, decode_bootstrap_manifest ciborium bytes = .ok message
  | .BootstrapPageRequest => ∃ message, decode_bootstrap_page_request ciborium bytes = .ok message
  | .BootstrapPage => ∃ message, decode_bootstrap_page ciborium bytes = .ok message
  | .BootstrapComplete => ∃ message, decode_bootstrap_complete ciborium bytes = .ok message
  | .BootstrapReceipt => ∃ message, decode_bootstrap_receipt ciborium bytes = .ok message
  | .PushRequest => ∃ message, decode_push_request ciborium bytes = .ok message
  | .PushResponse => ∃ message, decode_push_response ciborium bytes = .ok message
  | .PullRequest => ∃ message, decode_pull_request ciborium bytes = .ok message
  | .PullResponse => ∃ message, decode_pull_response ciborium bytes = .ok message

theorem exists_payload_of_accepts {kind : MessageKind} {bytes : List UInt8} (h : kind.Accepts ciborium bytes) :
    ∃ payload, decode_family_message ciborium bytes kind.family kind.number = .ok payload := by
  cases kind <;>
  · obtain ⟨message, hdecode⟩ := h
    obtain ⟨payload, hpayload, -⟩ := bind_eq_ok_iff.mp hdecode
    exact ⟨payload, hpayload⟩

end MessageKind

/-- What the six round trips share: the encoder may check the message first, as long as
it then writes the payload. -/
theorem round_trip {α : Type} (kind : MessageKind) (hfamily : kind.family = BOOTSTRAP_NAME)
    {encoder : α → Budgeted Cbor} {tree : α → Cbor} {admitted : α → Prop} {decoder : Cbor → Result α}
    {encode : α → Result (List UInt8)}
    (hemits : ∀ message, Emits (encoder message) (tree message) (admitted message) 0)
    (hwire : ∀ message, admitted message → (tree message).Every Wire)
    (hdecodes : ∀ message, admitted message → decoder (tree message) = .ok message)
    {message : α} {bytes : List UInt8} (hencode : encode message = .ok bytes)
    (hwrite : encode_message ciborium kind.number (encoder message) = .ok bytes) :
    decode_typed ciborium kind.number decoder encode bytes = .ok message ∧
      ∀ other : MessageKind, other.Accepts ciborium bytes → other = kind := by
  obtain ⟨hadmitted, hread⟩ := decode_family_message_of_encode hemits hwire hwrite
  constructor
  · have hpayload := (hread _ _ _).mpr ⟨rfl, rfl, rfl⟩
    simp [decode_typed, hpayload, hdecodes message hadmitted, hencode, canonical, refuse, pure, Except.pure]
  · intro other haccepts
    obtain ⟨payload, hpayload⟩ := MessageKind.exists_payload_of_accepts haccepts
    obtain ⟨hname, hnumber, -⟩ := (hread _ _ _).mp hpayload
    exact MessageKind.eq_of_family_of_number (hname.trans hfamily.symm) hnumber

/-- Every bootstrap message is read back from its bytes by its own decoder, and by no
other decoder of the two families. -/
theorem bootstrap_messages_round_trip (ciborium : Ciborium) :
    (∀ message bytes, encode_bootstrap_start ciborium message = .ok bytes →
      decode_bootstrap_start ciborium bytes = .ok message ∧
        ∀ other : MessageKind, other.Accepts ciborium bytes → other = .BootstrapStart) ∧
    (∀ message bytes, encode_bootstrap_manifest ciborium message = .ok bytes →
      decode_bootstrap_manifest ciborium bytes = .ok message ∧
        ∀ other : MessageKind, other.Accepts ciborium bytes → other = .BootstrapManifest) ∧
    (∀ message bytes, encode_bootstrap_page_request ciborium message = .ok bytes →
      decode_bootstrap_page_request ciborium bytes = .ok message ∧
        ∀ other : MessageKind, other.Accepts ciborium bytes → other = .BootstrapPageRequest) ∧
    (∀ message bytes, encode_bootstrap_page ciborium message = .ok bytes →
      decode_bootstrap_page ciborium bytes = .ok message ∧
        ∀ other : MessageKind, other.Accepts ciborium bytes → other = .BootstrapPage) ∧
    (∀ message bytes, encode_bootstrap_complete ciborium message = .ok bytes →
      decode_bootstrap_complete ciborium bytes = .ok message ∧
        ∀ other : MessageKind, other.Accepts ciborium bytes → other = .BootstrapComplete) ∧
    (∀ message bytes, encode_bootstrap_receipt ciborium message = .ok bytes →
      decode_bootstrap_receipt ciborium bytes = .ok message ∧
        ∀ other : MessageKind, other.Accepts ciborium bytes → other = .BootstrapReceipt) := by
  refine ⟨?_, ?_, ?_, ?_, ?_, ?_⟩
  · intro message bytes hencode
    exact round_trip .BootstrapStart rfl emits_start (fun _ => wire_start) (fun _ => decode_start) hencode hencode
  · intro message bytes hencode
    obtain ⟨_, -, hwrite⟩ := bind_eq_ok_iff.mp hencode
    exact round_trip .BootstrapManifest rfl emits_manifest (fun _ => wire_manifest) (fun _ => decode_manifest) hencode hwrite
  · intro message bytes hencode
    obtain ⟨_, -, hwrite⟩ := bind_eq_ok_iff.mp hencode
    exact round_trip .BootstrapPageRequest rfl emits_page_request (fun _ => wire_page_request) (fun _ => decode_page_request) hencode hwrite
  · intro message bytes hencode
    obtain ⟨_, -, hwrite⟩ := bind_eq_ok_iff.mp hencode
    exact round_trip .BootstrapPage rfl emits_page (fun _ => wire_page) (fun _ => decode_page) hencode hwrite
  · intro message bytes hencode
    exact round_trip .BootstrapComplete rfl emits_complete (fun _ => wire_complete) (fun _ => decode_complete) hencode hencode
  · intro message bytes hencode
    exact round_trip .BootstrapReceipt rfl emits_receipt (fun _ => wire_receipt) (fun _ => decode_receipt) hencode hencode

/-- One page of one tombstone. -/
def tombstone_page : BootstrapPage where
  session_id := "s"
  manifest_digest := ⟨List.replicate 32 7, by decide⟩
  index := 0
  records := [⟨⟨"r"⟩, .Tombstone 1⟩]

theorem bootstrap_messages_round_trip_page :
    ∃ bytes, encode_bootstrap_page Cbor.deterministic tombstone_page = .ok bytes ∧
      decode_bootstrap_page Cbor.deterministic bytes = .ok tombstone_page ∧
        ¬ MessageKind.PullResponse.Accepts Cbor.deterministic bytes := by
  have hemitted : (encode_bootstrap_page Cbor.deterministic tombstone_page).isOk = true := by decide +kernel
  obtain ⟨bytes, hencode⟩ := isOk_eq_true_iff.mp hemitted
  obtain ⟨hdecode, honly⟩ := (bootstrap_messages_round_trip Cbor.deterministic).2.2.2.1 _ _ hencode
  exact ⟨bytes, hencode, hdecode, fun haccepts => by cases honly _ haccepts⟩

end surrealdb_sync_protocol.bootstrap_codec
