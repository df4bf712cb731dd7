import SurrealSync.Protocol.BootstrapStream
import SurrealSync.Protocol.SubscriptionCodec

open Except

namespace surrealdb_sync_protocol.canonical

open bootstrap_codec

def FINGERPRINT_DOMAIN : String := "surrealdb-sync/1/commit-fingerprint/sha256"

/-! ### The text of a digest -/

def hex_digit (n : Nat) : Char := if n < 10 then Char.ofNat (48 + n) else Char.ofNat (87 + n)

/-- `{byte:02x}` of every byte. -/
def lower_hex (bytes : List UInt8) : List Char :=
  bytes.flatMap fun byte => [hex_digit (byte.toNat / 16), hex_digit (byte.toNat % 16)]

def digest_text (digest : BootstrapDigest) : String := "sha256:" ++ String.ofList (lower_hex digest.bytes)

/-! ### The fingerprint of a commit -/

def validate_identifier (value : String) : Result Unit :=
  refuse (value = "" ∨ value.utf8ByteSize > MAX_STRING_BYTES) .InvalidIdentifier

def base_version_to_cbor : BaseVersion → Cbor
  | .Absent => .Array [.Integer (.ofUInt64 0)]
  | .Exact value => .Array [.Integer (.ofUInt64 1), .Integer (.ofUInt64 value)]

def optional_record_id_to_cbor : Option RecordId → Cbor
  | none => .Null
  | some record_id => .Text record_id.val

def operation_to_cbor : Operation CanonicalValue → Budgeted Cbor
  | .Upsert record_id base_version value reference => do
    validate_identifier record_id.val
    take_bytes record_id.val.utf8ByteSize
    if let some reference := reference then
      validate_identifier reference.val
      take_bytes reference.val.utf8ByteSize
    validate_with_budget value.tree 0
    return .Array [.Integer (.ofUInt64 0), .Text record_id.val, base_version_to_cbor base_version, to_cbor value.tree,
      optional_record_id_to_cbor reference]
  | .Delete record_id base_version => do
    validate_identifier record_id.val
    take_bytes record_id.val.utf8ByteSize
    return .Array [.Integer (.ofUInt64 1), .Text record_id.val, .Integer (.ofUInt64 base_version)]

variable (ciborium : Ciborium) (sha256 : List UInt8 → BootstrapDigest)

/-- What the fingerprint takes from its budget, and the operations in their CBOR form. -/
def fingerprint_operations (partition_id : PartitionId) (client_id : ClientId) (client_commit_id : ClientCommitId)
    (operations : List (Operation CanonicalValue)) : Budgeted (List Cbor) := do
  take_bytes FINGERPRINT_DOMAIN.utf8ByteSize
  take_bytes V1_NAME.utf8ByteSize
  take_bytes partition_id.val.utf8ByteSize
  take_bytes client_id.val.utf8ByteSize
  take_bytes client_commit_id.val.utf8ByteSize
  operations.mapM operation_to_cbor

def fingerprint_commit (partition_id : PartitionId) (client_id : ClientId) (client_commit_id : ClientCommitId)
    (operations : List (Operation CanonicalValue)) : Result Fingerprint := do
  refuse (operations.length > MAX_CONTAINER_ITEMS) .ContainerLimit
  validate_identifier partition_id.val
  validate_identifier client_id.val
  validate_identifier client_commit_id.val
  let operations ← (fingerprint_operations partition_id client_id client_commit_id operations).run'
    ⟨MAX_TOTAL_ITEMS, MAX_ENCODED_BYTES⟩
  let bytes ← encode_cbor_value ciborium (.Array [.Text FINGERPRINT_DOMAIN, .Text V1_NAME, .Text partition_id.val,
    .Text client_id.val, .Text client_commit_id.val, .Array operations])
  return ⟨digest_text (sha256 bytes)⟩

end surrealdb_sync_protocol.canonical

namespace surrealdb_sync_protocol.subscription_codec

open canonical subscription

variable (ciborium : Ciborium) (sha256 : List UInt8 → BootstrapDigest)

def PLAN_DOMAIN : List UInt8 := "surrealdb-subscription-plan/1\x00".as_bytes

/-- Domain separation prevents a subscription plan digest from being a commit fingerprint. -/
def subscription_plan_fingerprint (request : SubscriptionRequest) (definition : TrustedQueryDefinition) :
    Result String := do
  let bytes ← encode ciborium "plan" (.Array [serialize.request request, serialize.definition definition])
  return digest_text (sha256 (PLAN_DOMAIN ++ bytes))

end surrealdb_sync_protocol.subscription_codec

namespace surrealdb_sync_protocol.canonical

open bootstrap_codec subscription_codec subscription

/-! ### Digests are read back from their text -/

private theorem hex_digit_injective {n m : Nat} (hn : n < 16) (hm : m < 16) (h : hex_digit n = hex_digit m) :
    n = m := by
  have hall : ∀ n m : Fin 16, hex_digit n = hex_digit m → n = m := by decide
  exact congrArg Fin.val (hall ⟨n, hn⟩ ⟨m, hm⟩ h)

theorem lower_hex_injective {bytes bytes' : List UInt8} (h : lower_hex bytes = lower_hex bytes') :
    bytes = bytes' := by
  induction bytes generalizing bytes' with
  | nil =>
    cases bytes' with
    | nil => rfl
    | cons byte bytes' => simp [lower_hex] at h
  | cons byte bytes ih =>
    cases bytes' with
    | nil => simp [lower_hex] at h
    | cons byte' bytes' =>
      simp only [lower_hex, List.flatMap_cons, List.cons_append, List.nil_append, List.cons.injEq] at h
      obtain ⟨hhigh, hlow, hrest⟩ := h
      have hlt := byte.toNat_lt
      have hlt' := byte'.toNat_lt
      have hhigh := hex_digit_injective (by omega) (by omega) hhigh
      have hlow := hex_digit_injective (by omega) (by omega) hlow
      have hbyte : byte = byte' := UInt8.toNat_inj.mp (by omega)
      rw [hbyte, ih hrest]

theorem digest_text_injective {digest digest' : BootstrapDigest} (h : digest_text digest = digest_text digest') :
    digest = digest' := by
  have hlist := congrArg String.toList h
  simp only [digest_text, String.toList_append, String.toList_ofList] at hlist
  exact BootstrapDigest.ext (lower_hex_injective (List.append_cancel_left hlist))

/-! ### Operations are read back from their CBOR form -/

def operation_item : Operation CanonicalValue → Cbor
  | .Upsert record_id base_version value reference =>
    .Array [.Integer (.ofUInt64 0), .Text record_id.val, base_version_to_cbor base_version, to_cbor value.tree,
      optional_record_id_to_cbor reference]
  | .Delete record_id base_version =>
    .Array [.Integer (.ofUInt64 1), .Text record_id.val, .Integer (.ofUInt64 base_version)]

/-- The value of an upsert has passed validation. -/
def ValidOperation : Operation CanonicalValue → Prop
  | .Upsert _ _ value _ => validate value.tree = .ok ()
  | .Delete _ _ => True

theorem emits_operation_to_cbor (operation : Operation CanonicalValue) :
    Emits (operation_to_cbor operation) (operation_item operation) (ValidOperation operation) 0 := by
  cases operation with
  | Upsert record_id base_version value reference =>
    have hrest : Emits (do
        validate_with_budget value.tree 0
        return operation_item (.Upsert record_id base_version value reference) : Budgeted Cbor) _ _ _ :=
      (emits_validate value.tree).bind (Emits.pure _)
    cases reference with
    | none =>
      refine Emits.imp ((Emits.lift _).bind ((Emits.take_bytes _).bind hrest)) ?_ (Nat.zero_le _)
      rintro ⟨-, -, hvalid, -⟩
      exact hvalid
    | some reference =>
      refine Emits.imp ((Emits.lift _).bind ((Emits.take_bytes _).bind ((Emits.lift _).bind
        ((Emits.take_bytes _).bind hrest)))) ?_ (Nat.zero_le _)
      rintro ⟨-, -, -, -, hvalid, -⟩
      exact hvalid
  | Delete record_id base_version =>
    exact Emits.imp ((Emits.lift _).bind ((Emits.take_bytes _).bind (Emits.pure _))) (fun _ => trivial) (Nat.zero_le _)

theorem emits_fingerprint_operations (partition_id : PartitionId) (client_id : ClientId)
    (client_commit_id : ClientCommitId) (operations : List (Operation CanonicalValue)) :
    Emits (fingerprint_operations partition_id client_id client_commit_id operations) (operations.map operation_item)
      (∀ operation ∈ operations, ValidOperation operation) 0 := by
  refine Emits.imp ((Emits.take_bytes _).bind ((Emits.take_bytes _).bind ((Emits.take_bytes _).bind
    ((Emits.take_bytes _).bind ((Emits.take_bytes _).bind (Emits.mapM emits_operation_to_cbor operations)))))) ?_
    (Nat.zero_le _)
  rintro ⟨-, -, -, -, -, hvalid⟩
  exact hvalid

private theorem ofUInt64_injective {n m : UInt64} (h : CborInteger.ofUInt64 n = CborInteger.ofUInt64 m) : n = m := by
  have hread := congrArg CborInteger.toUInt64? h
  rw [CborInteger.toUInt64?_ofUInt64, CborInteger.toUInt64?_ofUInt64] at hread
  exact Option.some.inj hread

theorem base_version_to_cbor_injective {version version' : BaseVersion}
    (h : base_version_to_cbor version = base_version_to_cbor version') : version = version' := by
  cases version <;> cases version' <;> simp [base_version_to_cbor] at h
  · rfl
  · rw [ofUInt64_injective h]

theorem optional_record_id_to_cbor_injective {record_id record_id' : Option RecordId}
    (h : optional_record_id_to_cbor record_id = optional_record_id_to_cbor record_id') : record_id = record_id' := by
  cases record_id <;> cases record_id' <;> simp [optional_record_id_to_cbor] at h
  · rfl
  · exact congrArg some (congrArg RecordId.mk h)

theorem to_cbor_injective {value value' : CanonicalValue} (hvalid : validate value.tree = .ok ())
    (hvalid' : validate value'.tree = .ok ()) (h : to_cbor value.tree = to_cbor value'.tree) : value = value' := by
  have hread := from_cbor_to_cbor hvalid
  rw [h, from_cbor_to_cbor hvalid'] at hread
  exact (Except.ok.inj hread).symm

theorem operation_item_injective {operation operation' : Operation CanonicalValue}
    (hvalid : ValidOperation operation) (hvalid' : ValidOperation operation')
    (h : operation_item operation = operation_item operation') : operation = operation' := by
  cases operation with
  | Upsert record_id base_version value reference =>
    cases operation' with
    | Upsert record_id' base_version' value' reference' =>
      simp only [operation_item, Cbor.Array.injEq, Cbor.Text.injEq, List.cons.injEq, and_true, true_and] at h
      obtain ⟨hid, hversion, hvalue, hreference⟩ := h
      have hid : record_id = record_id' := congrArg RecordId.mk hid
      rw [hid, base_version_to_cbor_injective hversion, to_cbor_injective hvalid hvalid' hvalue,
        optional_record_id_to_cbor_injective hreference]
    | Delete record_id' base_version' => simp [operation_item] at h
  | Delete record_id base_version =>
    cases operation' with
    | Upsert record_id' base_version' value' reference' => simp [operation_item] at h
    | Delete record_id' base_version' =>
      simp only [operation_item, Cbor.Array.injEq, Cbor.Text.injEq, Cbor.Integer.injEq, List.cons.injEq, and_true,
        true_and] at h
      have hid : record_id = record_id' := congrArg RecordId.mk h.1
      rw [hid, ofUInt64_injective h.2]

/-! ### What a fingerprint hashes -/

/-- The commit in its CBOR form. -/
def commit_item (partition_id : PartitionId) (client_id : ClientId) (client_commit_id : ClientCommitId)
    (operations : List (Operation CanonicalValue)) : Cbor :=
  .Array [.Text FINGERPRINT_DOMAIN, .Text V1_NAME, .Text partition_id.val, .Text client_id.val,
    .Text client_commit_id.val, .Array (operations.map operation_item)]

variable {ciborium : Ciborium} {sha256 : List UInt8 → BootstrapDigest}

/-- A successful fingerprint is the digest of the encoded commit, whose values are valid. -/
theorem fingerprint_commit_eq_ok {partition_id : PartitionId} {client_id : ClientId}
    {client_commit_id : ClientCommitId} {operations : List (Operation CanonicalValue)} {fingerprint : Fingerprint}
    (h : fingerprint_commit ciborium sha256 partition_id client_id client_commit_id operations = .ok fingerprint) :
    ∃ bytes, encode_cbor_value ciborium (commit_item partition_id client_id client_commit_id operations) = .ok bytes ∧
      (∀ operation ∈ operations, ValidOperation operation) ∧ fingerprint = ⟨digest_text (sha256 bytes)⟩ := by
  simp only [fingerprint_commit, bind_eq_ok_iff, pure, Except.pure, ok.injEq] at h
  obtain ⟨_, _, _, _, _, _, _, _, items, hitems, bytes, hbytes, rfl⟩ := h
  obtain ⟨budget, hrun⟩ := StateT.run'_eq_ok_iff.mp hitems
  obtain ⟨hvalid, rfl, -⟩ := emits_fingerprint_operations partition_id client_id client_commit_id operations _ _
    ⟨Nat.le_refl _, Nat.le_refl _⟩ hrun
  exact ⟨bytes, hbytes, hvalid, rfl⟩

private theorem limited_validate_identifier (value : String) :
    Limited (liftM (validate_identifier value) : Budgeted Unit) :=
  Limited.refuse fun _ => by trivial

theorem limited_operation_to_cbor {operation : Operation CanonicalValue} (hvalid : ValidOperation operation) :
    Limited (operation_to_cbor operation) := by
  cases operation with
  | Upsert record_id base_version value reference =>
    have hvalue := limited_validate (recordShaped_of_validate hvalid) 0
    cases reference with
    | none =>
      exact (limited_validate_identifier _).bind fun _ => (Limited.take_bytes _).bind fun _ =>
        hvalue.bind fun _ => Limited.pure _
    | some reference =>
      exact (limited_validate_identifier _).bind fun _ => (Limited.take_bytes _).bind fun _ =>
        (limited_validate_identifier _).bind fun _ => (Limited.take_bytes _).bind fun _ =>
        hvalue.bind fun _ => Limited.pure _
  | Delete record_id base_version =>
    exact (limited_validate_identifier _).bind fun _ => (Limited.take_bytes _).bind fun _ => Limited.pure _

/-- A fingerprint of valid values fails at a limit only. -/
theorem isLimit_of_fingerprint_commit {partition_id : PartitionId} {client_id : ClientId}
    {client_commit_id : ClientCommitId} {operations : List (Operation CanonicalValue)} {e : CodecError}
    (hvalid : ∀ operation ∈ operations, ValidOperation operation)
    (h : fingerprint_commit ciborium sha256 partition_id client_id client_commit_id operations = .error e) :
    e.IsLimit := by
  have hidentifier : ∀ value e, validate_identifier value = .error e → e.IsLimit := by
    intro value e herror
    unfold validate_identifier refuse at herror
    split_ifs at herror
    cases herror
    trivial
  have hoperations : Limited (fingerprint_operations partition_id client_id client_commit_id operations) :=
    (Limited.take_bytes _).bind fun _ => (Limited.take_bytes _).bind fun _ => (Limited.take_bytes _).bind fun _ =>
      (Limited.take_bytes _).bind fun _ => (Limited.take_bytes _).bind fun _ =>
      Limited.mapM fun operation hmem => limited_operation_to_cbor (hvalid operation hmem)
  simp only [fingerprint_commit, bind_eq_error_iff] at h
  rcases h with h | ⟨_, _, h | ⟨_, _, h | ⟨_, _, h | ⟨_, _, h | ⟨items, _, h | ⟨bytes, _, h⟩⟩⟩⟩⟩⟩
  · unfold refuse at h
    split_ifs at h
    cases h
    trivial
  · exact hidentifier _ _ h
  · exact hidentifier _ _ h
  · exact hidentifier _ _ h
  · rw [StateT.run'_eq] at h
    cases hrun : (fingerprint_operations partition_id client_id client_commit_id operations).run
        ⟨MAX_TOTAL_ITEMS, MAX_ENCODED_BYTES⟩ with
    | ok r =>
      rw [hrun] at h
      cases h
    | error e' =>
      rw [hrun] at h
      cases h
      exact hoperations _ _ hrun
  · simp only [encode_cbor_value, bind_eq_error_iff] at h
    rcases h with h | ⟨_, _, h⟩
    · unfold refuse at h
      split_ifs at h
      cases h
      trivial
    · cases h
  · cases h

/-- The fingerprint is the digest of these bytes, whatever the hash function. -/
def CommitPreimage (ciborium : Ciborium) (partition_id : PartitionId) (client_id : ClientId)
    (client_commit_id : ClientCommitId) (operations : List (Operation CanonicalValue)) (bytes : List UInt8) : Prop :=
  ∀ hash : List UInt8 → BootstrapDigest,
    fingerprint_commit ciborium hash partition_id client_id client_commit_id operations =
      .ok ⟨digest_text (hash bytes)⟩

theorem exists_commitPreimage {partition_id : PartitionId} {client_id : ClientId}
    {client_commit_id : ClientCommitId} {operations : List (Operation CanonicalValue)} {fingerprint : Fingerprint}
    (h : fingerprint_commit ciborium sha256 partition_id client_id client_commit_id operations = .ok fingerprint) :
    ∃ bytes, CommitPreimage ciborium partition_id client_id client_commit_id operations bytes := by
  simp only [fingerprint_commit, bind_eq_ok_iff, pure, Except.pure, ok.injEq] at h
  obtain ⟨_, hlength, _, hpartition, _, hclient, _, hcommit, items, hitems, bytes, hbytes, -⟩ := h
  refine ⟨bytes, fun hash => ?_⟩
  simp only [fingerprint_commit, bind_eq_ok_iff, pure, Except.pure, ok.injEq]
  exact ⟨_, hlength, _, hpartition, _, hclient, _, hcommit, items, hitems, bytes, hbytes, rfl⟩

/-- A hash function can tell any two byte strings apart. -/
private theorem eq_of_hash {bytes bytes' : List UInt8}
    (h : ∀ hash : List UInt8 → BootstrapDigest, hash bytes = hash bytes') : bytes = bytes' := by
  by_contra hne
  have hsame := h fun message =>
    if message = bytes then ⟨List.replicate 32 1, List.length_replicate⟩
    else ⟨List.replicate 32 0, List.length_replicate⟩
  rw [if_pos rfl, if_neg (Ne.symm hne)] at hsame
  exact absurd (congrArg BootstrapDigest.bytes hsame) (by decide)

theorem CommitPreimage.encoded {partition_id : PartitionId} {client_id : ClientId}
    {client_commit_id : ClientCommitId} {operations : List (Operation CanonicalValue)} {bytes : List UInt8}
    (h : CommitPreimage ciborium partition_id client_id client_commit_id operations bytes) :
    encode_cbor_value ciborium (commit_item partition_id client_id client_commit_id operations) = .ok bytes ∧
      ∀ operation ∈ operations, ValidOperation operation := by
  obtain ⟨encoded, hencoded, hvalid, -⟩ := fingerprint_commit_eq_ok (h fun _ => ⟨List.replicate 32 0, rfl⟩)
  have hsame : bytes = encoded := by
    apply eq_of_hash
    intro hash
    obtain ⟨encoded', hencoded', -, hfingerprint⟩ := fingerprint_commit_eq_ok (h hash)
    rw [hencoded, ok.injEq] at hencoded'
    rw [hencoded']
    exact digest_text_injective (congrArg Fingerprint.val hfingerprint)
  exact ⟨hsame ▸ hencoded, hvalid⟩

/-! ### Preimages of the digests are disjoint -/

/-- The digests of the protocols. -/
inductive Purpose where
  | Commit
  | Start
  | PageContent
  | Manifest
  | Root
  | Plan
deriving DecidableEq

/-- The bytes that a computation of the digest hashes. -/
def Preimage (ciborium : Ciborium) (sha256 : List UInt8 → BootstrapDigest) : Purpose → List UInt8 → Prop
  | .Commit, bytes => ∃ partition_id client_id client_commit_id operations,
    CommitPreimage ciborium partition_id client_id client_commit_id operations bytes
  | .Start, bytes => ∃ r, ∀ hash, bootstrap_start_fingerprint ciborium hash r = .ok (hash bytes)
  | .PageContent, bytes => ∃ p, ∀ hash, bootstrap_page_content_digest ciborium hash p = .ok (hash bytes)
  | .Manifest, bytes => ∃ m, ∀ hash, bootstrap_manifest_digest ciborium hash m = .ok (hash bytes)
  | .Root, bytes => ∃ session_id hasher, BootstrapContentHasher.new session_id = .ok hasher ∧
    ∃ pages : List BootstrapPage, ∀ hash : List UInt8 → BootstrapDigest,
      ((pages.foldl (fun hasher p => (hasher.push ciborium sha256 p).2) hasher).summary hash).root = hash bytes
  | .Plan, bytes => ∃ request definition, ∀ hash : List UInt8 → BootstrapDigest,
    subscription_plan_fingerprint ciborium hash request definition = .ok (digest_text (hash bytes))

/-- The first bytes of every preimage. -/
def lead : Purpose → List UInt8
  | .Commit => [0x86]
  | .Start => frame START_DOMAIN
  | .PageContent => frame PAGE_DOMAIN
  | .Manifest => frame MANIFEST_DOMAIN
  | .Root => frame ROOT_DOMAIN
  | .Plan => [0x73]

theorem eq_of_lead_isPrefix {purpose purpose' : Purpose} (h : lead purpose <+: lead purpose') :
    purpose = purpose' := by
  revert h
  cases purpose <;> cases purpose' <;> decide +kernel

/-- A digest of framed bytes hashes its domain first. -/
private theorem lead_of_digest {domain bytes : List UInt8} (encoded : List UInt8)
    {x : (List UInt8 → BootstrapDigest) → Result BootstrapDigest}
    (hx : ∀ hash, x hash = .ok (digest hash domain encoded)) (h : ∀ hash, x hash = .ok (hash bytes)) :
    frame domain <+: bytes := by
  have hbytes : bytes = frame domain ++ frame encoded := by
    apply eq_of_hash
    intro hash
    have hsame := h hash
    rw [hx, ok.injEq] at hsame
    exact hsame.symm
  rw [hbytes]
  exact List.prefix_append _ _

private theorem lead_of_pushes {hasher : BootstrapContentHasher} {pages : List BootstrapPage}
    (h : frame ROOT_DOMAIN <+: hasher.root) :
    frame ROOT_DOMAIN <+: (pages.foldl (fun hasher p => (hasher.push ciborium sha256 p).2) hasher).root := by
  induction pages generalizing hasher with
  | nil => exact h
  | cons p pages ih =>
    rw [List.foldl_cons]
    apply ih
    rw [BootstrapContentHasher.push]
    split
    · rename_i next hadvance
      simp only [BootstrapContentHasher.advance, bind_eq_ok_iff, pure, Except.pure, ok.injEq] at hadvance
      obtain ⟨_, _, _, _, _, _, _, _, _, _, _, _, _, _, _, _, rfl⟩ := hadvance
      dsimp only
      rw [List.append_assoc]
      exact h.trans (List.prefix_append _ _)
    · exact h

theorem lead_of_preimage {purpose : Purpose} {bytes : List UInt8} (h : Preimage ciborium sha256 purpose bytes) :
    lead purpose <+: bytes := by
  cases purpose with
  | Commit =>
    obtain ⟨_, _, _, _, hpreimage⟩ := h
    obtain ⟨rfl, -⟩ := encode_cbor_value_eq_ok_iff.mp hpreimage.encoded.1
    exact List.prefix_append _ _
  | Start =>
    obtain ⟨r, hdigest⟩ := h
    have hsome := hdigest fun _ => ⟨List.replicate 32 0, rfl⟩
    obtain ⟨encoded, hencoded, -⟩ := bind_eq_ok_iff.mp hsome
    refine lead_of_digest encoded (fun hash => ?_) hdigest
    rw [bootstrap_start_fingerprint, hencoded]
    rfl
  | PageContent =>
    obtain ⟨p, hdigest⟩ := h
    have hsome := hdigest fun _ => ⟨List.replicate 32 0, rfl⟩
    obtain ⟨page, hpage, hsome⟩ := bind_eq_ok_iff.mp hsome
    obtain ⟨encoded, hencoded, -⟩ := bind_eq_ok_iff.mp hsome
    refine lead_of_digest encoded (fun hash => ?_) hdigest
    rw [bootstrap_page_content_digest, hpage, ok_bind, hencoded]
    rfl
  | Manifest =>
    obtain ⟨m, hdigest⟩ := h
    have hsome := hdigest fun _ => ⟨List.replicate 32 0, rfl⟩
    obtain ⟨encoded, hencoded, -⟩ := bind_eq_ok_iff.mp hsome
    refine lead_of_digest encoded (fun hash => ?_) hdigest
    rw [bootstrap_manifest_digest, hencoded]
    rfl
  | Root =>
    obtain ⟨session_id, hasher, hnew, pages, hroot⟩ := h
    rw [← eq_of_hash hroot]
    apply lead_of_pushes
    simp only [BootstrapContentHasher.new, bind_eq_ok_iff, pure, Except.pure, ok.injEq] at hnew
    obtain ⟨_, _, rfl⟩ := hnew
    exact List.prefix_refl _
  | Plan =>
    obtain ⟨request, definition, hdigest⟩ := h
    have hsome := hdigest fun _ => ⟨List.replicate 32 0, rfl⟩
    obtain ⟨encoded, hencoded, -⟩ := bind_eq_ok_iff.mp hsome
    have hbytes : bytes = PLAN_DOMAIN ++ encoded := by
      apply eq_of_hash
      intro hash
      have hsame := hdigest hash
      rw [subscription_plan_fingerprint, hencoded] at hsame
      exact (digest_text_injective (ok.inj hsame)).symm
    rw [hbytes]
    exact List.IsPrefix.trans (by decide +kernel) (List.prefix_append _ _)

theorem commit_of_fingerprint {partition_id partition_id' : PartitionId} {client_id client_id' : ClientId}
    {client_commit_id client_commit_id' : ClientCommitId} {operations operations' : List (Operation CanonicalValue)}
    {bytes : List UInt8} (h : CommitPreimage ciborium partition_id client_id client_commit_id operations bytes)
    (h' : CommitPreimage ciborium partition_id' client_id' client_commit_id' operations' bytes) :
    partition_id = partition_id' ∧ client_id = client_id' ∧ client_commit_id = client_commit_id' ∧
      operations = operations' := by
  obtain ⟨hencoded, hvalid⟩ := h.encoded
  obtain ⟨hencoded', hvalid'⟩ := h'.encoded
  have hitem := encode_cbor_value_inj hencoded hencoded'
  simp only [commit_item, Cbor.Array.injEq, Cbor.Text.injEq, List.cons.injEq, and_true, true_and] at hitem
  obtain ⟨hpartition, hclient, hcommit, hoperations⟩ := hitem
  refine ⟨congrArg PartitionId.mk hpartition, congrArg ClientId.mk hclient, congrArg ClientCommitId.mk hcommit, ?_⟩
  apply eq_of_map_eq hoperations
  intro operation hmem operation' hmem'
  exact operation_item_injective (hvalid operation hmem) (hvalid' operation' hmem')

/-- Without a collision on the two commits, one fingerprint is of one commit. -/
theorem commit_of_same_fingerprint {partition_id partition_id' : PartitionId} {client_id client_id' : ClientId}
    {client_commit_id client_commit_id' : ClientCommitId} {operations operations' : List (Operation CanonicalValue)}
    {fingerprint : Fingerprint}
    (hfree : ∀ bytes bytes', CommitPreimage ciborium partition_id client_id client_commit_id operations bytes →
      CommitPreimage ciborium partition_id' client_id' client_commit_id' operations' bytes' →
      CollisionFree sha256 [bytes, bytes'])
    (h : fingerprint_commit ciborium sha256 partition_id client_id client_commit_id operations = .ok fingerprint)
    (h' : fingerprint_commit ciborium sha256 partition_id' client_id' client_commit_id' operations' =
      .ok fingerprint) :
    partition_id = partition_id' ∧ client_id = client_id' ∧ client_commit_id = client_commit_id' ∧
      operations = operations' := by
  obtain ⟨bytes, hpreimage⟩ := exists_commitPreimage h
  obtain ⟨bytes', hpreimage'⟩ := exists_commitPreimage h'
  have hdigest : sha256 bytes = sha256 bytes' := by
    apply digest_text_injective
    rw [hpreimage sha256] at h
    rw [hpreimage' sha256, ← h, ok.injEq, Fingerprint.mk.injEq] at h'
    exact h'.symm
  have hbytes := hfree bytes bytes' hpreimage hpreimage' bytes (by simp) bytes' (by simp) hdigest
  exact commit_of_fingerprint hpreimage (hbytes ▸ hpreimage')

/-- A fingerprint binds the whole commit as long as the hash has no collision on the
two commits, and no preimage of one digest of the protocols is one of another. -/
theorem commit_fingerprints_bind (ciborium : Ciborium) (sha256 : List UInt8 → BootstrapDigest) :
    (∀ partition_id client_id client_commit_id operations partition_id' client_id' client_commit_id' operations'
        fingerprint,
      (∀ bytes bytes', CommitPreimage ciborium partition_id client_id client_commit_id operations bytes →
        CommitPreimage ciborium partition_id' client_id' client_commit_id' operations' bytes' →
        CollisionFree sha256 [bytes, bytes']) →
      fingerprint_commit ciborium sha256 partition_id client_id client_commit_id operations = .ok fingerprint →
      fingerprint_commit ciborium sha256 partition_id' client_id' client_commit_id' operations' = .ok fingerprint →
      partition_id = partition_id' ∧ client_id = client_id' ∧ client_commit_id = client_commit_id' ∧
        operations = operations') ∧
    (∀ purpose purpose' bytes, Preimage ciborium sha256 purpose bytes → Preimage ciborium sha256 purpose' bytes →
      purpose = purpose') := by
  constructor
  · intro partition_id client_id client_commit_id operations partition_id' client_id' client_commit_id' operations'
      fingerprint hfree h h'
    exact commit_of_same_fingerprint hfree h h'
  · intro purpose purpose' bytes h h'
    rcases List.prefix_or_prefix_of_prefix (lead_of_preimage h) (lead_of_preimage h') with hprefix | hprefix
    · exact eq_of_lead_isPrefix hprefix
    · exact (eq_of_lead_isPrefix hprefix).symm

/-- An upsert without a value, an upsert with a text and a link, and a delete. -/
def sample_operations : List (Operation CanonicalValue) :=
  [.Upsert ⟨"t:1"⟩ .Absent ⟨.None, trivial⟩ none,
    .Upsert ⟨"t:2"⟩ (.Exact 7) ⟨.String "x", trivial⟩ (some ⟨"t:1"⟩), .Delete ⟨"t:3"⟩ 2]

def sample_fingerprint (operations : List (Operation CanonicalValue)) : Result Fingerprint :=
  fingerprint_commit Cbor.deterministic sha256_digest ⟨"p"⟩ ⟨"c"⟩ ⟨"i"⟩ operations

/-- Under SHA-256 the fingerprint tells the operations from those in another order. -/
theorem commit_fingerprints_bind_sample :
    ∃ fingerprint other, sample_fingerprint sample_operations = .ok fingerprint ∧
      sample_fingerprint sample_operations.reverse = .ok other ∧ fingerprint ≠ other ∧
      sample_operations.reverse.reverse = sample_operations := by
  obtain ⟨hbinds, -⟩ := commit_fingerprints_bind Cbor.deterministic sha256_digest
  obtain ⟨fingerprint, hfingerprint⟩ := isOk_eq_true_iff.mp
    (show (sample_fingerprint sample_operations).isOk = true by decide +kernel)
  obtain ⟨other, hother⟩ := isOk_eq_true_iff.mp
    (show (sample_fingerprint sample_operations.reverse).isOk = true by decide +kernel)
  have hdiffer : sha256_digest (commit_item ⟨"p"⟩ ⟨"c"⟩ ⟨"i"⟩ sample_operations).encode ≠
      sha256_digest (commit_item ⟨"p"⟩ ⟨"c"⟩ ⟨"i"⟩ sample_operations.reverse).encode := by decide +kernel
  refine ⟨fingerprint, other, hfingerprint, hother, ?_, ?_⟩
  · rintro rfl
    have hsame := hbinds _ _ _ _ _ _ _ _ fingerprint ?_ hfingerprint hother
    · exact absurd (congrArg List.length (congrArg (List.takeWhile fun operation => match operation with
        | .Upsert .. => true
        | .Delete .. => false) hsame.2.2.2)) (by decide)
    · intro bytes bytes' h h' a ha b hb
      obtain ⟨rfl, -⟩ := encode_cbor_value_eq_ok_iff.mp h.encoded.1
      obtain ⟨rfl, -⟩ := encode_cbor_value_eq_ok_iff.mp h'.encoded.1
      simp only [List.mem_cons, List.not_mem_nil, or_false] at ha hb
      rcases ha with rfl | rfl <;> rcases hb with rfl | rfl
      · exact fun _ => rfl
      · exact fun hsame => absurd hsame hdiffer
      · exact fun hsame => absurd hsame.symm hdiffer
      · exact fun _ => rfl
  · have hagain : sample_fingerprint sample_operations.reverse.reverse = .ok fingerprint := by
      rw [List.reverse_reverse]
      exact hfingerprint
    refine (hbinds _ _ _ _ _ _ _ _ fingerprint ?_ hagain hfingerprint).2.2.2
    intro bytes bytes' h h' a ha b hb _
    rw [List.reverse_reverse] at h
    obtain ⟨rfl, -⟩ := encode_cbor_value_eq_ok_iff.mp h.encoded.1
    obtain ⟨rfl, -⟩ := encode_cbor_value_eq_ok_iff.mp h'.encoded.1
    simp only [List.mem_cons, List.not_mem_nil, or_self, or_false] at ha hb
    rw [ha, hb]

end surrealdb_sync_protocol.canonical
