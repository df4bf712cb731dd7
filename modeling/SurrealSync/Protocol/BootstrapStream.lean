import SurrealSync.Basic.Sha256
import SurrealSync.Protocol.BootstrapCodec
import Mathlib.Data.List.Chain

open Std Except

namespace surrealdb_sync_protocol.bootstrap_codec

open canonical http_codec

variable (ciborium : Ciborium) (sha256 : List UInt8 → BootstrapDigest)

/-! ### Runs of a verifier -/

namespace BootstrapVerifier

/-- Pushes that all succeed. -/
def push_all (self : BootstrapVerifier) : List BootstrapPage → Result BootstrapVerifier
  | [] => .ok self
  | page :: pages =>
    match self.push ciborium sha256 page with
    | (.ok (), next) => next.push_all pages
    | (.error e, _) => .error e

/-- The verifier after any pushes, accepted or refused. -/
def after (self : BootstrapVerifier) : List BootstrapPage → BootstrapVerifier
  | [] => self
  | page :: pages => (self.push ciborium sha256 page).2.after pages

/-- The pages among the pushed ones that were accepted. -/
def accepted (self : BootstrapVerifier) : List BootstrapPage → List BootstrapPage
  | [] => []
  | page :: pages =>
    match self.push ciborium sha256 page with
    | (.ok (), next) => page :: next.accepted pages
    | (.error _, next) => next.accepted pages

end BootstrapVerifier

/-! ### What is hashed for a sequence of pages -/

/-- The content bytes of a page that has them. -/
def content (p : BootstrapPage) : List UInt8 := (encode_content ciborium p.index p.records).toOption.getD []

def page_preimage (p : BootstrapPage) : List UInt8 := frame PAGE_DOMAIN ++ frame (content ciborium p)

def page_frames (p : BootstrapPage) : List UInt8 :=
  frame (to_be_bytes p.index) ++ frame (sha256 (page_preimage ciborium p)).bytes

def root_preimage (pages : List BootstrapPage) : List UInt8 :=
  frame ROOT_DOMAIN ++ pages.flatMap (page_frames ciborium sha256)

/-- Every byte string that the verification of the pages hashes. -/
def preimages (pages : List BootstrapPage) : List (List UInt8) :=
  root_preimage ciborium sha256 pages :: pages.map (page_preimage ciborium)

/-- The hash is injective on the given byte strings. -/
def CollisionFree (inputs : List (List UInt8)) : Prop :=
  ∀ a ∈ inputs, ∀ b ∈ inputs, sha256 a = sha256 b → a = b

/-- The record ids of the pages, in the order of the stream. -/
def record_ids (pages : List BootstrapPage) : List RecordId :=
  pages.flatMap fun page => page.records.map SnapshotRecord.record_id

def Increasing (ids : List RecordId) : Prop := ids.Pairwise fun a b => compare a b = .lt

theorem increasing_of_isChain {ids : List RecordId} (h : ids.IsChain fun a b => compare a b = .lt) :
    Increasing ids := by
  let _ : Trans (fun a b : RecordId => compare a b = .lt) (fun a b => compare a b = .lt)
      (fun a b => compare a b = .lt) := ⟨TransCmp.lt_trans⟩
  exact List.isChain_iff_pairwise.mp h

variable {ciborium sha256}

/-! ### What a page has passed -/

private theorem compare_lt_of_not_isGE {a b : RecordId} (h : ¬ (compare a b).isGE) : compare a b = .lt := by
  cases hcompare : compare a b <;> simp_all

theorem chain_of_validate_records_from {previous : Option RecordId} {records : List (SnapshotRecord CanonicalValue)}
    (h : validate_records_from previous records = .ok ()) :
    (previous.toList ++ records.map SnapshotRecord.record_id).IsChain (fun a b => compare a b = .lt) ∧
      ∀ record ∈ records, has_version record.state = true := by
  induction records generalizing previous with
  | nil => cases previous <;> simp
  | cons record records ih =>
    simp only [validate_records_from, bind_eq_ok_iff, refuse_eq_ok_iff] at h
    obtain ⟨_, horder, _, hversion, hrest⟩ := h
    obtain ⟨hchain, hversions⟩ := ih hrest
    refine ⟨?_, List.forall_mem_cons.mpr ⟨by simpa using hversion, hversions⟩⟩
    cases previous with
    | none => exact hchain
    | some id =>
      refine List.isChain_cons_cons.mpr ⟨?_, hchain⟩
      apply compare_lt_of_not_isGE
      simpa using horder

/-- What an encoded page has passed. -/
structure PagePassed (ciborium : Ciborium) (p : BootstrapPage) : Prop where
  admitted : Admitted.page p
  nonempty : p.records ≠ []
  chain : (p.records.map SnapshotRecord.record_id).IsChain fun a b => compare a b = .lt
  versions : ∀ record ∈ p.records, has_version record.state = true

theorem pagePassed_of_encode {p : BootstrapPage} {bytes : List UInt8}
    (h : encode_bootstrap_page ciborium p = .ok bytes) : PagePassed ciborium p := by
  simp only [encode_bootstrap_page, bind_eq_ok_iff] at h
  obtain ⟨_, hpreflight, hwrite⟩ := h
  simp only [preflight_page, validate_records, bind_eq_ok_iff, refuse_eq_ok_iff, not_or] at hpreflight
  obtain ⟨_, -, _, ⟨_, ⟨hnonempty, -⟩, hrecords⟩, -⟩ := hpreflight
  obtain ⟨hchain, hversions⟩ := chain_of_validate_records_from hrecords
  obtain ⟨hadmitted, -⟩ := decode_family_message_of_encode emits_page (fun _ => wire_page) hwrite
  exact ⟨hadmitted, hnonempty, hchain, hversions⟩

theorem encode_content_eq_ok {index : UInt64} {records : List (SnapshotRecord CanonicalValue)} {bytes : List UInt8}
    (h : encode_content ciborium index records = .ok bytes) :
    BoundedList http_codec.Admitted.snapshot_record records ∧
      encode_cbor_value ciborium (.Array [integer index, .Array (records.map grammar.snapshot_record)]) = .ok bytes := by
  have hemits : Emits (content_rows records) _ _ _ :=
    (Emits.take_items 3).bind ((emits_vec records).bind (Emits.mapM emits_snapshot_record records))
  simp only [encode_content, bind_eq_ok_iff, StateT.run'_eq_ok_iff] at h
  obtain ⟨rows, ⟨rest, hrun⟩, hwrite⟩ := h
  obtain ⟨⟨-, hlength, hall⟩, hvalue, -⟩ := hemits _ _ ⟨Nat.le_refl _, Nat.le_refl _⟩ hrun
  dsimp only at hvalue
  rw [hvalue] at hwrite
  exact ⟨⟨hlength, hall⟩, hwrite⟩

/-- The content encoding has no two pages for the same bytes. -/
theorem encode_content_injective {index index' : UInt64} {records records' : List (SnapshotRecord CanonicalValue)}
    {bytes : List UInt8} (h : encode_content ciborium index records = .ok bytes)
    (h' : encode_content ciborium index' records' = .ok bytes) : index = index' ∧ records = records' := by
  obtain ⟨hrecords, hwrite⟩ := encode_content_eq_ok h
  obtain ⟨hrecords', hwrite'⟩ := encode_content_eq_ok h'
  have hsame := encode_cbor_value_inj hwrite hwrite'
  simp only [Cbor.Array.injEq, List.cons.injEq, and_true] at hsame
  obtain ⟨hindex, hrows⟩ := hsame
  have hdecode := decode_snapshot_records hrecords
  rw [hrows, decode_snapshot_records hrecords'] at hdecode
  exact ⟨integer_injective hindex, (Except.ok.inj hdecode).symm⟩

/-- What a page that a hasher takes has shown, and what the hasher is after it. -/
structure Advanced (ciborium : Ciborium) (sha256 : List UInt8 → BootstrapDigest) (hasher next : BootstrapContentHasher)
    (p : BootstrapPage) : Prop where
  session : p.session_id = hasher.session_id
  index : p.index = hasher.next_index
  passed : PagePassed ciborium p
  order : ∀ id ∈ hasher.last_id, ∀ first ∈ p.records.head?, compare id first.record_id = .lt
  encoded : encode_content ciborium p.index p.records = .ok (content ciborium p)
  session_id : next.session_id = hasher.session_id
  next_index : next.next_index.toNat = hasher.next_index.toNat + 1
  records : next.records.toNat = hasher.records.toNat + p.records.length
  bytes : next.bytes.toNat = hasher.bytes.toNat + (content ciborium p).length
  last_id : next.last_id = p.records.getLast?.map SnapshotRecord.record_id
  root : next.root = hasher.root ++ page_frames ciborium sha256 p

theorem advanced_of_advance {self next : BootstrapContentHasher} {p : BootstrapPage}
    (h : self.advance ciborium sha256 p = .ok next) : Advanced ciborium sha256 self next p := by
  simp only [BootstrapContentHasher.advance, bind_eq_ok_iff, refuse_eq_ok_iff, okOr_eq_ok_iff, not_or,
    Decidable.not_not, pure, Except.pure, ok.injEq] at h
  obtain ⟨_, ⟨hsession, hindex⟩, _, hencode, _, horder, bytes, hcontent, records, hrecords, total, htotal, next_index,
    hnext, _, -, rfl⟩ := h
  have hpassed := pagePassed_of_encode hencode
  have hsame : content ciborium p = bytes := by simp [content, hcontent, Except.toOption]
  obtain ⟨hbounded, hwrite⟩ := encode_content_eq_ok hcontent
  have hlength := (encode_cbor_value_eq_ok_iff.mp hwrite).2
  rw [UInt64.checked_add_eq_some_iff] at hrecords htotal hnext
  have hrecordsFit : p.records.length < UInt64.size := Nat.lt_of_le_of_lt hbounded.1 (by decide)
  have hbytesFit : bytes.length < UInt64.size := Nat.lt_of_le_of_lt hlength (by decide)
  rw [UInt64.toNat_ofNat_of_lt' hrecordsFit] at hrecords
  rw [UInt64.toNat_ofNat_of_lt' hbytesFit] at htotal
  exact {
    session := hsession
    index := hindex
    passed := hpassed
    order := by
      intro id hid first hfirst
      apply compare_lt_of_not_isGE
      rw [Option.mem_def] at hid hfirst
      simpa [hid, hfirst] using horder
    encoded := by rw [hsame]; exact hcontent
    session_id := rfl
    next_index := hnext
    records := hrecords
    bytes := by rw [hsame]; exact htotal
    last_id := rfl
    root := by
      rw [page_frames, page_preimage, hsame, ← List.append_assoc]
      rfl }

/-! ### One push -/

variable {self next : BootstrapVerifier} {page : BootstrapPage}

theorem push_eq_ok (h : self.push ciborium sha256 page = (.ok (), next)) :
    page.manifest_digest = self.manifest_digest ∧
      ∃ content, Advanced ciborium sha256 self.content content page ∧ next = { self with content := content } ∧
        content.next_index ≤ self.manifest.page_count ∧ content.records ≤ self.manifest.record_count ∧
        content.bytes ≤ self.manifest.content_bytes := by
  unfold BootstrapVerifier.push BootstrapContentHasher.push at h
  split at h
  · cases h
  · rename_i hdigest
    cases hadvance : self.content.advance ciborium sha256 page with
    | error e =>
      rw [hadvance] at h
      cases h
    | ok content =>
      rw [hadvance] at h
      dsimp only at h
      split at h
      · cases h
      · rename_i hwithin
        cases h
        simp only [BootstrapContentHasher.summary, not_or, UInt64.not_lt] at hwithin
        exact ⟨Decidable.not_not.mp hdigest, content, advanced_of_advance hadvance, rfl, hwithin⟩

/-- A refused push leaves the verifier as it was. -/
theorem push_eq_self_of_error {result : Result Unit} {e : CodecError}
    (h : self.push ciborium sha256 page = (result, next)) (herror : result = .error e) : next = self := by
  unfold BootstrapVerifier.push BootstrapContentHasher.push at h
  split at h
  · cases h
    rfl
  · cases hadvance : self.content.advance ciborium sha256 page with
    | error e =>
      rw [hadvance] at h
      cases h
      rfl
    | ok content =>
      rw [hadvance] at h
      dsimp only at h
      split at h
      · cases h
        rfl
      · cases h
        cases herror

/-- A push is refused, and changes nothing, unless it succeeds. -/
theorem push_refused (h : ∀ next, self.push ciborium sha256 page ≠ (.ok (), next)) :
    ∃ e, self.push ciborium sha256 page = (.error e, self) := by
  rcases hpush : self.push ciborium sha256 page with ⟨result, next⟩
  cases result with
  | ok u => exact absurd hpush (h next)
  | error e => exact ⟨e, by rw [push_eq_self_of_error hpush rfl]⟩

/-! ### The verifier and the pages it has taken -/

/-- The state of a verifier of the manifest that has accepted exactly these pages. -/
structure Staged (ciborium : Ciborium) (sha256 : List UInt8 → BootstrapDigest) (manifest : BootstrapManifest)
    (verifier : BootstrapVerifier) (pages : List BootstrapPage) : Prop where
  manifest_eq : verifier.manifest = manifest
  valid : valid_manifest manifest = .ok ()
  digest : bootstrap_manifest_digest ciborium sha256 manifest = .ok verifier.manifest_digest
  session : verifier.content.session_id = manifest.session_id
  next_index : verifier.content.next_index.toNat = pages.length
  records : verifier.content.records.toNat = (pages.map fun page => page.records.length).sum
  bytes : verifier.content.bytes.toNat = (pages.map fun page => (content ciborium page).length).sum
  last_id : verifier.content.last_id = (record_ids pages).getLast?
  root : verifier.content.root = root_preimage ciborium sha256 pages
  chain : (record_ids pages).IsChain fun a b => compare a b = .lt
  indexed : pages.map (fun page => page.index.toNat) = List.range pages.length
  headers : ∀ page ∈ pages, page.session_id = manifest.session_id ∧ page.manifest_digest = verifier.manifest_digest
  passed : ∀ page ∈ pages, PagePassed ciborium page ∧
    encode_content ciborium page.index page.records = .ok (content ciborium page)

theorem staged_new {manifest : BootstrapManifest} (h : BootstrapVerifier.new ciborium sha256 manifest = .ok self) :
    Staged ciborium sha256 manifest self [] := by
  simp only [BootstrapVerifier.new, BootstrapContentHasher.new, bind_eq_ok_iff, refuse_eq_ok_iff, pure, Except.pure,
    ok.injEq] at h
  obtain ⟨manifest_digest, hdigest, hasher, ⟨_, -, rfl⟩, rfl⟩ := h
  have hvalid : valid_manifest manifest = .ok () := by
    simp only [bootstrap_manifest_digest, encode_bootstrap_manifest, bind_eq_ok_iff] at hdigest
    obtain ⟨_, ⟨_, hvalid, -⟩, -⟩ := hdigest
    exact hvalid
  exact {
    manifest_eq := rfl
    valid := hvalid
    digest := hdigest
    session := rfl
    next_index := rfl
    records := rfl
    bytes := rfl
    last_id := rfl
    root := by simp [root_preimage]
    chain := .nil
    indexed := rfl
    headers := by simp
    passed := by simp }

theorem Staged.push {manifest : BootstrapManifest} {pages : List BootstrapPage}
    (hstaged : Staged ciborium sha256 manifest self pages) (h : self.push ciborium sha256 page = (.ok (), next)) :
    Staged ciborium sha256 manifest next (pages ++ [page]) := by
  obtain ⟨hdigest, hasher, hadvanced, rfl, -⟩ := push_eq_ok h
  have hids : record_ids (pages ++ [page]) = record_ids pages ++ page.records.map SnapshotRecord.record_id := by
    simp [record_ids]
  have hlast : page.records.getLast?.isSome := by
    simp [List.getLast?_isSome, hadvanced.passed.nonempty]
  exact {
    manifest_eq := hstaged.manifest_eq
    valid := hstaged.valid
    digest := hstaged.digest
    session := hadvanced.session_id.trans hstaged.session
    next_index := by rw [hadvanced.next_index, hstaged.next_index]; simp
    records := by rw [hadvanced.records, hstaged.records]; simp
    bytes := by rw [hadvanced.bytes, hstaged.bytes]; simp
    last_id := by
      rw [hids, List.getLast?_append, List.getLast?_map, hadvanced.last_id]
      obtain ⟨last, hlast⟩ := Option.isSome_iff_exists.mp hlast
      simp [hlast]
    root := by rw [hadvanced.root, hstaged.root]; simp [root_preimage]
    chain := by
      rw [hids, List.isChain_append]
      refine ⟨hstaged.chain, hadvanced.passed.chain, ?_⟩
      intro id hid other hother
      rw [← hstaged.last_id] at hid
      rw [List.head?_map, Option.mem_map] at hother
      obtain ⟨first, hfirst, rfl⟩ := hother
      exact hadvanced.order id hid first hfirst
    indexed := by
      rw [List.map_append, hstaged.indexed, List.length_append, List.length_singleton, List.range_succ]
      simp [hadvanced.index, hstaged.next_index]
    headers := by
      intro other hother
      rcases List.mem_append.mp hother with hother | hother
      · exact hstaged.headers other hother
      · rw [List.mem_singleton] at hother
        subst hother
        exact ⟨hadvanced.session.trans hstaged.session, hdigest⟩
    passed := by
      intro other hother
      rcases List.mem_append.mp hother with hother | hother
      · exact hstaged.passed other hother
      · rw [List.mem_singleton] at hother
        subst hother
        exact ⟨hadvanced.passed, hadvanced.encoded⟩ }

theorem Staged.push_all {manifest : BootstrapManifest} {done pages : List BootstrapPage}
    (hstaged : Staged ciborium sha256 manifest self done) (h : self.push_all ciborium sha256 pages = .ok next) :
    Staged ciborium sha256 manifest next (done ++ pages) := by
  induction pages generalizing self done with
  | nil =>
    cases h
    rw [List.append_nil]
    exact hstaged
  | cons page pages ih =>
    rw [BootstrapVerifier.push_all] at h
    split at h
    · rename_i middle hpush
      rw [← List.singleton_append, ← List.append_assoc]
      exact ih (hstaged.push hpush) h
    · cases h

theorem Staged.after {manifest : BootstrapManifest} {done pages : List BootstrapPage}
    (hstaged : Staged ciborium sha256 manifest self done) :
    Staged ciborium sha256 manifest (self.after ciborium sha256 pages)
      (done ++ self.accepted ciborium sha256 pages) := by
  induction pages generalizing self done with
  | nil =>
    rw [BootstrapVerifier.after, BootstrapVerifier.accepted, List.append_nil]
    exact hstaged
  | cons page pages ih =>
    rw [BootstrapVerifier.after, BootstrapVerifier.accepted]
    split
    · rename_i middle hpush
      rw [← List.singleton_append, ← List.append_assoc, hpush]
      exact ih (hstaged.push hpush)
    · rename_i middle hpush
      have hsame := push_eq_self_of_error hpush rfl
      subst hsame
      rw [hpush]
      exact ih hstaged

/-! ### The root binds the pages -/

theorem length_frame (bytes : List UInt8) : (frame bytes).length = 8 + bytes.length := by
  rw [frame, List.length_append, Cbor.length_bigEndian]

theorem frame_injective {bytes bytes' : List UInt8} (h : frame bytes = frame bytes') : bytes = bytes' := by
  have hsplit := List.append_inj h (by rw [Cbor.length_bigEndian, Cbor.length_bigEndian])
  exact hsplit.2

theorem to_be_bytes_injective {value value' : UInt64} (h : to_be_bytes value = to_be_bytes value') : value = value' := by
  have hnumber := congrArg Cbor.ofBigEndian h
  rw [to_be_bytes, to_be_bytes, Cbor.ofBigEndian_bigEndian, Cbor.ofBigEndian_bigEndian] at hnumber
  have hlt := value.toNat_lt
  have hlt' := value'.toNat_lt
  rw [Nat.mod_eq_of_lt (by omega), Nat.mod_eq_of_lt (by omega)] at hnumber
  exact UInt64.toNat_inj.mp hnumber

/-- The frames of one page have a fixed length and hold its index and its hash. -/
theorem page_frames_injective {page page' : BootstrapPage} {rest rest' : List UInt8}
    (h : page_frames ciborium sha256 page ++ rest = page_frames ciborium sha256 page' ++ rest') :
    page.index = page'.index ∧ sha256 (page_preimage ciborium page) = sha256 (page_preimage ciborium page') ∧
      rest = rest' := by
  have hbe (value : UInt64) : (frame (to_be_bytes value)).length = 16 := by
    rw [length_frame, to_be_bytes, Cbor.length_bigEndian]
  have hhash (digest : BootstrapDigest) : (frame digest.bytes).length = 40 := by
    rw [length_frame, digest.length]
  rw [page_frames, page_frames, List.append_assoc, List.append_assoc] at h
  obtain ⟨hindex, h⟩ := List.append_inj h (by rw [hbe, hbe])
  obtain ⟨hdigest, hrest⟩ := List.append_inj h (by rw [hhash, hhash])
  have hbytes := frame_injective hdigest
  exact ⟨to_be_bytes_injective (frame_injective hindex), BootstrapDigest.ext hbytes, hrest⟩

/-- Equal roots of equally many pages, hashed without a collision, are roots of the
same pages. -/
theorem contents_eq_of_root {pages pages' : List BootstrapPage} (hlength : pages.length = pages'.length)
    (hfree : ∀ page ∈ pages, ∀ page' ∈ pages',
      sha256 (page_preimage ciborium page) = sha256 (page_preimage ciborium page') →
        page_preimage ciborium page = page_preimage ciborium page')
    (hroot : pages.flatMap (page_frames ciborium sha256) = pages'.flatMap (page_frames ciborium sha256)) :
    pages.map (content ciborium) = pages'.map (content ciborium) := by
  induction pages generalizing pages' with
  | nil =>
    rw [List.eq_nil_of_length_eq_zero hlength.symm]
  | cons page pages ih =>
    cases pages' with
    | nil => simp at hlength
    | cons page' pages' =>
      rw [List.flatMap_cons, List.flatMap_cons] at hroot
      obtain ⟨-, hhash, hrest⟩ := page_frames_injective hroot
      have hpreimage := hfree page List.mem_cons_self page' List.mem_cons_self hhash
      have hcontent := frame_injective (List.append_cancel_left hpreimage)
      rw [List.map_cons, List.map_cons, hcontent,
        ih (by simpa using hlength) (fun p hp p' hp' => hfree p (List.mem_cons_of_mem _ hp) p' (List.mem_cons_of_mem _ hp'))
          hrest]

theorem eq_of_map_eq {α β : Type} {f : α → β} {l l' : List α} (hmap : l.map f = l'.map f)
    (hinj : ∀ a ∈ l, ∀ b ∈ l', f a = f b → a = b) : l = l' := by
  induction l generalizing l' with
  | nil =>
    rw [List.map_nil, eq_comm, List.map_eq_nil_iff] at hmap
    exact hmap.symm
  | cons a l ih =>
    cases l' with
    | nil => simp at hmap
    | cons b l' =>
      rw [List.map_cons, List.map_cons, List.cons.injEq] at hmap
      rw [hinj a List.mem_cons_self b List.mem_cons_self hmap.1,
        ih hmap.2 fun x hx y hy => hinj x (List.mem_cons_of_mem _ hx) y (List.mem_cons_of_mem _ hy)]

/-- Two runs of one manifest that both finish have accepted the same pages. -/
theorem Staged.eq_of_root {manifest : BootstrapManifest} {self self' : BootstrapVerifier}
    {pages pages' : List BootstrapPage} (hstaged : Staged ciborium sha256 manifest self pages)
    (hstaged' : Staged ciborium sha256 manifest self' pages') (hlength : pages.length = pages'.length)
    (hroot : sha256 self.content.root = sha256 self'.content.root)
    (hfree : CollisionFree sha256 (preimages ciborium sha256 pages ++ preimages ciborium sha256 pages')) :
    pages = pages' := by
  have hpreimage : root_preimage ciborium sha256 pages = root_preimage ciborium sha256 pages' := by
    rw [hstaged.root, hstaged'.root] at hroot
    exact hfree _ (by simp [preimages]) _ (by simp [preimages]) hroot
  have hcontents := contents_eq_of_root hlength
    (fun page hpage page' hpage' => hfree _ (by simp [preimages]; grind) _ (by simp [preimages]; grind))
    (List.append_cancel_left hpreimage)
  apply eq_of_map_eq hcontents
  intro page hpage page' hpage' hcontent
  obtain ⟨hsession, hdigest⟩ := hstaged.headers page hpage
  obtain ⟨hsession', hdigest'⟩ := hstaged'.headers page' hpage'
  have hencoded := (hstaged.passed page hpage).2
  rw [hcontent] at hencoded
  obtain ⟨hindex, hrecords⟩ := encode_content_injective hencoded (hstaged'.passed page' hpage').2
  have hsame : self.manifest_digest = self'.manifest_digest := by
    have hboth := hstaged.digest
    rw [hstaged'.digest] at hboth
    exact (Except.ok.inj hboth).symm
  cases page
  cases page'
  simp_all

/-! ### Soundness, binding and refusal -/

/-- A state that a snapshot may hold. -/
def Versioned : RecordState CanonicalValue → Prop
  | .Absent => False
  | .Present _ version _ => 0 < version
  | .Tombstone version => 0 < version

theorem versioned_of_has_version {state : RecordState CanonicalValue} (h : has_version state = true) :
    Versioned state := by
  cases state with
  | Absent => cases h
  | Present value version reference => exact UInt64.pos_iff_ne_zero.mpr (by simpa [has_version] using h)
  | Tombstone version => exact UInt64.pos_iff_ne_zero.mpr (by simpa [has_version] using h)

/-- What a finished verification has established of the pages. -/
structure Complete (ciborium : Ciborium) (manifest : BootstrapManifest) (pages : List BootstrapPage) : Prop where
  increasing : Increasing (record_ids pages)
  versioned : ∀ page ∈ pages, ∀ record ∈ page.records, Versioned record.state
  page_count : pages.length = manifest.page_count.toNat
  record_count : (pages.map fun page => page.records.length).sum = manifest.record_count.toNat
  content_bytes : (pages.map fun page => (content ciborium page).length).sum = manifest.content_bytes.toNat
  within : manifest.page_count ≤ manifest.limits.max_pages ∧ manifest.record_count ≤ manifest.limits.max_records ∧
    manifest.content_bytes ≤ manifest.limits.max_content_bytes

/-- The pages that a verifier of the manifest must refuse after it has accepted `pages`. -/
inductive Unacceptable (ciborium : Ciborium) (sha256 : List UInt8 → BootstrapDigest) (manifest : BootstrapManifest)
    (pages : List BootstrapPage) (page : BootstrapPage) : Prop where
  | out_of_order : page.index.toNat ≠ pages.length → Unacceptable ciborium sha256 manifest pages page
  | again : page ∈ pages → Unacceptable ciborium sha256 manifest pages page
  | other_manifest : bootstrap_manifest_digest ciborium sha256 manifest ≠ .ok page.manifest_digest →
    Unacceptable ciborium sha256 manifest pages page
  | other_session : page.session_id ≠ manifest.session_id → Unacceptable ciborium sha256 manifest pages page
  | pages_reached : pages.length = manifest.page_count.toNat → Unacceptable ciborium sha256 manifest pages page
  | records_reached : (pages.map fun page => page.records.length).sum = manifest.record_count.toNat →
    Unacceptable ciborium sha256 manifest pages page
  | bytes_reached : (pages.map fun page => (content ciborium page).length).sum = manifest.content_bytes.toNat →
    Unacceptable ciborium sha256 manifest pages page

theorem Staged.index_lt {manifest : BootstrapManifest} {pages : List BootstrapPage}
    (hstaged : Staged ciborium sha256 manifest self pages) (hpage : page ∈ pages) :
    page.index.toNat < pages.length := by
  have hmem := List.mem_map_of_mem (f := fun page => page.index.toNat) hpage
  rw [hstaged.indexed, List.mem_range] at hmem
  exact hmem

theorem length_content_pos (h : encode_content ciborium page.index page.records = .ok (content ciborium page)) :
    0 < (content ciborium page).length := by
  obtain ⟨-, hwrite⟩ := encode_content_eq_ok h
  rw [(encode_cbor_value_eq_ok_iff.mp hwrite).1]
  exact Cbor.length_encode_pos _

theorem Staged.refused {manifest : BootstrapManifest} {pages : List BootstrapPage}
    (hstaged : Staged ciborium sha256 manifest self pages)
    (hpage : Unacceptable ciborium sha256 manifest pages page) :
    ∃ e, self.push ciborium sha256 page = (.error e, self) := by
  apply push_refused
  intro next hpush
  obtain ⟨hdigest, hasher, hadvanced, -, hpages, hrecords, hbytes⟩ := push_eq_ok hpush
  rw [hstaged.manifest_eq, UInt64.le_iff_toNat_le] at hpages hrecords hbytes
  rw [hadvanced.next_index, hstaged.next_index] at hpages
  rw [hadvanced.records, hstaged.records] at hrecords
  rw [hadvanced.bytes, hstaged.bytes] at hbytes
  have hindex : page.index.toNat = pages.length := by rw [hadvanced.index, hstaged.next_index]
  have hnonempty := List.length_pos_iff.mpr hadvanced.passed.nonempty
  have hcontent := length_content_pos hadvanced.encoded
  cases hpage with
  | out_of_order hne => exact hne hindex
  | again hmem =>
    have hlt := hstaged.index_lt hmem
    omega
  | other_manifest hne => exact hne (by rw [hdigest, hstaged.digest])
  | other_session hne => exact hne (hadvanced.session.trans hstaged.session)
  | pages_reached hreached => omega
  | records_reached hreached => omega
  | bytes_reached hreached => omega

theorem finish_eq_ok {summary : BootstrapContentSummary} (h : self.finish sha256 = .ok summary) :
    self.content.next_index = self.manifest.page_count ∧ self.content.records = self.manifest.record_count ∧
      self.content.bytes = self.manifest.content_bytes ∧ sha256 self.content.root = self.manifest.root := by
  obtain ⟨_, hrefuse, -⟩ := bind_eq_ok_iff.mp h
  rw [refuse_eq_ok_iff] at hrefuse
  simpa only [BootstrapContentHasher.summary, not_or, Decidable.not_not] using hrefuse

theorem Staged.complete {manifest : BootstrapManifest} {pages : List BootstrapPage} {summary : BootstrapContentSummary}
    (hstaged : Staged ciborium sha256 manifest self pages) (hfinish : self.finish sha256 = .ok summary) :
    Complete ciborium manifest pages := by
  obtain ⟨hpages, hrecords, hbytes, -⟩ := finish_eq_ok hfinish
  rw [hstaged.manifest_eq] at hpages hrecords hbytes
  have hvalid := hstaged.valid
  simp only [valid_manifest, bind_eq_ok_iff, refuse_eq_ok_iff, not_or, gt_iff_lt, UInt64.not_lt] at hvalid
  obtain ⟨_, ⟨-, hwithin⟩, -⟩ := hvalid
  exact {
    increasing := increasing_of_isChain hstaged.chain
    versioned := fun page hpage record hrecord =>
      versioned_of_has_version ((hstaged.passed page hpage).1.versions record hrecord)
    page_count := by rw [← hstaged.next_index, hpages]
    record_count := by rw [← hstaged.records, hrecords]
    content_bytes := by rw [← hstaged.bytes, hbytes]
    within := hwithin }

/-- Streaming verification is sound and binding: a run that finishes has taken an ordered
and versioned snapshot with the totals of the manifest, and only one sequence of pages
finishes for a manifest as long as the hash does not collide on what the two runs hash.
Whatever was pushed before, a page out of order, pushed again, of another manifest or
session, or after a declared total is reached is refused and changes nothing. -/
theorem bootstrap_stream_sound_and_binding (ciborium : Ciborium) (sha256 : List UInt8 → BootstrapDigest)
    (manifest : BootstrapManifest) (verifier : BootstrapVerifier)
    (hnew : BootstrapVerifier.new ciborium sha256 manifest = .ok verifier) :
    (∀ pages finished summary, verifier.push_all ciborium sha256 pages = .ok finished →
      finished.finish sha256 = .ok summary → Complete ciborium manifest pages) ∧
    (∀ pages pages' finished finished' summary summary',
      verifier.push_all ciborium sha256 pages = .ok finished → finished.finish sha256 = .ok summary →
      verifier.push_all ciborium sha256 pages' = .ok finished' → finished'.finish sha256 = .ok summary' →
      CollisionFree sha256 (preimages ciborium sha256 pages ++ preimages ciborium sha256 pages') →
      pages = pages') ∧
    (∀ pushed page, Unacceptable ciborium sha256 manifest (verifier.accepted ciborium sha256 pushed) page →
      ∃ e, (verifier.after ciborium sha256 pushed).push ciborium sha256 page =
        (.error e, verifier.after ciborium sha256 pushed)) := by
  have hstart := staged_new hnew
  refine ⟨?_, ?_, ?_⟩
  · intro pages finished summary hpush hfinish
    exact (hstart.push_all hpush).complete hfinish
  · intro pages pages' finished finished' summary summary' hpush hfinish hpush' hfinish' hfree
    have hstaged := hstart.push_all hpush
    have hstaged' := hstart.push_all hpush'
    rw [List.nil_append] at hstaged hstaged'
    have hcomplete := hstaged.complete hfinish
    have hcomplete' := hstaged'.complete hfinish'
    have hroot := (finish_eq_ok hfinish).2.2.2
    have hroot' := (finish_eq_ok hfinish').2.2.2
    rw [hstaged.manifest_eq] at hroot
    rw [hstaged'.manifest_eq] at hroot'
    exact hstaged.eq_of_root hstaged' (hcomplete.page_count.trans hcomplete'.page_count.symm)
      (hroot.trans hroot'.symm) hfree
  · intro pushed page hpage
    exact hstart.after.refused hpage

/-- SHA-256 as the digest of the verifier. -/
def sha256_digest (message : List UInt8) : BootstrapDigest := ⟨Sha256.hash message, Sha256.length_hash message⟩

/-- The only page of a snapshot of one tombstone. -/
def stream_page : BootstrapPage where
  session_id := "s"
  manifest_digest := ⟨[95, 235, 51, 185, 169, 52, 241, 46, 17, 240, 92, 217, 93, 119, 233, 184, 114, 92, 199, 200, 67, 28,
    230, 208, 22, 16, 159, 248, 143, 138, 24, 2], rfl⟩
  index := 0
  records := [⟨⟨"r"⟩, .Tombstone 1⟩]

def stream_manifest : BootstrapManifest where
  session_id := "s"
  start_request_id := "q"
  start_fingerprint := ⟨List.replicate 32 7, rfl⟩
  context := ⟨"a", "u", ⟨"p"⟩, ⟨"c"⟩, "g", ⟨⟨"o"⟩, 1, 1⟩⟩
  cursor := ⟨1, 1⟩
  limits := ⟨1, 1, 64⟩
  page_count := 1
  record_count := 1
  content_bytes := 9
  root := ⟨[208, 123, 203, 1, 234, 140, 214, 212, 52, 79, 48, 176, 215, 224, 29, 251, 173, 226, 179, 134, 199, 212, 58,
    226, 148, 227, 205, 18, 9, 104, 126, 83], rfl⟩
  expires_at := 1

/-- Pushes that all succeed are all accepted. -/
theorem after_of_push_all {pages : List BootstrapPage} (h : self.push_all ciborium sha256 pages = .ok next) :
    self.after ciborium sha256 pages = next ∧ self.accepted ciborium sha256 pages = pages := by
  induction pages generalizing self with
  | nil =>
    cases h
    exact ⟨rfl, rfl⟩
  | cons page pages ih =>
    rw [BootstrapVerifier.push_all] at h
    rw [BootstrapVerifier.after, BootstrapVerifier.accepted]
    split at h
    · rename_i middle hpush
      obtain ⟨hafter, haccepted⟩ := ih h
      rw [hpush]
      exact ⟨hafter, by rw [haccepted]⟩
    · cases h

theorem bootstrap_stream_sound_and_binding_tombstone :
    CollisionFree sha256_digest (preimages Cbor.deterministic sha256_digest [stream_page] ++
        preimages Cbor.deterministic sha256_digest [stream_page]) ∧
      ∃ verifier finished e, BootstrapVerifier.new Cbor.deterministic sha256_digest stream_manifest = .ok verifier ∧
        verifier.push_all Cbor.deterministic sha256_digest [stream_page] = .ok finished ∧
        Complete Cbor.deterministic stream_manifest [stream_page] ∧
        finished.push Cbor.deterministic sha256_digest stream_page = (.error e, finished) := by
  constructor
  · have hdiffer : sha256_digest (root_preimage Cbor.deterministic sha256_digest [stream_page]) ≠
        sha256_digest (page_preimage Cbor.deterministic stream_page) := by decide +kernel
    intro a ha b hb hhash
    simp only [preimages, List.map_cons, List.map_nil, List.cons_append, List.nil_append, List.mem_cons,
      List.not_mem_nil, or_false] at ha hb
    grind
  · have hruns : (do
        let verifier ← BootstrapVerifier.new Cbor.deterministic sha256_digest stream_manifest
        let finished ← verifier.push_all Cbor.deterministic sha256_digest [stream_page]
        finished.finish sha256_digest : Result BootstrapContentSummary).isOk = true := by decide +kernel
    obtain ⟨summary, hruns⟩ := isOk_eq_true_iff.mp hruns
    obtain ⟨verifier, hnew, hruns⟩ := bind_eq_ok_iff.mp hruns
    obtain ⟨finished, hpush, hfinish⟩ := bind_eq_ok_iff.mp hruns
    obtain ⟨hsound, -, hrefused⟩ :=
      bootstrap_stream_sound_and_binding Cbor.deterministic sha256_digest stream_manifest verifier hnew
    obtain ⟨hafter, haccepted⟩ := after_of_push_all hpush
    obtain ⟨e, hagain⟩ := hrefused [stream_page] stream_page (.again (by rw [haccepted]; simp))
    rw [hafter] at hagain
    exact ⟨verifier, finished, e, hnew, hpush, hsound _ _ _ hpush hfinish, hagain⟩

end surrealdb_sync_protocol.bootstrap_codec
