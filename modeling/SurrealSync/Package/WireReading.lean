import SurrealSync.Native.Bridge
import SurrealSync.Package.WireCrossing

open Except
open surrealdb_sync_protocol.canonical

namespace react_native_surrealdb.wire

open surrealdb.types surrealdb_rn_core.sync_codec surrealdb_rn_core.sync_http_codec
open surrealdb_rn_core.wire (Platform from_wire_value_at_depth decode_tagged_value required_string)

variable {T : Types} {platform : Platform T.recorded} {doubles : Doubles CanonicalFloat}

/-- What is relied on of the parsers of both languages: a text that Rust reads as a finite number is one for JavaScript,
and the base64 library reads nothing but what it writes. -/
structure Readable (platform : Platform T.recorded) (doubles : Doubles CanonicalFloat) : Prop where
  literal : ∀ text value, platform.float_literal text = some (.finite value) → Number doubles text ≠ .NaN
  base64_encode : ∀ bytes, platform.base64.encode bytes = String.ofList (encodeBase64 bytes)
  base64_decode : ∀ text bytes, platform.base64.decode text = some bytes → platform.base64.encode bytes = text

/-! ### Texts of integers -/

theorem isDigit_of_digits {text : List Char} {n : Nat} (hdigits : Decimal.digits text = some n) :
    ∀ char ∈ text, char.isDigit := by
  unfold Decimal.digits at hdigits
  split at hdigits
  · rename_i hall
    exact List.all_eq_true.mp hall.2
  · cases hdigits

/-- Every text of a 64-bit integer is one of a `BigInt`. -/
theorem exists_BigInt_of_from_str {text : String} {value : Int64} (hvalue : Int64.from_str text = some value) :
    ∃ n, BigInt text = some n := by
  unfold Int64.from_str at hvalue
  have hplain : ∀ {digits : List Char} {n : Nat}, Decimal.digits digits = some n →
      ∀ char ∈ digits, isWhiteSpace char = false :=
    fun hdigits char hchar => isWhiteSpace_of_isDigit (isDigit_of_digits hdigits char hchar)
  split at hvalue
  · rename_i digits htext
    obtain ⟨n, hdigits, _⟩ := Option.bind_eq_some_iff.mp hvalue
    refine ⟨-(n : Int), BigInt_of_signedInteger (trim_of_forall ?_) ?_⟩
    · rw [htext]
      exact List.forall_mem_cons.mpr ⟨by decide, hplain hdigits⟩
    · rw [htext, signedInteger, hdigits]
      rfl
  · rename_i digits htext
    obtain ⟨n, hdigits, _⟩ := Option.bind_eq_some_iff.mp hvalue
    refine ⟨(n : Int), BigInt_of_signedInteger (trim_of_forall ?_) ?_⟩
    · rw [htext]
      exact List.forall_mem_cons.mpr ⟨by decide, hplain hdigits⟩
    · rw [htext, signedInteger, hdigits]
      rfl
  · rename_i hminus hplus
    obtain ⟨n, hdigits, _⟩ := Option.bind_eq_some_iff.mp hvalue
    refine ⟨(n : Int), BigInt_of_signedInteger (trim_of_forall (hplain hdigits)) ?_⟩
    unfold signedInteger
    split
    · rename_i digits htext
      exact absurd htext (hminus digits)
    · rename_i digits htext
      exact absurd htext (hplus digits)
    · rw [hdigits]
      rfl

/-! ### Tagged values -/

theorem requireString_of_required {object : List (String × serde_json.Value CanonicalFloat)} {key text : String}
    (hrequired : required_string object key = .ok text) : requireString (object.lookup key) key = .ok text := by
  unfold required_string at hrequired
  split at hrequired
  · rename_i value hlookup
    cases hrequired
    rw [hlookup]
    rfl
  · cases hrequired

theorem parsed_eq_ok {A : Type} {kind : String} {value : Option A} {a : A}
    (hparsed : surrealdb_rn_core.wire.parsed kind value = .ok a) : value = some a := okOr_eq_ok_iff.mp hparsed

/-- Only the literals of numbers are read as finite ones. -/
theorem literal_of_from_str {text : String} {value : CanonicalFloat}
    (hvalue : f64.from_str platform.float_literal text = some (.finite value)) :
    platform.float_literal text = some (.finite value) := by
  have hnames : ∀ negative name, (if name = "inf" ∨ name = "infinity" then
      some (if negative = true then F64.neg_inf else F64.inf)
    else if name = "nan" then some F64.NaN else platform.float_literal text) = some (.finite value) →
      platform.float_literal text = some (.finite value) := by
    intro negative name hnamed
    split at hnamed
    · cases negative <;> cases hnamed
    · split at hnamed
      · cases hnamed
      · exact hnamed
  exact hnames _ _ hvalue

/-- What is read under a tag, and is canonical, is read under it on the other side. -/
theorem exists_decodeTagged (hreadable : Readable platform doubles) {tag : serde_json.Value CanonicalFloat}
    {object : List (String × serde_json.Value CanonicalFloat)}
    {nested : Option (Except surrealdb_rn_core.wire.SurrealRnError (List (Value T.recorded)))} {value : Value T.recorded}
    (hvalue : decode_tagged_value platform tag object nested = .ok value) {tree : CanonicalTree}
    (htree : from_surreal value.opened = some tree)
    (other : Option (Except (WireError CanonicalFloat) (List (SurrealValue CanonicalFloat)))) :
    ∃ shown, decodeTagged doubles tag object other = .ok shown := by
  unfold decode_tagged_value at hvalue
  split at hvalue
  · exact ⟨.NONE, rfl⟩
  · simp only [bind_eq_ok_iff, pure, Except.pure, ok.injEq] at hvalue
    obtain ⟨text, htext, n, hparsed, rfl⟩ := hvalue
    obtain ⟨shown, hshown⟩ := exists_BigInt_of_from_str (parsed_eq_ok hparsed)
    refine ⟨.bigint shown, ?_⟩
    simp [decodeTagged, requireString_of_required htext, hshown, okOr, pure, Except.pure]
  · simp only [bind_eq_ok_iff, pure, Except.pure, ok.injEq] at hvalue
    obtain ⟨text, htext, number, hparsed, rfl⟩ := hvalue
    cases number with
    | finite number =>
      have hnumber := hreadable.literal text number (literal_of_from_str (parsed_eq_ok hparsed))
      refine ⟨.number (Number doubles text), ?_⟩
      simp [decodeTagged, requireString_of_required htext, hnumber, pure, Except.pure]
    | inf => cases htree
    | neg_inf => cases htree
    | NaN => cases htree
  · simp only [bind_eq_ok_iff, pure, Except.pure, ok.injEq] at hvalue
    obtain ⟨_, _, number, _, rfl⟩ := hvalue
    cases htree
  · simp only [bind_eq_ok_iff, pure, Except.pure, ok.injEq] at hvalue
    obtain ⟨text, htext, bytes, hparsed, rfl⟩ := hvalue
    have hencoded : text = String.ofList (encodeBase64 bytes) := by
      rw [← hreadable.base64_encode, hreadable.base64_decode text bytes (parsed_eq_ok hparsed)]
    refine ⟨.Uint8Array bytes, ?_⟩
    simp [decodeTagged, requireString_of_required htext, hencoded, decodeBase64_encodeBase64, okOr, pure, Except.pure]
  · simp only [bind_eq_ok_iff, pure, Except.pure, ok.injEq] at hvalue
    obtain ⟨_, _, uuid, _, rfl⟩ := hvalue
    cases htree
  · simp only [bind_eq_ok_iff, pure, Except.pure, ok.injEq] at hvalue
    obtain ⟨text, htext, record, _, rfl⟩ := hvalue
    refine ⟨.SurrealRecordId text, ?_⟩
    simp [decodeTagged, requireString_of_required htext, pure, Except.pure]
  · simp only [bind_eq_ok_iff, pure, Except.pure, ok.injEq] at hvalue
    obtain ⟨_, _, values, _, rfl⟩ := hvalue
    cases htree
  · cases hvalue
  · cases hvalue

/-! ### Values -/

theorem exists_copyList {values : List (serde_json.Value CanonicalFloat)}
    (hvalues : ∀ value ∈ values, ∃ shown, decodeValueCopy doubles value = .ok shown) :
    ∃ shown, copyList doubles values = .ok shown := by
  induction values with
  | nil => exact ⟨[], rfl⟩
  | cons value values ih =>
    obtain ⟨⟨shown, hshown⟩, hrest⟩ := List.forall_mem_cons.mp hvalues
    obtain ⟨rest, hrest⟩ := ih hrest
    exact ⟨shown :: rest, by simp [copyList, hshown, hrest, pure, Except.pure]⟩

theorem exists_copyEntries {entries : List (String × serde_json.Value CanonicalFloat)}
    (hentries : ∀ entry ∈ entries, ∃ shown, decodeValueCopy doubles entry.2 = .ok shown) :
    ∃ shown, copyEntries doubles entries = .ok shown := by
  induction entries with
  | nil => exact ⟨[], rfl⟩
  | cons entry entries ih =>
    obtain ⟨⟨shown, hshown⟩, hrest⟩ := List.forall_mem_cons.mp hentries
    obtain ⟨rest, hrest⟩ := ih hrest
    exact ⟨(entry.1, shown) :: rest, by simp [copyEntries, hshown, hrest, pure, Except.pure]⟩

/-- A value that the bridge reads as a canonical one, at some depth. -/
def Canonical (platform : Platform T.recorded) (json : serde_json.Value CanonicalFloat) : Prop :=
  ∃ depth tree, ReadAt platform depth json tree

theorem canonical_of_canonical_json {json : serde_json.Value CanonicalFloat} {tree : CanonicalTree}
    (hread : canonical_json platform json = .ok tree) : Canonical platform json :=
  ⟨0, tree, canonical_json_eq_ok_iff.mp hread⟩

/-- The elements of a canonical array are canonical. -/
theorem Canonical.elements {values : List (serde_json.Value CanonicalFloat)}
    (hcanonical : Canonical platform (.Array values)) : ∀ value ∈ values, Canonical platform value := by
  obtain ⟨depth, tree, value, hvalue, htree⟩ := hcanonical
  rw [from_wire_value_at_depth] at hvalue
  split at hvalue
  · cases hvalue
  · obtain ⟨read, hread, heq⟩ := bind_eq_ok_iff.mp hvalue
    cases heq
    obtain ⟨trees, htrees, _⟩ := Option.bind_eq_some_iff.mp htree
    intro element helement
    obtain ⟨shown, _, hshown⟩ := (readAt_list_iff.mp ⟨read, hread, htrees⟩).exists_of_mem helement
    exact ⟨depth + 1, shown, hshown⟩

/-- The entries of a canonical object that is not a tagged value are canonical. -/
theorem Canonical.entries {entries : List (String × serde_json.Value CanonicalFloat)}
    (hcanonical : Canonical platform (.Object entries)) (hplain : entries.lookup TAG = none) :
    ∀ entry ∈ entries, Canonical platform entry.2 := by
  obtain ⟨depth, tree, value, hvalue, htree⟩ := hcanonical
  rw [from_wire_value_at_depth] at hvalue
  split at hvalue
  · cases hvalue
  · rw [show entries.lookup surrealdb_rn_core.wire.TAG = none from hplain] at hvalue
    obtain ⟨read, hread, heq⟩ := bind_eq_ok_iff.mp hvalue
    cases heq
    obtain ⟨trees, htrees, _⟩ := Option.bind_eq_some_iff.mp htree
    intro entry hentry
    obtain ⟨shown, _, _, hshown⟩ := (readAt_entries_iff.mp ⟨read, hread, htrees⟩).exists_of_mem hentry
    exact ⟨depth + 1, shown.2, hshown⟩

/-- JavaScript decodes every canonical value. -/
theorem exists_decodeValueCopy (hreadable : Readable platform doubles) {json : serde_json.Value CanonicalFloat}
    (hcanonical : Canonical platform json) : ∃ shown, decodeValueCopy doubles json = .ok shown := by
  induction json with
  | Null => exact ⟨_, rfl⟩
  | Bool value => exact ⟨_, rfl⟩
  | Number value => exact ⟨_, rfl⟩
  | String value => exact ⟨_, rfl⟩
  | Array values ih =>
    obtain ⟨shown, hshown⟩ := exists_copyList fun value hvalue => ih value hvalue (hcanonical.elements value hvalue)
    exact ⟨.array shown, by simp [decodeValueCopy, hshown, pure, Except.pure]⟩
  | Object entries ih =>
    cases hplain : entries.lookup TAG with
    | none =>
      obtain ⟨shown, hshown⟩ := exists_copyEntries fun entry hentry =>
        ih entry hentry (hcanonical.entries hplain entry hentry)
      exact ⟨.object shown, by simp [decodeValueCopy, hplain, hshown, pure, Except.pure]⟩
    | some tag =>
      obtain ⟨depth, tree, value, hvalue, htree⟩ := hcanonical
      rw [from_wire_value_at_depth] at hvalue
      split at hvalue
      · cases hvalue
      · rw [show entries.lookup surrealdb_rn_core.wire.TAG = some tag from hplain] at hvalue
        obtain ⟨shown, hshown⟩ := exists_decodeTagged hreadable hvalue htree (copySet doubles entries)
        exact ⟨shown, by simp [decodeValueCopy, hplain, hshown]⟩

end react_native_surrealdb.wire
