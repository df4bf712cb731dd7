import SurrealSync.Protocol.Canonical

namespace surrealdb_sync_protocol.canonical

open Except

/-! ### The scanner -/

def read_cbor_argument (bytes : List UInt8) (additional : Nat) : Result (Nat × List UInt8) :=
  if additional < 24 then .ok (additional, bytes)
  else do
    let width ← match additional with
      | 24 => .ok 1
      | 25 => .ok 2
      | 26 => .ok 4
      | 27 => .ok 8
      | _ => .error .Decode
    refuse (bytes.length < width) .Decode
    return (Cbor.ofBigEndian (bytes.take width), bytes.drop width)

/-- The unread bytes and the items left in the budget. -/
abbrev ScanState := List UInt8 × Nat

/-- `for _ in 0..entries`. -/
def scan_many (scan : ScanState → Result ScanState) : Nat → ScanState → Result ScanState
  | 0, state => .ok state
  | count + 1, state => do
    let state ← scan state
    scan_many scan count state

/-- What follows the head of an item: the `match major` of the scanner, with its
recursive call as a parameter. -/
def scan_payload (scan : ScanState → Result ScanState) (major argument : Nat) :
    ScanState → Result ScanState
  | (bytes, remaining_items) =>
    match major with
    | 0 | 1 | 7 => .ok (bytes, remaining_items)
    | 2 | 3 => do
      refuse (argument > MAX_STRING_BYTES) .StringLimit
      refuse (bytes.length < argument) .Decode
      return (bytes.drop argument, remaining_items)
    | 4 => do
      refuse (argument > MAX_CONTAINER_ITEMS) .ContainerLimit
      scan_many scan argument (bytes, remaining_items)
    | 5 => do
      refuse (argument > MAX_CONTAINER_ITEMS) .ContainerLimit
      scan_many scan (argument * 2) (bytes, remaining_items)
    | 6 => scan (bytes, remaining_items)
    | _ => .error .Decode

/-- The recursion counts the levels that are left: `MAX_DEPTH + 1 - depth`. -/
def scan_cbor_item : Nat → ScanState → Result ScanState
  | 0, _ => .error .DepthLimit
  | levels + 1, (bytes, remaining_items) => do
    refuse (remaining_items < 1) .ContainerLimit
    let initial :: bytes := bytes | throw .Decode
    let (argument, bytes) ← read_cbor_argument bytes (initial.toNat % 32)
    scan_payload (scan_cbor_item levels) (initial.toNat / 32) argument (bytes, remaining_items - 1)

def preflight_canonical_cbor (bytes : List UInt8) : Result Unit := do
  let (rest, _) ← scan_cbor_item (MAX_DEPTH + 1) (bytes, MAX_TOTAL_ITEMS)
  refuse (rest ≠ []) .TrailingBytes

/-! ### What the scanner accepts of an encoded item -/

/-- The limits on strings and containers that the scanner applies to one item. -/
def WithinLimits : Cbor → Prop
  | .Bytes value => value.length ≤ MAX_STRING_BYTES
  | .Text value => value.utf8ByteSize ≤ MAX_STRING_BYTES
  | .Array values => values.length ≤ MAX_CONTAINER_ITEMS
  | .Map entries => entries.length ≤ MAX_CONTAINER_ITEMS
  | .Integer _ | .Float _ | .Bool _ | .Null | .Tag _ _ => True

private theorem read_cbor_argument_bigEndian {additional width n : Nat} (rest : List UInt8)
    (hwidth : (additional = 24 ∧ width = 1) ∨ (additional = 25 ∧ width = 2) ∨ (additional = 26 ∧ width = 4) ∨
      (additional = 27 ∧ width = 8)) :
    read_cbor_argument (Cbor.bigEndian width n ++ rest) additional = .ok (n % 256 ^ width, rest) := by
  have hlength := Cbor.length_bigEndian width n
  have htake : (Cbor.bigEndian width n ++ rest).take width = Cbor.bigEndian width n := by
    rw [List.take_append_of_le_length (by omega), List.take_of_length_le (by omega)]
  have hdrop : (Cbor.bigEndian width n ++ rest).drop width = rest := by
    rw [List.drop_append_of_le_length (by omega), List.drop_of_length_le (by omega), List.nil_append]
  have hfits : ¬ (Cbor.bigEndian width n ++ rest).length < width := by
    rw [List.length_append]
    omega
  have hvalue := Cbor.ofBigEndian_bigEndian width n
  rcases hwidth with ⟨rfl, rfl⟩ | ⟨rfl, rfl⟩ | ⟨rfl, rfl⟩ | ⟨rfl, rfl⟩ <;>
    simp only [read_cbor_argument, refuse, hfits, htake, hdrop, hvalue, if_false, ok_bind] <;> rfl

theorem read_cbor_argument_argument {n : Nat} (hn : n < 2 ^ 64) (rest : List UInt8) :
    read_cbor_argument (Cbor.argument n ++ rest) (Cbor.additional n) = .ok (n, rest) := by
  unfold Cbor.additional Cbor.argument
  split_ifs with h1 h2 h3 h4
  · simp [read_cbor_argument, h1]
  · rw [read_cbor_argument_bigEndian rest (by simp), Nat.mod_eq_of_lt (show n < 256 ^ 1 from h2)]
  · rw [read_cbor_argument_bigEndian rest (by simp), Nat.mod_eq_of_lt (show n < 256 ^ 2 from h3)]
  · rw [read_cbor_argument_bigEndian rest (by simp), Nat.mod_eq_of_lt (show n < 256 ^ 4 from h4)]
  · rw [read_cbor_argument_bigEndian rest (by simp), Nat.mod_eq_of_lt (show n < 256 ^ 8 from hn)]

private theorem scan_head_iff {levels major n remaining : Nat} (hmajor : major < 8) (hn : n < 2 ^ 64)
    {bytes : List UInt8} {next : ScanState} :
    scan_cbor_item (levels + 1) (Cbor.head major n ++ bytes, remaining) = .ok next ↔
      1 ≤ remaining ∧ scan_payload (scan_cbor_item levels) major n (bytes, remaining - 1) = .ok next := by
  have hinfo := Cbor.additional_lt n
  have hinitial := Cbor.toNat_initial hmajor (Nat.lt_trans hinfo (by decide : 28 < 32))
  have hlow : (32 * major + Cbor.additional n) % 32 = Cbor.additional n := by omega
  have hhigh : (32 * major + Cbor.additional n) / 32 = major := by omega
  rw [Cbor.head, List.cons_append, scan_cbor_item]
  simp only [hinitial, hlow, hhigh, read_cbor_argument_argument hn, ok_bind, bind_eq_ok_iff, refuse_eq_ok_iff,
    exists_const, Nat.not_lt]

/-- What a scan of an item within `levels` levels takes and leaves. -/
def ScanAccepts (levels : Nat) (value : Cbor) (rest : List UInt8) (remaining : Nat) (next : ScanState) : Prop :=
  value.Every WithinLimits ∧ value.depth < levels ∧ value.items ≤ remaining ∧ next = (rest, remaining - value.items)

private theorem scan_many_encodeList {levels : Nat} {values : List Cbor}
    (hscan : ∀ value ∈ values, ∀ rest remaining next,
      scan_cbor_item levels (value.encode ++ rest, remaining) = .ok next ↔
        ScanAccepts levels value rest remaining next)
    {rest : List UInt8} {remaining : Nat} {next : ScanState} :
    scan_many (scan_cbor_item levels) values.length (Cbor.encodeList values ++ rest, remaining) = .ok next ↔
      (∀ value ∈ values, value.Every WithinLimits ∧ value.depth < levels) ∧
        (values.map Cbor.items).sum ≤ remaining ∧ next = (rest, remaining - (values.map Cbor.items).sum) := by
  induction values generalizing remaining with
  | nil => simp [scan_many, Cbor.encodeList, eq_comm]
  | cons value values ih =>
    obtain ⟨hvalue, hvalues⟩ := List.forall_mem_cons.mp hscan
    rw [List.length_cons, scan_many, Cbor.encodeList, List.append_assoc, bind_eq_ok_iff, List.forall_mem_cons,
      List.map_cons, List.sum_cons]
    simp only [hvalue, ScanAccepts]
    constructor
    · rintro ⟨_, ⟨hlimits, hdepth, hitems, rfl⟩, hrest⟩
      obtain ⟨hall, hsum, rfl⟩ := (ih hvalues).mp hrest
      exact ⟨⟨⟨hlimits, hdepth⟩, hall⟩, by omega, by rw [Nat.sub_sub]⟩
    · rintro ⟨⟨⟨hlimits, hdepth⟩, hall⟩, hsum, rfl⟩
      refine ⟨_, ⟨hlimits, hdepth, by omega, rfl⟩, ?_⟩
      rw [ih hvalues]
      exact ⟨hall, by omega, by rw [Nat.sub_sub]⟩

private theorem scan_many_encodeEntries {levels : Nat} {entries : List (Cbor × Cbor)}
    (hscan : ∀ entry ∈ entries,
      (∀ rest remaining next, scan_cbor_item levels (entry.1.encode ++ rest, remaining) = .ok next ↔
        ScanAccepts levels entry.1 rest remaining next) ∧
      (∀ rest remaining next, scan_cbor_item levels (entry.2.encode ++ rest, remaining) = .ok next ↔
        ScanAccepts levels entry.2 rest remaining next))
    {rest : List UInt8} {remaining : Nat} {next : ScanState} :
    scan_many (scan_cbor_item levels) (entries.length * 2) (Cbor.encodeEntries entries ++ rest, remaining) =
      .ok next ↔
      (∀ entry ∈ entries, (entry.1.Every WithinLimits ∧ entry.2.Every WithinLimits) ∧
        entry.1.depth < levels ∧ entry.2.depth < levels) ∧
        (entries.map fun entry => entry.1.items + entry.2.items).sum ≤ remaining ∧
        next = (rest, remaining - (entries.map fun entry => entry.1.items + entry.2.items).sum) := by
  have hflat : Cbor.encodeEntries entries = Cbor.encodeList (entries.flatMap fun entry => [entry.1, entry.2]) := by
    clear hscan
    induction entries with
    | nil => rfl
    | cons entry entries ih => simp [Cbor.encodeEntries, Cbor.encodeList, ih]
  have hlength : entries.length * 2 = (entries.flatMap fun entry => [entry.1, entry.2]).length := by
    simp
  have hsum : ((entries.flatMap fun entry => [entry.1, entry.2]).map Cbor.items).sum =
      (entries.map fun entry => entry.1.items + entry.2.items).sum := by
    clear hscan hflat hlength
    induction entries with
    | nil => rfl
    | cons entry entries ih => simp only [List.flatMap_cons, List.map_append, List.sum_append, ih]; simp
  rw [hflat, hlength, scan_many_encodeList, hsum]
  · simp only [List.mem_flatMap, List.mem_cons, List.not_mem_nil, or_false]
    grind
  · intro value hvalue
    obtain ⟨entry, hentry, hvalue⟩ := List.mem_flatMap.mp hvalue
    simp only [List.mem_cons, List.not_mem_nil, or_false] at hvalue
    rcases hvalue with rfl | rfl
    · exact (hscan entry hentry).1
    · exact (hscan entry hentry).2

private theorem scan_float_iff {levels remaining : Nat} {bits : UInt64} {rest : List UInt8} {next : ScanState} :
    scan_cbor_item (levels + 1) (Cbor.encodeFloat bits ++ rest, remaining) = .ok next ↔
      1 ≤ remaining ∧ (rest, remaining - 1) = next := by
  have hread {additional width : Nat} (n : Nat) := @read_cbor_argument_bigEndian additional width n rest
  have hscan (argument : Nat) : scan_payload (scan_cbor_item levels) 7 argument (rest, remaining - 1) =
    .ok (rest, remaining - 1) := rfl
  dsimp only [Cbor.encodeFloat]
  split_ifs
  · rw [List.cons_append, scan_cbor_item]
    simp only [UInt8.reduceToNat, Nat.reduceMod, Nat.reduceDiv, hread _ (.inr (.inl ⟨rfl, rfl⟩)), ok_bind,
      hscan, bind_eq_ok_iff, refuse_eq_ok_iff, exists_const, Nat.not_lt, ok.injEq]
  · rw [List.cons_append, scan_cbor_item]
    simp only [UInt8.reduceToNat, Nat.reduceMod, Nat.reduceDiv, hread _ (.inr (.inr (.inl ⟨rfl, rfl⟩))), ok_bind,
      hscan, bind_eq_ok_iff, refuse_eq_ok_iff, exists_const, Nat.not_lt, ok.injEq]
  · rw [List.cons_append, scan_cbor_item]
    simp only [UInt8.reduceToNat, Nat.reduceMod, Nat.reduceDiv, hread _ (.inr (.inr (.inr ⟨rfl, rfl⟩))), ok_bind,
      hscan, bind_eq_ok_iff, refuse_eq_ok_iff, exists_const, Nat.not_lt, ok.injEq]

private theorem scan_string_iff {scan : ScanState → Result ScanState} {major : Nat} (hmajor : major = 2 ∨ major = 3)
    {payload rest : List UInt8} {remaining : Nat} {next : ScanState} :
    scan_payload scan major payload.length (payload ++ rest, remaining) = .ok next ↔
      payload.length ≤ MAX_STRING_BYTES ∧ (rest, remaining) = next := by
  have hfits : ¬ (payload ++ rest).length < payload.length := by
    rw [List.length_append]
    omega
  rcases hmajor with rfl | rfl <;>
    simp only [scan_payload, bind_eq_ok_iff, refuse_eq_ok_iff, hfits, not_false_eq_true, true_and,
      List.drop_left, pure, Except.pure, ok.injEq, exists_const, Nat.not_lt, gt_iff_lt]

/-- The scanner accepts the encoding of an item exactly when the item keeps to its
limits, and leaves what follows. -/
theorem scan_encode_iff {value : Cbor} (hfits : value.Every Cbor.FitsHead) {levels : Nat} {rest : List UInt8}
    {remaining : Nat} {next : ScanState} :
    scan_cbor_item levels (value.encode ++ rest, remaining) = .ok next ↔
      ScanAccepts levels value rest remaining next := by
  induction value generalizing levels rest remaining next with
  | Integer value =>
    cases levels with
    | zero => simp [scan_cbor_item, ScanAccepts]
    | succ levels =>
      have hbounds := value.bounds
      rw [Cbor.encode]
      split_ifs
      · rw [scan_head_iff (by decide) (by omega)]
        simp [ScanAccepts, scan_payload, Cbor.Every, WithinLimits, Cbor.depth, Cbor.items, eq_comm]
      · rw [scan_head_iff (by decide) (by omega)]
        simp [ScanAccepts, scan_payload, Cbor.Every, WithinLimits, Cbor.depth, Cbor.items, eq_comm]
  | Bytes value =>
    cases levels with
    | zero => simp [scan_cbor_item, ScanAccepts]
    | succ levels =>
      rw [Cbor.encode, List.append_assoc, scan_head_iff (by decide) hfits, scan_string_iff (.inl rfl)]
      simp [ScanAccepts, Cbor.Every, WithinLimits, Cbor.depth, Cbor.items]
      grind
  | Float bits =>
    cases levels with
    | zero => simp [scan_cbor_item, ScanAccepts]
    | succ levels =>
      rw [Cbor.encode, scan_float_iff]
      simp [ScanAccepts, Cbor.Every, WithinLimits, Cbor.depth, Cbor.items, eq_comm]
  | Text value =>
    cases levels with
    | zero => simp [scan_cbor_item, ScanAccepts]
    | succ levels =>
      rw [Cbor.encode, List.append_assoc, scan_head_iff (by decide) hfits, ← String.length_as_bytes,
        scan_string_iff (.inr rfl)]
      simp [ScanAccepts, Cbor.Every, WithinLimits, Cbor.depth, Cbor.items]
      grind
  | Bool value =>
    cases levels with
    | zero => simp [scan_cbor_item, ScanAccepts]
    | succ levels =>
      have hencode : (Cbor.Bool value).encode = Cbor.head 7 (if value then 21 else 20) := by
        cases value <;> rfl
      rw [hencode, scan_head_iff (by decide) (by split <;> decide)]
      simp [ScanAccepts, scan_payload, Cbor.Every, WithinLimits, Cbor.depth, Cbor.items, eq_comm]
  | Null =>
    cases levels with
    | zero => simp [scan_cbor_item, ScanAccepts]
    | succ levels =>
      have hencode : Cbor.Null.encode = Cbor.head 7 22 := rfl
      rw [hencode, scan_head_iff (by decide) (by decide)]
      simp [ScanAccepts, scan_payload, Cbor.Every, WithinLimits, Cbor.depth, Cbor.items, eq_comm]
  | Tag tag value ih =>
    cases levels with
    | zero => simp [scan_cbor_item, ScanAccepts]
    | succ levels =>
      rw [Cbor.encode, List.append_assoc, scan_head_iff (by decide) tag.toNat_lt]
      simp only [scan_payload, ih hfits.2, ScanAccepts, Cbor.Every, WithinLimits, Cbor.depth, Cbor.items,
        Nat.sub_sub]
      grind
  | Array values ih =>
    cases levels with
    | zero => simp [scan_cbor_item, ScanAccepts]
    | succ levels =>
      obtain ⟨hlength, hfits⟩ := Cbor.Every_Array_iff.mp hfits
      have hmany (remaining : Nat) := @scan_many_encodeList levels values
        (fun value hvalue _ _ _ => ih value hvalue (hfits value hvalue)) rest remaining next
      rw [Cbor.encode, List.append_assoc, scan_head_iff (by decide) hlength]
      simp only [scan_payload, bind_eq_ok_iff, refuse_eq_ok_iff, hmany, ScanAccepts, Cbor.Every_Array_iff,
        WithinLimits, Cbor.depth_Array_lt_iff, Cbor.items_Array, Nat.sub_sub]
      grind
  | Map entries ih =>
    cases levels with
    | zero => simp [scan_cbor_item, ScanAccepts]
    | succ levels =>
      obtain ⟨hlength, hfits⟩ := Cbor.Every_Map_iff.mp hfits
      have hmany (remaining : Nat) := @scan_many_encodeEntries levels entries
        (fun entry hentry => ⟨fun _ _ _ => (ih entry hentry).1 (hfits entry hentry).1,
          fun _ _ _ => (ih entry hentry).2 (hfits entry hentry).2⟩) rest remaining next
      rw [Cbor.encode, List.append_assoc, scan_head_iff (by decide) hlength]
      simp only [scan_payload, bind_eq_ok_iff, refuse_eq_ok_iff, hmany, ScanAccepts, Cbor.Every_Map_iff,
        WithinLimits, Cbor.depth_Map_lt_iff, Cbor.items_Map, Nat.sub_sub]
      grind

/-- What the preflight of an encoded item has checked. -/
theorem preflight_encode_iff {value : Cbor} (hfits : value.Every Cbor.FitsHead) :
    preflight_canonical_cbor value.encode = .ok () ↔
      value.Every WithinLimits ∧ value.depth ≤ MAX_DEPTH ∧ value.items ≤ MAX_TOTAL_ITEMS := by
  have hscan (next : ScanState) := @scan_encode_iff value hfits (MAX_DEPTH + 1) [] MAX_TOTAL_ITEMS next
  simp only [List.append_nil] at hscan
  simp only [preflight_canonical_cbor, bind_eq_ok_iff, hscan, ScanAccepts, Prod.exists, refuse_eq_ok_iff,
    Nat.lt_succ_iff]
  constructor
  · rintro ⟨_, _, ⟨hlimits, hdepth, hitems, -⟩, -⟩
    exact ⟨hlimits, hdepth, hitems⟩
  · rintro ⟨hlimits, hdepth, hitems⟩
    exact ⟨[], _, ⟨hlimits, hdepth, hitems, rfl⟩, by simp⟩

/-! ### Writing and reading one item -/

variable (ciborium : Ciborium)

/-- The bounded writer refuses exactly the items whose encoding is longer than its limit. -/
def encode_cbor_value (value : Cbor) : Result (List UInt8) := do
  let bytes := ciborium.into_writer value
  refuse (bytes.length > MAX_ENCODED_BYTES) .EncodedLimit
  return bytes

/-- The common start of the decoders: one preflighted item of at most `limit`
bytes, and nothing behind it. -/
def read_cbor_value (limit : Nat) (bytes : List UInt8) : Result Cbor := do
  refuse (bytes.length > limit) .EncodedLimit
  preflight_canonical_cbor bytes
  let (decoded, position) ← okOr (ciborium.from_reader bytes) .Decode
  refuse (position ≠ bytes.length) .TrailingBytes
  return decoded

variable {ciborium}

theorem encode_cbor_value_eq_ok_iff {value : Cbor} {bytes : List UInt8} :
    encode_cbor_value ciborium value = .ok bytes ↔
      bytes = value.encode ∧ bytes.length ≤ MAX_ENCODED_BYTES := by
  simp only [encode_cbor_value, ciborium.writes, bind_eq_ok_iff, refuse_eq_ok_iff, pure, Except.pure, ok.injEq,
    exists_const, gt_iff_lt, Nat.not_lt]
  grind

theorem fits_of_encode_cbor_value {value : Cbor} {bytes : List UInt8}
    (hencode : encode_cbor_value ciborium value = .ok bytes) : value.Every Cbor.FitsHead := by
  obtain ⟨rfl, hlength⟩ := encode_cbor_value_eq_ok_iff.mp hencode
  exact Cbor.fits_of_length_encode (Nat.lt_of_le_of_lt hlength (by decide))

/-- Different items are written differently. -/
theorem encode_cbor_value_inj {value other : Cbor} {bytes : List UInt8}
    (hvalue : encode_cbor_value ciborium value = .ok bytes)
    (hother : encode_cbor_value ciborium other = .ok bytes) : value = other := by
  apply Cbor.encode_injective (fits_of_encode_cbor_value hvalue) (fits_of_encode_cbor_value hother)
  rw [← (encode_cbor_value_eq_ok_iff.mp hvalue).1, ← (encode_cbor_value_eq_ok_iff.mp hother).1]

/-- A written item within the limit is read back exactly when it passes the preflight. -/
theorem read_cbor_value_iff {limit : Nat} {value decoded : Cbor} {bytes : List UInt8}
    (hregular : value.Every Cbor.Regular) (hencode : encode_cbor_value ciborium value = .ok bytes)
    (hlimit : bytes.length ≤ limit) :
    read_cbor_value ciborium limit bytes = .ok decoded ↔
      (value.Every WithinLimits ∧ value.depth ≤ MAX_DEPTH ∧ value.items ≤ MAX_TOTAL_ITEMS) ∧ value = decoded := by
  have hfits := fits_of_encode_cbor_value hencode
  obtain ⟨rfl, -⟩ := encode_cbor_value_eq_ok_iff.mp hencode
  have hpreflight := preflight_encode_iff hfits
  rw [← hpreflight]
  simp only [read_cbor_value, bind_eq_ok_iff, refuse_eq_ok_iff, gt_iff_lt, Nat.not_lt, hlimit, true_and,
    Unique.exists_iff, PUnit.default_eq_unit]
  apply and_congr_right
  intro hpassed
  have hdepth := (hpreflight.mp hpassed).2.1
  have hreads := ciborium.reads value hfits hregular (Nat.lt_of_le_of_lt hdepth (by decide))
  rw [ciborium.writes] at hreads
  simp [hreads, okOr, pure, Except.pure]

end surrealdb_sync_protocol.canonical
