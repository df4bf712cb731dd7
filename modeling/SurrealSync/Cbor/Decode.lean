import SurrealSync.Cbor.Encode

namespace Cbor

/-! ### Reading one item back -/

def splitBytes (count : Nat) (bytes : List UInt8) : Option (List UInt8 × List UInt8) :=
  if count ≤ bytes.length then some (bytes.take count, bytes.drop count) else none

@[simp]
theorem splitBytes_append (front rest : List UInt8) :
    splitBytes front.length (front ++ rest) = some (front, rest) := by
  simp [splitBytes]

/-- The argument announced by the additional information `info`. -/
def readArgument (info : Nat) (bytes : List UInt8) : Option (Nat × List UInt8) :=
  if info < 24 then some (info, bytes)
  else do
    let width ← match info with
      | 24 => some 1
      | 25 => some 2
      | 26 => some 4
      | 27 => some 8
      | _ => none
    let (payload, rest) ← splitBytes width bytes
    some (ofBigEndian payload, rest)

private theorem readArgument_bigEndian {info width n : Nat} (rest : List UInt8)
    (hinfo : (info = 24 ∧ width = 1) ∨ (info = 25 ∧ width = 2) ∨ (info = 26 ∧ width = 4) ∨
      (info = 27 ∧ width = 8))
    (hn : n < 256 ^ width) : readArgument info (bigEndian width n ++ rest) = some (n, rest) := by
  have hsplit := splitBytes_append (bigEndian width n) rest
  rw [length_bigEndian] at hsplit
  have hvalue := ofBigEndian_bigEndian width n
  rw [Nat.mod_eq_of_lt hn] at hvalue
  rcases hinfo with ⟨rfl, rfl⟩ | ⟨rfl, rfl⟩ | ⟨rfl, rfl⟩ | ⟨rfl, rfl⟩ <;>
    simp [readArgument, hsplit, hvalue]

theorem readArgument_argument {n : Nat} (hn : n < 2 ^ 64) (rest : List UInt8) :
    readArgument (additional n) (argument n ++ rest) = some (n, rest) := by
  unfold additional argument
  split_ifs with h1 h2 h3 h4
  · simp [readArgument, h1]
  · exact readArgument_bigEndian rest (by simp) h2
  · exact readArgument_bigEndian rest (by simp) h3
  · exact readArgument_bigEndian rest (by simp) h4
  · exact readArgument_bigEndian rest (by simp) hn

/-- `count` readings in a row. -/
def readMany {α : Type} (read : List UInt8 → Option (α × List UInt8)) :
    Nat → List UInt8 → Option (List α × List UInt8)
  | 0, bytes => some ([], bytes)
  | count + 1, bytes => do
    let (first, bytes) ← read bytes
    let (others, bytes) ← readMany read count bytes
    some (first :: others, bytes)

def readPair (read : List UInt8 → Option (Cbor × List UInt8)) (bytes : List UInt8) :
    Option ((Cbor × Cbor) × List UInt8) := do
  let (key, bytes) ← read bytes
  let (value, bytes) ← read bytes
  some ((key, value), bytes)

def readInteger (value : Int) : Option Cbor :=
  if h : -18446744073709551616 ≤ value ∧ value < 18446744073709551616 then some (.Integer ⟨value, h⟩) else none

def readText (bytes : List UInt8) : Option Cbor :=
  (String.fromUTF8? ⟨⟨bytes⟩⟩).map .Text

def readSimple (info argument : Nat) : Option Cbor :=
  match info with
  | 20 => some (.Bool false)
  | 21 => some (.Bool true)
  | 22 => some .Null
  | 25 => some (.Float (UInt64.ofNat (widen 5 10 argument)))
  | 26 => some (.Float (UInt64.ofNat (widen 8 23 argument)))
  | 27 => some (.Float (UInt64.ofNat argument))
  | _ => none

/-- One item of at most `levels` levels at the front of `bytes`, and what follows it. -/
def decode : Nat → List UInt8 → Option (Cbor × List UInt8)
  | 0, _ => none
  | _, [] => none
  | levels + 1, initial :: bytes => do
    let info := initial.toNat % 32
    let (argument, bytes) ← readArgument info bytes
    match initial.toNat / 32 with
    | 0 => (readInteger argument).map (·, bytes)
    | 1 => (readInteger (-1 - argument)).map (·, bytes)
    | 2 => (splitBytes argument bytes).map fun (value, bytes) => (.Bytes value, bytes)
    | 3 => do
      let (value, bytes) ← splitBytes argument bytes
      (readText value).map (·, bytes)
    | 4 => (readMany (decode levels) argument bytes).map fun (values, bytes) => (.Array values, bytes)
    | 5 => (readMany (readPair (decode levels)) argument bytes).map fun (entries, bytes) => (.Map entries, bytes)
    | 6 => (decode levels bytes).map fun (value, bytes) => (.Tag (UInt64.ofNat argument) value, bytes)
    | _ => (readSimple info argument).map (·, bytes)

/-! ### The reader inverts the encoding -/

theorem length_encode_pos (value : Cbor) : 0 < value.encode.length := by
  cases value with
  | Integer value =>
    rw [encode]
    split_ifs <;> simp [head]
  | Float bits =>
    dsimp only [encode, encodeFloat]
    split_ifs <;> simp
  | Bool value => simp [encode]
  | Null => simp [encode]
  | Bytes value => simp [encode, head]
  | Text value => simp [encode, head]
  | Tag tag value => simp [encode, head]
  | Array values => simp [encode, head]
  | Map entries => simp [encode, head]

/-- Every length of the item can be announced by a head. -/
def FitsHead : Cbor → Prop
  | .Bytes value => value.length < 2 ^ 64
  | .Text value => value.utf8ByteSize < 2 ^ 64
  | .Array values => values.length < 2 ^ 64
  | .Map entries => entries.length < 2 ^ 64
  | .Integer _ | .Float _ | .Bool _ | .Null | .Tag _ _ => True

theorem decode_head {levels major n : Nat} (hmajor : major < 8) (hn : n < 2 ^ 64) (bytes : List UInt8) :
    decode (levels + 1) (head major n ++ bytes) =
      match major with
      | 0 => (readInteger n).map (·, bytes)
      | 1 => (readInteger (-1 - n)).map (·, bytes)
      | 2 => (splitBytes n bytes).map fun (value, bytes) => (.Bytes value, bytes)
      | 3 => do
        let (value, bytes) ← splitBytes n bytes
        (readText value).map (·, bytes)
      | 4 => (readMany (decode levels) n bytes).map fun (values, bytes) => (.Array values, bytes)
      | 5 => (readMany (readPair (decode levels)) n bytes).map fun (entries, bytes) => (.Map entries, bytes)
      | 6 => (decode levels bytes).map fun (value, bytes) => (.Tag (UInt64.ofNat n) value, bytes)
      | _ => (readSimple (additional n) n).map (·, bytes) := by
  have hinfo := additional_lt n
  have hinitial := toNat_initial hmajor (Nat.lt_trans hinfo (by decide : 28 < 32))
  have hlow : (32 * major + additional n) % 32 = additional n := by omega
  have hhigh : (32 * major + additional n) / 32 = major := by omega
  rw [head, List.cons_append, decode]
  simp only [hinitial, hlow, hhigh, readArgument_argument hn, Option.bind_eq_bind, Option.bind_some]

theorem readMany_encodeList {levels : Nat} {values : List Cbor} {rest : List UInt8}
    (hread : ∀ value ∈ values, ∀ rest, decode levels (value.encode ++ rest) = some (value, rest)) :
    readMany (decode levels) values.length (encodeList values ++ rest) = some (values, rest) := by
  induction values with
  | nil => simp [readMany, encodeList]
  | cons value values ih =>
    obtain ⟨hvalue, hvalues⟩ := List.forall_mem_cons.mp hread
    simp [readMany, encodeList, hvalue, ih hvalues]

theorem readMany_encodeEntries {levels : Nat} {entries : List (Cbor × Cbor)} {rest : List UInt8}
    (hread : ∀ entry ∈ entries, ∀ rest, decode levels (entry.1.encode ++ rest) = some (entry.1, rest) ∧
      decode levels (entry.2.encode ++ rest) = some (entry.2, rest)) :
    readMany (readPair (decode levels)) entries.length (encodeEntries entries ++ rest) =
      some (entries, rest) := by
  induction entries with
  | nil => simp [readMany, encodeEntries]
  | cons entry entries ih =>
    obtain ⟨hentry, hentries⟩ := List.forall_mem_cons.mp hread
    simp [readMany, encodeEntries, readPair, (hentry _).1, (hentry _).2, ih hentries]

private theorem decode_float (levels : Nat) (bits : UInt64) (rest : List UInt8) :
    decode (levels + 1) (encodeFloat bits ++ rest) = some (.Float bits, rest) := by
  have hsplit (width n : Nat) := splitBytes_append (bigEndian width n) rest
  simp only [length_bigEndian] at hsplit
  dsimp only [encodeFloat]
  split_ifs with hhalf hsingle
  · simp only [List.cons_append, decode]
    simp [readArgument, hsplit, readSimple]
    exact (congrArg UInt64.ofNat hhalf).trans UInt64.ofNat_toNat
  · simp only [List.cons_append, decode]
    simp [readArgument, hsplit, readSimple]
    exact (congrArg UInt64.ofNat hsingle).trans UInt64.ofNat_toNat
  · simp only [List.cons_append, decode]
    simp [readArgument, hsplit, readSimple]

private theorem readText_as_bytes (value : String) : readText value.as_bytes = some (.Text value) := by
  have hbytes : (⟨⟨value.as_bytes⟩⟩ : ByteArray) = value.toByteArray := rfl
  simp [readText, hbytes, String.fromUTF8?, value.isValidUTF8]
  rfl

/-- An item followed by anything is read back with what follows it. -/
theorem decode_encode {value : Cbor} (hfits : value.Every FitsHead) {levels : Nat}
    (hdepth : value.depth < levels) (rest : List UInt8) :
    decode levels (value.encode ++ rest) = some (value, rest) := by
  obtain ⟨levels, rfl⟩ := Nat.exists_eq_add_one_of_ne_zero (Nat.ne_zero_of_lt hdepth)
  induction value generalizing levels rest with
  | Integer value =>
    have hbounds := value.bounds
    rw [encode]
    split_ifs with hsign
    · have hnat : ((value.val.toNat : Nat) : Int) = value.val := Int.toNat_of_nonneg hsign
      rw [decode_head (by decide) (by omega)]
      simp [readInteger, hnat, hbounds]
    · have hnat : (((-1 - value.val).toNat : Nat) : Int) = -1 - value.val := Int.toNat_of_nonneg (by omega)
      have hback : -1 - (-1 - value.val) = value.val := by omega
      rw [decode_head (by decide) (by omega)]
      simp [readInteger, hnat, hback, hbounds]
  | Bytes value =>
    rw [encode, List.append_assoc, decode_head (by decide) hfits]
    simp
  | Float bits => exact decode_float levels bits rest
  | Text value =>
    have hsplit := splitBytes_append value.as_bytes rest
    rw [String.length_as_bytes] at hsplit
    rw [encode, List.append_assoc, decode_head (by decide) hfits]
    simp [hsplit, readText_as_bytes]
  | Bool value => cases value <;> rfl
  | Null => rfl
  | Tag tag value ih =>
    have hdepth : value.depth < levels := by simpa [depth] using hdepth
    obtain ⟨levels, rfl⟩ := Nat.exists_eq_add_one_of_ne_zero (Nat.ne_zero_of_lt hdepth)
    rw [encode, List.append_assoc, decode_head (by decide) tag.toNat_lt]
    simp [ih hfits.2 rest levels hdepth]
  | Array values ih =>
    obtain ⟨hlength, hfits⟩ := Every_Array_iff.mp hfits
    have hdepth := depth_Array_lt_iff.mp hdepth
    rw [encode, List.append_assoc, decode_head (by decide) hlength]
    have hmany : readMany (decode levels) values.length (encodeList values ++ rest) = some (values, rest) := by
      apply readMany_encodeList
      intro value hvalue rest
      obtain ⟨levels, rfl⟩ := Nat.exists_eq_add_one_of_ne_zero (Nat.ne_zero_of_lt (hdepth value hvalue))
      exact ih value hvalue (hfits value hvalue) rest levels (hdepth value hvalue)
    simp [hmany]
  | Map entries ih =>
    obtain ⟨hlength, hfits⟩ := Every_Map_iff.mp hfits
    have hdepth := depth_Map_lt_iff.mp hdepth
    rw [encode, List.append_assoc, decode_head (by decide) hlength]
    have hmany : readMany (readPair (decode levels)) entries.length (encodeEntries entries ++ rest) =
        some (entries, rest) := by
      apply readMany_encodeEntries
      intro entry hentry rest
      obtain ⟨hkey, hvalue⟩ := hdepth entry hentry
      obtain ⟨levels, rfl⟩ := Nat.exists_eq_add_one_of_ne_zero (Nat.ne_zero_of_lt hkey)
      exact ⟨(ih entry hentry).1 (hfits entry hentry).1 rest levels hkey,
        (ih entry hentry).2 (hfits entry hentry).2 rest levels hvalue⟩
    simp [hmany]

/-- Two items of the same encoding are the same item. -/
theorem encode_injective {a b : Cbor} (ha : a.Every FitsHead) (hb : b.Every FitsHead)
    (h : a.encode = b.encode) : a = b := by
  have hdepth_a : a.depth < max a.depth b.depth + 1 := by omega
  have hdepth_b : b.depth < max a.depth b.depth + 1 := by omega
  have hread_a := decode_encode ha hdepth_a []
  have hread_b := decode_encode hb hdepth_b []
  rw [h, hread_b] at hread_a
  simpa using hread_a.symm

theorem length_le_encodeList (values : List Cbor) : values.length ≤ (encodeList values).length := by
  induction values with
  | nil => simp
  | cons value values ih =>
    have hpos := length_encode_pos value
    rw [encodeList, List.length_append, List.length_cons]
    omega

theorem length_encode_le_encodeList {values : List Cbor} {value : Cbor} (hmem : value ∈ values) :
    value.encode.length ≤ (encodeList values).length := by
  induction values with
  | nil => simp at hmem
  | cons other values ih =>
    rw [encodeList, List.length_append]
    rcases List.mem_cons.mp hmem with rfl | hmem
    · omega
    · have htail := ih hmem
      omega

theorem length_le_encodeEntries (entries : List (Cbor × Cbor)) :
    entries.length ≤ (encodeEntries entries).length := by
  induction entries with
  | nil => simp
  | cons entry entries ih =>
    have hpos := length_encode_pos entry.1
    rw [encodeEntries, List.length_append, List.length_append, List.length_cons]
    omega

theorem length_encode_le_encodeEntries {entries : List (Cbor × Cbor)} {entry : Cbor × Cbor}
    (hmem : entry ∈ entries) :
    entry.1.encode.length + entry.2.encode.length ≤ (encodeEntries entries).length := by
  induction entries with
  | nil => simp at hmem
  | cons other entries ih =>
    rw [encodeEntries, List.length_append, List.length_append]
    rcases List.mem_cons.mp hmem with rfl | hmem
    · omega
    · have htail := ih hmem
      omega

/-- An item whose encoding has a length that a head can announce has only such lengths. -/
theorem fits_of_length_encode {value : Cbor} (hlength : value.encode.length < 2 ^ 64) :
    value.Every FitsHead := by
  induction value with
  | Integer value => trivial
  | Float bits => trivial
  | Bool value => trivial
  | Null => trivial
  | Bytes value =>
    rw [encode, List.length_append] at hlength
    exact Nat.lt_of_le_of_lt (Nat.le_add_left _ _) hlength
  | Text value =>
    rw [encode, List.length_append, String.length_as_bytes] at hlength
    exact Nat.lt_of_le_of_lt (Nat.le_add_left _ _) hlength
  | Tag tag value ih =>
    rw [encode, List.length_append] at hlength
    exact ⟨trivial, ih (Nat.lt_of_le_of_lt (Nat.le_add_left _ _) hlength)⟩
  | Array values ih =>
    rw [encode, List.length_append] at hlength
    have hlist := Nat.lt_of_le_of_lt (Nat.le_add_left _ _) hlength
    rw [Every_Array_iff]
    refine ⟨Nat.lt_of_le_of_lt (length_le_encodeList values) hlist, ?_⟩
    intro value hvalue
    exact ih value hvalue (Nat.lt_of_le_of_lt (length_encode_le_encodeList hvalue) hlist)
  | Map entries ih =>
    rw [encode, List.length_append] at hlength
    have hlist := Nat.lt_of_le_of_lt (Nat.le_add_left _ _) hlength
    rw [Every_Map_iff]
    refine ⟨Nat.lt_of_le_of_lt (length_le_encodeEntries entries) hlist, ?_⟩
    intro entry hentry
    have hboth := length_encode_le_encodeEntries hentry
    exact ⟨(ih entry hentry).1 (by omega), (ih entry hentry).2 (by omega)⟩

end Cbor
