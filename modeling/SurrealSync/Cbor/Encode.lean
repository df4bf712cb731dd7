import SurrealSync.Cbor.Value
import Mathlib.Tactic.Ring

namespace String

/-- The UTF-8 bytes of a text. -/
def as_bytes (s : String) : List UInt8 := s.toByteArray.data.toList

@[simp]
theorem length_as_bytes (s : String) : s.as_bytes.length = s.utf8ByteSize := rfl

theorem as_bytes_injective : Function.Injective String.as_bytes := by
  intro s t h
  apply String.toByteArray_inj.mp
  apply ByteArray.ext
  exact Array.toList_inj.mp h

end String

namespace Cbor

/-! ### Arguments -/

/-- The low `width` bytes of `n`, most significant first. -/
def bigEndian : Nat → Nat → List UInt8
  | 0, _ => []
  | width + 1, n => UInt8.ofNat (n / 256 ^ width) :: bigEndian width n

/-- The number whose bytes these are, most significant first. -/
def ofBigEndian (bytes : List UInt8) : Nat :=
  bytes.foldl (fun value byte => value * 256 + byte.toNat) 0

@[simp]
theorem length_bigEndian (width n : Nat) : (bigEndian width n).length = width := by
  induction width with
  | zero => rfl
  | succ width ih => simp [bigEndian, ih]

private theorem foldl_bigEndian (width n acc : Nat) :
    (bigEndian width n).foldl (fun value byte => value * 256 + byte.toNat) acc =
      acc * 256 ^ width + n % 256 ^ width := by
  induction width generalizing acc with
  | zero => simp [bigEndian, Nat.mod_one]
  | succ width ih =>
    have hsplit : n % 256 ^ (width + 1) = n % 256 ^ width + 256 ^ width * (n / 256 ^ width % 256) := by
      rw [Nat.pow_succ, Nat.mod_mul]
    rw [bigEndian, List.foldl_cons, ih, UInt8.toNat_ofNat', hsplit, Nat.pow_succ]
    ring

@[simp]
theorem ofBigEndian_bigEndian (width n : Nat) : ofBigEndian (bigEndian width n) = n % 256 ^ width := by
  simp [ofBigEndian, foldl_bigEndian]

/-- The additional information of the shortest head that carries `n`. -/
def additional (n : Nat) : Nat :=
  if n < 24 then n else if n < 0x100 then 24 else if n < 0x10000 then 25 else if n < 0x100000000 then 26 else 27

/-- The bytes that follow the initial byte of the shortest head that carries `n`. -/
def argument (n : Nat) : List UInt8 :=
  if n < 24 then []
  else if n < 0x100 then bigEndian 1 n
  else if n < 0x10000 then bigEndian 2 n
  else if n < 0x100000000 then bigEndian 4 n
  else bigEndian 8 n

/-- The head of an item: its major type and its argument in the shortest form. -/
def head (major n : Nat) : List UInt8 :=
  UInt8.ofNat (32 * major + additional n) :: argument n

theorem additional_lt (n : Nat) : additional n < 28 := by
  unfold additional
  split_ifs <;> omega

theorem toNat_initial {major info : Nat} (hmajor : major < 8) (hinfo : info < 32) :
    (UInt8.ofNat (32 * major + info)).toNat = 32 * major + info := by
  rw [UInt8.toNat_ofNat']
  omega

/-! ### Floats -/

/-- The binary64 bits of a narrower binary float with `e` exponent and `m`
fraction bits. -/
def widen (e m bits : Nat) : Nat :=
  let exponent := bits / 2 ^ m % 2 ^ e
  let fraction := bits % 2 ^ m
  let bias := 2 ^ (e - 1) - 1
  bits / 2 ^ (e + m) * 2 ^ 63 +
    if exponent = 2 ^ e - 1 then 2047 * 2 ^ 52 + fraction * 2 ^ (52 - m)
    else if exponent = 0 then
      if fraction = 0 then 0
      else (1024 + fraction.log2 - bias - m) * 2 ^ 52 + (fraction - 2 ^ fraction.log2) * 2 ^ (52 - fraction.log2)
    else (exponent + 1023 - bias) * 2 ^ 52 + fraction * 2 ^ (52 - m)

/-- The bits of the narrower float that could carry the same number; `widen`
tells whether they do. -/
def narrow (e m bits : Nat) : Nat :=
  let exponent := bits / 2 ^ 52 % 2048
  let fraction := bits % 2 ^ 52
  let bias := 2 ^ (e - 1) - 1
  bits / 2 ^ 63 * 2 ^ (e + m) +
    if exponent = 0 then 0
    else if exponent = 2047 then (2 ^ e - 1) * 2 ^ m + fraction / 2 ^ (52 - m)
    else if exponent + bias ≤ 1023 then (2 ^ 52 + fraction) / 2 ^ (1076 - bias - m - exponent)
    else if exponent + bias < 1022 + 2 ^ e then (exponent + bias - 1023) * 2 ^ m + fraction / 2 ^ (52 - m)
    else 0

/-- A float in the shortest of the three widths that keeps its value. -/
def encodeFloat (bits : UInt64) : List UInt8 :=
  let half := narrow 5 10 bits.toNat
  let single := narrow 8 23 bits.toNat
  if widen 5 10 (half % 256 ^ 2) = bits.toNat then 0xf9 :: bigEndian 2 half
  else if widen 8 23 (single % 256 ^ 4) = bits.toNat then 0xfa :: bigEndian 4 single
  else 0xfb :: bigEndian 8 bits.toNat

/-! ### Items -/

mutual

/-- The deterministic encoding of a data item: definite lengths, and the shortest
form of every argument and float. -/
def encode : Cbor → List UInt8
  | .Integer value =>
    if 0 ≤ value.val then head 0 value.val.toNat else head 1 (-1 - value.val).toNat
  | .Bytes value => head 2 value.length ++ value
  | .Text value => head 3 value.utf8ByteSize ++ value.as_bytes
  | .Array values => head 4 values.length ++ encodeList values
  | .Map entries => head 5 entries.length ++ encodeEntries entries
  | .Tag tag value => head 6 tag.toNat ++ value.encode
  | .Bool value => [if value then 0xf5 else 0xf4]
  | .Null => [0xf6]
  | .Float bits => encodeFloat bits

def encodeList : List Cbor → List UInt8
  | [] => []
  | value :: values => value.encode ++ encodeList values

def encodeEntries : List (Cbor × Cbor) → List UInt8
  | [] => []
  | (key, value) :: entries => key.encode ++ value.encode ++ encodeEntries entries

end

example : encode (.Float 0x3ff8000000000000) = [0xf9, 0x3e, 0x00] := by decide
example : encode (.Float 0x40f86a0000000000) = [0xfa, 0x47, 0xc3, 0x50, 0x00] := by decide
example : encode (.Float 0x3ff199999999999a) = [0xfb, 0x3f, 0xf1, 0x99, 0x99, 0x99, 0x99, 0x99, 0x9a] := by decide

end Cbor
