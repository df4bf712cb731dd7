import SurrealSync.Cbor.Decode

namespace Cbor

/-- A binary64 is finite when its exponent is not the one of infinities and NaNs. -/
def FiniteBits (bits : UInt64) : Prop := bits.toNat / 2 ^ 52 % 2048 ≠ 2047

instance (bits : UInt64) : Decidable (FiniteBits bits) := inferInstanceAs (Decidable (_ ≠ _))

/-- Items that the reader of the library gives back as they were written. It may
fold a bignum, tag 2 or 3, into a plain integer. -/
def Regular : Cbor → Prop
  | .Tag tag _ => tag ≠ 2 ∧ tag ≠ 3
  | .Float bits => FiniteBits bits
  | .Integer _ | .Bytes _ | .Text _ | .Bool _ | .Null | .Array _ | .Map _ => True

/-- The library's recursion limit. -/
def RECURSION_LIMIT : Nat := 256

end Cbor

/-- The CBOR library, with what its documentation promises: the writer emits the
deterministic encoding, and the reader gives back every regular item within the
recursion limit, with the position behind it. -/
structure Ciborium where
  into_writer : Cbor → List UInt8
  from_reader : List UInt8 → Option (Cbor × Nat)
  writes : ∀ value, into_writer value = value.encode
  reads : ∀ value, value.Every Cbor.FitsHead → value.Every Cbor.Regular →
    value.depth < Cbor.RECURSION_LIMIT →
    from_reader (into_writer value) = some (value, (into_writer value).length)

namespace Cbor

/-- The library as the encoding and the reader of these modules. -/
def deterministic : Ciborium where
  into_writer := encode
  from_reader bytes := (decode RECURSION_LIMIT bytes).map fun (value, rest) => (value, bytes.length - rest.length)
  writes _ := rfl
  reads value hfits _ hdepth := by
    have hread := decode_encode hfits hdepth []
    rw [List.append_nil] at hread
    simp [hread]

end Cbor
