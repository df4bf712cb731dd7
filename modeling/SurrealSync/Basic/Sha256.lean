import SurrealSync.Cbor.Encode

/-! SHA-256 over words as numbers below `2 ^ 32`. -/

namespace Sha256

def rotate (n word : Nat) : Nat := (word >>> n ||| word <<< (32 - n)) % 2 ^ 32

def constants : List Nat :=
  [
    0x428a2f98, 0x71374491, 0xb5c0fbcf, 0xe9b5dba5, 0x3956c25b, 0x59f111f1, 0x923f82a4, 0xab1c5ed5,
    0xd807aa98, 0x12835b01, 0x243185be, 0x550c7dc3, 0x72be5d74, 0x80deb1fe, 0x9bdc06a7, 0xc19bf174,
    0xe49b69c1, 0xefbe4786, 0x0fc19dc6, 0x240ca1cc, 0x2de92c6f, 0x4a7484aa, 0x5cb0a9dc, 0x76f988da,
    0x983e5152, 0xa831c66d, 0xb00327c8, 0xbf597fc7, 0xc6e00bf3, 0xd5a79147, 0x06ca6351, 0x14292967,
    0x27b70a85, 0x2e1b2138, 0x4d2c6dfc, 0x53380d13, 0x650a7354, 0x766a0abb, 0x81c2c92e, 0x92722c85,
    0xa2bfe8a1, 0xa81a664b, 0xc24b8b70, 0xc76c51a3, 0xd192e819, 0xd6990624, 0xf40e3585, 0x106aa070,
    0x19a4c116, 0x1e376c08, 0x2748774c, 0x34b0bcb5, 0x391c0cb3, 0x4ed8aa4a, 0x5b9cca4f, 0x682e6ff3,
    0x748f82ee, 0x78a5636f, 0x84c87814, 0x8cc70208, 0x90befffa, 0xa4506ceb, 0xbef9a3f7, 0xc67178f2]

/-- The working variables `a` to `h`. -/
structure Registers where
  a : Nat
  b : Nat
  c : Nat
  d : Nat
  e : Nat
  f : Nat
  g : Nat
  h : Nat

def initial : Registers where
  a := 0x6a09e667
  b := 0xbb67ae85
  c := 0x3c6ef372
  d := 0xa54ff53a
  e := 0x510e527f
  f := 0x9b05688c
  g := 0x1f83d9ab
  h := 0x5be0cd19

/-- One round with the constant `k` and the word `w` of the message schedule. -/
def round (r : Registers) (k w : Nat) : Registers :=
  let choice := (r.e &&& r.f) ^^^ ((2 ^ 32 - 1 - r.e) &&& r.g)
  let majority := (r.a &&& r.b) ^^^ (r.a &&& r.c) ^^^ (r.b &&& r.c)
  let first := r.h + (rotate 6 r.e ^^^ rotate 11 r.e ^^^ rotate 25 r.e) + choice + k + w
  let second := (rotate 2 r.a ^^^ rotate 13 r.a ^^^ rotate 22 r.a) + majority
  ⟨(first + second) % 2 ^ 32, r.a, r.b, r.c, (r.d + first) % 2 ^ 32, r.e, r.f, r.g⟩

/-- The word of the schedule that follows the sixteen words of the window. -/
def next_word (window : List Nat) : Nat :=
  let w1 := window.getD 1 0
  let w14 := window.getD 14 0
  let low := rotate 7 w1 ^^^ rotate 18 w1 ^^^ w1 >>> 3
  let high := rotate 17 w14 ^^^ rotate 19 w14 ^^^ w14 >>> 10
  (window.headD 0 + low + window.getD 9 0 + high) % 2 ^ 32

def rounds : List Nat → List Nat → Registers → Registers
  | [], _, r => r
  | k :: ks, window, r => rounds ks (window.tail ++ [next_word window]) (round r k (window.headD 0))

def compress (r : Registers) (block : List Nat) : Registers :=
  let next := rounds constants block r
  ⟨(r.a + next.a) % 2 ^ 32, (r.b + next.b) % 2 ^ 32, (r.c + next.c) % 2 ^ 32, (r.d + next.d) % 2 ^ 32,
    (r.e + next.e) % 2 ^ 32, (r.f + next.f) % 2 ^ 32, (r.g + next.g) % 2 ^ 32, (r.h + next.h) % 2 ^ 32⟩

def words : List UInt8 → List Nat
  | b0 :: b1 :: b2 :: b3 :: bytes =>
    (b0.toNat * 2 ^ 24 + b1.toNat * 2 ^ 16 + b2.toNat * 2 ^ 8 + b3.toNat) :: words bytes
  | _ => []

/-- The blocks of sixteen words, of which there are at most `count`. -/
def absorb : Nat → List Nat → Registers → Registers
  | 0, _, r => r
  | count + 1, message, r => absorb count (message.drop 16) (compress r (message.take 16))

/-- A one bit, zeros up to a multiple of 64 bytes, and the length in bits. -/
def pad (message : List UInt8) : List UInt8 :=
  message ++ 0x80 :: List.replicate ((119 - message.length % 64) % 64) 0 ++ Cbor.bigEndian 8 (8 * message.length)

def hash (message : List UInt8) : List UInt8 :=
  let r := absorb ((message.length + 72) / 64) (words (pad message)) initial
  [r.a, r.b, r.c, r.d, r.e, r.f, r.g, r.h].flatMap (Cbor.bigEndian 4)

theorem length_hash (message : List UInt8) : (hash message).length = 32 := by
  simp [hash, Cbor.length_bigEndian]

example : hash "abc".as_bytes =
    [0xba, 0x78, 0x16, 0xbf, 0x8f, 0x01, 0xcf, 0xea, 0x41, 0x41, 0x40, 0xde, 0x5d, 0xae, 0x22, 0x23,
      0xb0, 0x03, 0x61, 0xa3, 0x96, 0x17, 0x7a, 0x9c, 0xb4, 0x10, 0xff, 0x61, 0xf2, 0x00, 0x15, 0xad] := by
  decide +kernel

end Sha256
