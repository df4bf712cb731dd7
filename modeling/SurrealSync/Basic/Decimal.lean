import Mathlib.Algebra.Order.Ring.Int
import Mathlib.Data.List.Basic

namespace Decimal

/-- The value of a nonempty run of decimal digits. -/
def digits (text : List Char) : Option Nat :=
  if text ≠ [] ∧ text.all Char.isDigit then some (Nat.ofDigitChars 10 text 0) else none

theorem digits_toDigits (n : Nat) : digits (Nat.toDigits 10 n) = some n := by
  have hdigit : ∀ c ∈ Nat.toDigits 10 n, c.isDigit := by
    intro c hc
    exact Nat.isDigit_of_mem_toDigits (by omega) (by omega) hc
  unfold digits
  rw [if_pos ⟨Nat.toDigits_ne_nil, List.all_eq_true.mpr hdigit⟩, Nat.ofDigitChars_ten_toDigits]

theorem head_toDigits_ne {c : Char} (hc : ¬ c.isDigit) (n : Nat) (rest : List Char) :
    Nat.toDigits 10 n ≠ c :: rest := by
  intro heq
  have hmem : c ∈ Nat.toDigits 10 n := by
    rw [heq]
    exact List.mem_cons_self
  exact hc (Nat.isDigit_of_mem_toDigits (by omega) (by omega) hmem)

end Decimal

namespace UInt64

/-- Rust's `u64::from_str`: an optional plus sign and decimal digits within the range. -/
def from_str (text : String) : Option UInt64 := do
  let digits := match text.toList with
    | '+' :: digits => digits
    | digits => digits
  let n ← Decimal.digits digits
  if n < 2 ^ 64 then some (.ofNat n) else none

def to_string (n : UInt64) : String := n.toNat.repr

@[simp]
theorem from_str_to_string (n : UInt64) : from_str n.to_string = some n := by
  unfold from_str to_string
  rw [Nat.toList_repr]
  split
  · rename_i rest heq
    exact absurd heq (Decimal.head_toDigits_ne (by decide) n.toNat rest)
  · have hbound : n.toNat < 2 ^ 64 := n.toNat_lt
    simp only [Decimal.digits_toDigits, Option.bind_eq_bind, Option.bind_some, if_pos hbound,
      UInt64.ofNat_toNat]

theorem to_string_injective {n m : UInt64} (heq : n.to_string = m.to_string) : n = m := by
  have hn := from_str_to_string n
  rw [heq, from_str_to_string, Option.some.injEq] at hn
  exact hn.symm

end UInt64

namespace Int64

/-- Rust's `i64::from_str`: an optional sign and decimal digits within the range. -/
def from_str (text : String) : Option Int64 :=
  match text.toList with
  | '-' :: digits => do
    let n ← Decimal.digits digits
    if n ≤ 2 ^ 63 then some (.ofInt (-n)) else none
  | '+' :: digits => do
    let n ← Decimal.digits digits
    if n < 2 ^ 63 then some (.ofInt n) else none
  | digits => do
    let n ← Decimal.digits digits
    if n < 2 ^ 63 then some (.ofInt n) else none

def to_string (n : Int64) : String := n.toInt.repr

@[simp]
theorem from_str_to_string (n : Int64) : from_str n.to_string = some n := by
  have hlower := n.le_toInt
  have hupper := n.toInt_lt
  unfold to_string from_str
  cases hn : n.toInt with
  | ofNat m =>
    have hm : m < 2 ^ 63 := by
      rw [hn] at hupper
      simp only [Int.ofNat_eq_natCast] at hupper
      omega
    rw [show (Int.ofNat m).repr = m.repr from rfl, Nat.toList_repr]
    split
    · rename_i rest heq
      exact absurd heq (Decimal.head_toDigits_ne (by decide) m rest)
    · rename_i rest heq
      exact absurd heq (Decimal.head_toDigits_ne (by decide) m rest)
    · rw [Decimal.digits_toDigits, Option.bind_eq_bind, Option.bind_some, if_pos hm, ← n.ofInt_toInt, hn]
      rfl
  | negSucc m =>
    have hm : m + 1 ≤ 2 ^ 63 := by
      rw [hn] at hlower
      omega
    rw [show (Int.negSucc m).repr = "-" ++ (m + 1).repr from rfl, String.toList_append, Nat.toList_repr]
    change (Decimal.digits (Nat.toDigits 10 (m + 1)) >>= _) = _
    rw [Decimal.digits_toDigits, Option.bind_eq_bind, Option.bind_some, if_pos hm, ← n.ofInt_toInt, hn]
    rfl

/-- A number of both types has the same text in both. -/
theorem from_str_uint64_to_string {n : UInt64} (hn : n.toNat < 2 ^ 63) :
    from_str n.to_string = some (.ofInt n.toNat) := by
  have hsame : n.to_string = (Int64.ofInt n.toNat).to_string := by
    unfold to_string UInt64.to_string
    rw [Int64.toInt_ofInt_of_le (by omega) (by omega)]
    rfl
  rw [hsame, from_str_to_string]

end Int64
