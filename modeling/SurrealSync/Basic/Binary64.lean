import Mathlib.Algebra.Order.Ring.Int
import Mathlib.Data.Nat.Log
import Mathlib.Tactic.Ring

/-! The integers among the binary64 numbers. -/

namespace Binary64

/-- The bits of a natural number below `2 ^ 53`: its exponent, and what follows its leading bit. -/
def ofNat (n : Nat) : Nat :=
  if n = 0 then 0 else (1023 + n.log2) * 2 ^ 52 + (n - 2 ^ n.log2) * 2 ^ (52 - n.log2)

/-- The natural number with an exponent and a significand of 53 bits, if there is one. -/
def magnitude (exponent significand : Nat) : Option Nat :=
  if 52 ≤ exponent then some (significand * 2 ^ (exponent - 52))
  else if significand % 2 ^ (52 - exponent) = 0 then some (significand / 2 ^ (52 - exponent))
  else none

/-- The integer that is written in these bits, if there is one. -/
def integer (bits : Nat) : Option Int :=
  let exponent := bits / 2 ^ 52 % 2048
  if bits % 2 ^ 63 = 0 then some 0
  else if exponent < 1023 ∨ exponent = 2047 then none
  else (magnitude (exponent - 1023) (2 ^ 52 + bits % 2 ^ 52)).map fun n : Nat =>
      if bits / 2 ^ 63 % 2 = 0 then (n : Int) else -(n : Int)

variable {n : Nat}

theorem log2_le (hn : n < 2 ^ 53) (hpositive : n ≠ 0) : n.log2 ≤ 52 :=
  Nat.le_of_lt_succ ((Nat.log2_lt hpositive).mpr hn)

/-- The bits behind the leading one fill at most the fraction. -/
theorem fraction_lt (hn : n < 2 ^ 53) (hpositive : n ≠ 0) : (n - 2 ^ n.log2) * 2 ^ (52 - n.log2) < 2 ^ 52 := by
  have hlog := log2_le hn hpositive
  have hlower : 2 ^ n.log2 ≤ n := Nat.log2_self_le hpositive
  have hupper : n < 2 ^ (n.log2 + 1) := Nat.lt_log2_self
  have hrest : n - 2 ^ n.log2 < 2 ^ n.log2 := by
    rw [Nat.pow_succ] at hupper
    omega
  calc (n - 2 ^ n.log2) * 2 ^ (52 - n.log2)
      < 2 ^ n.log2 * 2 ^ (52 - n.log2) := Nat.mul_lt_mul_of_pos_right hrest (Nat.two_pow_pos _)
    _ = 2 ^ 52 := by rw [← Nat.pow_add, Nat.add_sub_cancel' hlog]

theorem ofNat_div (hn : n < 2 ^ 53) (hpositive : n ≠ 0) : ofNat n / 2 ^ 52 = 1023 + n.log2 := by
  have hfraction := fraction_lt hn hpositive
  rw [ofNat, if_neg hpositive]
  omega

theorem ofNat_mod (hn : n < 2 ^ 53) (hpositive : n ≠ 0) :
    ofNat n % 2 ^ 52 = (n - 2 ^ n.log2) * 2 ^ (52 - n.log2) := by
  have hfraction := fraction_lt hn hpositive
  rw [ofNat, if_neg hpositive]
  omega

theorem ofNat_lt (hn : n < 2 ^ 53) : ofNat n < 1076 * 2 ^ 52 := by
  by_cases hpositive : n = 0
  · rw [ofNat, if_pos hpositive]
    decide
  · have hlog := log2_le hn hpositive
    have hfraction := fraction_lt hn hpositive
    rw [ofNat, if_neg hpositive]
    omega

theorem magnitude_ofNat (hn : n < 2 ^ 53) (hpositive : n ≠ 0) :
    magnitude n.log2 (2 ^ 52 + (n - 2 ^ n.log2) * 2 ^ (52 - n.log2)) = some n := by
  have hlog := log2_le hn hpositive
  have hlower : 2 ^ n.log2 ≤ n := Nat.log2_self_le hpositive
  have hsignificand : 2 ^ 52 + (n - 2 ^ n.log2) * 2 ^ (52 - n.log2) = n * 2 ^ (52 - n.log2) := by
    have hleading : 2 ^ 52 = 2 ^ n.log2 * 2 ^ (52 - n.log2) := by rw [← Nat.pow_add, Nat.add_sub_cancel' hlog]
    rw [hleading, ← Nat.add_mul, Nat.add_sub_cancel' hlower]
  unfold magnitude
  rw [hsignificand]
  by_cases hlast : 52 ≤ n.log2
  · have heq : n.log2 = 52 := by omega
    rw [if_pos hlast, heq, Nat.sub_self, Nat.pow_zero, Nat.mul_one, Nat.mul_one]
  · rw [if_neg hlast, if_pos (Nat.mul_mod_left n _), Nat.mul_div_cancel n (Nat.two_pow_pos _)]

/-- The integer of the bits of a natural number. -/
theorem integer_ofNat (hn : n < 2 ^ 53) : integer (ofNat n) = some (n : Int) := by
  by_cases hpositive : n = 0
  · subst hpositive
    rfl
  · have hlog := log2_le hn hpositive
    have hlt := ofNat_lt hn
    have hdiv := ofNat_div hn hpositive
    have hexponent : ofNat n / 2 ^ 52 % 2048 = 1023 + n.log2 := by omega
    have hnonzero : ¬ ofNat n % 2 ^ 63 = 0 := by omega
    have hsign : ofNat n / 2 ^ 63 % 2 = 0 := by omega
    have hnormal : ¬ (1023 + n.log2 < 1023 ∨ 1023 + n.log2 = 2047) := by omega
    unfold integer
    simp only [hexponent, hsign, if_neg hnonzero, if_neg hnormal, if_true, Nat.add_sub_cancel_left]
    rw [ofNat_mod hn hpositive, magnitude_ofNat hn hpositive, Option.map_some]

end Binary64
