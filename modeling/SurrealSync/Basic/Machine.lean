import Mathlib.Order.Basic

namespace UInt64

/-- Rust's `u64::checked_add`. -/
def checked_add (a b : UInt64) : Option UInt64 :=
  if a.toNat + b.toNat < UInt64.size then some (a + b) else none

/-- Rust's `u64::saturating_add`. -/
def saturating_add (a b : UInt64) : UInt64 :=
  if a.toNat + b.toNat < UInt64.size then a + b else UInt64.ofNat (UInt64.size - 1)

theorem checked_add_eq_some_iff {a b c : UInt64} :
    a.checked_add b = some c ↔ c.toNat = a.toNat + b.toNat := by
  have hc := c.toNat_lt_size
  unfold checked_add
  split
  · rename_i hfits
    have hsum : (a + b).toNat = a.toNat + b.toNat := by
      rw [UInt64.toNat_add, Nat.mod_eq_of_lt hfits]
    rw [Option.some.injEq, ← UInt64.toNat_inj, hsum]
    exact eq_comm
  · simp only [reduceCtorEq, false_iff]
    omega

theorem toNat_saturating_add_one (n : UInt64) :
    (n.saturating_add 1).toNat = min (n.toNat + 1) 18446744073709551615 := by
  have hn := n.toNat_lt_size
  have hsize : UInt64.size = 18446744073709551616 := rfl
  unfold saturating_add
  split
  · rename_i hfits
    have hone : (1 : UInt64).toNat = 1 := rfl
    rw [UInt64.toNat_add, Nat.mod_eq_of_lt hfits]
    omega
  · rename_i hfull
    have hone : (1 : UInt64).toNat = 1 := rfl
    have hmax : (UInt64.ofNat (UInt64.size - 1)).toNat = UInt64.size - 1 := rfl
    omega

theorem toNat_add_one {n m : UInt64} (hlt : n < m) : (n + 1).toNat = n.toNat + 1 := by
  have hm := m.toNat_lt
  have hn := UInt64.lt_iff_toNat_lt.mp hlt
  rw [UInt64.toNat_add]
  exact Nat.mod_eq_of_lt (by change n.toNat + 1 < _; omega)

theorem le_max_left (a b : UInt64) : a ≤ max a b := by
  change a ≤ if a ≤ b then b else a
  split
  · assumption
  · exact UInt64.le_refl a

theorem le_max_right (a b : UInt64) : b ≤ max a b := by
  change b ≤ if a ≤ b then b else a
  split
  · exact UInt64.le_refl b
  · rename_i hlt
    exact UInt64.le_of_lt (UInt64.not_le.mp hlt)

end UInt64
