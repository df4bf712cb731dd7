import Mathlib.Data.List.Basic
import SurrealSync.Basic.Machine
import SurrealSync.Basic.Result

/-! Computations that also break off where a machine operation has no result. -/

/-- Operations that panic, or wrap around, in Rust. -/
inductive Fault where
  | overflow
  | underflow
  | out_of_range
deriving DecidableEq

/-- Why a computation ends early: one of its operations faults, or it returns an error. -/
inductive Halt (ε : Type) where
  | fault (fault : Fault)
  | refused (error : ε)
deriving DecidableEq

namespace Halt

variable {ε α β : Type}

/-- A computation without machine operations. -/
def lift (x : Except ε α) : Except (Halt ε) α := x.mapError .refused

def Faults (x : Except (Halt ε) α) : Prop := ∃ fault, x = .error (.fault fault)

instance (x : Except (Halt ε) α) : Decidable (Faults x) :=
  match x with
  | .error (.fault found) => isTrue ⟨found, rfl⟩
  | .error (.refused _) => isFalse fun ⟨_, hfault⟩ => nomatch hfault
  | .ok _ => isFalse fun ⟨_, hfault⟩ => nomatch hfault

/-- The unchecked `a + b`. -/
def add (a b : UInt64) : Except (Halt ε) UInt64 := Except.okOr (a.checked_add b) (.fault .overflow)

/-- The unchecked `a - b`. -/
def sub (a b : UInt64) : Except (Halt ε) UInt64 := if b ≤ a then .ok (a - b) else .error (.fault .underflow)

/-- The unchecked `a - b` of lengths. -/
def sub_length (a b : Nat) : Except (Halt ε) Nat := if b ≤ a then .ok (a - b) else .error (.fault .underflow)

/-- `&entries[start..stop]`. -/
def slice (entries : List α) (start stop : Nat) : Except (Halt ε) (List α) :=
  if start ≤ stop ∧ stop ≤ entries.length then .ok ((entries.take stop).drop start)
  else .error (.fault .out_of_range)

theorem not_faults_ok (a : α) : ¬ Faults (.ok a : Except (Halt ε) α) := by
  rintro ⟨fault, hfault⟩
  cases hfault

theorem not_faults_lift (x : Except ε α) : ¬ Faults (lift x) := by
  rintro ⟨fault, hfault⟩
  cases x <;> cases hfault

theorem lift_eq_ok_iff {x : Except ε α} {a : α} : lift x = .ok a ↔ x = .ok a := by
  cases x with
  | error e => simp [lift, Except.mapError]
  | ok a => simp [lift, Except.mapError]

theorem faults_bind_iff {x : Except (Halt ε) α} {f : α → Except (Halt ε) β} :
    Faults (x >>= f) ↔ Faults x ∨ ∃ a, x = .ok a ∧ Faults (f a) := by
  simp only [Faults, Except.bind_eq_error_iff]
  constructor
  · rintro ⟨fault, hx | ⟨a, hx, hf⟩⟩
    · exact .inl ⟨fault, hx⟩
    · exact .inr ⟨a, hx, fault, hf⟩
  · rintro (⟨fault, hx⟩ | ⟨a, hx, fault, hf⟩)
    · exact ⟨fault, .inl hx⟩
    · exact ⟨fault, .inr ⟨a, hx, hf⟩⟩

/-- Only what comes after a computation without machine operations can fault. -/
theorem faults_lift_bind_iff {x : Except ε α} {f : α → Except (Halt ε) β} :
    Faults (lift x >>= f) ↔ ∃ a, x = .ok a ∧ Faults (f a) := by
  simp only [faults_bind_iff, not_faults_lift, false_or, lift_eq_ok_iff]

theorem add_eq_ok_iff {a b c : UInt64} : (add a b : Except (Halt ε) UInt64) = .ok c ↔ c.toNat = a.toNat + b.toNat := by
  rw [add, Except.okOr_eq_ok_iff, UInt64.checked_add_eq_some_iff]

theorem faults_add_iff {a b : UInt64} : Faults (add a b : Except (Halt ε) UInt64) ↔ 2 ^ 64 ≤ a.toNat + b.toNat := by
  unfold add UInt64.checked_add
  split
  · rename_i hfits
    exact iff_of_false (not_faults_ok _) (Nat.not_le_of_lt hfits)
  · rename_i hfull
    exact iff_of_true ⟨.overflow, rfl⟩ (Nat.le_of_not_lt hfull)

theorem sub_of_le {a b : UInt64} (hle : b ≤ a) : (sub a b : Except (Halt ε) UInt64) = .ok (a - b) := if_pos hle

/-- A checked computation does what the unchecked one does, as long as nothing faults. -/
def Agrees (x : Except (Halt ε) α) (y : Except ε α) : Prop := ¬ Faults x → x = lift y

theorem agrees_lift (x : Except ε α) : Agrees (lift x) x := fun _ => rfl

theorem Agrees.bind {x : Except (Halt ε) α} {y : Except ε α} {f : α → Except (Halt ε) β} {g : α → Except ε β}
    (hx : Agrees x y) (hf : ∀ a, y = .ok a → Agrees (f a) (g a)) : Agrees (x >>= f) (y >>= g) := by
  intro hsafe
  rw [faults_bind_iff, not_or] at hsafe
  have hsame := hx hsafe.1
  cases y with
  | error e =>
    rw [hsame]
    rfl
  | ok a =>
    rw [Except.bind_of_ok hsame, Except.ok_bind]
    exact hf a rfl fun hfault => hsafe.2 ⟨a, hsame, hfault⟩

theorem agrees_add (a b : UInt64) : Agrees (add a b : Except (Halt ε) UInt64) (.ok (a + b)) := by
  intro hsafe
  unfold add UInt64.checked_add at hsafe ⊢
  split at hsafe
  · rename_i hfits
    rw [if_pos hfits]
    rfl
  · exact absurd ⟨.overflow, rfl⟩ hsafe

theorem agrees_sub (a b : UInt64) : Agrees (sub a b : Except (Halt ε) UInt64) (.ok (a - b)) := by
  intro hsafe
  by_cases hle : b ≤ a
  · exact sub_of_le hle
  · exact absurd ⟨.underflow, if_neg hle⟩ hsafe

theorem Agrees.foldlM {f : β → α → Except (Halt ε) β} {g : β → α → Except ε β} (hf : ∀ b a, Agrees (f b a) (g b a))
    (l : List α) (b : β) : Agrees (l.foldlM f b) (l.foldlM g b) := by
  induction l generalizing b with
  | nil => exact agrees_lift (.ok b)
  | cons a l ih =>
    rw [List.foldlM_cons, List.foldlM_cons]
    exact (hf b a).bind fun next _ => ih next

end Halt
