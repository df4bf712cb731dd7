import Mathlib.Data.List.Basic

/-! A set in insertion order that may change while it is iterated over: a deleted element leaves an empty entry, and an
iteration visits the entries by their index, the ones that were added meanwhile included. -/

abbrev LiveSet (α : Type) := List (Option α)

namespace LiveSet

variable {α : Type}

def add [DecidableEq α] (set : LiveSet α) (a : α) : LiveSet α :=
  if some a ∈ set then set else set ++ [some a]

def delete [DecidableEq α] (set : LiveSet α) (a : α) : LiveSet α :=
  set.map fun entry => if entry = some a then none else entry

/-- The first element from an index on, with its own index. -/
def next : LiveSet α → Nat → Option (Nat × α)
  | [], _ => none
  | some a :: _, 0 => some (0, a)
  | none :: set, 0 => (next set 0).map fun (index, a) => (index + 1, a)
  | _ :: set, index + 1 => (next set index).map fun (index, a) => (index + 1, a)

variable {set : LiveSet α} {start found : Nat} {a : α}

theorem next_eq_some (hnext : next set start = some (found, a)) :
    start ≤ found ∧ set[found]? = some (some a) ∧ ∀ index, start ≤ index → index < found → set[index]? = some none := by
  fun_induction next set start generalizing found with
  | case1 => cases hnext
  | case2 => 
    cases hnext
    exact ⟨Nat.le_refl 0, rfl, fun index _ hlt => absurd hlt (Nat.not_lt_zero _)⟩
  | case3 set ih =>
    obtain ⟨⟨before, b⟩, hbefore, heq⟩ := Option.map_eq_some_iff.mp hnext
    cases heq
    obtain ⟨_, hentry, hskipped⟩ := ih hbefore
    refine ⟨Nat.zero_le _, hentry, fun index _ hlt => ?_⟩
    cases index with
    | zero => rfl
    | succ index => exact hskipped index (Nat.zero_le _) (Nat.lt_of_succ_lt_succ hlt)
  | case4 entry set start ih =>
    obtain ⟨⟨before, b⟩, hbefore, heq⟩ := Option.map_eq_some_iff.mp hnext
    cases heq
    obtain ⟨hle, hentry, hskipped⟩ := ih hbefore
    refine ⟨Nat.succ_le_succ hle, hentry, fun index hstart hlt => ?_⟩
    cases index with
    | zero => exact absurd hstart (Nat.not_succ_le_zero _)
    | succ index => exact hskipped index (Nat.le_of_succ_le_succ hstart) (Nat.lt_of_succ_lt_succ hlt)

theorem next_eq_none (hnext : next set start = none) {index : Nat} (hstart : start ≤ index)
    (hbound : index < set.length) : set[index]? = some none := by
  fun_induction next set start generalizing index with
  | case1 => exact absurd hbound (Nat.not_lt_zero _)
  | case2 => cases hnext
  | case3 set ih =>
    cases index with
    | zero => rfl
    | succ index => exact ih (Option.map_eq_none_iff.mp hnext) (Nat.zero_le _) (Nat.lt_of_succ_lt_succ hbound)
  | case4 entry set start ih =>
    cases index with
    | zero => exact absurd hstart (Nat.not_succ_le_zero _)
    | succ index =>
      exact ih (Option.map_eq_none_iff.mp hnext) (Nat.le_of_succ_le_succ hstart) (Nat.lt_of_succ_lt_succ hbound)

/-- The element of an entry stays until it is deleted, and does not come back there. -/
structure Grows (before after : LiveSet α) : Prop where
  length : before.length ≤ after.length
  entries : ∀ index, index < before.length → after[index]? = before[index]? ∨ after[index]? = some none

theorem Grows.refl (set : LiveSet α) : Grows set set where
  length := Nat.le_refl _
  entries _ _ := .inl rfl

theorem grows_add [DecidableEq α] (set : LiveSet α) (a : α) : Grows set (set.add a) := by
  unfold add
  split
  · exact .refl set
  · exact ⟨by simp, fun index hindex => .inl (List.getElem?_append_left hindex)⟩

theorem grows_delete [DecidableEq α] (set : LiveSet α) (a : α) : Grows set (set.delete a) where
  length := by simp [delete]
  entries index hindex := by
    rw [delete, List.getElem?_map, List.getElem?_eq_getElem hindex]
    by_cases hentry : set[index] = some a
    · exact .inr (by simp [hentry])
    · exact .inl (by simp [hentry])

end LiveSet
