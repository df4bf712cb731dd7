import Mathlib.Data.List.Pairwise
import Mathlib.Data.List.Sort

open Std

namespace Sorted

variable {A : Type} {cmp : A → A → Ordering}

/-- A comparison that never contradicts itself sorts into an order. -/
theorem total_of_transCmp [TransCmp cmp] : Std.Total fun a b => cmp a b ≠ .gt where
  total a b := by
    by_cases hle : cmp a b = .gt
    · refine .inr fun hge => ?_
      have hswap := @OrientedCmp.eq_swap _ cmp _ a b
      rw [hle, hge] at hswap
      cases hswap
    · exact .inl hle

theorem isTrans_of_transCmp [TransCmp cmp] : IsTrans A fun a b => cmp a b ≠ .gt where
  trans a b c hab hbc := by
    have hac := TransCmp.isLE_trans (Ordering.ne_gt_iff_isLE.mp hab) (Ordering.ne_gt_iff_isLE.mp hbc)
    exact Ordering.ne_gt_iff_isLE.mpr hac

/-- Two members of a strictly increasing list are one, or one comes first. -/
theorem lt_or_lt_of_mem {sorted : List A} (hsorted : sorted.Pairwise fun a b => cmp a b = .lt) {a b : A}
    (ha : a ∈ sorted) (hb : b ∈ sorted) (hne : a ≠ b) : cmp a b = .lt ∨ cmp b a = .lt := by
  have hsymmetric : Std.Symm fun a b => cmp a b = .lt ∨ cmp b a = .lt := ⟨fun _ _ => Or.symm⟩
  have hapart : sorted.Pairwise fun a b => cmp a b = .lt ∨ cmp b a = .lt := hsorted.imp .inl
  exact hapart.forall ha hb hne

/-- Sorting finds the one arrangement that is strictly increasing. -/
theorem insertionSort_eq_of_perm [TransCmp cmp] {l sorted : List A} (hperm : l.Perm sorted)
    (hsorted : sorted.Pairwise fun a b => cmp a b = .lt) :
    l.insertionSort (fun a b => cmp a b ≠ .gt) = sorted := by
  have htotal : Std.Total fun a b => cmp a b ≠ .gt := total_of_transCmp
  have htrans : IsTrans A fun a b => cmp a b ≠ .gt := isTrans_of_transCmp
  have hsame := (List.perm_insertionSort (fun a b => cmp a b ≠ .gt) l).trans hperm
  refine @List.Perm.eq_of_pairwise _ (fun a b => cmp a b ≠ .gt) _ _ ?_ (List.pairwise_insertionSort _ l)
    (hsorted.imp ?_) hsame
  · intro a b ha hb hab hba
    by_contra hne
    have hswap := @OrientedCmp.eq_swap _ cmp _ a b
    rcases lt_or_lt_of_mem hsorted (hsame.mem_iff.mp ha) hb hne with hlt | hlt
    · rw [hlt] at hswap
      exact hba (Ordering.swap_inj.mp hswap.symm)
    · rw [hlt] at hswap
      exact hab hswap
  · intro a b hlt
    rw [hlt]
    exact Ordering.noConfusion

/-- Neighbours of a list are related when every pair in order is. -/
theorem forall_neighbours {R : A → A → Prop} {l : List A} (hpairwise : l.Pairwise R) :
    ∀ pair ∈ l.zip l.tail, R pair.1 pair.2 := by
  induction l with
  | nil => simp
  | cons a l ih =>
    obtain ⟨hfirst, hrest⟩ := List.pairwise_cons.mp hpairwise
    cases l with
    | nil => simp
    | cons b l =>
      rw [List.tail_cons, List.zip_cons_cons]
      exact List.forall_mem_cons.mpr ⟨hfirst b List.mem_cons_self, ih hrest⟩

/-- What follows a member of an increasing list is what compares greater. -/
theorem filter_after {K : Type} [Ord K] [TransOrd K] {key : A → K} {front back : List A} {last : A}
    (hsorted : (front ++ last :: back).Pairwise fun a b => compare (key a) (key b) = .lt) :
    (front ++ last :: back).filter (fun a => !(compare (key a) (key last)).isLE) = back := by
  obtain ⟨_, hback, hfront⟩ := List.pairwise_append.mp hsorted
  have hbefore : front.filter (fun a => !(compare (key a) (key last)).isLE) = [] := by
    rw [List.filter_eq_nil_iff]
    intro a ha
    rw [hfront a ha last List.mem_cons_self]
    decide
  have hafter : back.filter (fun a => !(compare (key a) (key last)).isLE) = back := by
    rw [List.filter_eq_self]
    intro a ha
    rw [OrientedCmp.gt_of_lt ((List.pairwise_cons.mp hback).1 a ha)]
    rfl
  have hself : (!(compare (key last) (key last)).isLE) = false := by
    have hequal : compare (key last) (key last) = .eq := ReflCmp.compare_self
    rw [hequal]
    rfl
  rw [List.filter_append, List.filter_cons, hbefore, hafter, hself, if_neg Bool.false_ne_true, List.nil_append]

end Sorted
