import Mathlib.Data.List.Basic

/-! Items taken one after the other, up to the first that is not taken. -/

namespace Greedy

variable {σ α : Type} {step : σ → α → Option σ}

/-- The state after the last item that was taken, and the items that are left. -/
def run (step : σ → α → Option σ) (state : σ) : List α → σ × List α
  | [] => (state, [])
  | item :: items =>
    match step state item with
    | some next => run step next items
    | none => (state, item :: items)

theorem foldlM_take {items : List α} {state last : σ} (hfold : items.foldlM step state = some last) (n : Nat) :
    ∃ reached, (items.take n).foldlM step state = some reached := by
  have hsplit := List.take_append_drop n items
  rw [← hsplit, List.foldlM_append] at hfold
  obtain ⟨reached, htaken, _⟩ := Option.bind_eq_some_iff.mp hfold
  exact ⟨reached, htaken⟩

/-- What is left was not taken, and everything before it was. -/
theorem run_eq {items rest : List α} {state last : σ} (hrun : run step state items = (last, rest)) :
    ∃ taken, items = taken ++ rest ∧ taken.foldlM step state = some last ∧
      ∀ item ∈ rest.head?, step last item = none := by
  induction items generalizing state with
  | nil =>
    cases hrun
    exact ⟨[], rfl, rfl, by simp⟩
  | cons item items ih =>
    rw [run] at hrun
    split at hrun
    · rename_i next hstep
      obtain ⟨taken, rfl, hfold, hrest⟩ := ih hrun
      refine ⟨item :: taken, rfl, ?_, hrest⟩
      rw [List.foldlM_cons, hstep]
      exact hfold
    · rename_i hstep
      cases hrun
      exact ⟨[], rfl, rfl, by simpa using hstep⟩

/-- No longer prefix can be taken. -/
theorem run_longest {items rest : List α} {state last : σ} (hrun : run step state items = (last, rest)) {n : Nat}
    (hn : n ≤ items.length) {reached : σ} (hfold : (items.take n).foldlM step state = some reached) :
    n ≤ items.length - rest.length := by
  obtain ⟨taken, rfl, htaken, hrest⟩ := run_eq hrun
  rw [List.length_append] at hn ⊢
  apply Nat.le_of_not_lt
  intro hlonger
  cases rest with
  | nil => exact absurd hn (by simpa using hlonger)
  | cons item rest =>
    have hshorter : (taken ++ item :: rest).take (taken.length + 1) = taken ++ [item] := by
      rw [List.take_length_add_append]
      rfl
    obtain ⟨early, hearly⟩ := foldlM_take hfold (taken.length + 1)
    rw [List.take_take, Nat.min_eq_left (by omega), hshorter, List.foldlM_append, htaken, Option.bind_eq_bind,
      Option.bind_some, List.foldlM_cons, hrest item (by simp)] at hearly
    cases hearly

theorem run_eq_of_foldlM {items : List α} {state last : σ} (hfold : items.foldlM step state = some last) :
    run step state items = (last, []) := by
  induction items generalizing state with
  | nil =>
    cases hfold
    rfl
  | cons item items ih =>
    rw [List.foldlM_cons] at hfold
    obtain ⟨next, hstep, hrest⟩ := Option.bind_eq_some_iff.mp hfold
    rw [run, hstep]
    exact ih hrest

end Greedy
