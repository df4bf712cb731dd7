import Mathlib.Data.List.Induction

namespace Trace

/-- One labelled step between two states. -/
structure Edge (σ ℓ : Type) where
  source : σ
  label : ℓ
  target : σ

/-- `Run step s edges t` means that the edges, in this order, are consecutive
steps leading from `s` to `t`. -/
inductive Run {σ ℓ : Type} (step : σ → ℓ → σ → Prop) : σ → List (Edge σ ℓ) → σ → Prop where
  | nil (s : σ) : Run step s [] s
  | cons {s t u : σ} {label : ℓ} {edges : List (Edge σ ℓ)} (hstep : step s label t)
      (hrest : Run step t edges u) : Run step s (⟨s, label, t⟩ :: edges) u

namespace Run

variable {σ ℓ : Type} {step : σ → ℓ → σ → Prop}

theorem append {s t u : σ} {first second : List (Edge σ ℓ)} (hfirst : Run step s first t) (hsecond : Run step t second u) :
    Run step s (first ++ second) u := by
  induction hfirst with
  | nil _ => exact hsecond
  | cons hstep _ ih => exact .cons hstep (ih hsecond)

/-- A run splits at every position of its list of edges. -/
theorem split {s u : σ} {first second : List (Edge σ ℓ)} (hrun : Run step s (first ++ second) u) :
    ∃ t, Run step s first t ∧ Run step t second u := by
  induction first generalizing s with
  | nil => exact ⟨s, .nil s, hrun⟩
  | cons edge first ih =>
    cases hrun with
    | cons hstep hrest =>
      obtain ⟨t, hfirst, hsecond⟩ := ih hrest
      exact ⟨t, .cons hstep hfirst, hsecond⟩

/-- A run passes through both ends of each of its edges. -/
theorem split_edge {s u : σ} {first second : List (Edge σ ℓ)} {edge : Edge σ ℓ}
    (hrun : Run step s (first ++ edge :: second) u) :
    Run step s first edge.source ∧ step edge.source edge.label edge.target ∧
      Run step edge.target second u := by
  obtain ⟨t, hfirst, hrest⟩ := hrun.split
  cases hrest with
  | cons hstep hsecond => exact ⟨hfirst, hstep, hsecond⟩

/-- Every edge of a run is a step. -/
theorem step_of_mem {s t : σ} {edges : List (Edge σ ℓ)} (hrun : Run step s edges t) {edge : Edge σ ℓ}
    (hedge : edge ∈ edges) : step edge.source edge.label edge.target := by
  obtain ⟨before, after, rfl⟩ := List.append_of_mem hedge
  exact hrun.split_edge.2.1

/-- What one step preserves, a whole run preserves. -/
theorem preserves {P : σ → Prop} (hstep : ∀ s label t, step s label t → P s → P t)
    {s t : σ} {edges : List (Edge σ ℓ)} (hrun : Run step s edges t) (hs : P s) : P t := by
  induction hrun with
  | nil _ => exact hs
  | cons hfirst _ ih => exact ih (hstep _ _ _ hfirst hs)

/-- What every edge of one run preserves, that run preserves. -/
theorem preserves_along {P : σ → Prop} {s t : σ} {edges : List (Edge σ ℓ)} (hrun : Run step s edges t)
    (hedges : ∀ edge ∈ edges, P edge.source → P edge.target) (hs : P s) : P t := by
  induction hrun with
  | nil _ => exact hs
  | cons _ _ ih =>
    obtain ⟨hfirst, hrest⟩ := List.forall_mem_cons.mp hedges
    exact ih hrest (hfirst hs)

/-- A reflexive and transitive relation that every step establishes relates the
two ends of a run. -/
theorem relates {R : σ → σ → Prop} (hrefl : ∀ s, R s s) (htrans : ∀ s t u, R s t → R t u → R s u)
    (hstep : ∀ s label t, step s label t → R s t) {s t : σ} {edges : List (Edge σ ℓ)}
    (hrun : Run step s edges t) : R s t := by
  induction hrun with
  | nil s => exact hrefl s
  | cons hfirst _ ih => exact htrans _ _ _ (hstep _ _ _ hfirst) ih

/-- Induction on the last step of a run. -/
theorem lastInduction {motive : σ → List (Edge σ ℓ) → σ → Prop} (hnil : ∀ s, motive s [] s)
    (hlast : ∀ s edges t label u, Run step s edges t → step t label u → motive s edges t →
      motive s (edges ++ [⟨t, label, u⟩]) u)
    {s u : σ} {edges : List (Edge σ ℓ)} (hrun : Run step s edges u) : motive s edges u := by
  induction edges using List.reverseRecOn generalizing u with
  | nil =>
    cases hrun
    exact hnil _
  | append_singleton edges edge ih =>
    obtain ⟨hfirst, hstep, hrest⟩ := hrun.split_edge
    cases hrest
    exact hlast _ _ _ _ _ hfirst hstep (ih hfirst)

/-- A total step function has a run for every list of labels. -/
theorem exists_of_function (next : σ → ℓ → σ) (s : σ) (labels : List ℓ) :
    ∃ edges, Run (fun s label t => t = next s label) s edges (labels.foldl next s) ∧
      edges.map (·.label) = labels := by
  induction labels generalizing s with
  | nil => exact ⟨[], .nil s, rfl⟩
  | cons label labels ih =>
    obtain ⟨edges, hrun, hlabels⟩ := ih (next s label)
    exact ⟨_, .cons rfl hrun, congrArg _ hlabels⟩

end Run

/-- The run that some labels make. -/
def execute {σ ℓ : Type} (step : σ → ℓ → Option σ) (s : σ) : List ℓ → Option (List (Edge σ ℓ) × σ)
  | [] => some ([], s)
  | label :: labels => do
    let t ← step s label
    let (edges, last) ← execute step t labels
    return (⟨s, label, t⟩ :: edges, last)

theorem run_of_execute {σ ℓ : Type} {step : σ → ℓ → Option σ} {s last : σ} {labels : List ℓ}
    {edges : List (Edge σ ℓ)} (hexecute : execute step s labels = some (edges, last)) :
    Run (fun s label t => step s label = some t) s edges last := by
  induction labels generalizing s edges with
  | nil =>
    cases hexecute
    exact .nil _
  | cons label labels ih =>
    obtain ⟨t, hstep, hexecute⟩ := Option.bind_eq_some_iff.mp hexecute
    obtain ⟨⟨rest, final⟩, hrest, heq⟩ := Option.bind_eq_some_iff.mp hexecute
    cases heq
    exact .cons hstep (ih hrest)

/-- A computed value with a property that was tested on it. -/
theorem exists_of_any {α : Type} {computed : Option α} {p : α → Prop} [DecidablePred p]
    (htest : computed.any fun a => decide (p a)) : ∃ a, computed = some a ∧ p a := by
  cases computed with
  | none => cases htest
  | some a => exact ⟨a, rfl, of_decide_eq_true htest⟩

end Trace
