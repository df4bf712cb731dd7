import Mathlib.Data.List.Basic

/-! A log of events, in the order in which they happened. -/

namespace EventLog

variable {α : Type} {mark reset : α → Prop} {log : List α} {a : α}

/-- After the last event of one kind there is one of the other. -/
def Cleared (mark reset : α → Prop) (log : List α) : Prop :=
  ∀ before a after, log = before ++ a :: after → mark a → ∃ other ∈ after, reset other

/-- Between two events of one kind there is one of the other. -/
def Separated (mark reset : α → Prop) (log : List α) : Prop :=
  ∀ before a between b after, log = before ++ a :: between ++ b :: after → mark a → mark b →
    ∃ other ∈ between, reset other

theorem append_singleton_eq {before after : List α} {b : α} (heq : log ++ [a] = before ++ b :: after) :
    (after = [] ∧ b = a ∧ before = log) ∨ ∃ rest, after = rest ++ [a] ∧ log = before ++ b :: rest := by
  rcases List.eq_nil_or_concat after with rfl | ⟨rest, last, rfl⟩
  · obtain ⟨rfl, hlast⟩ := List.append_inj' heq rfl
    exact .inl ⟨rfl, (List.singleton_inj.mp hlast).symm, rfl⟩
  · rw [List.concat_eq_append, ← List.cons_append, ← List.append_assoc] at heq
    obtain ⟨rfl, hlast⟩ := List.append_inj' heq rfl
    exact .inr ⟨rest, by rw [List.concat_eq_append, List.singleton_inj.mp hlast], rfl⟩

theorem separated_nil : Separated mark reset ([] : List α) := by
  intro before a between b after heq
  simp at heq

theorem cleared_nil : Cleared mark reset ([] : List α) := by
  intro before a after heq
  simp at heq

/-- A reset clears the log. -/
theorem cleared_push (ha : reset a) (hmark : ¬ mark a) : Cleared mark reset (log ++ [a]) := by
  intro before b after heq hb
  rcases append_singleton_eq heq with ⟨_, rfl, _⟩ | ⟨rest, rfl, _⟩
  · exact absurd hb hmark
  · exact ⟨a, by simp, ha⟩

theorem Cleared.push (hcleared : Cleared mark reset log) (hmark : ¬ mark a) : Cleared mark reset (log ++ [a]) := by
  intro before b after heq hb
  rcases append_singleton_eq heq with ⟨_, rfl, _⟩ | ⟨rest, rfl, hlog⟩
  · exact absurd hb hmark
  · obtain ⟨other, hother, hreset⟩ := hcleared before b rest hlog hb
    exact ⟨other, List.mem_append_left _ hother, hreset⟩

theorem Separated.push (hseparated : Separated mark reset log) (hcleared : mark a → Cleared mark reset log) :
    Separated mark reset (log ++ [a]) := by
  intro before b between c after heq hb hc
  rcases append_singleton_eq heq with ⟨_, rfl, hlog⟩ | ⟨rest, _, hlog⟩
  · exact hcleared hc before b between hlog.symm hb
  · exact hseparated before b between c rest hlog hb hc

/-- An event happened, and since then nothing that a condition excludes. -/
def Since (a : α) (excluded : α → Prop) (log : List α) : Prop :=
  ∃ before between, log = before ++ a :: between ∧ ∀ other ∈ between, ¬ excluded other

theorem since_push {excluded : α → Prop} : Since a excluded (log ++ [a]) :=
  ⟨log, [], rfl, fun _ h => absurd h (List.not_mem_nil)⟩

theorem Since.push {excluded : α → Prop} {b : α} (hsince : Since a excluded log) (hb : ¬ excluded b) :
    Since a excluded (log ++ [b]) := by
  obtain ⟨before, between, rfl, hbetween⟩ := hsince
  refine ⟨before, between ++ [b], by simp, fun other hother => ?_⟩
  rcases List.mem_append.mp hother with hmem | hmem
  · exact hbetween other hmem
  · rw [List.mem_singleton.mp hmem]
    exact hb

end EventLog
