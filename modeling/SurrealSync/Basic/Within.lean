import SurrealSync.Basic.Result

namespace Except

variable {ε α β σ : Type} {exhausted : ε}

/-- A computation that spends from a budget: it ends with a result that satisfies `P`, or
the budget is exhausted, and nothing else can go wrong. -/
def Within (exhausted : ε) (P : α → Prop) (x : Except ε α) : Prop :=
  (∃ a, x = .ok a ∧ P a) ∨ x = .error exhausted

theorem Within.ok {P : α → Prop} {a : α} (ha : P a) : Within exhausted P (.ok a) :=
  .inl ⟨a, rfl, ha⟩

theorem Within.refuse (condition : Prop) [Decidable condition] :
    Within exhausted (fun _ => ¬ condition) (Except.refuse condition exhausted) := by
  by_cases hrefused : condition
  · exact .inr (if_pos hrefused)
  · exact .inl ⟨(), if_neg hrefused, hrefused⟩

theorem Within.bind {P : α → Prop} {Q : β → Prop} {x : Except ε α} {f : α → Except ε β}
    (hx : Within exhausted P x) (hf : ∀ a, P a → Within exhausted Q (f a)) :
    Within exhausted Q (x >>= f) := by
  obtain ⟨a, rfl, ha⟩ | rfl := hx
  · exact hf a ha
  · exact .inr rfl

theorem Within.mono {P Q : α → Prop} {x : Except ε α} (hx : Within exhausted P x) (hPQ : ∀ a, P a → Q a) :
    Within exhausted Q x := by
  obtain ⟨a, ha, hP⟩ | hexhausted := hx
  · exact .inl ⟨a, ha, hPQ a hP⟩
  · exact .inr hexhausted

theorem Within.of_ok {P : α → Prop} {x : Except ε α} (hx : Within exhausted P x) {a : α} (ha : x = .ok a) : P a := by
  obtain ⟨other, hother, hP⟩ | hexhausted := hx
  · cases ha.symm.trans hother
    exact hP
  · cases ha.symm.trans hexhausted

theorem Within.okOr (value : Option α) : Within exhausted (fun a => value = some a) (Except.okOr value exhausted) := by
  cases value with
  | none => exact .inr rfl
  | some a => exact .ok rfl

/-- What follows a computation escapes its error exactly when the computation succeeds and the rest escapes it. -/
theorem Within.bind_ne_iff {P : α → Prop} {x : Except ε α} {f : α → Except ε β} (hx : Within exhausted P x) :
    (x >>= f) ≠ .error exhausted ↔ ∃ a, x = .ok a ∧ f a ≠ .error exhausted := by
  obtain ⟨a, rfl, _⟩ | rfl := hx
  · simp
  · simp [Bind.bind, Except.bind]

theorem Within.forM {f : α → Except ε Unit} (hstep : ∀ a, Within exhausted (fun _ => True) (f a)) (l : List α) :
    Within exhausted (fun _ => True) (ForM.forM l f) := by
  induction l with
  | nil => exact .ok trivial
  | cons a l ih =>
    rw [List.forM_cons]
    exact (hstep a).bind fun _ _ => ih

/-- A loop that carries its budget next to an accumulator computes the plain fold. -/
theorem Within.foldlM {f : σ × β → α → Except ε (σ × β)} {g : σ → α → σ}
    (hstep : ∀ found a, Within exhausted (fun next => next.1 = g found.1 a) (f found a)) (l : List α) (found : σ × β) :
    Within exhausted (fun next => next.1 = l.foldl g found.1) (l.foldlM f found) := by
  induction l generalizing found with
  | nil => exact .ok rfl
  | cons a l ih =>
    rw [List.foldlM_cons, List.foldl_cons]
    refine (hstep found a).bind fun next hnext => ?_
    rw [← hnext]
    exact ih next

/-- A loop keeps what each of its rounds keeps. -/
theorem Within.foldlM_keep {P : β → Prop} {f : β → α → Except ε β} {l : List α}
    (hstep : ∀ kept, P kept → ∀ a ∈ l, Within exhausted P (f kept a)) {first : β} (hfirst : P first) :
    Within exhausted P (l.foldlM f first) := by
  induction l generalizing first with
  | nil => exact .ok hfirst
  | cons a l ih =>
    rw [List.foldlM_cons]
    refine (hstep first hfirst a List.mem_cons_self).bind fun next hnext => ?_
    exact ih (fun kept hkept other hother => hstep kept hkept other (List.mem_cons_of_mem a hother)) hnext

/-- A loop that only spends. -/
theorem Within.foldlM_spend {f : β → α → Except ε β} (hstep : ∀ spent a, Within exhausted (fun _ => True) (f spent a))
    (l : List α) (spent : β) : Within exhausted (fun _ => True) (l.foldlM f spent) := by
  induction l generalizing spent with
  | nil => exact .ok trivial
  | cons a l ih =>
    rw [List.foldlM_cons]
    exact (hstep spent a).bind fun next _ => ih next

end Except
