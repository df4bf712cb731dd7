import Mathlib.Algebra.Order.Ring.Int
import Mathlib.Data.List.Forall2
import Mathlib.Data.List.Nodup

namespace Except

theorem bind_eq_ok_iff {ε α β : Type} {x : Except ε α} {f : α → Except ε β} {y : β} :
    (x >>= f) = .ok y ↔ ∃ a, x = .ok a ∧ f a = .ok y := by
  cases x <;> simp [Bind.bind, Except.bind]

theorem bind_eq_error_iff {ε α β : Type} {x : Except ε α} {f : α → Except ε β} {e : ε} :
    (x >>= f) = .error e ↔ x = .error e ∨ ∃ a, x = .ok a ∧ f a = .error e := by
  cases x <;> simp [Bind.bind, Except.bind]

@[simp]
theorem ok_bind {ε α β : Type} (a : α) (f : α → Except ε β) : (Except.ok a >>= f) = f a := rfl

theorem bind_of_ok {ε α β : Type} {x : Except ε α} {f : α → Except ε β} {a : α} (hx : x = .ok a) :
    (x >>= f) = f a := by
  rw [hx, ok_bind]

theorem isOk_eq_true_iff {ε α : Type} {x : Except ε α} : x.isOk = true ↔ ∃ a, x = .ok a := by
  cases x <;> simp [Except.isOk, Except.toBool]

theorem toOption_eq_some_iff {ε α : Type} {x : Except ε α} {a : α} :
    x.toOption = some a ↔ x = .ok a := by
  cases x <;> simp [Except.toOption]

theorem exists_error {ε α : Type} {x : Except ε α} (hfails : ∀ a, x ≠ .ok a) : ∃ e, x = .error e := by
  cases x with
  | error e => exact ⟨e, rfl⟩
  | ok a => exact absurd rfl (hfails a)

/-- An early return of `error` under a condition, the shape of every guard of
the form `if condition { return Err(error) }`. -/
def refuse {ε : Type} (condition : Prop) [Decidable condition] (error : ε) : Except ε Unit :=
  if condition then .error error else .ok ()

@[simp]
theorem refuse_eq_ok_iff {ε : Type} {condition : Prop} [Decidable condition] {error : ε} {u : Unit} :
    refuse condition error = .ok u ↔ ¬ condition := by
  unfold refuse
  split <;> simp_all

theorem refuse_of_not {ε : Type} {condition : Prop} [Decidable condition] {error : ε} (hholds : ¬ condition) :
    refuse condition error = .ok () :=
  if_neg hholds

/-- An optional value, or `error` when it is missing: Rust's `ok_or`. -/
def okOr {ε α : Type} (value : Option α) (error : ε) : Except ε α :=
  match value with
  | some a => .ok a
  | none => .error error

@[simp]
theorem okOr_eq_ok_iff {ε α : Type} {value : Option α} {error : ε} {a : α} :
    okOr value error = .ok a ↔ value = some a := by
  cases value <;> simp [okOr]

/-- A loop that only checks succeeds exactly when every element passes. -/
theorem forM_eq_ok_iff {ε α : Type} {f : α → Except ε Unit} {l : List α} {u : Unit} :
    forM l f = .ok u ↔ ∀ a ∈ l, f a = .ok () := by
  induction l with
  | nil => simp [pure, Except.pure]
  | cons a l ih =>
    rw [List.forM_cons, bind_eq_ok_iff]
    constructor
    · rintro ⟨_, ha, hl⟩
      exact List.forall_mem_cons.mpr ⟨ha, ih.mp hl⟩
    · intro hall
      obtain ⟨ha, hl⟩ := List.forall_mem_cons.mp hall
      exact ⟨(), ha, ih.mpr hl⟩

theorem foldlM_cons_eq_ok_iff {ε α β : Type} {f : β → α → Except ε β} {a : α} {l : List α} {b c : β} :
    (a :: l).foldlM f b = .ok c ↔ ∃ d, f b a = .ok d ∧ l.foldlM f d = .ok c := by
  rw [List.foldlM_cons, bind_eq_ok_iff]

/-- A loop that collects succeeds with the results of the elements, in their order. -/
theorem mapM_eq_ok_iff {ε α β : Type} {f : α → Except ε β} {l : List α} {bs : List β} :
    l.mapM f = .ok bs ↔ List.Forall₂ (fun a b => f a = .ok b) l bs := by
  induction l generalizing bs with
  | nil => simp [pure, Except.pure, eq_comm]
  | cons a l ih =>
    simp only [List.mapM_cons, bind_eq_ok_iff, List.forall₂_cons_left_iff, ih]
    constructor
    · rintro ⟨b, hb, rest, hrest, heq⟩
      cases heq
      exact ⟨b, rest, hb, hrest, rfl⟩
    · rintro ⟨b, rest, hb, hrest, rfl⟩
      exact ⟨b, hb, rest, hrest, rfl⟩

/-- A loop over mapped elements that gives the mapped results, element by element. -/
theorem mapM_map_eq_ok_iff {ε α β γ : Type} {f : β → Except ε γ} {g : α → β} {h : α → γ} {l : List α} :
    (l.map g).mapM f = .ok (l.map h) ↔ ∀ a ∈ l, f (g a) = .ok (h a) := by
  rw [mapM_eq_ok_iff, List.forall₂_map_left_iff, List.forall₂_map_right_iff, List.forall₂_same]

/-- What a first loop makes of each element, a second loop makes back. -/
theorem exists_mapM_of_forall {ε ε' α β : Type} {f : α → Except ε β} {g : β → Except ε' α} {l : List α}
    (hback : ∀ a ∈ l, ∃ b, f a = .ok b ∧ g b = .ok a) : ∃ bs, l.mapM f = .ok bs ∧ bs.mapM g = .ok l := by
  induction l with
  | nil => exact ⟨[], rfl, rfl⟩
  | cons a l ih =>
    obtain ⟨⟨b, hf, hg⟩, hrest⟩ := List.forall_mem_cons.mp hback
    obtain ⟨bs, hfs, hgs⟩ := ih hrest
    refine ⟨b :: bs, ?_, ?_⟩
    · rw [List.mapM_cons, hf, ok_bind, hfs]
      rfl
    · rw [List.mapM_cons, hg, ok_bind, hgs]
      rfl

/-- Two loops whose iterations agree on every element have the same result. -/
theorem foldlM_congr {ε α β : Type} {f g : β → α → Except ε β} {l : List α} {b : β}
    (hstep : ∀ b, ∀ a ∈ l, f b a = g b a) : l.foldlM f b = l.foldlM g b := by
  induction l generalizing b with
  | nil => rfl
  | cons a l ih =>
    rw [List.foldlM_cons, List.foldlM_cons, hstep b a List.mem_cons_self]
    congr 1
    funext c
    exact ih fun b x hx => hstep b x (List.mem_cons_of_mem _ hx)

/-- A loop whose iterations check an element independently of the accumulator is
a check of every element and a pure fold. -/
theorem foldlM_eq_ok_iff_of_step {ε α β : Type} {f : β → α → Except ε β} {P : α → Prop} {g : β → α → β}
    (hstep : ∀ b a c, f b a = .ok c ↔ P a ∧ c = g b a) {l : List α} {b c : β} :
    l.foldlM f b = .ok c ↔ (∀ a ∈ l, P a) ∧ c = l.foldl g b := by
  induction l generalizing b with
  | nil => simp [pure, Except.pure, eq_comm]
  | cons a l ih =>
    rw [foldlM_cons_eq_ok_iff, List.foldl_cons, List.forall_mem_cons]
    constructor
    · rintro ⟨d, hd, hrest⟩
      obtain ⟨ha, rfl⟩ := (hstep b a d).mp hd
      obtain ⟨hl, hc⟩ := ih.mp hrest
      exact ⟨⟨ha, hl⟩, hc⟩
    · rintro ⟨⟨ha, hl⟩, hc⟩
      exact ⟨g b a, (hstep b a _).mpr ⟨ha, rfl⟩, ih.mpr ⟨hl, hc⟩⟩

end Except

theorem List.Forall₂.exists_of_mem {α β : Type} {R : α → β → Prop} {as : List α} {bs : List β}
    (h : List.Forall₂ R as bs) {a : α} (ha : a ∈ as) : ∃ b ∈ bs, R a b := by
  induction h with
  | nil => simp at ha
  | cons hab _ ih =>
    rcases List.mem_cons.mp ha with rfl | ha
    · exact ⟨_, List.mem_cons_self, hab⟩
    · obtain ⟨b, hb, hrelated⟩ := ih ha
      exact ⟨b, List.mem_cons_of_mem _ hb, hrelated⟩

/-- A stateful computation succeeds through the state its first part leaves. -/
theorem StateT.run_bind_eq_ok_iff {ε σ α β : Type} {x : StateT σ (Except ε) α} {f : α → StateT σ (Except ε) β}
    {s : σ} {r : β × σ} :
    (x >>= f).run s = .ok r ↔ ∃ a s', x.run s = .ok (a, s') ∧ (f a).run s' = .ok r := by
  rw [StateT.run_bind, Except.bind_eq_ok_iff]
  simp only [Prod.exists]

theorem StateT.run_liftM_eq_ok_iff {ε σ α : Type} {x : Except ε α} {s : σ} {r : α × σ} :
    (liftM x : StateT σ (Except ε) α).run s = .ok r ↔ x = .ok r.1 ∧ r.2 = s := by
  obtain ⟨b, s'⟩ := r
  change (x >>= fun a => pure (a, s)) = .ok (b, s') ↔ _
  cases x <;> simp [bind, Except.bind, pure, Except.pure, eq_comm]

theorem StateT.run_pure_eq_ok_iff {ε σ α : Type} {a : α} {s : σ} {r : α × σ} :
    (pure a : StateT σ (Except ε) α).run s = .ok r ↔ r = (a, s) := by
  rw [StateT.run_pure]
  simp [pure, Except.pure, eq_comm]

theorem StateT.run'_eq_ok_iff {ε σ α : Type} {x : StateT σ (Except ε) α} {s : σ} {a : α} :
    x.run' s = .ok a ↔ ∃ s', x.run s = .ok (a, s') := by
  rw [StateT.run'_eq]
  cases x.run s with
  | error e => simp
  | ok r =>
    obtain ⟨b, s'⟩ := r
    simp
