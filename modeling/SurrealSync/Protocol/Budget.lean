import SurrealSync.Basic.Result
import Mathlib.Algebra.BigOperators.Group.List.Basic

open Except

namespace surrealdb_sync_protocol.canonical

def MAX_DEPTH : Nat := 32

def MAX_CONTAINER_ITEMS : Nat := 1024

def MAX_TOTAL_ITEMS : Nat := 4096

def MAX_STRING_BYTES : Nat := 1048576

def MAX_ENCODED_BYTES : Nat := 4194304

inductive CodecError where
  | Decode
  | Encode
  | TrailingBytes
  | NonCanonical
  | Unsupported (kind : String)
  | InvalidRecordId
  | DuplicateObjectKey
  | InvalidIdentifier
  | InvalidFingerprint
  | InvalidEnvelope
  | DepthLimit
  | ContainerLimit
  | StringLimit
  | EncodedLimit
deriving DecidableEq

abbrev Result := Except CodecError

/-! ### Budgets -/

/-- The two counters that a validation or an encoding takes from. -/
structure Budget where
  remaining_items : Nat
  remaining_bytes : Nat
deriving DecidableEq

abbrev Budgeted := StateT Budget Result

/-- `remaining_items.checked_sub(count).ok_or(CodecError::ContainerLimit)`. -/
def take_items (count : Nat) : Budgeted Unit := fun budget =>
  if budget.remaining_items < count then .error .ContainerLimit
  else .ok ((), { budget with remaining_items := budget.remaining_items - count })

def take_bytes (length : Nat) : Budgeted Unit := fun budget =>
  if budget.remaining_bytes < length then .error .EncodedLimit
  else .ok ((), { budget with remaining_bytes := budget.remaining_bytes - length })

def take_string (length : Nat) : Budgeted Unit := do
  refuse (length > MAX_STRING_BYTES) CodecError.StringLimit
  take_bytes length

/-! ### What a budgeted computation takes -/

/-- The computation succeeds exactly under `condition`, then gives `value` and takes
`items` and `bytes` from the budget. -/
def Spends {α : Type} (x : Budgeted α) (value : α) (condition : Prop) (items bytes : Nat) : Prop :=
  ∀ budget r, x.run budget = .ok r ↔
    condition ∧ r.1 = value ∧ budget.remaining_items = r.2.remaining_items + items ∧
      budget.remaining_bytes = r.2.remaining_bytes + bytes

namespace Spends

variable {α β : Type} {x : Budgeted α} {value : α} {condition : Prop} {items bytes : Nat}

theorem pure (value : α) : Spends (Pure.pure value) value True 0 0 := by
  intro budget ⟨value', items, bytes⟩
  obtain ⟨items', bytes'⟩ := budget
  rw [StateT.run_pure_eq_ok_iff]
  simp [eq_comm]

theorem lift_refuse {condition : Prop} [Decidable condition] {error : CodecError} :
    Spends (liftM (refuse condition error)) () (¬ condition) 0 0 := by
  intro budget ⟨value', items, bytes⟩
  obtain ⟨items', bytes'⟩ := budget
  rw [StateT.run_liftM_eq_ok_iff]
  simp only [refuse_eq_ok_iff, Budget.mk.injEq, Nat.add_zero, true_and]
  rw [@eq_comm _ items, @eq_comm _ bytes]

theorem take_items (count : Nat) : Spends (take_items count) () True count 0 := by
  intro budget ⟨_, items, bytes⟩
  obtain ⟨items', bytes'⟩ := budget
  change (if items' < count then Except.error _ else .ok ((), Budget.mk (items' - count) bytes')) = _ ↔ _
  split_ifs <;> simp <;> omega

theorem take_bytes (length : Nat) : Spends (take_bytes length) () True 0 length := by
  intro budget ⟨_, items, bytes⟩
  obtain ⟨items', bytes'⟩ := budget
  change (if bytes' < length then Except.error _ else .ok ((), Budget.mk items' (bytes' - length))) = _ ↔ _
  split_ifs <;> simp <;> omega

theorem bind {f : α → Budgeted β} {next : β} {condition' : Prop} {items' bytes' : Nat}
    (hx : Spends x value condition items bytes)
    (hf : condition → Spends (f value) next condition' items' bytes') :
    Spends (x >>= f) next (condition ∧ condition') (items + items') (bytes + bytes') := by
  intro budget r
  rw [StateT.run_bind_eq_ok_iff]
  constructor
  · rintro ⟨a, middle, hfirst, hsecond⟩
    obtain ⟨hcondition, rfl, hitems, hbytes⟩ := (hx _ _).mp hfirst
    obtain ⟨hcondition', hvalue, hitems', hbytes'⟩ := (hf hcondition _ _).mp hsecond
    refine ⟨⟨hcondition, hcondition'⟩, hvalue, ?_, ?_⟩
    · rw [hitems, hitems']
      omega
    · rw [hbytes, hbytes']
      omega
  · rintro ⟨⟨hcondition, hcondition'⟩, hvalue, hitems, hbytes⟩
    refine ⟨value, ⟨r.2.remaining_items + items', r.2.remaining_bytes + bytes'⟩, (hx _ _).mpr ?_, (hf hcondition _ _).mpr ?_⟩
    · exact ⟨hcondition, rfl, by rw [hitems]; dsimp only; omega, by rw [hbytes]; dsimp only; omega⟩
    · exact ⟨hcondition', hvalue, rfl, rfl⟩

theorem congr {condition' : Prop} {items' bytes' : Nat} {value' : α} (h : Spends x value condition items bytes)
    (hvalue : value = value') (hcondition : condition ↔ condition') (hitems : items = items')
    (hbytes : bytes = bytes') : Spends x value' condition' items' bytes' := by
  subst hvalue hitems hbytes
  intro budget r
  rw [h, hcondition]

theorem succeeds (h : Spends x value condition items bytes) (hcondition : condition) (budget : Budget)
    (hitems : items ≤ budget.remaining_items) (hbytes : bytes ≤ budget.remaining_bytes) :
    x.run budget = .ok (value, ⟨budget.remaining_items - items, budget.remaining_bytes - bytes⟩) := by
  rw [h]
  exact ⟨hcondition, rfl, by dsimp only; omega, by dsimp only; omega⟩

end Spends

/-- The counters are at most those of a new encoder. -/
def Budget.Bounded (budget : Budget) : Prop :=
  budget.remaining_items ≤ MAX_TOTAL_ITEMS ∧ budget.remaining_bytes ≤ MAX_ENCODED_BYTES

/-- If the computation succeeds on a bounded budget, then `condition` holds, it has
given `value`, and it has taken at least `items` items. -/
def Emits {α : Type} (x : Budgeted α) (value : α) (condition : Prop) (items : Nat) : Prop :=
  ∀ budget r, budget.Bounded → x.run budget = .ok r →
    condition ∧ r.1 = value ∧ r.2.remaining_items + items ≤ budget.remaining_items ∧ r.2.Bounded

namespace Emits

variable {α β : Type} {x : Budgeted α} {value : α} {condition : Prop} {items : Nat}

theorem of_spends {bytes : Nat} (h : Spends x value condition items bytes) : Emits x value condition items := by
  intro budget r hbounded hrun
  obtain ⟨hcondition, hvalue, hitems, hbytes⟩ := (h budget r).mp hrun
  obtain ⟨hmost, hmost'⟩ := hbounded
  exact ⟨hcondition, hvalue, by omega, by omega, by omega⟩

theorem pure (value : α) : Emits (Pure.pure value) value True 0 := of_spends (.pure value)

theorem take_items (count : Nat) : Emits (take_items count) () True count := of_spends (.take_items count)

theorem take_bytes (length : Nat) : Emits (take_bytes length) () True 0 := of_spends (.take_bytes length)

theorem lift (x : Result Unit) : Emits (liftM x) () (x = .ok ()) 0 := by
  intro budget r hbounded hrun
  obtain ⟨hx, hbudget⟩ := StateT.run_liftM_eq_ok_iff.mp hrun
  rw [hbudget]
  exact ⟨hx, rfl, by omega, hbounded⟩

theorem bind {f : α → Budgeted β} {next : β} {condition' : Prop} {items' : Nat}
    (hx : Emits x value condition items) (hf : Emits (f value) next condition' items') :
    Emits (x >>= f) next (condition ∧ condition') (items + items') := by
  intro budget r hbounded hrun
  obtain ⟨a, middle, hfirst, hsecond⟩ := StateT.run_bind_eq_ok_iff.mp hrun
  obtain ⟨hcondition, rfl, hitems, hmiddle⟩ := hx _ _ hbounded hfirst
  dsimp only at hitems hmiddle
  obtain ⟨hcondition', hvalue, hitems', hlast⟩ := hf _ _ hmiddle hsecond
  exact ⟨⟨hcondition, hcondition'⟩, hvalue, by omega, hlast⟩

theorem imp {condition' : Prop} {items' : Nat} (h : Emits x value condition items)
    (hcondition : condition → condition') (hitems : items' ≤ items) : Emits x value condition' items' := by
  intro budget r hbounded hrun
  obtain ⟨hholds, hvalue, htaken, hlast⟩ := h budget r hbounded hrun
  exact ⟨hcondition hholds, hvalue, by omega, hlast⟩

/-- The map over a list that threads the budget, `iter().map(..).collect()`. -/
theorem mapM {f : α → Budgeted β} {g : α → β} {condition : α → Prop} {items : α → Nat}
    (hf : ∀ a, Emits (f a) (g a) (condition a) (items a)) (l : List α) :
    Emits (l.mapM f) (l.map g) (∀ a ∈ l, condition a) (l.map items).sum := by
  induction l with
  | nil =>
    rw [List.mapM_nil]
    exact (pure []).imp (by simp) (by simp)
  | cons a l ih =>
    have hrest : Emits (l.mapM f >>= fun others => Pure.pure (g a :: others)) (g a :: l.map g) _ _ :=
      ih.bind (pure _)
    rw [List.mapM_cons]
    apply ((hf a).bind hrest).imp
    · simp
    · simp

end Emits

/-! ### How a budgeted computation fails -/

/-- The errors that report a limit: of a text, of a value, or of all of them together. -/
def CodecError.IsLimit : CodecError → Prop
  | .InvalidIdentifier | .DepthLimit | .ContainerLimit | .StringLimit | .EncodedLimit => True
  | .Decode | .Encode | .TrailingBytes | .NonCanonical | .Unsupported _ | .InvalidRecordId | .DuplicateObjectKey
  | .InvalidFingerprint | .InvalidEnvelope => False

/-- The computation fails at limits only. -/
def Limited {α : Type} (x : Budgeted α) : Prop :=
  ∀ budget e, x.run budget = .error e → e.IsLimit

namespace Limited

variable {α β : Type}

theorem pure (value : α) : Limited (Pure.pure value) := by
  intro budget e h
  cases h

theorem take_items (count : Nat) : Limited (take_items count) := by
  intro budget e h
  change (if budget.remaining_items < count then Except.error _ else .ok _) = _ at h
  split_ifs at h
  cases h
  trivial

theorem take_bytes (length : Nat) : Limited (take_bytes length) := by
  intro budget e h
  change (if budget.remaining_bytes < length then Except.error _ else .ok _) = _ at h
  split_ifs at h
  cases h
  trivial

theorem lift {x : Result α} (hx : ∀ e, x = .error e → e.IsLimit) : Limited (liftM x) := by
  intro budget e h
  change (x >>= fun a => Pure.pure (a, budget)) = .error e at h
  cases x with
  | ok a => cases h
  | error e' =>
    cases h
    exact hx _ rfl

theorem refuse {condition : Prop} [Decidable condition] {error : CodecError} (herror : condition → error.IsLimit) :
    Limited (liftM (Except.refuse condition error)) := by
  apply lift
  intro e h
  unfold Except.refuse at h
  split_ifs at h with hcondition
  cases h
  exact herror hcondition

theorem bind {x : Budgeted α} {f : α → Budgeted β} (hx : Limited x) (hf : ∀ a, Limited (f a)) :
    Limited (x >>= f) := by
  intro budget e h
  rw [StateT.run_bind] at h
  cases hrun : x.run budget with
  | error e' =>
    rw [hrun] at h
    cases h
    exact hx budget _ hrun
  | ok r =>
    rw [hrun] at h
    exact hf r.1 r.2 e h

theorem mapM {f : α → Budgeted β} {l : List α} (hf : ∀ a ∈ l, Limited (f a)) : Limited (l.mapM f) := by
  induction l with
  | nil =>
    rw [List.mapM_nil]
    exact pure []
  | cons a l ih =>
    obtain ⟨hhead, htail⟩ := List.forall_mem_cons.mp hf
    rw [List.mapM_cons]
    exact hhead.bind fun b => (ih htail).bind fun others => pure (b :: others)

end Limited

end surrealdb_sync_protocol.canonical
