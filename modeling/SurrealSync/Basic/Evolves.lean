import Mathlib.Data.List.Basic

/-- An append-only list whose entries evolve in place: every earlier entry is
still at its position, related by `R` to what it was, and new entries stand
behind the old ones. -/
inductive Evolves {α : Type} (R : α → α → Prop) : List α → List α → Prop where
  | nil (added : List α) : Evolves R [] added
  | cons {a b : α} {earlier later : List α} (hhead : R a b) (htail : Evolves R earlier later) :
      Evolves R (a :: earlier) (b :: later)

namespace Evolves

variable {α : Type} {R : α → α → Prop}

theorem of_map {f : α → α} {entries : List α} (hentries : ∀ a ∈ entries, R a (f a)) :
    Evolves R entries (entries.map f) := by
  induction entries with
  | nil => exact .nil _
  | cons a entries ih =>
    obtain ⟨hhead, htail⟩ := List.forall_mem_cons.mp hentries
    exact .cons hhead (ih htail)

theorem refl (hrefl : ∀ a, R a a) (entries : List α) : Evolves R entries entries := by
  simpa using of_map (f := id) fun a (_ : a ∈ entries) => hrefl a

theorem trans (htrans : ∀ a b c, R a b → R b c → R a c) {first second third : List α}
    (hfirst : Evolves R first second) (hsecond : Evolves R second third) : Evolves R first third := by
  induction hfirst generalizing third with
  | nil _ => exact .nil third
  | cons hhead _ ih =>
    cases hsecond with
    | cons hnext hrest => exact .cons (htrans _ _ _ hhead hnext) (ih hrest)

theorem append {earlier later : List α} (hevolves : Evolves R earlier later) (added : List α) :
    Evolves R earlier (later ++ added) := by
  induction hevolves with
  | nil later => exact .nil _
  | cons hhead _ ih => exact .cons hhead ih

/-- Rewriting one entry is an evolution when that entry may evolve so. -/
theorem of_modify (hrefl : ∀ a, R a a) {f : α → α} {index : Nat} {entries : List α}
    (hentry : ∀ a, entries[index]? = some a → R a (f a)) :
    Evolves R entries (entries.modify index f) := by
  induction entries generalizing index with
  | nil => exact .nil _
  | cons a entries ih =>
    cases index with
    | zero => exact .cons (hentry a rfl) (refl hrefl entries)
    | succ index => exact .cons (hrefl a) (ih hentry)

/-- Every earlier entry has its successor. -/
theorem exists_of_mem {earlier later : List α} (hevolves : Evolves R earlier later) {a : α}
    (hmem : a ∈ earlier) : ∃ b ∈ later, R a b := by
  induction hevolves with
  | nil _ => cases hmem
  | @cons a' b _ _ hhead _ ih =>
    rcases List.mem_cons.mp hmem with rfl | hmem
    · exact ⟨b, List.mem_cons_self, hhead⟩
    · obtain ⟨b, hb, hrel⟩ := ih hmem
      exact ⟨b, List.mem_cons_of_mem _ hb, hrel⟩

/-- An evolution that adds no entry keeps every attribute that `R` keeps. -/
theorem map_eq_of_length {β : Type} {g : α → β} (hkept : ∀ a b, R a b → g b = g a)
    {earlier later : List α} (hevolves : Evolves R earlier later)
    (hlength : later.length = earlier.length) : later.map g = earlier.map g := by
  induction hevolves with
  | nil added =>
    rw [List.eq_nil_of_length_eq_zero hlength]
  | cons hhead _ ih =>
    rw [List.map_cons, List.map_cons, hkept _ _ hhead, ih (Nat.succ.inj hlength)]

end Evolves
