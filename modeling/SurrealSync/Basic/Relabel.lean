import SurrealSync.Basic.BTree

open Std

/-- `after` is `before` with its keys renamed by `f` and its values by `g`, and no two
keys of `before` become one. -/
structure Relabelled {K A B : Type} [Ord K] [TransOrd K] (f : K → K) (g : A → B) (before : BTreeMap K A)
    (after : BTreeMap K B) : Prop where
  entries : ∀ k b, after[k]? = some b ↔ ∃ j a, before[j]? = some a ∧ f j = k ∧ g a = b
  apart : ∀ j ∈ before, ∀ k ∈ before, f j = f k → j = k

namespace Relabelled

variable {K A B C D : Type} [Ord K] [TransOrd K] {f : K → K} {g : A → B}

theorem refl (m : BTreeMap K A) : Relabelled id id m m where
  entries := by simp
  apart := fun _ _ _ _ h => h

theorem trans {h : K → K} {g' : B → C} {m : BTreeMap K A} {n : BTreeMap K B} {o : BTreeMap K C}
    (hfirst : Relabelled f g m n) (hsecond : Relabelled h g' n o) : Relabelled (h ∘ f) (g' ∘ g) m o where
  entries := by
    intro k c
    rw [hsecond.entries]
    constructor
    · rintro ⟨j, b, hb, rfl, rfl⟩
      obtain ⟨i, a, ha, rfl, rfl⟩ := (hfirst.entries j b).mp hb
      exact ⟨i, a, ha, rfl, rfl⟩
    · rintro ⟨i, a, ha, rfl, rfl⟩
      exact ⟨f i, g a, (hfirst.entries _ _).mpr ⟨i, a, ha, rfl, rfl⟩, rfl, rfl⟩
  apart := by
    intro i hi j hj heq
    have hmem : ∀ k ∈ m, f k ∈ n := by
      intro k hk
      obtain ⟨a, ha⟩ := BTreeMap.exists_of_mem hk
      exact BTreeMap.mem_of_getElem? ((hfirst.entries _ _).mpr ⟨k, a, ha, rfl, rfl⟩)
    exact hfirst.apart i hi j hj (hsecond.apart _ (hmem i hi) _ (hmem j hj) heq)

/-- Renaming a key that does not occur changes nothing. -/
theorem keep [DecidableEq K] {m : BTreeMap K A} {old new : K} (hold : old ∉ m) :
    Relabelled (fun k => if k = old then new else k) id m m where
  entries := by
    intro k b
    have hne : ∀ j a, m[j]? = some a → (if j = old then new else j) = j := by
      intro j a hj
      rw [if_neg]
      rintro rfl
      exact hold (BTreeMap.mem_of_getElem? hj)
    constructor
    · intro hget
      exact ⟨k, b, hget, hne k b hget, rfl⟩
    · rintro ⟨j, a, hj, hkey, rfl⟩
      rw [hne j a hj] at hkey
      exact hkey ▸ hj
  apart := by
    intro i hi j hj heq
    have hne : ∀ k ∈ m, k ≠ old := fun k hk hkold => hold (hkold ▸ hk)
    rwa [if_neg (hne i hi), if_neg (hne j hj)] at heq

variable [LawfulEqOrd K]

/-- Storing a value under a key that no other key is merged with. -/
theorem insert {m : BTreeMap K A} {n : BTreeMap K B} (hrelabelled : Relabelled f g m n) {k : K}
    (hapart : ∀ j ∈ m, f j = f k → j = k) (a : A) : Relabelled f g (m.insert k a) (n.insert (f k) (g a)) where
  entries := by
    intro i b
    by_cases hi : i = f k
    · subst hi
      rw [ExtTreeMap.getElem?_insert_self, Option.some.injEq]
      constructor
      · rintro rfl
        exact ⟨k, a, ExtTreeMap.getElem?_insert_self, rfl, rfl⟩
      · rintro ⟨j, a', hj, hkey, rfl⟩
        by_cases hjk : j = k
        · subst hjk
          rw [ExtTreeMap.getElem?_insert_self] at hj
          cases hj
          rfl
        · rw [BTreeMap.getElem?_insert_of_ne hjk] at hj
          exact absurd (hapart j (BTreeMap.mem_of_getElem? hj) hkey) hjk
    · rw [BTreeMap.getElem?_insert_of_ne hi, hrelabelled.entries]
      constructor
      · rintro ⟨j, a', hj, rfl, rfl⟩
        have hjk : j ≠ k := fun heq => hi (congrArg f heq)
        exact ⟨j, a', (BTreeMap.getElem?_insert_of_ne hjk).trans hj, rfl, rfl⟩
      · rintro ⟨j, a', hj, rfl, rfl⟩
        have hjk : j ≠ k := fun heq => hi (congrArg f heq)
        exact ⟨j, a', (BTreeMap.getElem?_insert_of_ne hjk).symm.trans hj, rfl, rfl⟩
  apart := by
    have hkey : ∀ i ∈ m.insert k a, i ∈ m ∨ i = k := by
      intro i hi
      rcases ExtTreeMap.mem_insert.mp hi with heq | hmem
      · exact .inr (LawfulEqOrd.compare_eq_iff_eq.mp heq).symm
      · exact .inl hmem
    intro i hi j hj heq
    rcases hkey i hi with hold | hnew
    · rcases hkey j hj with hother | hother
      · exact hrelabelled.apart i hold j hother heq
      · exact (hapart i hold (hother ▸ heq)).trans hother.symm
    · rcases hkey j hj with hother | hother
      · exact hnew.trans (hapart j hother (hnew ▸ heq.symm)).symm
      · exact hnew.trans hother.symm

theorem map {m : BTreeMap K A} {n : BTreeMap K B} (hrelabelled : Relabelled f g m n) (h : B → C) :
    Relabelled f (h ∘ g) m (n.map fun _ => h) where
  entries := by
    intro k c
    rw [ExtTreeMap.getElem?_map, Option.map_eq_some_iff]
    constructor
    · rintro ⟨b, hb, rfl⟩
      obtain ⟨j, a, ha, rfl, rfl⟩ := (hrelabelled.entries k b).mp hb
      exact ⟨j, a, ha, rfl, rfl⟩
    · rintro ⟨j, a, ha, rfl, rfl⟩
      exact ⟨g a, (hrelabelled.entries _ _).mpr ⟨j, a, ha, rfl, rfl⟩, rfl⟩
  apart := hrelabelled.apart

/-- Values may be transformed and dropped on both sides alike. -/
theorem filterMap {m : BTreeMap K A} {n : BTreeMap K B} (hrelabelled : Relabelled f g m n) {p : A → Option C}
    {q : B → Option D} {r : C → D} (hpq : ∀ a, q (g a) = (p a).map r) :
    Relabelled f r (m.filterMap fun _ => p) (n.filterMap fun _ => q) where
  entries := by
    intro k d
    simp only [ExtTreeMap.getElem?_filterMap', Option.bind_eq_some_iff, hrelabelled.entries]
    constructor
    · rintro ⟨_, ⟨j, a, ha, rfl, rfl⟩, hd⟩
      rw [hpq] at hd
      obtain ⟨c, hc, rfl⟩ := Option.map_eq_some_iff.mp hd
      exact ⟨j, c, ⟨a, ha, hc⟩, rfl, rfl⟩
    · rintro ⟨j, c, ⟨a, ha, hc⟩, rfl, rfl⟩
      exact ⟨g a, ⟨j, a, ha, rfl, rfl⟩, by rw [hpq, hc, Option.map_some]⟩
  apart := by
    have hmem : ∀ i ∈ m.filterMap fun _ => p, i ∈ m := by
      intro i hi
      obtain ⟨c, hc⟩ := BTreeMap.exists_of_mem hi
      rw [ExtTreeMap.getElem?_filterMap', Option.bind_eq_some_iff] at hc
      obtain ⟨a, ha, _⟩ := hc
      exact BTreeMap.mem_of_getElem? ha
    intro i hi j hj heq
    exact hrelabelled.apart i (hmem i hi) j (hmem j hj) heq

/-- The entry of one key moves to an unused key. -/
theorem move [DecidableEq K] {m : BTreeMap K A} {old new : K} {a : A} (hold : m[old]? = some a) (hnew : new ∉ m) :
    Relabelled (fun k => if k = old then new else k) id m ((m.erase old).insert new a) where
  entries := by
    intro k b
    have hunused : ∀ j a', m[j]? = some a' → j ≠ new := by
      rintro j a' hj rfl
      exact hnew (BTreeMap.mem_of_getElem? hj)
    by_cases hk : k = new
    · subst hk
      rw [ExtTreeMap.getElem?_insert_self, Option.some.injEq]
      constructor
      · rintro rfl
        exact ⟨old, a, hold, if_pos rfl, rfl⟩
      · rintro ⟨j, a', hj, hkey, rfl⟩
        split at hkey
        · rename_i heq
          subst heq
          cases hold.symm.trans hj
          rfl
        · exact absurd hkey (hunused j a' hj)
    · rw [BTreeMap.getElem?_insert_of_ne hk]
      constructor
      · intro hget
        have hne : k ≠ old := by
          rintro rfl
          rw [ExtTreeMap.getElem?_erase_self] at hget
          cases hget
        exact ⟨k, b, BTreeMap.getElem?_of_erase hget, if_neg hne, rfl⟩
      · rintro ⟨j, a', hj, hkey, rfl⟩
        split at hkey
        · exact absurd hkey.symm hk
        · rename_i hne
          subst hkey
          exact (BTreeMap.getElem?_erase_of_ne hne).trans hj
  apart := by
    intro i hi j hj heq
    have hne : ∀ k ∈ m, k ≠ new := fun k hk hknew => hnew (hknew ▸ hk)
    by_cases hiold : i = old
    · by_cases hjold : j = old
      · rw [hiold, hjold]
      · rw [if_pos hiold, if_neg hjold] at heq
        exact absurd heq.symm (hne j hj)
    · by_cases hjold : j = old
      · rw [if_neg hiold, if_pos hjold] at heq
        exact absurd heq (hne i hi)
      · rwa [if_neg hiold, if_neg hjold] at heq

end Relabelled

namespace BTreeMap

variable {K A : Type} [Ord K] [TransOrd K] [LawfulEqOrd K]

theorem insert_comm {m : BTreeMap K A} {j k : K} (hne : j ≠ k) (a b : A) :
    (m.insert j a).insert k b = (m.insert k b).insert j a := by
  apply ExtTreeMap.ext_getElem?
  intro i
  by_cases hij : i = j
  · subst hij
    rw [getElem?_insert_of_ne hne, ExtTreeMap.getElem?_insert_self, ExtTreeMap.getElem?_insert_self]
  · by_cases hik : i = k
    · subst hik
      rw [ExtTreeMap.getElem?_insert_self, getElem?_insert_of_ne hij, ExtTreeMap.getElem?_insert_self]
    · rw [getElem?_insert_of_ne hik, getElem?_insert_of_ne hij, getElem?_insert_of_ne hij, getElem?_insert_of_ne hik]

/-- Two runs of updates of different keys may change places. -/
theorem foldl_insert_append_comm {E : Type} {key : E → K} {value : E → A} {first second : List E}
    (hdisjoint : ∀ a ∈ first, ∀ b ∈ second, key a ≠ key b) (m : BTreeMap K A) :
    (first ++ second).foldl (fun m e => m.insert (key e) (value e)) m =
      (second ++ first).foldl (fun m e => m.insert (key e) (value e)) m := by
  have hpast : ∀ (a : E) (l : List E) (m : BTreeMap K A), (∀ b ∈ l, key a ≠ key b) →
      l.foldl (fun m e => m.insert (key e) (value e)) (m.insert (key a) (value a)) =
        (l.foldl (fun m e => m.insert (key e) (value e)) m).insert (key a) (value a) := by
    intro a l
    induction l with
    | nil => exact fun _ _ => rfl
    | cons b l ih =>
      intro m hne
      obtain ⟨hhead, htail⟩ := List.forall_mem_cons.mp hne
      rw [List.foldl_cons, List.foldl_cons, insert_comm hhead, ih _ htail]
  induction first generalizing m with
  | nil => rw [List.nil_append, List.append_nil]
  | cons a first ih =>
    obtain ⟨hhead, htail⟩ := List.forall_mem_cons.mp hdisjoint
    rw [List.cons_append, List.foldl_cons, ih htail, List.foldl_append, List.foldl_append, List.foldl_cons,
      hpast a second m hhead]

end BTreeMap
