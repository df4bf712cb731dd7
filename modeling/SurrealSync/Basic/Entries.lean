import Mathlib.Data.List.Sort
import Std.Data.ExtTreeMap

open Std

namespace Entries

variable {K V : Type} [Ord K] [TransOrd K] [LawfulEqOrd K]

/-- The entries of a map in key order. -/
def Ordered (entries : List (K × V)) : Prop :=
  entries.Pairwise fun a b => compare a.1 b.1 = .lt

instance (entries : List (K × V)) : Decidable (Ordered entries) :=
  inferInstanceAs (Decidable (List.Pairwise _ _))

/-- Insertion of a key into the entries of a map, or nothing when the key is
already there. -/
def insert (key : K) (value : V) : List (K × V) → Option (List (K × V))
  | [] => some [(key, value)]
  | (k, v) :: entries =>
    match compare key k with
    | .lt => some ((key, value) :: (k, v) :: entries)
    | .eq => none
    | .gt => (insert key value entries).map ((k, v) :: ·)

omit [TransOrd K] [LawfulEqOrd K] in
theorem insert_perm {key : K} {value : V} {entries next : List (K × V)}
    (h : insert key value entries = some next) : next.Perm ((key, value) :: entries) := by
  induction entries generalizing next with
  | nil =>
    rw [insert, Option.some.injEq] at h
    exact h ▸ List.Perm.refl _
  | cons entry entries ih =>
    simp only [insert] at h
    split at h
    · exact Option.some.inj h ▸ List.Perm.refl _
    · cases h
    · obtain ⟨tail, htail, rfl⟩ := Option.map_eq_some_iff.mp h
      exact ((ih htail).cons entry).trans (List.Perm.swap _ _ _)

omit [LawfulEqOrd K] in
theorem ordered_insert {key : K} {value : V} {entries next : List (K × V)} (hordered : Ordered entries)
    (h : insert key value entries = some next) : Ordered next := by
  induction entries generalizing next with
  | nil =>
    rw [insert, Option.some.injEq] at h
    subst h
    simp [Ordered]
  | cons entry entries ih =>
    obtain ⟨hhead, htail⟩ := List.pairwise_cons.mp hordered
    simp only [insert] at h
    split at h
    · rename_i hlt
      cases h
      refine List.pairwise_cons.mpr ⟨?_, hordered⟩
      intro other hother
      rcases List.mem_cons.mp hother with rfl | hother
      · exact hlt
      · exact TransCmp.lt_trans hlt (hhead other hother)
    · cases h
    · rename_i hgt
      obtain ⟨tail, hinsert, rfl⟩ := Option.map_eq_some_iff.mp h
      refine List.pairwise_cons.mpr ⟨?_, ih htail hinsert⟩
      intro other hother
      rcases List.mem_cons.mp ((insert_perm hinsert).mem_iff.mp hother) with rfl | hother
      · exact OrientedCmp.lt_of_gt hgt
      · exact hhead other hother

omit [TransOrd K] in
theorem insert_isSome {key : K} (value : V) {entries : List (K × V)} (hfresh : key ∉ entries.map Prod.fst) :
    (insert key value entries).isSome := by
  induction entries with
  | nil => rfl
  | cons entry entries ih =>
    rw [List.map_cons, List.mem_cons, not_or] at hfresh
    simp only [insert]
    split
    · rfl
    · rename_i heq
      exact absurd (LawfulEqOrd.eq_of_compare heq) hfresh.1
    · simpa using ih hfresh.2

omit [LawfulEqOrd K] in
/-- The keys of a map determine the order of its entries. -/
theorem Ordered.eq_of_perm {entries others : List (K × V)} (hentries : Ordered entries)
    (hothers : Ordered others) (hperm : entries.Perm others) : entries = others := by
  apply hperm.eq_of_pairwise _ hentries hothers
  intro a b _ _ hab hba
  rw [OrientedCmp.gt_of_lt hab] at hba
  cases hba

omit [LawfulEqOrd K] in
theorem Ordered.nodup {entries : List (K × V)} (h : Ordered entries) : (entries.map Prod.fst).Nodup := by
  rw [List.Nodup, List.pairwise_map]
  apply h.imp
  intro a b hlt heq
  simp [heq] at hlt

theorem lookup_map_snd {A B : Type} {f : A → B} {entries : List (String × A)} {key : String} :
    (entries.map fun entry => (entry.1, f entry.2)).lookup key = (entries.lookup key).map f := by
  induction entries with
  | nil => rfl
  | cons entry entries ih =>
    obtain ⟨first, value⟩ := entry
    rw [List.map_cons, List.lookup_cons, List.lookup_cons, ih]
    cases key == first <;> rfl

theorem lookup_eq_none_iff_not_mem {A : Type} {entries : List (String × A)} {key : String} :
    entries.lookup key = none ↔ key ∉ entries.map Prod.fst := by
  rw [List.lookup_eq_none_iff, List.mem_map]
  constructor
  · rintro hall ⟨entry, hentry, rfl⟩
    simpa using hall entry hentry
  · intro hmem entry hentry
    simpa using fun heq => hmem ⟨entry, hentry, heq.symm⟩

end Entries
