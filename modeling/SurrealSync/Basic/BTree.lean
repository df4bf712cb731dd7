import Std.Data.ExtTreeMap
import Std.Data.ExtTreeSet
import SurrealSync.Basic.Result

open Std

/-- Rust's `BTreeMap`: a finite map whose iteration order is the key order.
Two maps are equal when their lookups agree. -/
abbrev BTreeMap (K V : Type) [Ord K] := ExtTreeMap K V compare

/-- Rust's `BTreeSet`. -/
abbrev BTreeSet (K : Type) [Ord K] := ExtTreeSet K compare

namespace BTreeSet

variable {K : Type} [Ord K] [TransOrd K]

/-- `if !set.insert(key) { return Err(error) }`: insertion into a set of keys
already seen, refusing a repeated key. -/
def insertFresh {ε : Type} (set : BTreeSet K) (key : K) (error : ε) : Except ε (BTreeSet K) :=
  if key ∈ set then .error error else .ok (set.insert key)

theorem insertFresh_eq_ok_iff {ε : Type} {set next : BTreeSet K} {key : K} {error : ε} :
    set.insertFresh key error = .ok next ↔ key ∉ set ∧ next = set.insert key := by
  unfold insertFresh
  split <;> simp_all [eq_comm]

theorem mem_foldl_insert [LawfulEqOrd K] {α : Type} {key : α → K} {l : List α} {seen : BTreeSet K} {k : K} :
    k ∈ l.foldl (fun seen a => seen.insert (key a)) seen ↔ k ∈ seen ∨ k ∈ l.map key := by
  induction l generalizing seen with
  | nil => simp
  | cons a l ih =>
    rw [List.foldl_cons, ih]
    simp only [ExtTreeSet.mem_insert, LawfulEqOrd.compare_eq_iff_eq, List.map_cons, List.mem_cons]
    grind

/-- A loop that checks each element and refuses repeated keys succeeds exactly
when every element passes its check and the keys are distinct and unseen. -/
theorem foldlM_insertFresh_eq_ok_iff [LawfulEqOrd K] {ε α : Type} {check : α → Except ε Unit} {key : α → K}
    {error : α → ε} {l : List α} {seen last : BTreeSet K} :
    l.foldlM (fun seen a => do check a; insertFresh seen (key a) (error a)) seen = .ok last ↔
      (∀ a ∈ l, check a = .ok ()) ∧ (l.map key).Nodup ∧ (∀ a ∈ l, key a ∉ seen) ∧
        last = l.foldl (fun seen a => seen.insert (key a)) seen := by
  induction l generalizing seen with
  | nil => simp [pure, Except.pure, eq_comm]
  | cons a l ih =>
    rw [Except.foldlM_cons_eq_ok_iff]
    simp only [Except.bind_eq_ok_iff, insertFresh_eq_ok_iff, ih, List.mem_cons, List.map_cons,
      List.nodup_cons, List.foldl_cons, List.mem_map]
    constructor
    · rintro ⟨_, ⟨_, hcheck, hfresh, rfl⟩, hchecks, hnodup, hunseen, rfl⟩
      refine ⟨?_, ⟨?_, hnodup⟩, ?_, rfl⟩
      · rintro b (rfl | hb)
        · exact hcheck
        · exact hchecks b hb
      · rintro ⟨b, hb, hkey⟩
        apply hunseen b hb
        simp [ExtTreeSet.mem_insert, hkey]
      · rintro b (rfl | hb)
        · exact hfresh
        · intro hmem
          exact hunseen b hb (ExtTreeSet.mem_insert.mpr (.inr hmem))
    · rintro ⟨hchecks, ⟨hnew, hnodup⟩, hunseen, rfl⟩
      refine ⟨_, ⟨(), hchecks a (.inl rfl), hunseen a (.inl rfl), rfl⟩,
        fun b hb => hchecks b (.inr hb), hnodup, fun b hb hmem => ?_, rfl⟩
      rcases ExtTreeSet.mem_insert.mp hmem with heq | hmem
      · exact hnew ⟨b, hb, (LawfulEqOrd.compare_eq_iff_eq.mp heq).symm⟩
      · exact hunseen b (.inr hb) hmem

theorem foldlM_insertFresh_only_eq_ok_iff [LawfulEqOrd K] {ε α : Type} {key : α → K} {error : α → ε}
    {l : List α} {seen last : BTreeSet K} :
    l.foldlM (fun seen a => insertFresh seen (key a) (error a)) seen = .ok last ↔
      (l.map key).Nodup ∧ (∀ a ∈ l, key a ∉ seen) ∧
        last = l.foldl (fun seen a => seen.insert (key a)) seen := by
  have hloop := @foldlM_insertFresh_eq_ok_iff K _ _ _ ε α (fun _ => .ok ()) key error l seen last
  simpa using hloop

/-- A set whose members all occur in a list is no larger than the list. -/
theorem size_le_length [LawfulEqOrd K] {s : BTreeSet K} {l : List K} (hmembers : ∀ k ∈ s, k ∈ l) : s.size ≤ l.length := by
  have hnodup : s.toList.Nodup := s.distinct_toList.imp fun hne heq => hne (LawfulEqOrd.compare_eq_iff_eq.mpr heq)
  have hsubset : s.toList ⊆ l := fun k hk => hmembers k (ExtTreeSet.mem_toList.mp hk)
  have hle := hnodup.length_le_of_subset hsubset
  rwa [ExtTreeSet.length_toList] at hle

theorem mem_ofList_iff [LawfulEqOrd K] {l : List K} {k : K} : k ∈ (ExtTreeSet.ofList l : BTreeSet K) ↔ k ∈ l := by
  classical
  rw [ExtTreeSet.mem_ofList, List.contains_iff_mem]

/-- Collecting a list into a set keeps its length exactly when nothing repeats. -/
theorem size_ofList_eq_length_iff [LawfulEqOrd K] {l : List K} :
    (ExtTreeSet.ofList l : BTreeSet K).size = l.length ↔ l.Nodup := by
  constructor
  · intro hsize
    induction l with
    | nil => exact List.nodup_nil
    | cons k l ih =>
      have hlength : (k :: l).length = l.length + 1 := List.length_cons
      have htail : (ExtTreeSet.ofList l : BTreeSet K).size ≤ l.length := ExtTreeSet.size_ofList_le
      have hfresh : k ∉ l := by
        intro hmem
        have hle : (ExtTreeSet.ofList (k :: l) : BTreeSet K).size ≤ l.length := by
          apply size_le_length
          intro other hother
          rcases List.mem_cons.mp (mem_ofList_iff.mp hother) with rfl | hother
          · exact hmem
          · exact hother
        omega
      have hcons : (ExtTreeSet.ofList (k :: l) : BTreeSet K).size ≤
          (k :: (ExtTreeSet.ofList l : BTreeSet K).toList).length := by
        apply size_le_length
        intro other hother
        rw [List.mem_cons, ExtTreeSet.mem_toList, mem_ofList_iff]
        exact List.mem_cons.mp (mem_ofList_iff.mp hother)
      rw [List.length_cons, ExtTreeSet.length_toList] at hcons
      exact List.nodup_cons.mpr ⟨hfresh, ih (by omega)⟩
  · intro hnodup
    exact ExtTreeSet.size_ofList (hnodup.imp fun hne heq => hne (LawfulEqOrd.compare_eq_iff_eq.mp heq))

end BTreeSet

namespace BTreeMap

variable {K A B : Type} [Ord K] [TransOrd K]

/-- Rust's `BTreeMap::values`, in key order. -/
def vals (m : BTreeMap K A) : List A := m.toList.map Prod.snd

theorem exists_of_mem {m : BTreeMap K A} {k : K} (hmem : k ∈ m) : ∃ a, m[k]? = some a :=
  Option.isSome_iff_exists.mp (ExtTreeMap.mem_iff_isSome_getElem?.mp hmem)

theorem mem_of_getElem? {m : BTreeMap K A} {k : K} {a : A} (hget : m[k]? = some a) : k ∈ m :=
  ExtTreeMap.mem_iff_isSome_getElem?.mpr (Option.isSome_iff_exists.mpr ⟨a, hget⟩)

theorem getElem?_of_erase {m : BTreeMap K A} {k erased : K} {a : A} (hget : (m.erase erased)[k]? = some a) :
    m[k]? = some a := by
  rw [ExtTreeMap.getElem?_erase] at hget
  split at hget
  · cases hget
  · exact hget

variable [LawfulEqOrd K]

theorem getElem?_insert_of_ne {m : BTreeMap K A} {k inserted : K} {a : A} (hne : k ≠ inserted) :
    (m.insert inserted a)[k]? = m[k]? := by
  rw [ExtTreeMap.getElem?_insert, if_neg]
  exact fun heq => hne (LawfulEqOrd.compare_eq_iff_eq.mp heq).symm

theorem getElem?_erase_of_ne {m : BTreeMap K A} {k erased : K} (hne : k ≠ erased) :
    (m.erase erased)[k]? = m[k]? := by
  rw [ExtTreeMap.getElem?_erase, if_neg]
  exact fun heq => hne (LawfulEqOrd.compare_eq_iff_eq.mp heq).symm

theorem mem_vals_iff {m : BTreeMap K A} {a : A} : a ∈ m.vals ↔ ∃ k : K, m[k]? = some a := by
  simp [vals, ExtTreeMap.mem_toList_iff_getElem?_eq_some]

theorem mem_map_fst_toList_iff {m : BTreeMap K A} {k : K} :
    k ∈ m.toList.map Prod.fst ↔ k ∈ m := by
  rw [ExtTreeMap.map_fst_toList_eq_keys, ExtTreeMap.mem_keys]

theorem nodup_keys (m : BTreeMap K A) : (m.toList.map Prod.fst).Nodup := by
  rw [List.Nodup, List.pairwise_map]
  exact m.distinct_keys_toList.imp fun hne heq => hne (LawfulEqOrd.compare_eq_iff_eq.mpr heq)

/-- A map is rebuilt from its entries in any order. -/
theorem ofList_of_perm {m : BTreeMap K A} {entries : List (K × A)} (hperm : entries.Perm m.toList) :
    ExtTreeMap.ofList entries compare = m := by
  have hdistinct : entries.Pairwise fun a b => ¬ compare a.1 b.1 = .eq := by
    apply hperm.symm.pairwise m.distinct_keys_toList
    intro a b hne heq
    exact hne (OrientedCmp.eq_symm heq)
  apply ExtTreeMap.ext_getElem?
  intro k
  cases hget : m[k]? with
  | some a =>
    have hmem : (k, a) ∈ entries := hperm.mem_iff.mpr (ExtTreeMap.mem_toList_iff_getElem?_eq_some.mpr hget)
    exact ExtTreeMap.getElem?_ofList_of_mem ReflCmp.compare_self hdistinct hmem
  | none =>
    rw [getElem?_eq_none_iff, ← mem_map_fst_toList_iff, ← (hperm.map Prod.fst).mem_iff] at hget
    classical
    rw [getElem?_eq_none_iff, ExtTreeMap.mem_ofList, List.contains_iff_mem]
    exact hget

/-- A map whose keys all occur in a list is no larger than the list. -/
theorem size_le_length {m : BTreeMap K A} {l : List K} (hkeys : ∀ k ∈ m, k ∈ l) : m.size ≤ l.length := by
  have hsubset : m.toList.map Prod.fst ⊆ l := fun k hk => hkeys k (mem_map_fst_toList_iff.mp hk)
  have hle := m.nodup_keys.length_le_of_subset hsubset
  rwa [List.length_map, ExtTreeMap.length_toList] at hle

theorem size_le_of_keys {m : BTreeMap K A} {n : BTreeMap K B} (hkeys : ∀ k ∈ m, k ∈ n) : m.size ≤ n.size := by
  rw [← n.length_keys]
  exact size_le_length fun k hk => ExtTreeMap.mem_keys.mpr (hkeys k hk)

/-- The entries of a map with one entry written, in some order. -/
theorem toList_insert_perm (m : BTreeMap K A) (k : K) (a : A) [DecidableEq K] :
    (m.insert k a).toList.Perm ((k, a) :: m.toList.filter fun entry => entry.1 ≠ k) := by
  have hnodup (m : BTreeMap K A) : m.toList.Nodup := List.Nodup.of_map _ m.nodup_keys
  rw [List.perm_ext_iff_of_nodup (hnodup _)]
  · rintro ⟨key, value⟩
    simp only [ExtTreeMap.mem_toList_iff_getElem?_eq_some, List.mem_cons, Prod.mk.injEq, List.mem_filter,
      decide_eq_true_eq]
    by_cases hkey : key = k
    · subst hkey
      simp [eq_comm]
    · rw [getElem?_insert_of_ne hkey]
      simp [hkey]
  · refine List.nodup_cons.mpr ⟨?_, (hnodup m).filter _⟩
    simp

/-- Writing a smaller value makes a sum over the values smaller. -/
theorem sum_vals_insert_lt {m : BTreeMap K A} {k : K} {a b : A} {f : A → Nat} (hget : m[k]? = some a) (hlt : f b < f a) :
    ((vals (m.insert k b)).map f).sum < (m.vals.map f).sum := by
  classical
  have hinsert (value : A) : ((vals (m.insert k value)).map f).sum =
      f value + ((m.toList.filter fun entry => entry.1 ≠ k).map fun entry => f entry.2).sum := by
    rw [vals, List.map_map, ((m.toList_insert_perm k value).map _).sum_nat]
    rfl
  have hsame : m.insert k a = m := by
    apply ExtTreeMap.ext_getElem?
    intro key
    by_cases hkey : key = k
    · rw [hkey, ExtTreeMap.getElem?_insert_self, hget]
    · rw [getElem?_insert_of_ne hkey]
  have hwritten := hinsert b
  have hbefore := hinsert a
  rw [hsame] at hbefore
  omega

/-- A loop over distinct keys that writes each key's entry from what it was. -/
theorem getElem?_foldl_insert {f : K → Option A → A} {k : K} {l : List K} (hnodup : l.Nodup) (m : BTreeMap K A) :
    (k ∈ l → (l.foldl (fun m key => m.insert key (f key m[key]?)) m)[k]? = some (f k m[k]?)) ∧
      (k ∉ l → (l.foldl (fun m key => m.insert key (f key m[key]?)) m)[k]? = m[k]?) := by
  induction l generalizing m with
  | nil => simp
  | cons key l ih =>
    obtain ⟨hfresh, hrest⟩ := List.nodup_cons.mp hnodup
    rw [List.foldl_cons]
    constructor
    · intro hmem
      rcases List.mem_cons.mp hmem with rfl | hmem
      · rw [(ih hrest _).2 hfresh, ExtTreeMap.getElem?_insert_self]
      · rw [(ih hrest _).1 hmem, getElem?_insert_of_ne (ne_of_mem_of_not_mem hmem hfresh)]
    · intro hmem
      obtain ⟨hne, hmem⟩ := not_or.mp (List.mem_cons.not.mp hmem)
      rw [(ih hrest _).2 hmem, getElem?_insert_of_ne hne]

/-- A loop that computes one value for each entry and stores it under the entry's
key succeeds exactly with the map that holds every computed value. -/
theorem foldlM_insert_eq_ok_iff {ε : Type} {g : K × A → Except ε B} {l : List (K × A)}
    (hkeys : (l.map Prod.fst).Nodup) {m last : BTreeMap K B} :
    l.foldlM (fun m e => do let b ← g e; .ok (m.insert e.1 b)) m = .ok last ↔
      (∀ e ∈ l, ∃ b, g e = .ok b ∧ last[e.1]? = some b) ∧ ∀ k ∉ l.map Prod.fst, last[k]? = m[k]? := by
  induction l generalizing m with
  | nil =>
    simp only [List.foldlM_nil, pure, Except.pure, Except.ok.injEq, List.not_mem_nil, false_imp_iff,
      implies_true, true_and, List.map_nil, not_false_eq_true, true_imp_iff]
    constructor
    · rintro rfl k
      rfl
    · intro hlookup
      exact (ExtTreeMap.ext_getElem? hlookup).symm
  | cons e l ih =>
    rw [List.map_cons, List.nodup_cons] at hkeys
    rw [Except.foldlM_cons_eq_ok_iff]
    rw [List.forall_mem_cons]
    simp only [Except.bind_eq_ok_iff, Except.ok.injEq, List.map_cons, List.mem_cons, not_or]
    constructor
    · rintro ⟨_, ⟨b, hb, rfl⟩, hrest⟩
      obtain ⟨hl, hother⟩ := (ih hkeys.2).mp hrest
      refine ⟨⟨⟨b, hb, ?_⟩, hl⟩, ?_⟩
      · rw [hother _ hkeys.1]
        simp
      · rintro k ⟨hne, hk⟩
        rw [hother k hk, getElem?_insert_of_ne hne]
    · rintro ⟨⟨⟨b, hb, hlookup⟩, hl⟩, hother⟩
      refine ⟨_, ⟨b, hb, rfl⟩, (ih hkeys.2).mpr ⟨hl, fun k hk => ?_⟩⟩
      rw [ExtTreeMap.getElem?_insert]
      split
      · rename_i heq
        rw [← LawfulEqOrd.compare_eq_iff_eq.mp heq]
        exact hlookup
      · rename_i hne
        exact hother k ⟨fun heq => hne (by simp [heq]), hk⟩

theorem foldlM_toList_insert_eq_ok_iff {ε : Type} {g : K × A → Except ε B} {m : BTreeMap K A}
    {last : BTreeMap K B} :
    m.toList.foldlM (fun found e => do let b ← g e; .ok (found.insert e.1 b)) (∅ : BTreeMap K B) =
        .ok last ↔
      (∀ (k : K) (a : A), m[k]? = some a → ∃ b, g (k, a) = .ok b ∧ last[k]? = some b) ∧
        ∀ k : K, m[k]? = none → last[k]? = none := by
  rw [foldlM_insert_eq_ok_iff m.nodup_keys]
  simp only [Prod.forall, ExtTreeMap.mem_toList_iff_getElem?_eq_some, mem_map_fst_toList_iff,
    ExtTreeMap.getElem?_empty, getElem?_eq_none_iff]

end BTreeMap
