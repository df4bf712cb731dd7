import Mathlib.Data.List.Basic

/-! Numbered entries that arrive in batches, possibly more than once. What counts
is the first delivery of each number. -/

namespace Delivery

variable {α : Type}

/-- The first delivery of each of the `count` numbers from `first` on, in
increasing order. Entries without a number are ignored. -/
def select (number : α → Option Nat) (delivered : List α) (first count : Nat) : List α :=
  (List.range' first count).filterMap fun n => delivered.find? fun entry => number entry = some n

theorem select_zero (number : α → Option Nat) (delivered : List α) (first : Nat) :
    select number delivered first 0 = [] := rfl

theorem select_add (number : α → Option Nat) (delivered : List α) (first count more : Nat) :
    select number delivered first (count + more) =
      select number delivered first count ++ select number delivered (first + count) more := by
  simp [select, ← List.range'_append_1, List.filterMap_append]

/-- Later deliveries do not displace a complete selection. -/
theorem select_append_of_complete {number : α → Option Nat} {delivered : List α} {first count : Nat}
    (hcomplete : ∀ n, first ≤ n → n < first + count → ∃ entry ∈ delivered, number entry = some n)
    (later : List α) :
    select number (delivered ++ later) first count = select number delivered first count := by
  apply List.filterMap_congr
  intro n hn
  obtain ⟨hlow, hhigh⟩ := List.mem_range'_1.mp hn
  obtain ⟨entry, hmem, hnumber⟩ := hcomplete n hlow hhigh
  rw [List.find?_append, Option.or_of_isSome]
  exact List.find?_isSome.mpr ⟨entry, hmem, decide_eq_true hnumber⟩

/-- Entries that arrive in order, with numbers nothing before them had, are
selected as they are. -/
theorem select_append_of_consecutive {number : α → Option Nat} {delivered later : List α} {first : Nat}
    (hfresh : ∀ entry ∈ delivered, ∀ n, number entry = some n → n < first)
    (hlater : later.map number = (List.range' first later.length).map some) :
    select number (delivered ++ later) first later.length = later := by
  induction later generalizing delivered first with
  | nil => rfl
  | cons entry later ih =>
    rw [List.length_cons, List.range'_succ, List.map_cons, List.map_cons, List.cons.injEq] at hlater
    obtain ⟨hentry, hlater⟩ := hlater
    have hhead : (delivered ++ entry :: later).find? (fun entry => number entry = some first) = some entry := by
      rw [List.find?_append, List.find?_eq_none.mpr]
      · simp [hentry]
      · intro other hother
        simp only [decide_eq_true_eq]
        exact fun hnumber => absurd (hfresh other hother first hnumber) (Nat.lt_irrefl _)
    have htail := @ih (delivered ++ [entry]) (first + 1) ?_ hlater
    · rw [List.append_assoc, List.singleton_append] at htail
      rw [List.length_cons, select, List.range'_succ, List.filterMap_cons, hhead]
      exact congrArg _ htail
    · intro other hother n hnumber
      rcases List.mem_append.mp hother with hother | hother
      · exact Nat.lt_succ_of_lt (hfresh other hother n hnumber)
      · rw [List.mem_singleton.mp hother, hentry] at hnumber
        cases hnumber
        exact Nat.lt_succ_self _

/-- A selection that lists every number of the interval is complete. -/
theorem exists_of_select {number : α → Option Nat} {delivered : List α} {first count : Nat}
    (hnumbers : (select number delivered first count).map number = (List.range' first count).map some)
    {n : Nat} (hlow : first ≤ n) (hhigh : n < first + count) :
    ∃ entry ∈ delivered, number entry = some n := by
  have hmem : some n ∈ (select number delivered first count).map number := by
    rw [hnumbers]
    exact List.mem_map_of_mem (List.mem_range'_1.mpr ⟨hlow, hhigh⟩)
  obtain ⟨entry, hentry, hnumber⟩ := List.mem_map.mp hmem
  obtain ⟨m, _, hfind⟩ := List.mem_filterMap.mp hentry
  exact ⟨entry, List.mem_of_find?_eq_some hfind, hnumber⟩

end Delivery
