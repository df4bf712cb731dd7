import Mathlib.Algebra.BigOperators.Group.List.Basic
import Mathlib.Algebra.Order.Ring.Nat

/-! A journal of consecutive steps, kept within a count and a size by dropping its oldest entries. -/

namespace BoundedJournal

variable {α : Type} (size : α → Nat) (maxCount maxSize : Nat)

def total (entries : List α) : Nat := (entries.map size).sum

/-- Drops entries from the front until one of `length` fits; `used` is the size of what is kept. -/
def makeRoom (length : Nat) : List α → Nat → List α × Nat
  | [], used => ([], used)
  | old :: entries, used =>
    if maxCount ≤ (old :: entries).length ∨ maxSize < used + length then makeRoom length entries (used - size old)
    else (old :: entries, used)

/-- The loop as a `while` runs it: without an entry to drop it goes round for nothing. -/
def evict (length : Nat) : Nat → List α → Nat → Option (List α × Nat)
  | 0, _, _ => none
  | rounds + 1, entries, used =>
    if maxCount ≤ entries.length ∨ maxSize < used + length then
      match entries with
      | [] => evict length rounds [] used
      | old :: entries => evict length rounds entries (used - size old)
    else some (entries, used)

section Room

variable {size maxCount maxSize} {length used : Nat} {entries : List α}

theorem total_cons_sub (old : α) : total size (old :: entries) - size old = total size entries := by simp [total]

/-- Making room keeps a suffix and its exact size, and leaves a place. -/
theorem makeRoom_spec (hused : used = total size entries) (hcount : 0 < maxCount) (hfits : length ≤ maxSize) :
    ∃ count, makeRoom size maxCount maxSize length entries used =
        (entries.drop count, total size (entries.drop count)) ∧
      (entries.drop count).length < maxCount ∧ total size (entries.drop count) + length ≤ maxSize := by
  subst hused
  induction entries with
  | nil => exact ⟨0, rfl, hcount, by simpa [total] using hfits⟩
  | cons old entries ih =>
    by_cases hfull : maxCount ≤ (old :: entries).length ∨ maxSize < total size (old :: entries) + length
    · obtain ⟨count, hroom, hleft, hwithin⟩ := ih
      refine ⟨count + 1, ?_, hleft, hwithin⟩
      rw [makeRoom, if_pos hfull, total_cons_sub, hroom]
      rfl
    · refine ⟨0, ?_, ?_, ?_⟩
      · rw [makeRoom, if_neg hfull]
        rfl
      · exact Nat.lt_of_not_le (not_or.mp hfull).1
      · exact Nat.le_of_not_lt (not_or.mp hfull).2

/-- With an exact size the loop ends before it runs out of entries. -/
theorem evict_eq_makeRoom (hused : used = total size entries) (hcount : 0 < maxCount) (hfits : length ≤ maxSize) :
    evict size maxCount maxSize length (entries.length + 1) entries used =
      some (makeRoom size maxCount maxSize length entries used) := by
  subst hused
  induction entries with
  | nil =>
    have hroomy : ¬ (maxCount ≤ ([] : List α).length ∨ maxSize < total size ([] : List α) + length) := by
      simp only [total, List.length_nil, List.map_nil, List.sum_nil]
      omega
    rw [evict, if_neg hroomy]
    rfl
  | cons old entries ih =>
    by_cases hfull : maxCount ≤ (old :: entries).length ∨ maxSize < total size (old :: entries) + length
    · rw [evict, if_pos hfull, makeRoom, if_pos hfull, total_cons_sub]
      exact ih
    · rw [evict, if_neg hfull, makeRoom, if_neg hfull]

end Room

/-! ### A loop that runs until its round has nothing to do -/

section Settle

variable {σ : Type} {round : σ → Option σ}

def settle (round : σ → Option σ) : Nat → σ → Option σ
  | 0, _ => none
  | rounds + 1, s =>
    match round s with
    | some next => settle round rounds next
    | none => some s

/-- The loop ends when every round makes something smaller, and keeps what every round keeps. -/
theorem settle_spec {P : σ → Prop} {measure : σ → Nat} (hsmaller : ∀ s next, round s = some next → measure next < measure s)
    (hkeeps : ∀ s next, round s = some next → P s → P next) {rounds : Nat} {s : σ} (hrounds : measure s < rounds)
    (hs : P s) : ∃ last, settle round rounds s = some last ∧ round last = none ∧ P last := by
  induction rounds generalizing s with
  | zero => exact absurd hrounds (Nat.not_lt_zero _)
  | succ rounds ih =>
    cases hround : round s with
    | none => exact ⟨s, by rw [settle, hround], hround, hs⟩
    | some next =>
      have hlt := hsmaller s next hround
      obtain ⟨last, hlast, hends, hkept⟩ := ih (by omega) (hkeeps s next hround hs)
      refine ⟨last, ?_, hends, hkept⟩
      rw [settle, hround]
      exact hlast

end Settle

/-! ### Consecutive steps -/

variable (before after : α → Nat)

/-- Steps of one, each from where the one before it ended. -/
def Consecutive : Nat → List α → Nat → Prop
  | start, [], stop => start = stop
  | start, entry :: entries, stop =>
    before entry = start ∧ after entry = start + 1 ∧ Consecutive (start + 1) entries stop

variable {before after} {start middle stop : Nat} {entries later : List α}

theorem Consecutive.length (hsteps : Consecutive before after start entries stop) : start + entries.length = stop := by
  induction entries generalizing start with
  | nil => exact hsteps
  | cons entry entries ih =>
    have hrest := ih hsteps.2.2
    rw [List.length_cons]
    omega

theorem Consecutive.append (hsteps : Consecutive before after start entries middle)
    (hlater : Consecutive before after middle later stop) : Consecutive before after start (entries ++ later) stop := by
  induction entries generalizing start with
  | nil =>
    cases hsteps
    exact hlater
  | cons entry entries ih => exact ⟨hsteps.1, hsteps.2.1, ih hsteps.2.2⟩

theorem Consecutive.drop (hsteps : Consecutive before after start entries stop) (count : Nat) :
    ∃ middle, Consecutive before after middle (entries.drop count) stop := by
  induction entries generalizing start count with
  | nil =>
    rw [List.drop_nil]
    exact ⟨stop, rfl⟩
  | cons entry entries ih =>
    cases count with
    | zero => exact ⟨start, hsteps⟩
    | succ count => exact ih hsteps.2.2 count

theorem Consecutive.lt_after (hsteps : Consecutive before after start entries stop) {entry : α} (hentry : entry ∈ entries) :
    start < after entry := by
  induction entries generalizing start with
  | nil => cases hentry
  | cons first entries ih =>
    rcases List.mem_cons.mp hentry with rfl | hentry
    · rw [hsteps.2.1]
      exact Nat.lt_succ_self start
    · exact Nat.lt_of_succ_lt (ih hsteps.2.2 hentry)

theorem Consecutive.take (hsteps : Consecutive before after start entries stop) (count : Nat) :
    Consecutive before after start (entries.take count) (start + min count entries.length) := by
  induction entries generalizing start count with
  | nil => simp [Consecutive]
  | cons entry entries ih =>
    cases count with
    | zero => simp [Consecutive]
    | succ count =>
      refine ⟨hsteps.1, hsteps.2.1, ?_⟩
      have hrest := ih hsteps.2.2 count
      rw [List.length_cons, Nat.add_min_add_right, ← Nat.add_assoc, Nat.add_right_comm]
      exact hrest

/-- The steps that end after a revision are those from it on. -/
theorem Consecutive.filter_after (hsteps : Consecutive before after start entries stop) {revision : Nat}
    (hstart : start ≤ revision) (hstop : revision ≤ stop) :
    Consecutive before after revision (entries.filter fun entry => revision < after entry) stop := by
  induction entries generalizing start with
  | nil =>
    cases hsteps
    exact Nat.le_antisymm hstop hstart
  | cons entry entries ih =>
    obtain ⟨hbefore, hafter, hrest⟩ := hsteps
    by_cases hlater : start + 1 ≤ revision
    · rw [List.filter_cons_of_neg (by simp only [hafter, decide_eq_true_eq]; omega)]
      exact ih hrest hlater
    · obtain rfl : start = revision := by omega
      rw [List.filter_cons_of_pos (by simp only [hafter, decide_eq_true_eq]; omega), List.filter_eq_self.mpr]
      · exact ⟨hbefore, hafter, hrest⟩
      · intro other hother
        have hle := hrest.lt_after hother
        simp only [decide_eq_true_eq]
        omega

end BoundedJournal
