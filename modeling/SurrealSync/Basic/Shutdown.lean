import Mathlib.Data.Set.Insert

/-! A registry of open handles and the shutdown that drains it. Handles are published into the registry while it is
running; the shutdown empties the registry and closes what it found, one handle after the other. -/

namespace Shutdown

inductive Phase (H : Type) where
  | running
  | draining (left : List H)
  | finished
deriving DecidableEq

structure State (H : Type) where
  opened : Set H
  published : Set H
  registry : List H
  phase : Phase H

namespace State

variable {H : Type} (s : State H)

def create (h : H) : State H := { s with opened := insert h s.opened }

def publish (h : H) : State H := { s with published := insert h s.published, registry := s.registry ++ [h] }

def drain : State H := { s with registry := [], phase := .draining s.registry }

def enter (phase : Phase H) : State H := { s with phase }

/-- Every published handle that is open will be found by the shutdown. -/
def Covered : Prop :=
  ∀ h ∈ s.published, h ∈ s.opened →
    match s.phase with
    | .running => h ∈ s.registry
    | .draining left => h ∈ left
    | .finished => False

variable {s} {h : H} {left : List H}

theorem Covered.create (hcovered : s.Covered) (hfresh : h ∉ s.published) : (s.create h).Covered := by
  intro k hpublished hopened
  rcases Set.mem_insert_iff.mp hopened with rfl | hopened
  · exact absurd hpublished hfresh
  · exact hcovered k hpublished hopened

theorem Covered.publish (hcovered : s.Covered) (hrunning : s.phase = .running) : (s.publish h).Covered := by
  intro k hpublished hopened
  simp only [State.publish, hrunning]
  rcases Set.mem_insert_iff.mp hpublished with rfl | hpublished
  · exact List.mem_append_right _ (List.mem_singleton_self k)
  · have hk := hcovered k hpublished hopened
    rw [hrunning] at hk
    exact List.mem_append_left _ hk

/-- Handles may be closed at any time, and by anyone. -/
theorem Covered.shrink (hcovered : s.Covered) {opened : Set H} (hclosed : opened ⊆ s.opened) :
    State.Covered { s with opened } :=
  fun k hpublished hopened => hcovered k hpublished (hclosed hopened)

theorem Covered.drain (hcovered : s.Covered) (hrunning : s.phase = .running) : s.drain.Covered := by
  intro k hpublished hopened
  have hk := hcovered k hpublished hopened
  rw [hrunning] at hk
  exact hk

theorem Covered.next (hcovered : s.Covered) (hdraining : s.phase = .draining (h :: left)) (hclosed : h ∉ s.opened) :
    (s.enter (.draining left)).Covered := by
  intro k hpublished hopened
  have hk := hcovered k hpublished hopened
  rw [hdraining] at hk
  rcases List.mem_cons.mp hk with rfl | hk
  · exact absurd hopened hclosed
  · exact hk

theorem Covered.finish (hcovered : s.Covered) (hdraining : s.phase = .draining left)
    (hclosed : ∀ k ∈ left, k ∉ s.opened) : (s.enter .finished).Covered := by
  intro k hpublished hopened
  have hk := hcovered k hpublished hopened
  rw [hdraining] at hk
  exact hclosed k hk hopened

/-- After the shutdown every published handle is closed. -/
theorem Covered.closed (hcovered : s.Covered) (hfinished : s.phase = .finished) (hpublished : h ∈ s.published) :
    h ∉ s.opened := by
  intro hopened
  have hk := hcovered h hpublished hopened
  rw [hfinished] at hk
  exact hk

end State

/-! ### Handles by their index -/

section Slots

variable {α : Type} {isOpen : α → Prop} {slots : List α}

/-- The open handles of a list of slots. -/
def openSlots (isOpen : α → Prop) (slots : List α) : Set Nat := { index | ∃ slot, slots[index]? = some slot ∧ isOpen slot }

theorem openSlots_append (slot : α) : openSlots isOpen (slots ++ [slot]) ⊆ insert slots.length (openSlots isOpen slots) := by
  rintro index ⟨found, hfound, hopen⟩
  rcases Nat.lt_or_ge index slots.length with hlt | hge
  · exact .inr ⟨found, List.getElem?_append_left hlt ▸ hfound, hopen⟩
  · have hbound := (List.getElem?_eq_some_iff.mp hfound).1
    rw [List.length_append, List.length_singleton] at hbound
    exact .inl (by omega)

theorem openSlots_modify {index : Nat} {update : α → α} (hcloses : ∀ slot, isOpen (update slot) → isOpen slot) :
    openSlots isOpen (slots.modify index update) ⊆ openSlots isOpen slots := by
  rintro other ⟨slot, hslot, hopen⟩
  rw [List.getElem?_modify] at hslot
  obtain ⟨before, hbefore, rfl⟩ := Option.map_eq_some_iff.mp hslot
  refine ⟨before, hbefore, ?_⟩
  split at hopen
  · exact hcloses before hopen
  · exact hopen

/-- The handle whose slot was just closed is not open. -/
theorem not_mem_openSlots_modify {index : Nat} {update : α → α} (hcloses : ∀ slot, ¬ isOpen (update slot)) :
    index ∉ openSlots isOpen (slots.modify index update) := by
  rintro ⟨slot, hslot, hopen⟩
  rw [List.getElem?_modify] at hslot
  obtain ⟨before, _, rfl⟩ := Option.map_eq_some_iff.mp hslot
  rw [if_pos rfl] at hopen
  exact hcloses before hopen

theorem not_mem_openSlots {index : Nat} {slot : α} (hslot : slots[index]? = some slot) (hclosed : ¬ isOpen slot) :
    index ∉ openSlots isOpen slots := by
  rintro ⟨found, hfound, hopen⟩
  cases hslot.symm.trans hfound
  exact hclosed hopen

theorem exists_closed_slot {index : Nat} (hbound : index < slots.length) (hclosed : index ∉ openSlots isOpen slots) :
    ∃ slot, slots[index]? = some slot ∧ ¬ isOpen slot := by
  have hslot : slots[index]? = some slots[index] := List.getElem?_eq_getElem hbound
  exact ⟨slots[index], hslot, fun hopen => hclosed ⟨slots[index], hslot, hopen⟩⟩

end Slots

end Shutdown
