import Mathlib.Data.List.Forall2

/-- A kind of object that can be withdrawn for good: its invariant, when it is withdrawn, and what it has shown. -/
structure Withdrawal (S E : Type) where
  Valid : S → Prop
  Withdrawn : S → Prop
  shown : S → E

namespace Withdrawal

variable {S E : Type} {view : Withdrawal S E}

/-- A change that keeps the invariant, and under which a withdrawn object stays withdrawn and shows nothing
more. -/
structure Keeps (view : Withdrawal S E) (before after : S) : Prop where
  valid : view.Valid before → view.Valid after
  frozen : view.Valid before → view.Withdrawn before →
    view.Withdrawn after ∧ view.shown after = view.shown before

theorem Keeps.refl (object : S) : view.Keeps object object :=
  ⟨id, fun _ hwithdrawn => ⟨hwithdrawn, rfl⟩⟩

theorem Keeps.trans {first second third : S} (hfirst : view.Keeps first second) (hsecond : view.Keeps second third) :
    view.Keeps first third := by
  refine ⟨fun hvalid => hsecond.valid (hfirst.valid hvalid), fun hvalid hwithdrawn => ?_⟩
  obtain ⟨hmiddle, hshown⟩ := hfirst.frozen hvalid hwithdrawn
  obtain ⟨hlast, hshown'⟩ := hsecond.frozen (hfirst.valid hvalid) hmiddle
  exact ⟨hlast, hshown'.trans hshown⟩

/-- A change of an object that is not withdrawn. -/
theorem Keeps.of_open {before after : S} (hopen : ¬ view.Withdrawn before) (hvalid : view.Valid before → view.Valid after) :
    view.Keeps before after :=
  ⟨hvalid, fun _ hwithdrawn => absurd hwithdrawn hopen⟩

theorem forall_valid {before after : List S} (hkeeps : List.Forall₂ view.Keeps before after)
    (hvalid : ∀ object ∈ before, view.Valid object) : ∀ object ∈ after, view.Valid object := by
  induction hkeeps with
  | nil => exact fun _ h => (nomatch h)
  | cons hhead _ ih =>
    obtain ⟨hfirst, hrest⟩ := List.forall_mem_cons.mp hvalid
    exact List.forall_mem_cons.mpr ⟨hhead.valid hfirst, ih hrest⟩

theorem forall_frozen {before after : List S} (hkeeps : List.Forall₂ view.Keeps before after)
    (hvalid : ∀ object ∈ before, view.Valid object) (hwithdrawn : ∀ object ∈ before, view.Withdrawn object) :
    (∀ object ∈ after, view.Withdrawn object) ∧ after.map view.shown = before.map view.shown := by
  induction hkeeps with
  | nil => exact ⟨fun _ h => (nomatch h), rfl⟩
  | cons hhead _ ih =>
    obtain ⟨hfirst, hrest⟩ := List.forall_mem_cons.mp hvalid
    obtain ⟨hgone, hgoneRest⟩ := List.forall_mem_cons.mp hwithdrawn
    obtain ⟨hhead, hshown⟩ := hhead.frozen hfirst hgone
    obtain ⟨htail, hshownRest⟩ := ih hrest hgoneRest
    exact ⟨List.forall_mem_cons.mpr ⟨hhead, htail⟩, by rw [List.map_cons, List.map_cons, hshown, hshownRest]⟩

theorem forall₂_refl (objects : List S) : List.Forall₂ view.Keeps objects objects :=
  List.forall₂_same.mpr fun object _ => Keeps.refl object

theorem forall₂_map {change : S → S} (hkeeps : ∀ object, view.Keeps object (change object)) (objects : List S) :
    List.Forall₂ view.Keeps objects (objects.map change) := by
  rw [List.forall₂_map_right_iff]
  exact List.forall₂_same.mpr fun object _ => hkeeps object

theorem forall₂_set {objects : List S} {index : Nat} {before after : S} (hget : objects[index]? = some before)
    (hkeeps : view.Keeps before after) : List.Forall₂ view.Keeps objects (objects.set index after) := by
  induction objects generalizing index with
  | nil => cases hget
  | cons object objects ih =>
    cases index with
    | zero =>
      cases hget
      exact .cons hkeeps (forall₂_refl objects)
    | succ index => exact .cons (Keeps.refl object) (ih hget)

theorem forall₂_modify {change : S → S} (hkeeps : ∀ object, view.Keeps object (change object)) (objects : List S)
    (index : Nat) : List.Forall₂ view.Keeps objects (objects.modify index change) := by
  induction objects generalizing index with
  | nil =>
    rw [List.modify_nil]
    exact .nil
  | cons object objects ih =>
    cases index with
    | zero => exact .cons (hkeeps object) (forall₂_refl objects)
    | succ index => exact .cons (Keeps.refl object) (ih index)

end Withdrawal
