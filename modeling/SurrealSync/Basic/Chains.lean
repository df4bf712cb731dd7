import Mathlib.Logic.Relation
import Mathlib.Order.WellFounded
import Mathlib.Data.Set.Insert

namespace Chains

variable {α : Type} {R R' : α → α → Prop} {known known' : Set α} {source target : α}

/-- Links between known members, no two of them to the same member, along which
one cannot go on for ever. -/
structure Grounded (R : α → α → Prop) (known : Set α) : Prop where
  known : ∀ a b, R a b → a ∈ known ∧ b ∈ known
  injective : ∀ a b c, R a c → R b c → a = b
  wellFounded : WellFounded (Function.swap R)

theorem Grounded.of_no_links (hnone : ∀ a b, ¬ R a b) : Grounded R known where
  known := fun a b h => absurd h (hnone a b)
  injective := fun a _ c h _ => absurd h (hnone a c)
  wellFounded := ⟨fun a => .intro a fun b h => absurd h (hnone a b)⟩

theorem Grounded.mono (hgrounded : Grounded R known) (hlinks : ∀ a b, R' a b → R a b)
    (hknown : known ⊆ known') : Grounded R' known' where
  known := fun a b h => ⟨hknown (hgrounded.known a b (hlinks a b h)).1,
    hknown (hgrounded.known a b (hlinks a b h)).2⟩
  injective := fun a b c ha hb => hgrounded.injective a b c (hlinks a c ha) (hlinks b c hb)
  wellFounded := Subrelation.wf (fun h => hlinks _ _ h) hgrounded.wellFounded

/-- A new link to a member nobody knew. The new member has no successor yet, so
every way through the new link ends there. -/
theorem Grounded.extend (hgrounded : Grounded R known) (hsource : source ∈ known)
    (htarget : target ∉ known) (hlinks : ∀ a b, R' a b → R a b ∨ (a = source ∧ b = target))
    (hknown : insert target known ⊆ known') : Grounded R' known' := by
  have hkept : known ⊆ known' := (Set.subset_insert target known).trans hknown
  have hlast : Acc (Function.swap R') target := by
    refine .intro target fun next hnext => ?_
    rcases hlinks target next hnext with hold | ⟨rfl, _⟩
    · exact absurd (hgrounded.known target next hold).1 htarget
    · exact absurd hsource htarget
  constructor
  · intro a b hlink
    rcases hlinks a b hlink with hold | ⟨rfl, rfl⟩
    · exact ⟨hkept (hgrounded.known a b hold).1, hkept (hgrounded.known a b hold).2⟩
    · exact ⟨hkept hsource, hknown (Set.mem_insert b known)⟩
  · intro a b c ha hb
    rcases hlinks a c ha with hold | ⟨rfl, rfl⟩
    · rcases hlinks b c hb with hold' | ⟨_, rfl⟩
      · exact hgrounded.injective a b c hold hold'
      · exact absurd (hgrounded.known a c hold).2 htarget
    · rcases hlinks b c hb with hold' | ⟨rfl, _⟩
      · exact absurd (hgrounded.known b c hold').2 htarget
      · rfl
  · refine ⟨fun a => ?_⟩
    induction a using hgrounded.wellFounded.induction with
    | _ a ih =>
      refine .intro a fun next hnext => ?_
      rcases hlinks a next hnext with hold | ⟨_, rfl⟩
      · exact ih next hold
      · exact hlast

theorem Grounded.acyclic (hgrounded : Grounded R known) (a : α) : ¬ Relation.TransGen R a a := by
  intro hcycle
  have hswapped : Relation.TransGen (Function.swap R) a a := Relation.transGen_swap.mpr hcycle
  exact hgrounded.wellFounded.transGen.asymmetric _ _ hswapped hswapped

/-- Every member leads to one without successor. -/
theorem Grounded.exists_end (hgrounded : Grounded R known) (a : α) :
    ∃ b, Relation.ReflTransGen R a b ∧ ∀ c, ¬ R b c := by
  induction a using hgrounded.wellFounded.induction with
  | _ a ih =>
    by_cases hnext : ∃ next, R a next
    · obtain ⟨next, hnext⟩ := hnext
      obtain ⟨b, hpath, hend⟩ := ih next hnext
      exact ⟨b, .head hnext hpath, hend⟩
    · exact ⟨a, .refl, fun c hc => hnext ⟨c, hc⟩⟩

end Chains
