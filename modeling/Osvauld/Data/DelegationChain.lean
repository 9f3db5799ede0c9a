import Mathlib.Data.List.Basic

namespace Osvauld.Data

/-! Chains of tokens, each linked to the parent it was delegated from, up to
one that a root authority issued. -/

inductive DelegationChain {Token : Type u} (linked : Token → Token → Prop)
    (rooted : Token → Prop) : Token → List Token → Prop
  | root : rooted leaf → DelegationChain linked rooted leaf [leaf]
  | delegated : linked leaf parent →
      DelegationChain linked rooted parent chain →
      DelegationChain linked rooted leaf (leaf :: chain)

namespace DelegationChain

variable {Token : Type u} {linked : Token → Token → Prop}
variable {rooted : Token → Prop}

theorem leaf_mem (hchain : DelegationChain linked rooted leaf chain) :
    leaf ∈ chain := by
  cases hchain with
  | root _ => exact List.mem_singleton.mpr rfl
  | delegated _ _ => exact List.mem_cons_self

theorem mono {linked' : Token → Token → Prop} {rooted' : Token → Prop}
    (hlinked : ∀ child parent, linked child parent → linked' child parent)
    (hrooted : ∀ token, rooted token → rooted' token)
    (hchain : DelegationChain linked rooted leaf chain) :
    DelegationChain linked' rooted' leaf chain := by
  induction hchain with
  | root hroot => exact .root (hrooted _ hroot)
  | delegated hlink _ ih => exact .delegated (hlinked _ _ hlink) ih

/-- What every link guarantees of its parent holds of the whole chain as soon
as it holds of the leaf. -/
theorem forall_mem {property : Token → Prop}
    (hlinked : ∀ child parent, linked child parent → property parent)
    (hleaf : property leaf) (hchain : DelegationChain linked rooted leaf chain) :
    ∀ token ∈ chain, property token := by
  induction hchain with
  | root _ =>
      intro token hmem
      rw [List.mem_singleton] at hmem
      exact hmem ▸ hleaf
  | delegated hlink _ ih =>
      intro token hmem
      cases List.mem_cons.mp hmem with
      | inl heq => exact heq ▸ hleaf
      | inr htail => exact ih (hlinked _ _ hlink) token htail

section Descent

variable {measure : Token → Nat}

theorem exists_of_descent
    (hnext : ∀ token, rooted token ∨ ∃ parent, linked token parent ∧ measure parent < measure token)
    (leaf : Token) :
    ∃ chain, DelegationChain linked rooted leaf chain ∧ chain.length ≤ measure leaf + 1 := by
  induction hsize : measure leaf using Nat.strongRecOn generalizing leaf with
  | ind size ih =>
      subst hsize
      rcases hnext leaf with hroot | ⟨parent, hlink, hless⟩
      · exact ⟨[leaf], .root hroot, by simp⟩
      · obtain ⟨chain, hchain, hlength⟩ := ih _ hless parent rfl
        refine ⟨leaf :: chain, .delegated hlink hchain, ?_⟩
        rw [List.length_cons]
        omega

variable (hdescent : ∀ child parent, linked child parent → measure parent < measure child)

include hdescent

theorem measure_le (hchain : DelegationChain linked rooted leaf chain) :
    ∀ token ∈ chain, measure token ≤ measure leaf := by
  induction hchain with
  | root _ =>
      intro token hmem
      exact Nat.le_of_eq (congrArg measure (List.mem_singleton.mp hmem))
  | delegated hlink _ ih =>
      intro token hmem
      rcases List.mem_cons.mp hmem with rfl | htail
      · exact Nat.le_refl _
      · exact Nat.le_trans (ih token htail) (Nat.le_of_lt (hdescent _ _ hlink))

theorem pairwise_measure (hchain : DelegationChain linked rooted leaf chain) :
    chain.Pairwise fun child ancestor => measure ancestor < measure child := by
  induction hchain with
  | root _ => exact List.pairwise_singleton _ _
  | delegated hlink htail ih =>
      apply List.Pairwise.cons _ ih
      intro token hmem
      exact Nat.lt_of_le_of_lt (measure_le hdescent htail token hmem) (hdescent _ _ hlink)

end Descent

end DelegationChain

end Osvauld.Data
