import Mathlib.Logic.Function.Basic
import Mathlib.Logic.Relation
import Mathlib.Order.WellFoundedSet

namespace Osvauld.Data

open Relation

/-! Forests given by the parent of each node. A node without a parent is a root. -/

variable {Node : Type*} {parent parent' : Node → Option Node}

def Up (parent : Node → Option Node) (child up : Node) : Prop := parent child = some up

abbrev AtOrBelow (parent : Node → Option Node) : Node → Node → Prop :=
  ReflTransGen (Up parent)

def IsForest (parent : Node → Option Node) : Prop :=
  WellFounded fun up child => Up parent child up

theorem IsForest.acyclic (hforest : IsForest parent) (node : Node) :
    ¬ TransGen (Up parent) node node := by
  intro hcycle
  have hswap : TransGen (Function.swap (Up parent)) node node := transGen_swap.mpr hcycle
  exact (WellFounded.transGen hforest).irrefl.irrefl node hswap

theorem IsForest.mono (hforest : IsForest parent)
    (hparent : ∀ child up, parent' child = some up → parent child = some up) :
    IsForest parent' :=
  Subrelation.wf (fun hup => hparent _ _ hup) hforest

theorem AtOrBelow.eq_or_child {node top : Node} (hbelow : AtOrBelow parent node top) :
    node = top ∨ ∃ child, AtOrBelow parent node child ∧ parent child = some top := by
  rcases ReflTransGen.cases_tail hbelow with heq | ⟨child, hchild, hup⟩
  · exact .inl heq.symm
  · exact .inr ⟨child, hchild, hup⟩

section Move

variable [DecidableEq Node] {node up : Node}

theorem acc_update_of_not_below {new : Option Node} {other : Node}
    (hacc : Acc (fun up child => Up parent child up) other)
    (hother : ¬ AtOrBelow parent other node) :
    Acc (fun up child => Up (Function.update parent node new) child up) other := by
  induction hacc with
  | intro other _ ih =>
      refine .intro other fun above habove => ?_
      have hne : other ≠ node := fun heq => hother (heq ▸ .refl)
      have hup : Up parent other above := by
        simpa [Up, Function.update_of_ne hne] using habove
      exact ih above hup fun hbelow => hother (.head hup hbelow)

theorem IsForest.update (hforest : IsForest parent) {new : Option Node}
    (hnew : ∀ up, new = some up → ¬ AtOrBelow parent up node) :
    IsForest (Function.update parent node new) := by
  have hnode : Acc (fun up child => Up (Function.update parent node new) child up) node := by
    refine .intro node fun above habove => ?_
    have hup : new = some above := by simpa [Up] using habove
    exact acc_update_of_not_below (hforest.apply above) (hnew above hup)
  refine ⟨fun other => ?_⟩
  induction hforest.apply other with
  | intro other _ ih =>
      by_cases heq : other = node
      · exact heq ▸ hnode
      · refine .intro other fun above habove => ih above ?_
        simpa [Up, Function.update_of_ne heq] using habove

theorem atOrBelow_update {new : Option Node} {other : Node}
    (hbelow : AtOrBelow parent other node) :
    AtOrBelow (Function.update parent node new) other node := by
  induction hbelow using ReflTransGen.head_induction_on with
  | refl => exact .refl
  | @head child above hup _ ih =>
      by_cases heq : child = node
      · exact heq ▸ .refl
      · exact .head (by simpa [Up, Function.update_of_ne heq] using hup) ih

theorem cycle_of_update (hbelow : AtOrBelow parent up node) :
    TransGen (Up (Function.update parent node (some up))) node node :=
  TransGen.head' (by simp [Up]) (atOrBelow_update hbelow)

end Move

theorem IsForest.children (hforest : IsForest parent)
    (hfinite : {node | (parent node).isSome}.Finite) :
    WellFounded fun child up => Up parent child up := by
  have hirrefl : Std.Irrefl (TransGen (Up parent)) := ⟨hforest.acyclic⟩
  have horder : IsStrictOrder Node (TransGen (Up parent)) := { }
  have hwell := Set.wellFoundedOn_iff.mp (hfinite.wellFoundedOn (r := TransGen (Up parent)))
  have hchildren : ∀ node, (parent node).isSome →
      Acc (fun child up => Up parent child up) node := by
    intro node
    induction node using hwell.induction with
    | _ node ih =>
        intro hnode
        refine .intro node fun child hchild => ?_
        have hparent : (parent child).isSome := by
          rw [show parent child = some node from hchild]
          rfl
        exact ih child ⟨.single hchild, hparent, hnode⟩ hparent
  refine ⟨fun node => .intro node fun child hchild => hchildren child ?_⟩
  rw [show parent child = some node from hchild]
  rfl

theorem isForest_of_acyclic (hacyclic : ∀ node, ¬ TransGen (Up parent) node node)
    (hfinite : {node | (parent node).isSome}.Finite) : IsForest parent := by
  have hirrefl : Std.Irrefl (Function.swap (TransGen (Up parent))) := ⟨hacyclic⟩
  have htrans : IsTrans Node (Function.swap (TransGen (Up parent))) :=
    ⟨fun _ _ _ hfirst hsecond => TransGen.trans hsecond hfirst⟩
  have horder : IsStrictOrder Node (Function.swap (TransGen (Up parent))) := { }
  have hwell := Set.wellFoundedOn_iff.mp
    (hfinite.wellFoundedOn (r := Function.swap (TransGen (Up parent))))
  refine ⟨fun node => ?_⟩
  induction node using hwell.induction with
  | _ node ih =>
      refine .intro node fun up hup => ?_
      by_cases hparent : (parent up).isSome
      · have hnode : (parent node).isSome := by
          rw [show parent node = some up from hup]
          rfl
        exact ih up ⟨.single hup, hparent, hnode⟩
      · refine .intro up fun above habove => ?_
        rw [show parent up = some above from habove] at hparent
        exact absurd rfl hparent

end Osvauld.Data
