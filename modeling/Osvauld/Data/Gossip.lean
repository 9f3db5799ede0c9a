import Mathlib.Data.Set.Insert
import Mathlib.Logic.Relation

namespace Osvauld.Data

/-! Sites that make events and tell one another all that they have heard of. What has
been told may be heard late, out of order, more than once or never. -/

structure Gossip (Site Event : Type*) where
  made : Set Event
  heard : Site → Set Event
  told : Set (Set Event)

namespace Gossip

variable {Site Event : Type*} [DecidableEq Site]

inductive Step : Gossip Site Event → Gossip Site Event → Prop
  | make {gossip : Gossip Site Event} (site : Site) {event : Event} :
      event ∉ gossip.made → Step gossip
        { gossip with
          made := insert event gossip.made
          heard := Function.update gossip.heard site (insert event (gossip.heard site)) }
  | tell {gossip : Gossip Site Event} (site : Site) :
      Step gossip { gossip with told := insert (gossip.heard site) gossip.told }
  | hear {gossip : Gossip Site Event} (site : Site) {news : Set Event} :
      news ∈ gossip.told → Step gossip
        { gossip with
          heard := Function.update gossip.heard site (gossip.heard site ∪ news) }

abbrev Reaches : Gossip Site Event → Gossip Site Event → Prop :=
  Relation.ReflTransGen Step

/-- Nothing is heard or told that was not made. -/
structure Sound (gossip : Gossip Site Event) : Prop where
  heard : ∀ site, gossip.heard site ⊆ gossip.made
  told : ∀ news ∈ gossip.told, news ⊆ gossip.made

variable {gossip next : Gossip Site Event}

theorem Sound.step (hsound : Sound gossip) (hstep : Step gossip next) : Sound next := by
  cases hstep with
  | make site _ =>
      constructor
      · intro other
        by_cases hother : other = site
        · subst hother
          simpa using Set.insert_subset_insert (hsound.heard other)
        · simpa [hother] using (hsound.heard other).trans (Set.subset_insert _ _)
      · intro news hnews
        exact (hsound.told news hnews).trans (Set.subset_insert _ _)
  | tell site =>
      constructor
      · exact hsound.heard
      · intro news hnews
        rcases hnews with rfl | hnews
        · exact hsound.heard site
        · exact hsound.told news hnews
  | hear site htold =>
      constructor
      · intro other
        by_cases hother : other = site
        · subst hother
          simpa using ⟨hsound.heard other, hsound.told _ htold⟩
        · simpa [hother] using hsound.heard other
      · exact hsound.told

end Gossip

/-! Events that are numbered at each site, and clocks that count them. -/

section Counted

variable {Site : Type*} (clock other : Site → Nat)

def counted : Set (Site × Nat) := { event | event.2 < clock event.1 }

variable {clock other}

@[simp] theorem mem_counted {event : Site × Nat} :
    event ∈ counted clock ↔ event.2 < clock event.1 := Iff.rfl

theorem counted_subset_iff : counted clock ⊆ counted other ↔ ∀ site, clock site ≤ other site := by
  constructor
  · intro hsubset site
    by_contra hlt
    have hmem : (site, other site) ∈ counted clock := not_le.mp hlt
    exact lt_irrefl _ (mem_counted.mp (hsubset hmem))
  · intro hle event hevent
    exact lt_of_lt_of_le hevent (hle event.1)

theorem counted_union : counted clock ∪ counted other =
    counted fun site => max (clock site) (other site) := by
  ext event
  simp

theorem insert_counted [DecidableEq Site] (site : Site) :
    insert (site, clock site) (counted clock) =
      counted (Function.update clock site (clock site + 1)) := by
  ext ⟨place, number⟩
  rw [Set.mem_insert_iff, mem_counted, mem_counted]
  by_cases hplace : place = site
  · subst hplace
    simp
    omega
  · simp [hplace]

end Counted

end Osvauld.Data
