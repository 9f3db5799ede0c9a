import Mathlib.Data.Finset.Lattice.Basic
import Mathlib.Data.Finset.Sort
import Mathlib.Data.Prod.Lex
import Mathlib.Logic.Equiv.Finset

namespace Osvauld.Data

/-! Text in a replicated data type whose states are the points of a semilattice. -/

/-- The characters that a state knows, the ones of them that have been deleted, and the
others as they are read. -/
structure SharedText (L : Type*) [SemilatticeSup L] (Item : Type*) [DecidableEq Item] where
  known : L → Finset Item
  deleted : L → Finset Item
  visible : L → List (Item × Char)
  nodup_visible : ∀ state, ((visible state).map Prod.fst).Nodup
  mem_visible : ∀ state item,
    item ∈ (visible state).map Prod.fst ↔ item ∈ known state ∧ item ∉ deleted state
  known_sup : ∀ first second, known (first ⊔ second) = known first ∪ known second
  deleted_sup : ∀ first second, deleted (first ⊔ second) = deleted first ∪ deleted second
  /-- Later changes may delete a character, but neither move nor replace it. -/
  visible_of_le : ∀ earlier later, earlier ≤ later →
    (visible later).filter (fun entry => entry.1 ∈ known earlier) =
      (visible earlier).filter fun entry => entry.1 ∉ deleted later

namespace SharedText

variable {L Item : Type*} [SemilatticeSup L] [DecidableEq Item] (shared : SharedText L Item)
  {earlier later first second state : L}

def text (state : L) : String := String.ofList ((shared.visible state).map Prod.snd)

theorem known_mono (hle : earlier ≤ later) : shared.known earlier ⊆ shared.known later := by
  rw [← sup_eq_right.mpr hle, shared.known_sup]
  exact Finset.subset_union_left

theorem deleted_mono (hle : earlier ≤ later) : shared.deleted earlier ⊆ shared.deleted later := by
  rw [← sup_eq_right.mpr hle, shared.deleted_sup]
  exact Finset.subset_union_left

theorem visible_eq_of_known (hle : earlier ≤ later)
    (hknown : shared.known later ⊆ shared.known earlier) (hdeleted : shared.deleted later = ∅) :
    shared.visible later = shared.visible earlier := by
  have hkept := shared.visible_of_le earlier later hle
  rw [hdeleted] at hkept
  rw [List.filter_eq_self.mpr, List.filter_eq_self.mpr] at hkept
  · exact hkept
  · simp
  · intro entry hentry
    have hmem := (shared.mem_visible later entry.1).mp (List.mem_map_of_mem hentry)
    exact decide_eq_true (hknown hmem.1)

theorem known_eq_toFinset (hdeleted : shared.deleted state = ∅) :
    shared.known state = ((shared.visible state).map Prod.fst).toFinset := by
  ext item
  rw [List.mem_toFinset, shared.mem_visible, hdeleted]
  simp

theorem length_visible (hdeleted : shared.deleted state = ∅) :
    (shared.visible state).length = (shared.known state).card := by
  rw [shared.known_eq_toFinset hdeleted, List.toFinset_card_of_nodup (shared.nodup_visible state),
    List.length_map]

theorem length_visible_sup (hfirst : shared.deleted first = ∅) (hsecond : shared.deleted second = ∅)
    (hapart : Disjoint (shared.known first) (shared.known second)) :
    (shared.visible (first ⊔ second)).length =
      (shared.visible first).length + (shared.visible second).length := by
  have hdeleted : shared.deleted (first ⊔ second) = ∅ := by
    rw [shared.deleted_sup, hfirst, hsecond, Finset.union_empty]
  rw [shared.length_visible hdeleted, shared.length_visible hfirst, shared.length_visible hsecond,
    shared.known_sup, Finset.card_union_of_disjoint hapart]

end SharedText

/-- All the shared types of a document: of an item that has been inserted, in whichever
type, it is known and it may be deleted, and the others are shown with their values. -/
structure SharedTypes (L : Type*) [Preorder L] (Name Item Value : Type*)
    [DecidableEq Item] where
  known : L → Finset Item
  deleted : L → Finset Item
  shown : Name → L → List (Item × Value)
  mem_shown : ∀ state item, (∃ name, item ∈ (shown name state).map Prod.fst) ↔
    item ∈ known state ∧ item ∉ deleted state
  known_mono : ∀ earlier later, earlier ≤ later → known earlier ⊆ known later
  deleted_mono : ∀ earlier later, earlier ≤ later → deleted earlier ⊆ deleted later
  shown_of_le : ∀ name earlier later, earlier ≤ later →
    (shown name later).filter (fun entry => entry.1 ∈ known earlier) =
      (shown name earlier).filter fun entry => entry.1 ∉ deleted later

namespace SharedTypes

variable {L Name Item Value : Type*} [Preorder L] [DecidableEq Item]
  (types : SharedTypes L Name Item Value) {earlier later : L}

structure Undone (earlier later : L) : Prop where
  kept : ∀ item ∈ types.known earlier, item ∉ types.deleted earlier →
    item ∉ types.deleted later
  withdrawn : ∀ item ∈ types.known later, item ∉ types.known earlier →
    item ∈ types.deleted later

theorem of_mem_shown {name : Name} {state : L} {entry : Item × Value}
    (hentry : entry ∈ types.shown name state) :
    entry.1 ∈ types.known state ∧ entry.1 ∉ types.deleted state :=
  (types.mem_shown state entry.1).mp ⟨name, List.mem_map_of_mem hentry⟩

theorem shown_eq_iff (hle : earlier ≤ later) :
    (∀ name, types.shown name later = types.shown name earlier) ↔
      types.Undone earlier later := by
  constructor
  · intro hsame
    refine ⟨fun item hknown hpresent => ?_, fun item hknown hunknown => ?_⟩
    · obtain ⟨name, hshown⟩ := (types.mem_shown earlier item).mpr ⟨hknown, hpresent⟩
      rw [← hsame name] at hshown
      exact ((types.mem_shown later item).mp ⟨name, hshown⟩).2
    · by_contra hpresent
      obtain ⟨name, hshown⟩ := (types.mem_shown later item).mpr ⟨hknown, hpresent⟩
      rw [hsame name] at hshown
      exact hunknown ((types.mem_shown earlier item).mp ⟨name, hshown⟩).1
  · intro hundone name
    have hshown := types.shown_of_le name earlier later hle
    rw [List.filter_eq_self.mpr, List.filter_eq_self.mpr] at hshown
    · exact hshown
    · intro entry hentry
      obtain ⟨hknown, hpresent⟩ := types.of_mem_shown hentry
      exact decide_eq_true (hundone.kept entry.1 hknown hpresent)
    · intro entry hentry
      obtain ⟨hknown, hpresent⟩ := types.of_mem_shown hentry
      apply decide_eq_true
      by_contra hunknown
      exact hpresent (hundone.withdrawn entry.1 hknown hunknown)

end SharedTypes

def SharedText.types {L Item : Type*} [SemilatticeSup L] [DecidableEq Item]
    (shared : SharedText L Item) : SharedTypes L Unit Item Char where
  known := shared.known
  deleted := shared.deleted
  shown _ := shared.visible
  mem_shown state item := by
    rw [← shared.mem_visible state item]
    exact ⟨fun ⟨_, hmem⟩ => hmem, fun hmem => ⟨(), hmem⟩⟩
  known_mono _ _ := shared.known_mono
  deleted_mono _ _ := shared.deleted_mono
  shown_of_le _ := shared.visible_of_le

end Osvauld.Data
