import Mathlib.Algebra.BigOperators.Group.List.Basic
import Mathlib.Algebra.GroupWithZero.Nat
import Mathlib.Data.List.Basic

namespace Osvauld.Data

/-! A list cut into pieces of one length; the last piece may be shorter. -/

section Chunks

variable {α : Type u} {size : Nat}

/-- Each piece takes something off, so `fuel` is no restriction beyond the length of
the list. -/
def chunksOf (size : Nat) : Nat → List α → List (List α)
  | 0, _ => []
  | _, [] => []
  | fuel + 1, item :: items =>
      (item :: items).take size :: chunksOf size fuel ((item :: items).drop size)

def chunks (size : Nat) (items : List α) : List (List α) :=
  chunksOf size items.length items

theorem flatten_chunksOf (hsize : 0 < size) {fuel : Nat} {items : List α}
    (hfuel : items.length ≤ fuel) : (chunksOf size fuel items).flatten = items := by
  induction fuel generalizing items with
  | zero =>
      cases items with
      | nil => rfl
      | cons item items => simp at hfuel
  | succ fuel ih =>
      cases items with
      | nil => rfl
      | cons item items =>
          have hshorter : ((item :: items).drop size).length ≤ fuel := by
            simp only [List.length_drop, List.length_cons] at hfuel ⊢
            omega
          rw [chunksOf, List.flatten_cons, ih hshorter, List.take_append_drop]

@[simp] theorem flatten_chunks (hsize : 0 < size) (items : List α) :
    (chunks size items).flatten = items :=
  flatten_chunksOf hsize (Nat.le_refl _)

end Chunks

section Counting

variable {α β : Type*} [DecidableEq α] [DecidableEq β]

theorem sum_map_count_cons (sources : List α) (item : α) (rest : List α) :
    (sources.map fun source => (item :: rest).count source).sum =
      sources.count item + (sources.map fun source => rest.count source).sum := by
  induction sources with
  | nil => rfl
  | cons source sources ih =>
      rw [List.map_cons, List.map_cons, List.sum_cons, List.sum_cons, ih, List.count_cons,
        List.count_cons]
      by_cases heq : item = source
      · simp [heq]
        omega
      · simp [heq, Ne.symm heq]
        omega

/-- Where each item gives rise to a result as often as the item is among the
sources of the result, the results are as many as the sources in the list. -/
theorem count_flatMap_of_sources {items : List α} {results : α → List β} {result : β}
    {sources : List α}
    (hsources : ∀ item, (results item).count result = sources.count item) :
    (items.flatMap results).count result =
      (sources.map fun source => items.count source).sum := by
  induction items with
  | nil => simp
  | cons item rest ih =>
      rw [List.flatMap_cons, List.count_append, hsources, ih, sum_map_count_cons]

end Counting

theorem forall_splits_cons {α : Type*} {holds : List α → α → Prop} {first : α}
    {rest : List α} :
    (∀ before item after, first :: rest = before ++ item :: after → holds before item) ↔
      holds [] first ∧
        ∀ before item after, rest = before ++ item :: after → holds (first :: before) item := by
  constructor
  · intro hall
    refine ⟨hall [] first rest rfl, fun before item after heq => ?_⟩
    exact hall (first :: before) item after (by rw [heq, List.cons_append])
  · rintro ⟨hfirst, hrest⟩ before item after heq
    cases before with
    | nil =>
        obtain ⟨rfl, -⟩ := List.cons.inj heq
        exact hfirst
    | cons head before =>
        obtain ⟨rfl, htail⟩ := List.cons.inj heq
        exact hrest before item after htail

section First

variable {α : Type*} (isWanted : α → Bool) (usable : α → Prop)

def UsableFirst (items : List α) : Prop :=
  ∀ before item after, items = before ++ item :: after → isWanted item = true → usable item →
    (∀ earlier ∈ before, isWanted earlier = true → ¬ usable earlier) →
      ∀ earlier ∈ before, isWanted earlier = false

variable {isWanted usable} {items : List α}

theorem exists_first (husable : ∃ item ∈ items, isWanted item = true ∧ usable item) :
    ∃ before item after, items = before ++ item :: after ∧ isWanted item = true ∧ usable item ∧
      ∀ earlier ∈ before, isWanted earlier = true → ¬ usable earlier := by
  induction items with
  | nil => obtain ⟨_, hmem, -⟩ := husable; cases hmem
  | cons first rest ih =>
      by_cases hfirst : isWanted first = true ∧ usable first
      · exact ⟨[], first, rest, rfl, hfirst.1, hfirst.2, by simp⟩
      · obtain ⟨item, hmem, hitem⟩ := husable
        have hrest : item ∈ rest := by
          rcases List.mem_cons.mp hmem with rfl | hrest
          · exact absurd hitem hfirst
          · exact hrest
        obtain ⟨before, found, after, rfl, hwanted, hfound, hbefore⟩ := ih ⟨item, hrest, hitem⟩
        refine ⟨first :: before, found, after, rfl, hwanted, hfound, ?_⟩
        intro earlier hearlier hkind hcan
        rcases List.mem_cons.mp hearlier with rfl | hearlier
        · exact hfirst ⟨hkind, hcan⟩
        · exact hbefore earlier hearlier hkind hcan

theorem find_usable_iff :
    ((∃ item ∈ items, isWanted item = true ∧ usable item) →
      ∃ item, items.find? isWanted = some item ∧ usable item) ↔
        UsableFirst isWanted usable items := by
  constructor
  · rintro hfinds before item after rfl hwanted husable hbefore earlier hearlier
    rw [← Bool.not_eq_true]
    intro hkind
    obtain ⟨found, hfound, hcan⟩ := hfinds ⟨item, by simp, hwanted, husable⟩
    have hsome : (before.find? isWanted).isSome :=
      List.find?_isSome.mpr ⟨earlier, hearlier, hkind⟩
    obtain ⟨other, hother⟩ := Option.isSome_iff_exists.mp hsome
    rw [List.find?_append, hother] at hfound
    cases hfound
    exact hbefore found (List.mem_of_find?_eq_some hother) (List.find?_some hother) hcan
  · intro hfirst husable
    obtain ⟨before, item, after, rfl, hwanted, hcan, hbefore⟩ := exists_first husable
    have hnone := hfirst before item after rfl hwanted hcan hbefore
    refine ⟨item, ?_, hcan⟩
    rw [List.find?_append, List.find?_eq_none.mpr (by simpa using hnone),
      List.find?_cons_of_pos hwanted]
    rfl

end First

section Handled

variable {ε α β : Type*} {call : α → Except ε β} {items front back : List α}

def allOrNone (call : α → Except ε β) (items : List α) : List β :=
  match items.mapM call with
  | .ok results => results
  | .error _ => []

def Throws (call : α → Except ε β) (item : α) : Prop := ∀ result, call item ≠ .ok result

theorem not_throws {item : α} : ¬ Throws call item ↔ ∃ result, call item = .ok result := by
  simp [Throws]

theorem mapM_of_returns (hreturns : ∀ item ∈ items, ¬ Throws call item) :
    items.mapM call = .ok (items.filterMap fun item => (call item).toOption) := by
  induction items with
  | nil => rfl
  | cons first rest ih =>
      obtain ⟨result, hresult⟩ := not_throws.mp (hreturns first (by simp))
      have hrest := ih fun item hitem => hreturns item (List.mem_cons_of_mem _ hitem)
      simp only [List.mapM_cons, hresult, hrest, List.filterMap_cons]
      rfl

theorem allOrNone_of_returns (hreturns : ∀ item ∈ items, ¬ Throws call item) :
    allOrNone call items = items.filterMap fun item => (call item).toOption := by
  rw [allOrNone, mapM_of_returns hreturns]

theorem mapM_ne_ok_of_throws {item : α} (hitem : item ∈ items) (hthrows : Throws call item)
    (results : List β) : items.mapM call ≠ .ok results := by
  induction items generalizing results with
  | nil => cases hitem
  | cons first rest ih =>
      intro hresults
      rw [List.mapM_cons] at hresults
      cases hfirst : call first with
      | error error =>
          rw [hfirst] at hresults
          cases hresults
      | ok result =>
          rw [hfirst] at hresults
          rcases List.mem_cons.mp hitem with rfl | hrest
          · exact hthrows result hfirst
          · cases htail : rest.mapM call with
            | error error =>
                rw [htail] at hresults
                cases hresults
            | ok others => exact ih hrest others htail

theorem allOrNone_of_throws {item : α} (hitem : item ∈ items) (hthrows : Throws call item) :
    allOrNone call items = [] := by
  unfold allOrNone
  split
  · next results hresults => exact absurd hresults (mapM_ne_ok_of_throws hitem hthrows results)
  · rfl

/-- The elements have nothing to do with each other exactly when no call throws, or every
call does. -/
theorem allOrNone_independent_iff :
    (allOrNone call (front ++ back) = allOrNone call front ++ allOrNone call back ∧
      ∀ item ∈ front ++ back, ∀ result, call item = .ok result →
        result ∈ allOrNone call (front ++ back)) ↔
    (∀ item ∈ front ++ back, ¬ Throws call item) ∨ ∀ item ∈ front ++ back, Throws call item := by
  constructor
  · rintro ⟨-, hkept⟩
    by_cases hall : ∀ item ∈ front ++ back, ¬ Throws call item
    · exact .inl hall
    · simp only [not_forall, not_not] at hall
      obtain ⟨item, hitem, hthrows⟩ := hall
      right
      intro other hother result hresult
      have hmem := hkept other hother result hresult
      rw [allOrNone_of_throws hitem hthrows] at hmem
      cases hmem
  · rintro (hreturns | hthrow)
    · have hfront : ∀ item ∈ front, ¬ Throws call item :=
        fun item hitem => hreturns item (List.mem_append_left _ hitem)
      have hback : ∀ item ∈ back, ¬ Throws call item :=
        fun item hitem => hreturns item (List.mem_append_right _ hitem)
      rw [allOrNone_of_returns hreturns, allOrNone_of_returns hfront,
        allOrNone_of_returns hback, List.filterMap_append]
      refine ⟨rfl, fun item hitem result hresult => ?_⟩
      rw [← List.filterMap_append]
      exact List.mem_filterMap.mpr ⟨item, hitem, by rw [hresult]; rfl⟩
    · have hnone : ∀ part : List α, (∀ item ∈ part, Throws call item) →
          allOrNone call part = [] := by
        intro part hpart
        cases part with
        | nil => rfl
        | cons item rest => exact allOrNone_of_throws (by simp) (hpart item (by simp))
      rw [hnone _ hthrow, hnone _ fun item hitem => hthrow item (List.mem_append_left _ hitem),
        hnone _ fun item hitem => hthrow item (List.mem_append_right _ hitem)]
      exact ⟨rfl, fun item hitem result hresult => absurd hresult (hthrow item hitem result)⟩

end Handled

end Osvauld.Data
