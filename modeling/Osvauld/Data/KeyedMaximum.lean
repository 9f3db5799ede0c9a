import Mathlib.Order.MinMax
import Mathlib.Data.List.Nodup
import Mathlib.Data.Option.Basic

namespace Osvauld.Data.KeyedMaximum

/-! Lists of keyed entries read as finite maps, and the changes that raise one
such map to its pointwise maximum with another. -/

variable {Entry : Type u} {Key : Type v} {Value : Type w}
variable [DecidableEq Key]
variable (key : Entry → Key) (value : Entry → Value)

def valueAt? (entries : List Entry) (k : Key) : Option Value :=
  (entries.find? fun entry => key entry = k).map value

@[simp] theorem valueAt?_nil (k : Key) :
    valueAt? key value [] k = none := rfl

theorem valueAt?_cons (entry : Entry) (entries : List Entry) (k : Key) :
    valueAt? key value (entry :: entries) k =
      if key entry = k then some (value entry)
      else valueAt? key value entries k := by
  by_cases hkey : key entry = k
  · simp [valueAt?, hkey]
  · simp [valueAt?, hkey]

@[simp] theorem valueAt?_append (left right : List Entry) (k : Key) :
    valueAt? key value (left ++ right) k =
      (valueAt? key value left k).or (valueAt? key value right k) := by
  simp only [valueAt?, List.find?_append]
  cases left.find? fun entry => decide (key entry = k) <;> rfl

variable {entries : List Entry}

theorem valueAt?_eq_none_iff {k : Key} :
    valueAt? key value entries k = none ↔ ∀ entry ∈ entries, key entry ≠ k := by
  simp [valueAt?]

theorem mem_of_valueAt? {k : Key} {v : Value} (hvalue : valueAt? key value entries k = some v) :
    ∃ entry ∈ entries, key entry = k ∧ value entry = v := by
  obtain ⟨entry, hfind, hentry⟩ := Option.map_eq_some_iff.mp hvalue
  have hkey : key entry = k := by simpa using List.find?_some hfind
  exact ⟨entry, List.mem_of_find?_eq_some hfind, hkey, hentry⟩

theorem find?_of_mem (hnodup : (entries.map key).Nodup) {entry : Entry} (hmem : entry ∈ entries) :
    (entries.find? fun other => key other = key entry) = some entry := by
  cases hfind : entries.find? fun other => decide (key other = key entry) with
  | none =>
      rw [List.find?_eq_none] at hfind
      exact absurd (decide_eq_true rfl) (hfind entry hmem)
  | some found =>
      have hkey : key found = key entry := by simpa using List.find?_some hfind
      have hfound := List.mem_of_find?_eq_some hfind
      rw [List.inj_on_of_nodup_map hnodup hfound hmem hkey]

theorem valueAt?_of_mem (hnodup : (entries.map key).Nodup) {entry : Entry} (hmem : entry ∈ entries) :
    valueAt? key value entries (key entry) = some (value entry) := by
  rw [valueAt?, find?_of_mem key hnodup hmem, Option.map_some]

theorem valueAt?_eq_some_iff (hnodup : (entries.map key).Nodup) {k : Key} {v : Value} :
    valueAt? key value entries k = some v ↔
      ∃ entry ∈ entries, key entry = k ∧ value entry = v := by
  refine ⟨mem_of_valueAt? key value, ?_⟩
  rintro ⟨entry, hmem, rfl, rfl⟩
  exact valueAt?_of_mem key value hnodup hmem

theorem valueAt?_filter {Part : Type*} [DecidableEq Part] (part : Entry → Part) (p : Part)
    (entries : List Entry) (k : Key) :
    valueAt? key value (entries.filter fun entry => part entry = p) k =
      valueAt? (fun entry => (part entry, key entry)) value entries (p, k) := by
  unfold valueAt?
  rw [List.find?_filter]
  congr 2
  funext entry
  rw [decide_eq_decide, decide_eq_true_eq, decide_eq_true_eq, Prod.mk.injEq]

omit [DecidableEq Key] in
theorem map_key_filterMap_sublist {select : Entry → Option Entry}
    (hkey : ∀ entry chosen, select entry = some chosen →
      key chosen = key entry) (entries : List Entry) :
    ((entries.filterMap select).map key).Sublist (entries.map key) := by
  induction entries with
  | nil => exact List.Sublist.slnil
  | cons entry entries ih =>
      cases hselect : select entry with
      | none =>
          rw [List.filterMap_cons_none hselect, List.map_cons]
          exact ih.cons _
      | some chosen =>
          rw [List.filterMap_cons_some hselect, List.map_cons, List.map_cons,
            hkey entry chosen hselect]
          exact ih.cons_cons _

section Assign

variable (set : Entry → Entry → Entry)

def assign (table : List Entry) (change : Entry) : List Entry :=
  table.map fun entry =>
    if key entry = key change then set entry change else entry

def assignAll (table changes : List Entry) : List Entry :=
  changes.foldl (assign key set) table

structure Overwrites : Prop where
  key_eq : ∀ entry change, key (set entry change) = key entry
  value_eq : ∀ entry change, value (set entry change) = value change

variable {key value set}

section

variable (hset : Overwrites key value set)

include hset

theorem map_key_assign (table : List Entry) (change : Entry) :
    (assign key set table change).map key = table.map key := by
  rw [assign, List.map_map]
  refine List.map_congr_left fun entry _ => ?_
  simp only [Function.comp_apply]
  split
  · exact hset.key_eq entry change
  · rfl

theorem map_key_assignAll (changes table : List Entry) :
    (assignAll key set table changes).map key = table.map key := by
  induction changes generalizing table with
  | nil => rfl
  | cons change changes ih =>
      calc (assignAll key set (assign key set table change) changes).map key
          = (assign key set table change).map key := ih _
        _ = table.map key := map_key_assign hset table change

theorem valueAt?_assign (table : List Entry) (change : Entry) (k : Key) :
    valueAt? key value (assign key set table change) k =
      if key change = k then
        (valueAt? key value table k).map fun _ => value change
      else valueAt? key value table k := by
  induction table with
  | nil => simp [assign]
  | cons entry table ih =>
      have hcons : assign key set (entry :: table) change =
          (if key entry = key change then set entry change else entry) ::
            assign key set table change := rfl
      rw [hcons, valueAt?_cons, valueAt?_cons, ih]
      by_cases hentry : key entry = key change
      · rw [if_pos hentry, hset.key_eq, hset.value_eq]
        by_cases hk : key entry = k
        · rw [if_pos hk, if_pos (hentry ▸ hk), if_pos hk, Option.map_some]
        · have hchange : key change ≠ k := fun h => hk (hentry.trans h)
          rw [if_neg hk, if_neg hchange, if_neg hk]
          simp [hchange]
      · rw [if_neg hentry]
        by_cases hk : key entry = k
        · have hchange : key change ≠ k := fun h => hentry (hk.trans h.symm)
          simp [hk, hchange]
        · simp [hk]

/-- With one change for each key, the changes overwrite exactly the keys that
they and the table have in common. -/
theorem valueAt?_assignAll {changes : List Entry} (hnodup : (changes.map key).Nodup)
    (table : List Entry) (k : Key) :
    valueAt? key value (assignAll key set table changes) k =
      (valueAt? key value table k).map fun held =>
        (valueAt? key value changes k).getD held := by
  induction changes generalizing table with
  | nil => simp [assignAll]
  | cons change changes ih =>
      obtain ⟨hfresh, hrest⟩ := List.nodup_cons.mp hnodup
      have hstep := ih hrest (assign key set table change)
      rw [assignAll, List.foldl_cons, ← assignAll, hstep,
        valueAt?_assign hset, valueAt?_cons]
      by_cases hk : key change = k
      · have hnone : valueAt? key value changes k = none := by
          rw [valueAt?_eq_none_iff]
          rintro entry hentry rfl
          exact hfresh (hk ▸ List.mem_map_of_mem hentry)
        rw [if_pos hk, if_pos hk, hnone]
        cases valueAt? key value table k <;> rfl
      · rw [if_neg hk, if_neg hk]

theorem valueAt?_assignAll_reverse (changes table : List Entry) (k : Key) :
    valueAt? key value (assignAll key set table changes) k =
      (valueAt? key value table k).map fun held =>
        (valueAt? key value changes.reverse k).getD held := by
  induction changes generalizing table with
  | nil => simp [assignAll]
  | cons change changes ih =>
      rw [assignAll, List.foldl_cons, ← assignAll, ih, valueAt?_assign hset,
        List.reverse_cons, valueAt?_append, valueAt?_cons]
      by_cases hk : key change = k
      · rw [if_pos hk, if_pos hk]
        cases valueAt? key value table k with
        | none => rfl
        | some held => cases valueAt? key value changes.reverse k <;> rfl
      · rw [if_neg hk, if_neg hk]
        simp

end

end Assign

theorem max_option_comm [LinearOrder Value] (left right : Option Value) :
    max left right = max right left := by
  cases left with
  | none => cases right <;> rfl
  | some v =>
      cases right with
      | none => rfl
      | some u => exact congrArg some (max_comm v u)

section Raise

variable [LinearOrder Value]

/-- The updates are the other table's greater values for shared keys, and the
additions its values for keys the table lacks. -/
structure Raises (table other updates additions : List Entry) : Prop where
  updates_nodup : (updates.map key).Nodup
  additions_nodup : (additions.map key).Nodup
  updates_iff : ∀ k v, valueAt? key value updates k = some v ↔
    valueAt? key value other k = some v ∧
      ∃ held, valueAt? key value table k = some held ∧ held < v
  additions_iff : ∀ k v, valueAt? key value additions k = some v ↔
    valueAt? key value other k = some v ∧ valueAt? key value table k = none

def Dominates (table other : List Entry) : Prop :=
  ∀ k v, valueAt? key value other k = some v →
    ∃ held, valueAt? key value table k = some held ∧ v ≤ held

variable {key value} {set : Entry → Entry → Entry}

variable {table other updates additions : List Entry}

theorem Raises.valueAt?_eq_max (hset : Overwrites key value set)
    (hraises : Raises key value table other updates additions) (k : Key) :
    valueAt? key value (assignAll key set table updates ++ additions) k =
      max (valueAt? key value table k) (valueAt? key value other k) := by
  rw [valueAt?_append, valueAt?_assignAll hset hraises.updates_nodup]
  cases htable : valueAt? key value table k with
  | none =>
      have hadditions : valueAt? key value additions k =
          valueAt? key value other k := by
        refine Option.ext fun v => ?_
        rw [hraises.additions_iff, htable]
        simp
      rw [hadditions]
      cases valueAt? key value other k <;> rfl
  | some held =>
      cases hother : valueAt? key value other k with
      | none =>
          have hupdates : valueAt? key value updates k = none := by
            refine Option.eq_none_iff_forall_ne_some.mpr fun v hv => ?_
            have hsome := ((hraises.updates_iff k v).mp hv).1
            simp [hother] at hsome
          rw [hupdates]
          rfl
      | some v =>
          by_cases hlt : held < v
          · have hupdates : valueAt? key value updates k = some v :=
              (hraises.updates_iff k v).mpr ⟨hother, held, htable, hlt⟩
            simp [hupdates, max_eq_right hlt.le]
          · have hupdates : valueAt? key value updates k = none := by
              refine Option.eq_none_iff_forall_ne_some.mpr fun u hu => ?_
              obtain ⟨husome, low, hlow, hlowlt⟩ := (hraises.updates_iff k u).mp hu
              rw [hother, Option.some.injEq] at husome
              rw [htable, Option.some.injEq] at hlow
              exact hlt (by rw [hlow, husome]; exact hlowlt)
            simp [hupdates, max_eq_left (not_lt.mp hlt)]

theorem Raises.nodup (hset : Overwrites key value set)
    (hraises : Raises key value table other updates additions) (htable : (table.map key).Nodup) :
    ((assignAll key set table updates ++ additions).map key).Nodup := by
  rw [List.map_append, map_key_assignAll hset]
  refine List.Nodup.append htable hraises.additions_nodup ?_
  intro k hktable hkadded
  obtain ⟨held, hheld, rfl⟩ := List.mem_map.mp hktable
  obtain ⟨added, hadded, hkey⟩ := List.mem_map.mp hkadded
  have hvalue := valueAt?_of_mem key value hraises.additions_nodup hadded
  have hnone := ((hraises.additions_iff _ _).mp hvalue).2
  rw [valueAt?_eq_none_iff] at hnone
  exact hnone held hheld hkey.symm

theorem Raises.nil_iff (hraises : Raises key value table other updates additions) :
    (updates = [] ∧ additions = []) ↔ Dominates key value table other := by
  constructor
  · rintro ⟨rfl, rfl⟩ k v hother
    cases htable : valueAt? key value table k with
    | none =>
        have hadded := (hraises.additions_iff k v).mpr ⟨hother, htable⟩
        simp at hadded
    | some held =>
        refine ⟨held, rfl, not_lt.mp fun hlt => ?_⟩
        have hupdated :=
          (hraises.updates_iff k v).mpr ⟨hother, held, htable, hlt⟩
        simp at hupdated
  · intro hdominates
    constructor
    · refine List.eq_nil_iff_forall_not_mem.mpr fun entry hentry => ?_
      have hvalue := valueAt?_of_mem key value hraises.updates_nodup hentry
      obtain ⟨hother, held, htable, hlt⟩ := (hraises.updates_iff _ _).mp hvalue
      obtain ⟨top, htop, hle⟩ := hdominates _ _ hother
      rw [htable, Option.some.injEq] at htop
      exact not_lt.mpr hle (htop ▸ hlt)
    · refine List.eq_nil_iff_forall_not_mem.mpr fun entry hentry => ?_
      have hvalue := valueAt?_of_mem key value hraises.additions_nodup hentry
      obtain ⟨hother, hnone⟩ := (hraises.additions_iff _ _).mp hvalue
      obtain ⟨top, htop, _⟩ := hdominates _ _ hother
      rw [hnone] at htop
      cases htop

theorem Dominates.antisymm (hforward : Dominates key value table other)
    (hbackward : Dominates key value other table) (k : Key) :
    valueAt? key value table k = valueAt? key value other k := by
  cases hother : valueAt? key value other k with
  | none =>
      cases htable : valueAt? key value table k with
      | none => rfl
      | some held =>
          obtain ⟨v, hv, _⟩ := hbackward k held htable
          rw [hother] at hv
          cases hv
  | some v =>
      obtain ⟨held, htable, hle⟩ := hforward k v hother
      obtain ⟨u, hu, hge⟩ := hbackward k held htable
      rw [hother, Option.some.injEq] at hu
      rw [htable, le_antisymm (hu ▸ hge) hle]

theorem dominates_of_eq (heq : ∀ k, valueAt? key value table k = valueAt? key value other k) :
    Dominates key value table other := by
  intro k v hother
  exact ⟨v, (heq k).trans hother, le_rfl⟩

theorem Dominates.refl (table : List Entry) : Dominates key value table table :=
  dominates_of_eq fun _ => rfl

theorem Dominates.trans {first second third : List Entry}
    (hfirst : Dominates key value first second)
    (hsecond : Dominates key value second third) :
    Dominates key value first third := by
  intro k v hthird
  obtain ⟨held, hheld, hle⟩ := hsecond k v hthird
  obtain ⟨top, htop, hheldLe⟩ := hfirst k held hheld
  exact ⟨top, htop, hle.trans hheldLe⟩

theorem Dominates.append (hdominates : Dominates key value table other) (additions : List Entry) :
    Dominates key value (table ++ additions) other := by
  intro k v hother
  obtain ⟨held, hheld, hle⟩ := hdominates k v hother
  exact ⟨held, by rw [valueAt?_append, hheld, Option.some_or], hle⟩

theorem dominates_map {change : Entry → Entry}
    (hkey : ∀ entry ∈ table, key (change entry) = key entry)
    (hvalue : ∀ entry ∈ table, value entry ≤ value (change entry)) :
    Dominates key value (table.map change) table := by
  induction table with
  | nil => exact .refl _
  | cons entry table ih =>
      have hrest := ih (fun other hother => hkey other (List.mem_cons_of_mem _ hother))
        fun other hother => hvalue other (List.mem_cons_of_mem _ hother)
      intro k v hother
      rw [List.map_cons, valueAt?_cons, hkey entry List.mem_cons_self]
      rw [valueAt?_cons] at hother
      split
      · next hhead =>
          rw [if_pos hhead, Option.some.injEq] at hother
          exact ⟨_, rfl, hother ▸ hvalue entry List.mem_cons_self⟩
      · next hhead =>
          rw [if_neg hhead] at hother
          exact hrest k v hother

theorem Dominates.assign (hset : Overwrites key value set) {start : List Entry} {change : Entry}
    (hdominates : Dominates key value table start)
    (hahead : ∀ held, valueAt? key value start (key change) = some held → held ≤ value change) :
    Dominates key value (assign key set table change) start := by
  intro k v hstart
  obtain ⟨held, hheld, hle⟩ := hdominates k v hstart
  rw [valueAt?_assign hset, hheld]
  split
  · next hkey =>
      subst hkey
      exact ⟨_, rfl, hahead v hstart⟩
  · exact ⟨held, rfl, hle⟩

theorem Dominates.assignAll (hset : Overwrites key value set) {changes start : List Entry}
    (hdominates : Dominates key value table start)
    (hahead : ∀ change ∈ changes, ∀ held,
      valueAt? key value start (key change) = some held → held ≤ value change) :
    Dominates key value (assignAll key set table changes) start := by
  induction changes generalizing table with
  | nil => exact hdominates
  | cons change changes ih =>
      exact ih (hdominates.assign hset (hahead change List.mem_cons_self))
        fun other hother => hahead other (List.mem_cons_of_mem _ hother)

end Raise

end Osvauld.Data.KeyedMaximum
