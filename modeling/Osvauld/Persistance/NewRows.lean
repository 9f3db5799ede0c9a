import Osvauld.Persistance.KeyedTables

namespace Osvauld.Data.KeyedInserts

/-! Batches in which an id or a key may occur more than once. -/

variable {Row Id Key : Type*} [DecidableEq Id]
variable (id : Row → Id) (key : Row → Key) (admits : Row → Prop)

def newRows (rows : List Row) : List Row → List Row
  | [] => []
  | row :: rest =>
      if id row ∈ rows.map id then newRows rows rest
      else row :: newRows (rows ++ [row]) rest

structure Addable (rows new : List Row) : Prop where
  distinct : (new.map key).Nodup
  free : ∀ row ∈ new, key row ∉ rows.map key
  admitted : ∀ row ∈ new, admits row

variable {id key admits} {rows : List Row}

omit [DecidableEq Id] in
@[simp] theorem addable_nil : Addable key admits rows [] :=
  ⟨List.nodup_nil, by simp, by simp⟩

theorem addable_cons_iff {row : Row} {new : List Row} :
    Addable key admits rows (row :: new) ↔
      (key row ∉ rows.map key ∧ admits row) ∧
        Addable key admits (rows ++ [row]) new := by
  constructor
  · intro haddable
    obtain ⟨hother, hnew⟩ := List.nodup_cons.mp haddable.distinct
    refine ⟨⟨haddable.free row (by simp), haddable.admitted row (by simp)⟩, hnew, ?_,
      fun other hmem => haddable.admitted other (List.mem_cons_of_mem _ hmem)⟩
    intro other hmem hheld
    rw [List.map_append, List.mem_append, List.map_singleton,
      List.mem_singleton] at hheld
    rcases hheld with hheld | hkey
    · exact haddable.free other (List.mem_cons_of_mem _ hmem) hheld
    · exact hother (hkey ▸ List.mem_map_of_mem hmem)
  · rintro ⟨⟨hfree, hadmits⟩, haddable⟩
    have hothers : ∀ other ∈ new, key other ∉ rows.map key ∧ key other ≠ key row := by
      intro other hmem
      simpa using haddable.free other hmem
    refine ⟨List.nodup_cons.mpr ⟨fun hmem => ?_, haddable.distinct⟩,
      List.forall_mem_cons.mpr ⟨hfree, fun other hmem => (hothers other hmem).1⟩,
      List.forall_mem_cons.mpr ⟨hadmits, haddable.admitted⟩⟩
    obtain ⟨other, hother, hkey⟩ := List.mem_map.mp hmem
    exact (hothers other hother).2 hkey

theorem addable_newRows (hadmits : ∀ row, admits row) (batch : List Row) :
    Addable id admits rows (newRows id rows batch) := by
  induction batch generalizing rows with
  | nil => exact addable_nil
  | cons row rest ih =>
      rw [newRows]
      split
      · exact ih
      · next hfree => exact addable_cons_iff.mpr ⟨⟨hfree, hadmits row⟩, ih⟩

theorem newRows_eq_self {batch : List Row} (hdistinct : (batch.map id).Nodup)
    (hfree : ∀ row ∈ batch, id row ∉ rows.map id) : newRows id rows batch = batch := by
  induction batch generalizing rows with
  | nil => rfl
  | cons row rest ih =>
      obtain ⟨hother, hrest⟩ := List.nodup_cons.mp hdistinct
      rw [newRows, if_neg (hfree row (by simp)), ih hrest fun other hmem hheld => ?_]
      rw [List.map_append, List.mem_append, List.map_singleton,
        List.mem_singleton] at hheld
      rcases hheld with hheld | hsame
      · exact hfree other (List.mem_cons_of_mem _ hmem) hheld
      · exact hother (hsame ▸ List.mem_map_of_mem hmem)

theorem newRows_filter {batch : List Row} {isWanted : Row → Bool}
    (hheld : ∀ row ∈ batch, isWanted row = false → id row ∈ rows.map id) :
    newRows id rows (batch.filter isWanted) = newRows id rows batch := by
  induction batch generalizing rows with
  | nil => rfl
  | cons row rest ih =>
      have hrest : ∀ other ∈ rest, isWanted other = false → id other ∈ rows.map id :=
        fun other hother => hheld other (List.mem_cons_of_mem _ hother)
      cases hwanted : isWanted row with
      | false =>
          rw [List.filter_cons_of_neg (by simp [hwanted]), newRows,
            if_pos (hheld row (by simp) hwanted), ih hrest]
      | true =>
          rw [List.filter_cons_of_pos hwanted, newRows, newRows]
          split
          · exact ih hrest
          · rw [ih fun other hother hother' => ?_]
            rw [List.map_append, List.mem_append]
            exact .inl (hrest other hother hother')

structure Drawn (supply : Nat → Id) (first last : Nat) (ids : List Id) : Prop where
  distinct : ids.Nodup
  drawn : ∀ id ∈ ids, ∃ position, first ≤ position ∧ position < last ∧ supply position = id

namespace Drawn

omit [DecidableEq Id]

variable {supply : Nat → Id} {first middle last : Nat} {ids others : List Id}

theorem nil : Drawn supply first last [] := ⟨List.nodup_nil, by simp⟩

theorem mono {first' last' : Nat} (hdrawn : Drawn supply first last ids)
    (hfirst : first' ≤ first) (hlast : last ≤ last') : Drawn supply first' last' ids := by
  refine ⟨hdrawn.distinct, fun id hid => ?_⟩
  obtain ⟨position, hstart, hstop, hsupply⟩ := hdrawn.drawn id hid
  exact ⟨position, hfirst.trans hstart, by omega, hsupply⟩

theorem one (hfirst : first ≤ middle) (hlast : middle < last) :
    Drawn supply first last [supply middle] :=
  ⟨List.nodup_singleton _, by simpa using ⟨middle, hfirst, hlast, rfl⟩⟩

theorem append (hinjective : Function.Injective supply)
    (hids : Drawn supply first middle ids) (hothers : Drawn supply middle last others)
    (hfirst : first ≤ middle) (hlast : middle ≤ last) :
    Drawn supply first last (ids ++ others) := by
  refine ⟨List.nodup_append'.mpr ⟨hids.distinct, hothers.distinct, ?_⟩, fun id hid => ?_⟩
  · intro id hid hother
    obtain ⟨position, _, hbefore, hsupply⟩ := hids.drawn id hid
    obtain ⟨position', hafter, _, hsupply'⟩ := hothers.drawn id hother
    have hsame := hinjective (hsupply.trans hsupply'.symm)
    omega
  · rcases List.mem_append.mp hid with hid | hid
    · exact (hids.mono le_rfl hlast).drawn id hid
    · exact (hothers.mono hfirst le_rfl).drawn id hid

theorem indices {Item : Type*} (hinjective : Function.Injective supply) (items : List Item) :
    Drawn supply first (first + items.length)
      (items.zipIdx.map fun item => supply (first + item.2)) := by
  constructor
  · have hindices : (items.zipIdx.map fun item => supply (first + item.2)) =
        (List.range' 0 items.length).map fun index => supply (first + index) := by
      rw [← List.zipIdx_map_snd, List.map_map]
      rfl
    rw [hindices]
    have hdistinct : (List.range' 0 items.length).Nodup := List.nodup_range'
    exact hdistinct.map fun index other heq => Nat.add_left_cancel (hinjective heq)
  · intro id hid
    obtain ⟨⟨item, index⟩, hmem, rfl⟩ := List.mem_map.mp hid
    have hindex := List.snd_lt_of_mem_zipIdx hmem
    exact ⟨first + index, by omega, by simpa using hindex, rfl⟩

end Drawn

end Osvauld.Data.KeyedInserts

namespace Osvauld.Persistance

open Osvauld.Core Data Data.KeyedInserts

namespace Table

variable {Row Key : Type} (table : Table Row) (key : Row → Key)

def Admits (ctx : RepositoryContext) (batch : List Row) : Prop :=
  Addable key (fun row => table.referenced ctx row = true) (table.rows ctx)
    (newRows table.id (table.rows ctx) batch)

def AdmitsAll (ctx : RepositoryContext) (batch : List Row) : Prop :=
  Addable table.id (fun _ => True) (table.rows ctx) batch ∧
    Addable key (fun row => table.referenced ctx row = true) (table.rows ctx) batch

variable {table} in
theorem insert_of_held {ctx : RepositoryContext} {row : Row}
    (hheld : table.id row ∈ (table.rows ctx).map table.id) :
    table.insert .doNothing row ctx = .ok ctx := by
  have hid : ((table.rows ctx).any fun other => table.id other = table.id row) =
      true := by
    simpa using hheld
  rw [Table.insert, hid, if_pos rfl]

namespace Keyed

variable {table key} (hkeyed : table.Keyed key) {ctx ctx' : RepositoryContext}

include hkeyed

theorem insert_of_free {onConflict : OnConflict} {row : Row}
    (hfree : table.id row ∉ (table.rows ctx).map table.id) :
    table.insert onConflict row ctx = .ok ctx' ↔
      (key row ∉ (table.rows ctx).map key ∧ table.referenced ctx row = true) ∧
        ctx' = table.setRows (table.rows ctx ++ [row]) ctx := by
  have hid : ((table.rows ctx).any fun other => table.id other = table.id row) =
      false := by
    simpa using hfree
  have hclash : ((table.rows ctx).any fun other => table.clash other row) = true ↔
      key row ∈ (table.rows ctx).map key := by
    rw [List.any_eq_true, List.mem_map]
    refine exists_congr fun other => and_congr_right fun hother => ?_
    exact hkeyed.clash other row fun heq => hfree (heq ▸ List.mem_map_of_mem hother)
  unfold Table.insert
  rw [hid, if_neg Bool.false_ne_true]
  by_cases hkey : key row ∈ (table.rows ctx).map key
  · rw [if_pos (hclash.mpr hkey)]
    simp [hkey]
  rw [if_neg (mt hclash.mp hkey)]
  by_cases hreferenced : table.referenced ctx row = true
  · rw [if_pos hreferenced]
    simp only [hkey, hreferenced, not_false_eq_true, and_self, true_and, Except.ok.injEq]
    exact eq_comm
  · rw [if_neg hreferenced]
    simp [hreferenced]

theorem insertAll_eq_ok_iff_newRows {batch : List Row} :
    table.insertAll .doNothing batch ctx = .ok ctx' ↔
      table.Admits key ctx batch ∧
        ctx' = table.setRows
          (table.rows ctx ++ newRows table.id (table.rows ctx) batch) ctx := by
  induction batch generalizing ctx with
  | nil =>
      have hnothing : newRows table.id (table.rows ctx) [] = [] := rfl
      rw [Admits, hnothing, List.append_nil, hkeyed.setRows_rows, @eq_comm _ ctx']
      simp [insertAll, pure, Except.pure]
  | cons row rest ih =>
      rw [insertAll, List.foldlM_cons, bind_eq_ok]
      by_cases hheld : table.id row ∈ (table.rows ctx).map table.id
      · have hrows : newRows table.id (table.rows ctx) (row :: rest) =
            newRows table.id (table.rows ctx) rest := by
          rw [newRows, if_pos hheld]
        rw [Admits, hrows, ← Admits, ← ih, insert_of_held hheld]
        simp [insertAll]
      · have hrows : newRows table.id (table.rows ctx) (row :: rest) =
            row :: newRows table.id (table.rows ctx ++ [row]) rest := by
          rw [newRows, if_neg hheld]
        rw [Admits, hrows, addable_cons_iff]
        simp only [insert_of_free hkeyed hheld, and_assoc, exists_and_left,
          exists_eq_left]
        rw [← insertAll, ih, Admits, hkeyed.rows_setRows, hkeyed.referenced_setRows,
          hkeyed.setRows_setRows, List.append_assoc, List.singleton_append]

theorem insertAll_abort_eq_ok_iff {batch : List Row} :
    table.insertAll .abort batch ctx = .ok ctx' ↔
      table.AdmitsAll key ctx batch ∧
        ctx' = table.setRows (table.rows ctx ++ batch) ctx := by
  induction batch generalizing ctx with
  | nil =>
      rw [List.append_nil, hkeyed.setRows_rows, @eq_comm _ ctx']
      simp [insertAll, AdmitsAll, pure, Except.pure]
  | cons row rest ih =>
      rw [insertAll, List.foldlM_cons, bind_eq_ok, AdmitsAll, addable_cons_iff,
        addable_cons_iff]
      by_cases hheld : table.id row ∈ (table.rows ctx).map table.id
      · have hid : ((table.rows ctx).any fun other => table.id other = table.id row) =
            true := by
          simpa using hheld
        simp [Table.insert, hid, hheld]
      · simp only [insert_of_free hkeyed hheld, and_assoc, exists_and_left,
          exists_eq_left]
        rw [← insertAll, ih, AdmitsAll, hkeyed.rows_setRows, hkeyed.referenced_setRows,
          hkeyed.setRows_setRows, List.append_assoc, List.singleton_append]
        tauto

theorem insert_abort_eq_ok_iff {row : Row} :
    table.insert .abort row ctx = .ok ctx' ↔
      (table.id row ∉ (table.rows ctx).map table.id ∧
          key row ∉ (table.rows ctx).map key ∧ table.referenced ctx row = true) ∧
        ctx' = table.setRows (table.rows ctx ++ [row]) ctx := by
  rw [← insertAll_singleton, insertAll_abort_eq_ok_iff hkeyed, AdmitsAll, addable_cons_iff,
    addable_cons_iff]
  simp only [addable_nil, and_true]

end Keyed

end Table

end Osvauld.Persistance
