import Mathlib.Data.List.Nodup
import Osvauld.Data.Run

namespace Osvauld.Data.KeyedInserts

/-! Tables of rows with an id and a key, both unique. A batch is inserted as a
whole: its rows with an id that is held are skipped, and it is accepted when
each of the others has a free key and is admitted. -/

variable {Row Id Key Content Batch : Type*}
variable (id : Row → Id) (key : Row → Key) (content : Row → Content)
variable (admits : Row → Prop)

structure WellKeyed (rows : List Row) : Prop where
  ids : (rows.map id).Nodup
  keys : (rows.map key).Nodup

def Accepts (rows batch : List Row) : Prop :=
  ∀ row ∈ batch, id row ∉ rows.map id → key row ∉ rows.map key ∧ admits row

def extend [DecidableEq Id] (batch rows : List Row) : List Row :=
  rows ++ batch.filter fun row => id row ∉ rows.map id

variable {id key content admits}

variable {rows : List Row}

theorem accepts_congr {admits' : Row → Prop} {batch : List Row}
    (hadmits : ∀ row ∈ batch, admits row ↔ admits' row) :
    Accepts id key admits rows batch ↔ Accepts id key admits' rows batch :=
  forall₂_congr fun row hrow => imp_congr_right fun _ =>
    and_congr_right fun _ => hadmits row hrow

theorem accepts_id_iff {batch : List Row} :
    Accepts id id admits rows batch ↔
      ∀ row ∈ batch, id row ∉ rows.map id → admits row :=
  forall₂_congr fun _ _ => ⟨fun haccepts hfree => (haccepts hfree).2,
    fun hadmits hfree => ⟨hfree, hadmits hfree⟩⟩

theorem WellKeyed.eq_of_key (hrows : WellKeyed id key rows) {row other : Row} (hrow : row ∈ rows)
    (hother : other ∈ rows) (hkey : key row = key other) : row = other :=
  List.inj_on_of_nodup_map hrows.keys hrow hother hkey

theorem WellKeyed.sublist {others : List Row} (hrows : WellKeyed id key rows)
    (hsublist : others.Sublist rows) : WellKeyed id key others :=
  ⟨hrows.ids.sublist (hsublist.map _), hrows.keys.sublist (hsublist.map _)⟩

section Extend

variable [DecidableEq Id] {rows batch : List Row}

variable {row : Row}

theorem mem_extend :
    row ∈ extend id batch rows ↔
      row ∈ rows ∨ row ∈ batch ∧ id row ∉ rows.map id := by
  simp [extend]

theorem mem_ids_extend {i : Id} :
    i ∈ (extend id batch rows).map id ↔ i ∈ rows.map id ∨ i ∈ batch.map id := by
  constructor
  · intro hmem
    obtain ⟨row, hrow, rfl⟩ := List.mem_map.mp hmem
    exact (mem_extend.mp hrow).imp (List.mem_map_of_mem)
      fun hnew => List.mem_map_of_mem hnew.1
  · intro hmem
    by_cases hheld : i ∈ rows.map id
    · obtain ⟨row, hrow, rfl⟩ := List.mem_map.mp hheld
      exact List.mem_map_of_mem (mem_extend.mpr (.inl hrow))
    · obtain ⟨row, hrow, rfl⟩ := List.mem_map.mp (hmem.resolve_left hheld)
      exact List.mem_map_of_mem (mem_extend.mpr (.inr ⟨hrow, hheld⟩))

theorem WellKeyed.extend (hrows : WellKeyed id key rows)
    (hbatch : WellKeyed id key batch) (haccepts : Accepts id key admits rows batch) :
    WellKeyed id key (extend id batch rows) := by
  have hnew := hbatch.sublist
    (List.filter_sublist (p := fun row => id row ∉ rows.map id))
  unfold KeyedInserts.extend
  constructor
  · rw [List.map_append]
    refine hrows.ids.append hnew.ids fun i hheld hadded => ?_
    obtain ⟨row, hrow, rfl⟩ := List.mem_map.mp hadded
    exact of_decide_eq_true (List.mem_filter.mp hrow).2 hheld
  · rw [List.map_append]
    refine hrows.keys.append hnew.keys fun k hheld hadded => ?_
    obtain ⟨row, hrow, rfl⟩ := List.mem_map.mp hadded
    obtain ⟨hmem, hfree⟩ := List.mem_filter.mp hrow
    exact (haccepts row hmem (of_decide_eq_true hfree)).1 hheld

theorem extend_singleton_of_held (hheld : id row ∈ rows.map id) : extend id [row] rows = rows := by
  rw [extend, List.filter_eq_nil_iff.mpr, List.append_nil]
  simpa using hheld

theorem extend_singleton_of_free (hfree : id row ∉ rows.map id) :
    extend id [row] rows = rows ++ [row] := by
  rw [extend, List.filter_eq_self.mpr]
  simpa using hfree

theorem extend_cons {rest : List Row} (hids : ∀ other ∈ rest, id row ≠ id other) :
    extend id rest (extend id [row] rows) = extend id (row :: rest) rows := by
  have hfilter : (rest.filter fun other => id other ∉ (extend id [row] rows).map id) =
      rest.filter fun other => id other ∉ rows.map id := by
    refine List.filter_congr fun other hother => decide_eq_decide.mpr (not_congr ?_)
    rw [mem_ids_extend, List.map_singleton, List.mem_singleton]
    exact or_iff_left fun heq => hids other hother heq.symm
  rw [extend, hfilter]
  by_cases hheld : id row ∈ rows.map id
  · rw [extend_singleton_of_held hheld, extend,
      List.filter_cons_of_neg (by simpa using hheld)]
  · rw [extend_singleton_of_free hheld, extend,
      List.filter_cons_of_pos (by simpa using hheld), List.append_assoc]
    rfl

theorem accepts_cons_iff {rest : List Row} (hbatch : WellKeyed id key (row :: rest)) :
    Accepts id key admits rows (row :: rest) ↔
      Accepts id key admits rows [row] ∧
        Accepts id key admits (extend id [row] rows) rest := by
  have hids : ∀ other ∈ rest, id other ≠ id row := fun other hother heq =>
    (List.nodup_cons.mp hbatch.ids).1 (heq ▸ List.mem_map_of_mem hother)
  have hkeys : ∀ other ∈ rest, key other ≠ key row := fun other hother heq =>
    (List.nodup_cons.mp hbatch.keys).1 (heq ▸ List.mem_map_of_mem hother)
  have hsame : ∀ other ∈ rest, (id other ∈ (extend id [row] rows).map id ↔
      id other ∈ rows.map id) ∧ (key other ∈ (extend id [row] rows).map key ↔
        key other ∈ rows.map key) := by
    intro other hother
    refine ⟨by simp [mem_ids_extend, hids other hother], ?_⟩
    by_cases hheld : id row ∈ rows.map id
    · rw [extend_singleton_of_held hheld]
    · rw [extend_singleton_of_free hheld]
      simp [hkeys other hother]
  unfold Accepts
  rw [List.forall_mem_cons, List.forall_mem_singleton]
  refine and_congr_right fun _ => forall₂_congr fun other hother => ?_
  rw [(hsame other hother).1, (hsame other hother).2]

end Extend

section Orders

variable [DecidableEq Id]
variable (id key content admits)
variable (rowsOf : Batch → List Row)

abbrev extendAll (rows : List Row) (order : List Batch) : List Row :=
  run (fun batch => extend id (rowsOf batch)) rows order

variable {id rowsOf} in
theorem mem_ids_extendAll {rows : List Row} {order : List Batch} {i : Id}
    (hheld : i ∈ rows.map id) : i ∈ (extendAll id rowsOf rows order).map id := by
  induction order using List.reverseRecOn with
  | nil => exact hheld
  | append_singleton earlier batch ih =>
      rw [extendAll, run_concat, mem_ids_extend]
      exact .inl ih

/-- In every order each batch is accepted, every key that is brought is then
held, and the order makes no difference but to the ids. -/
structure OrderIndependent (rows : List Row) (batches : List Batch) : Prop where
  accepts : ∀ order, order ⊆ batches → ∀ earlier batch, earlier ++ [batch] <+: order →
    Accepts id key admits (extendAll id rowsOf rows earlier) (rowsOf batch)
  held : ∀ order, order ⊆ batches → ∀ batch ∈ order, ∀ row ∈ rowsOf batch,
    key row ∈ (extendAll id rowsOf rows order).map key
  same : ∀ order order', order ⊆ batches → order' ⊆ batches →
    (∀ batch, batch ∈ order ↔ batch ∈ order') →
      ∀ row ∈ extendAll id rowsOf rows order,
        ∃ row' ∈ extendAll id rowsOf rows order',
          key row' = key row ∧ content row' = content row

def Fits (rows batch : List Row) : Prop :=
  ∀ row ∈ batch, (id row ∈ rows.map id ↔ key row ∈ rows.map key) ∧
    (id row ∉ rows.map id → admits row)

/-- The new rows of one batch and the rows of the other have ids in common where
they have keys in common, and there also the content. -/
def Agree (rows batch other : List Row) : Prop :=
  ∀ row ∈ batch, id row ∉ rows.map id →
    (id row ∈ other.map id ↔ key row ∈ other.map key) ∧
      ∀ row' ∈ other, key row' = key row → content row' = content row

structure Compatible (rows : List Row) (batches : List Batch) : Prop where
  fits : ∀ batch ∈ batches, Fits id key admits rows (rowsOf batch)
  agree : ∀ batch ∈ batches, ∀ other ∈ batches,
    Agree id key content rows (rowsOf batch) (rowsOf other)

structure Extended (rows : List Row) (order : List Batch) (after : List Row) :
    Prop where
  wellKeyed : WellKeyed id key after
  ids : ∀ i, i ∈ after.map id ↔
    i ∈ rows.map id ∨ ∃ batch ∈ order, i ∈ (rowsOf batch).map id
  keys : ∀ k, k ∈ after.map key ↔
    k ∈ rows.map key ∨ ∃ batch ∈ order, k ∈ (rowsOf batch).map key
  kept : rows ⊆ after
  origin : ∀ row ∈ after, row ∈ rows ∨
    ∃ batch ∈ order, row ∈ rowsOf batch ∧ id row ∉ rows.map id

variable {id key content admits rowsOf}
variable {rows : List Row} {batches : List Batch}

omit [DecidableEq Id] in
theorem accepts_of_extended {order : List Batch} {after batch : List Row}
    (hafter : Extended id key rowsOf rows order after)
    (hfits : Fits id key admits rows batch)
    (hagree : ∀ other ∈ order, Agree id key content rows batch (rowsOf other)) :
    Accepts id key admits after batch := by
  intro row hrow hfree
  rw [hafter.ids, not_or] at hfree
  obtain ⟨hnew, hothers⟩ := hfree
  refine ⟨?_, (hfits row hrow).2 hnew⟩
  rw [hafter.keys, not_or]
  refine ⟨mt (hfits row hrow).1.mpr hnew, ?_⟩
  rintro ⟨other, hother, hkey⟩
  exact hothers ⟨other, hother, ((hagree other hother row hrow hnew).1).mpr hkey⟩

theorem Extended.step {order : List Batch} {after : List Row} {batch : Batch}
    (hafter : Extended id key rowsOf rows order after)
    (hbatch : WellKeyed id key (rowsOf batch))
    (hfits : Fits id key admits rows (rowsOf batch))
    (hagree : ∀ other ∈ order,
      Agree id key content rows (rowsOf batch) (rowsOf other)) :
    Extended id key rowsOf rows (order ++ [batch])
      (extend id (rowsOf batch) after) := by
  have haccepts := accepts_of_extended hafter hfits hagree
  refine ⟨hafter.wellKeyed.extend hbatch haccepts, fun i => ?_, fun k => ?_,
    fun row hrow => mem_extend.mpr (.inl (hafter.kept hrow)), fun row hrow => ?_⟩
  · simp only [mem_ids_extend, hafter.ids, List.mem_append, List.mem_singleton,
      or_and_right, exists_or, exists_eq_left, or_assoc]
  · constructor
    · intro hmem
      obtain ⟨row, hrow, rfl⟩ := List.mem_map.mp hmem
      rcases mem_extend.mp hrow with hold | ⟨hadded, _⟩
      · exact ((hafter.keys _).mp (List.mem_map_of_mem hold)).imp_right
          fun ⟨other, hother, hkey⟩ => ⟨other, List.mem_append_left _ hother, hkey⟩
      · exact .inr ⟨batch, by simp, List.mem_map_of_mem hadded⟩
    · intro hmem
      have hold : k ∈ after.map key → k ∈ (extend id (rowsOf batch) after).map key := by
        intro hheld
        obtain ⟨row, hrow, rfl⟩ := List.mem_map.mp hheld
        exact List.mem_map_of_mem (mem_extend.mpr (.inl hrow))
      rcases hmem with hstored | ⟨other, hother, hkey⟩
      · exact hold ((hafter.keys k).mpr (.inl hstored))
      rcases List.mem_append.mp hother with hearlier | hlast
      · exact hold ((hafter.keys k).mpr (.inr ⟨other, hearlier, hkey⟩))
      -- A row of the batch that is skipped has a key that is held.
      obtain rfl := List.mem_singleton.mp hlast
      obtain ⟨row, hrow, rfl⟩ := List.mem_map.mp hkey
      by_cases hheld : id row ∈ after.map id
      · refine hold ((hafter.keys _).mpr ?_)
        by_cases hstored : id row ∈ rows.map id
        · exact .inl ((hfits row hrow).1.mp hstored)
        · obtain ⟨before, hbefore, hid⟩ := ((hafter.ids _).mp hheld).resolve_left hstored
          exact .inr ⟨before, hbefore,
            ((hagree before hbefore row hrow hstored).1).mp hid⟩
      · exact List.mem_map_of_mem (mem_extend.mpr (.inr ⟨hrow, hheld⟩))
  · rcases mem_extend.mp hrow with hold | ⟨hadded, hfree⟩
    · exact (hafter.origin row hold).imp_right
        fun ⟨other, hother, hmem⟩ => ⟨other, List.mem_append_left _ hother, hmem⟩
    · refine .inr ⟨batch, by simp, hadded, fun hheld => hfree ?_⟩
      exact (hafter.ids _).mpr (.inl hheld)

variable (hrows : WellKeyed id key rows)
variable (hbatches : ∀ batch ∈ batches, WellKeyed id key (rowsOf batch))

include hrows hbatches

theorem Compatible.extended
    (hcompatible : Compatible id key content admits rowsOf rows batches)
    {order : List Batch} (horder : order ⊆ batches) :
    ∀ earlier, earlier <+: order →
      Extended id key rowsOf rows earlier (extendAll id rowsOf rows earlier) := by
  refine @run_invariant _ _ (fun batch => extend id (rowsOf batch)) rows order
    (fun earlier after => Extended id key rowsOf rows earlier after)
    ⟨hrows, by simp, by simp, List.Subset.refl _, fun row hrow => .inl hrow⟩ ?_
  intro earlier batch hearlier hafter
  have hmem : batch ∈ batches := horder (hearlier.subset (by simp))
  have hothers : ∀ other ∈ earlier,
      Agree id key content rows (rowsOf batch) (rowsOf other) :=
    fun other hother => hcompatible.agree batch hmem other
      (horder (hearlier.subset (List.mem_append_left _ hother)))
  exact hafter.step (hbatches batch hmem) (hcompatible.fits batch hmem) hothers

theorem Compatible.orderIndependent
    (hcompatible : Compatible id key content admits rowsOf rows batches) :
    OrderIndependent id key content admits rowsOf rows batches := by
  have hrun := fun {order} (horder : order ⊆ batches) =>
    hcompatible.extended hrows hbatches horder
  constructor
  · intro order horder earlier batch hearlier
    have hmem : batch ∈ batches := horder (hearlier.subset (by simp))
    refine accepts_of_extended
      (hrun horder earlier ((List.prefix_append _ _).trans hearlier))
      (hcompatible.fits batch hmem)
      fun other hother => hcompatible.agree batch hmem other ?_
    exact horder (hearlier.subset (List.mem_append_left _ hother))
  · intro order horder batch hbatch row hrow
    exact ((hrun horder order List.prefix_rfl).keys _).mpr
      (.inr ⟨batch, hbatch, List.mem_map_of_mem hrow⟩)
  · intro order order' horder horder' hsame row hrow
    have hafter := hrun horder order List.prefix_rfl
    have hafter' := hrun horder' order' List.prefix_rfl
    rcases hafter.origin row hrow with hstored | ⟨batch, hbatch, hmem, hnew⟩
    · exact ⟨row, hafter'.kept hstored, rfl, rfl⟩
    · have hkey : key row ∈ (extendAll id rowsOf rows order').map key :=
        (hafter'.keys _).mpr
          (.inr ⟨batch, (hsame batch).mp hbatch, List.mem_map_of_mem hmem⟩)
      obtain ⟨row', hrow', heq⟩ := List.mem_map.mp hkey
      refine ⟨row', hrow', heq, ?_⟩
      rcases hafter'.origin row' hrow' with hstored' | ⟨other, hother, hmem', _⟩
      · have hfits := hcompatible.fits batch (horder hbatch) row hmem
        exact absurd (hfits.1.mpr (heq ▸ List.mem_map_of_mem hstored')) hnew
      · exact (hcompatible.agree batch (horder hbatch) other (horder' hother) row hmem
          hnew).2 row' hmem' heq

omit hrows in
theorem OrderIndependent.fits
    (hindependent : OrderIndependent id key content admits rowsOf rows batches)
    {batch : Batch} (hbatch : batch ∈ batches) :
    Fits id key admits rows (rowsOf batch) := by
  have horder : [batch] ⊆ batches := by simpa using hbatch
  have haccepts : Accepts id key admits rows (rowsOf batch) :=
    hindependent.accepts [batch] horder [] batch List.prefix_rfl
  intro row hrow
  refine ⟨⟨fun hheld => ?_, fun hkey => ?_⟩, fun hnew => (haccepts row hrow hnew).2⟩
  · have hafter := hindependent.held [batch] horder batch (by simp) row hrow
    obtain ⟨found, hfound, heq⟩ := List.mem_map.mp hafter
    rcases mem_extend.mp hfound with hstored | ⟨hmem, hfree⟩
    · exact heq ▸ List.mem_map_of_mem hstored
    · rw [(hbatches batch hbatch).eq_of_key hmem hrow heq] at hfree
      exact absurd hheld hfree
  · by_contra hnew
    exact (haccepts row hrow hnew).1 hkey

theorem OrderIndependent.agree
    (hindependent : OrderIndependent id key content admits rowsOf rows batches)
    {batch other : Batch} (hbatch : batch ∈ batches) (hother : other ∈ batches) :
    Agree id key content rows (rowsOf batch) (rowsOf other) := by
  have hfits := hindependent.fits hbatches hbatch
  have hfits' := hindependent.fits hbatches hother
  have horder : [other, batch] ⊆ batches := by simp [hbatch, hother]
  have horder' : [batch, other] ⊆ batches := by simp [hbatch, hother]
  have hfirst : Accepts id key admits rows (rowsOf other) :=
    hindependent.accepts [other, batch] horder [] other (by simp)
  have hsecond : Accepts id key admits (extend id (rowsOf other) rows) (rowsOf batch) :=
    hindependent.accepts [other, batch] horder [other] batch List.prefix_rfl
  intro row hrow hnew
  have hfree : key row ∉ rows.map key := mt (hfits row hrow).1.mpr hnew
  have hbrought : ∀ row' ∈ rowsOf other, key row' = key row →
      row' ∈ extend id (rowsOf other) rows := by
    intro row' hrow' hkey
    refine mem_extend.mpr (.inr ⟨hrow', fun hheld => hfree ?_⟩)
    exact hkey ▸ (hfits' row' hrow').1.mp hheld
  refine ⟨⟨fun hid => ?_, fun hkey => ?_⟩, fun row' hrow' hkey => ?_⟩
  · have hafter := hindependent.held [other, batch] horder batch (by simp) row hrow
    obtain ⟨found, hfound, heq⟩ := List.mem_map.mp hafter
    have hheld : id row ∈ (extend id (rowsOf other) rows).map id :=
      mem_ids_extend.mpr (.inr hid)
    rcases mem_extend.mp hfound with hmiddle | ⟨hmem, hadded⟩
    · rcases mem_extend.mp hmiddle with hstored | ⟨hmem, _⟩
      · exact absurd (heq ▸ List.mem_map_of_mem hstored) hfree
      · exact heq ▸ List.mem_map_of_mem hmem
    · rw [(hbatches batch hbatch).eq_of_key hmem hrow heq] at hadded
      exact absurd hheld hadded
  · obtain ⟨row', hrow', heq⟩ := List.mem_map.mp hkey
    by_contra hid
    have hnone : id row ∉ (extend id (rowsOf other) rows).map id := by
      rw [mem_ids_extend, not_or]
      exact ⟨hnew, hid⟩
    refine (hsecond row hrow hnone).1 ?_
    exact heq ▸ List.mem_map_of_mem (hbrought row' hrow' heq)
  · -- Whichever batch comes first decides the content.
    have hthere : row ∈ extendAll id rowsOf rows [batch, other] := by
      have hfirst : row ∈ extend id (rowsOf batch) rows :=
        mem_extend.mpr (.inr ⟨hrow, hnew⟩)
      exact mem_extend.mpr (.inl hfirst)
    obtain ⟨found, hfound, hfoundKey, hcontent⟩ := hindependent.same [batch, other]
      [other, batch] horder' horder (by simp [or_comm]) row hthere
    have hkeyed := (hrows.extend (hbatches other hother) hfirst).extend
      (hbatches batch hbatch) hsecond
    have hhere : row' ∈ extend id (rowsOf batch) (extend id (rowsOf other) rows) :=
      mem_extend.mpr (.inl (hbrought row' hrow' hkey))
    rw [hkeyed.eq_of_key hhere hfound (hkey.trans hfoundKey.symm)]
    exact hcontent

/-- The order of the batches makes no difference exactly when each of them fits
the table and any two of them agree. -/
theorem orderIndependent_iff :
    OrderIndependent id key content admits rowsOf rows batches ↔
      Compatible id key content admits rowsOf rows batches := by
  constructor
  · intro hindependent
    exact ⟨fun batch hbatch => hindependent.fits hbatches hbatch,
      fun batch hbatch other hother =>
        hindependent.agree hrows hbatches hbatch hother⟩
  · exact fun hcompatible => hcompatible.orderIndependent hrows hbatches

end Orders

end Osvauld.Data.KeyedInserts
