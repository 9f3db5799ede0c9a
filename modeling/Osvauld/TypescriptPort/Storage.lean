import Mathlib.Data.List.Sort
import Osvauld.Data.Program

namespace Osvauld.TypescriptPort

open Data

/-! The tables of the database, and `BaseRepository` on one of them. -/

inductive PortError
  | notFound (tableName id : String)
  | constraint (tableName id : String)
  | error (message : String)
  /-- No error of the code: a loop has not ended within the rounds it was given. -/
  | unfinished
deriving DecidableEq

/-- What a repository has to know of the records it keeps. -/
class Entity (Row : Type) where
  tableName : String
  id : Row → String
  /-- The record after an update: the stored one with the keys that the new data
  has. The primary key stays. -/
  assign : Row → Row → Row
  id_assign : ∀ stored data, id (assign stored data) = id stored

variable {Row : Type} [Entity Row]

structure Table (Row : Type) [Entity Row] where
  rows : List Row
  nodup : (rows.map Entity.id).Nodup

namespace Table

def empty : Table Row := ⟨[], List.nodup_nil⟩

def get (table : Table Row) (id : String) : Option Row :=
  table.rows.find? fun row => Entity.id row = id

variable {table : Table Row} {id : String} {row : Row}

theorem mem_of_get (hget : table.get id = some row) : row ∈ table.rows ∧ Entity.id row = id :=
  ⟨List.mem_of_find?_eq_some hget, by simpa using List.find?_some hget⟩

theorem eq_of_id {other : Row} (hrow : row ∈ table.rows) (hother : other ∈ table.rows)
    (hid : Entity.id row = Entity.id other) : row = other :=
  List.inj_on_of_nodup_map table.nodup hrow hother hid

theorem get_of_mem (hrow : row ∈ table.rows) : table.get (Entity.id row) = some row := by
  cases hget : table.get (Entity.id row) with
  | none =>
      have hall := List.find?_eq_none.mp hget row hrow
      simp at hall
  | some other =>
      obtain ⟨hother, hid⟩ := mem_of_get hget
      rw [eq_of_id hother hrow hid]

theorem get_eq_some_iff : table.get id = some row ↔ row ∈ table.rows ∧ Entity.id row = id := by
  refine ⟨mem_of_get, ?_⟩
  rintro ⟨hrow, rfl⟩
  exact get_of_mem hrow

def add (row : Row) (table : Table Row) : Except PortError (Table Row) :=
  if hfree : Entity.id row ∈ table.rows.map Entity.id then
    .error (.constraint (Entity.tableName Row) (Entity.id row))
  else
    .ok
      { rows := table.rows.orderedInsert (fun a b => Entity.id a ≤ Entity.id b) row
        nodup := by
          have hperm := (List.perm_orderedInsert
            (fun a b : Row => Entity.id a ≤ Entity.id b) row table.rows).map Entity.id
          rw [hperm.nodup_iff, List.map_cons, List.nodup_cons]
          exact ⟨hfree, table.nodup⟩ }

/-- Nothing happens when there is no such record. -/
def update (id : String) (data : Row) (table : Table Row) : Table Row where
  rows := table.rows.map fun row =>
    if Entity.id row = id then Entity.assign row data else row
  nodup := by
    have hids : (table.rows.map fun row =>
        if Entity.id row = id then Entity.assign row data else row).map Entity.id =
          table.rows.map Entity.id := by
      rw [List.map_map]
      refine List.map_congr_left fun row _ => ?_
      by_cases hid : Entity.id row = id
      · simp only [Function.comp_apply, hid, if_true, Entity.id_assign]
      · simp only [Function.comp_apply, hid, if_false]
    rw [hids]
    exact table.nodup

def delete (id : String) (table : Table Row) : Table Row where
  rows := table.rows.filter fun row => Entity.id row ≠ id
  nodup := table.nodup.sublist (List.filter_sublist.map _)

theorem add_eq_ok_iff {after : Table Row} :
    table.add row = .ok after ↔ (∀ other ∈ table.rows, Entity.id other ≠ Entity.id row) ∧
      after.rows =
        table.rows.orderedInsert (fun a b => Entity.id a ≤ Entity.id b) row := by
  obtain ⟨rows, hnodup⟩ := after
  unfold add
  split
  · next htaken =>
      obtain ⟨other, hother, hid⟩ := List.mem_map.mp htaken
      simp only [reduceCtorEq, false_iff, not_and]
      exact fun hfree => absurd hid (hfree other hother)
  · next hfree =>
      simp only [Except.ok.injEq, mk.injEq]
      refine ⟨fun hrows => ⟨fun other hother hid =>
        hfree (List.mem_map.mpr ⟨other, hother, hid⟩), hrows.symm⟩, fun hrows => hrows.2.symm⟩

theorem mem_add {other : Row} {after : Table Row} (hadd : table.add row = .ok after) :
    other ∈ after.rows ↔ other = row ∨ other ∈ table.rows := by
  rw [(add_eq_ok_iff.mp hadd).2, List.mem_orderedInsert]

theorem mem_update {data other : Row} :
    other ∈ (table.update id data).rows ↔
      (∃ row ∈ table.rows, Entity.id row = id ∧ other = Entity.assign row data) ∨
        (other ∈ table.rows ∧ Entity.id other ≠ id) := by
  simp only [update, List.mem_map]
  constructor
  · rintro ⟨row, hrow, rfl⟩
    by_cases hid : Entity.id row = id
    · exact .inl ⟨row, hrow, hid, if_pos hid⟩
    · rw [if_neg hid]
      exact .inr ⟨hrow, hid⟩
  · rintro (⟨row, hrow, hid, rfl⟩ | ⟨hother, hid⟩)
    · exact ⟨row, hrow, if_pos hid⟩
    · exact ⟨other, hother, if_neg hid⟩

theorem get_update {data : Row} (hget : table.get id = some row) :
    (table.update id data).get id = some (Entity.assign row data) := by
  obtain ⟨hrow, hid⟩ := mem_of_get hget
  exact get_eq_some_iff.mpr
    ⟨mem_update.mpr (.inl ⟨row, hrow, hid, rfl⟩), (Entity.id_assign row data).trans hid⟩

theorem mem_delete : row ∈ (table.delete id).rows ↔ row ∈ table.rows ∧ Entity.id row ≠ id := by
  simp [delete]

end Table

namespace BaseRepository

def get (id : String) : Program (Table Row) PortError Row :=
  .read fun table =>
    match table.get id with
    | none => .error (.notFound (Entity.tableName Row) id)
    | some row => .ok row

def list : Program (Table Row) PortError (List Row) :=
  .read fun table => .ok table.rows

def create (data : Row) : Program (Table Row) PortError Row := do
  Program.write fun table => table.add data
  return data

def update (id : String) (data : Row) : Program (Table Row) PortError Row := do
  Program.write fun table => .ok (table.update id data)
  get id

def delete (id : String) : Program (Table Row) PortError Unit :=
  .write fun table => .ok (table.delete id)

open Program

variable {table : Table Row} {id : String} {row : Row}

theorem get_run (hget : table.get id = some row) : (get id).run table = (.ok row, table) := by
  simp [get, hget]

theorem get_run_none (hget : table.get id = none) :
    (get id).run table = (.error (.notFound (Entity.tableName Row) id), table) := by
  simp [get, hget]

theorem update_run (hget : table.get id = some row) (data : Row) :
    (update id data).run table = (.ok (Entity.assign row data), table.update id data) := by
  simp [update, run_write, get_run (Table.get_update hget)]

end BaseRepository

end Osvauld.TypescriptPort
