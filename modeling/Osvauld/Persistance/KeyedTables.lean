import Osvauld.Data.KeyedInserts
import Osvauld.Persistance.ResourceRepository

namespace Osvauld.Persistance

open Osvauld.Core Data Data.KeyedInserts

/-! The tables of the schema as tables of rows with an id and a key. -/

/-- The rows are kept apart by their ids and by the key, and what they refer to is
in other tables. -/
structure Table.Keyed {Row Key : Type} (table : Table Row) (key : Row → Key) :
    Prop where
  clash : ∀ row other, table.id row ≠ table.id other →
    (table.clash row other = true ↔ key row = key other)
  rows_setRows : ∀ rows ctx, table.rows (table.setRows rows ctx) = rows
  setRows_rows : ∀ ctx, table.setRows (table.rows ctx) ctx = ctx
  setRows_setRows : ∀ rows rows' ctx,
    table.setRows rows' (table.setRows rows ctx) = table.setRows rows' ctx
  referenced_setRows : ∀ rows ctx, table.referenced (table.setRows rows ctx) =
    table.referenced ctx

namespace Table.Keyed

variable {Row Key : Type} {table : Table Row} {key : Row → Key}
variable (hkeyed : table.Keyed key) {ctx ctx' : RepositoryContext}

include hkeyed

theorem insert_eq_ok_iff {row : Row} :
    table.insert .doNothing row ctx = .ok ctx' ↔
      Accepts table.id key (fun row => table.referenced ctx row = true)
          (table.rows ctx) [row] ∧
        ctx' = table.setRows (extend table.id [row] (table.rows ctx)) ctx := by
  have hheld : ((table.rows ctx).any fun other => table.id other = table.id row) =
      true ↔ table.id row ∈ (table.rows ctx).map table.id := by
    simp
  unfold Table.insert Accepts
  rw [List.forall_mem_singleton]
  by_cases hid : table.id row ∈ (table.rows ctx).map table.id
  · rw [if_pos (hheld.mpr hid), extend_singleton_of_held hid, hkeyed.setRows_rows]
    simp only [hid, not_true_eq_false, false_implies, true_and, Except.ok.injEq]
    exact eq_comm
  rw [if_neg (mt hheld.mp hid), extend_singleton_of_free hid]
  have hclash : ((table.rows ctx).any fun other => table.clash other row) = true ↔
      key row ∈ (table.rows ctx).map key := by
    rw [List.any_eq_true, List.mem_map]
    refine exists_congr fun other => and_congr_right fun hother => ?_
    exact hkeyed.clash other row fun heq => hid (heq ▸ List.mem_map_of_mem hother)
  by_cases hkey : key row ∈ (table.rows ctx).map key
  · rw [if_pos (hclash.mpr hkey)]
    simp [hid, hkey]
  rw [if_neg (mt hclash.mp hkey)]
  by_cases hreferenced : table.referenced ctx row = true
  · rw [if_pos hreferenced]
    simp only [hid, hkey, hreferenced, not_false_eq_true, and_self, implies_true,
      true_and, Except.ok.injEq]
    exact eq_comm
  · rw [if_neg hreferenced]
    simp [hid, hreferenced]

theorem insertAll_eq_ok_iff {batch : List Row} (hbatch : WellKeyed table.id key batch) :
    table.insertAll .doNothing batch ctx = .ok ctx' ↔
      Accepts table.id key (fun row => table.referenced ctx row = true)
          (table.rows ctx) batch ∧
        ctx' = table.setRows (extend table.id batch (table.rows ctx)) ctx := by
  induction batch generalizing ctx with
  | nil =>
      have hnothing : extend table.id [] (table.rows ctx) = table.rows ctx := by
        simp [extend]
      rw [hnothing, hkeyed.setRows_rows, @eq_comm _ ctx']
      simp [insertAll, Accepts, pure, Except.pure]
  | cons row rest ih =>
      have hids : ∀ other ∈ rest, table.id row ≠ table.id other := fun other hother heq =>
        (List.nodup_cons.mp hbatch.ids).1 (heq ▸ List.mem_map_of_mem hother)
      rw [insertAll, List.foldlM_cons, bind_eq_ok]
      simp only [hkeyed.insert_eq_ok_iff, and_assoc, exists_and_left, exists_eq_left]
      rw [← insertAll, ih (hbatch.sublist (List.sublist_cons_self row rest)),
        hkeyed.rows_setRows, hkeyed.referenced_setRows, hkeyed.setRows_setRows,
        extend_cons hids, accepts_cons_iff hbatch, and_assoc]

end Table.Keyed

theorem resources_keyed : Table.resources.Keyed Resource.id where
  clash _ _ hid := by simpa [Table.resources] using hid
  rows_setRows _ _ := rfl
  setRows_rows _ := rfl
  setRows_setRows _ _ _ := rfl
  referenced_setRows _ _ := rfl

theorem folders_keyed : Table.folders.Keyed Folder.id where
  clash _ _ hid := by simpa [Table.folders] using hid
  rows_setRows _ _ := rfl
  setRows_rows _ := rfl
  setRows_setRows _ _ _ := rfl
  referenced_setRows _ _ := rfl

theorem folderShareRecords_keyed :
    Table.folderShareRecords.Keyed FolderShareRecord.id where
  clash _ _ hid := by simpa [Table.folderShareRecords] using hid
  rows_setRows _ _ := rfl
  setRows_rows _ := rfl
  setRows_setRows _ _ _ := rfl
  referenced_setRows _ _ := rfl

theorem shareRecords_keyed : Table.shareRecords.Keyed ShareRecord.id where
  clash _ _ hid := by simpa [Table.shareRecords] using hid
  rows_setRows _ _ := rfl
  setRows_rows _ := rfl
  setRows_setRows _ _ _ := rfl
  referenced_setRows _ _ := rfl

def keyPair (key : ResourceKey) : String × String := (key.resourceId, key.userId)

def clockPair (clock : ResourceVectorClockModel) : String × String :=
  (clock.resourceId, clock.deviceId)

theorem resourceKeys_keyed : Table.resourceKeys.Keyed keyPair where
  clash _ _ _ := by simp [Table.resourceKeys, keyPair]
  rows_setRows _ _ := rfl
  setRows_rows _ := rfl
  setRows_setRows _ _ _ := rfl
  referenced_setRows _ _ := rfl

theorem vectorClocks_keyed : Table.vectorClocks.Keyed clockPair where
  clash _ _ _ := by simp [Table.vectorClocks, clockPair]
  rows_setRows _ _ := rfl
  setRows_rows _ := rfl
  setRows_setRows _ _ _ := rfl
  referenced_setRows _ _ := rfl

def clockRows (payload : ResourceSyncData) : List ResourceVectorClockModel :=
  payload.vectorClocks.map .ofDomain

structure Describes (resourceId : String) (payload : ResourceSyncData) : Prop where
  resource : payload.resource.id = resourceId
  keys : WellKeyed ResourceKey.id keyPair payload.resourceKeys
  keysOf : ∀ key ∈ payload.resourceKeys, key.resourceId = resourceId
  shares : WellKeyed ShareRecord.id ShareRecord.id payload.shareRecords
  sharesOf : ∀ record ∈ payload.shareRecords, record.resourceId = resourceId
  clocks : WellKeyed ResourceVectorClockModel.id clockPair (clockRows payload)
  clocksOf : ∀ clock ∈ clockRows payload, clock.resourceId = resourceId

def imported (payload : ResourceSyncData) (ctx : RepositoryContext) :
    RepositoryContext :=
  { ctx with
    resources := extend Resource.id [payload.resource] ctx.resources
    resourceKeys := extend ResourceKey.id payload.resourceKeys ctx.resourceKeys
    shareRecords := extend ShareRecord.id payload.shareRecords ctx.shareRecords
    vectorClocks :=
      extend ResourceVectorClockModel.id (clockRows payload) ctx.vectorClocks }

def AdmitsResource (ctx : RepositoryContext) (resource : Resource) : Prop :=
  folderExists ctx resource.folderId = true ∧
    userExists ctx resource.createdBy = true

def AdmitsKey (ctx : RepositoryContext) (key : ResourceKey) : Prop :=
  userExists ctx key.userId = true

def AdmitsShare (ctx : RepositoryContext) (record : ShareRecord) : Prop :=
  userExists ctx record.sharedByUserId = true ∧
    userExists ctx record.recipientUserId = true

def AdmitsClock (ctx : RepositoryContext) (clock : ResourceVectorClockModel) : Prop :=
  deviceExists ctx clock.deviceId = true

structure Importable (payload : ResourceSyncData) (ctx : RepositoryContext) : Prop where
  resource : Accepts Resource.id Resource.id (AdmitsResource ctx) ctx.resources
    [payload.resource]
  keys : Accepts ResourceKey.id keyPair (AdmitsKey ctx) ctx.resourceKeys
    payload.resourceKeys
  shares : Accepts ShareRecord.id ShareRecord.id (AdmitsShare ctx) ctx.shareRecords
    payload.shareRecords
  clocks : Accepts ResourceVectorClockModel.id clockPair (AdmitsClock ctx)
    ctx.vectorClocks (clockRows payload)

theorem resourceExists_extend (payload : ResourceSyncData) (ctx : RepositoryContext) :
    resourceExists (Table.resources.setRows
      (extend Resource.id [payload.resource] ctx.resources) ctx) payload.resource.id =
        true := by
  have hmem : payload.resource.id ∈
      (extend Resource.id [payload.resource] ctx.resources).map Resource.id :=
    mem_ids_extend.mpr (.inr (by simp))
  simpa [resourceExists, Table.resources] using hmem

theorem wellKeyed_singleton {Row Id Key : Type} {id : Row → Id} {key : Row → Key}
    (row : Row) : WellKeyed id key [row] :=
  ⟨List.nodup_singleton _, List.nodup_singleton _⟩

theorem saveResourceSyncData_eq_ok_iff {resourceId : String}
    {payload : ResourceSyncData} (hdescribes : Describes resourceId payload)
    {ctx ctx' : RepositoryContext} :
    ResourceRepo.saveResourceSyncData payload ctx = .ok ctx' ↔
      Importable payload ctx ∧ ctx' = imported payload ctx := by
  have hexists := resourceExists_extend payload ctx
  rw [hdescribes.resource] at hexists
  simp only [ResourceRepo.saveResourceSyncData, reportAs_eq_ok, bind_eq_ok,
    ← Table.insertAll_singleton, resources_keyed.insertAll_eq_ok_iff (wellKeyed_singleton _),
    resourceKeys_keyed.insertAll_eq_ok_iff hdescribes.keys,
    shareRecords_keyed.insertAll_eq_ok_iff hdescribes.shares, and_assoc,
    exists_and_left, exists_eq_left]
  rw [← clockRows, vectorClocks_keyed.insertAll_eq_ok_iff hdescribes.clocks]
  have hkeys : ∀ key ∈ payload.resourceKeys,
      (resourceExists (Table.resources.setRows
          (extend Resource.id [payload.resource] ctx.resources) ctx) key.resourceId &&
        userExists ctx key.userId) = true ↔ AdmitsKey ctx key := by
    intro key hkey
    rw [hdescribes.keysOf key hkey, hexists, Bool.true_and, AdmitsKey]
  have hshares : ∀ record ∈ payload.shareRecords,
      (resourceExists (Table.resources.setRows
          (extend Resource.id [payload.resource] ctx.resources) ctx) record.resourceId &&
        userExists ctx record.sharedByUserId &&
          userExists ctx record.recipientUserId) = true ↔ AdmitsShare ctx record := by
    intro record hrecord
    rw [hdescribes.sharesOf record hrecord, hexists, Bool.true_and, AdmitsShare,
      Bool.and_eq_true]
  have hclocks : ∀ clock ∈ clockRows payload,
      (resourceExists (Table.resources.setRows
          (extend Resource.id [payload.resource] ctx.resources) ctx) clock.resourceId &&
        deviceExists ctx clock.deviceId) = true ↔ AdmitsClock ctx clock := by
    intro clock hclock
    rw [hdescribes.clocksOf clock hclock, hexists, Bool.true_and, AdmitsClock]
  refine (and_congr (accepts_congr fun _ _ => Bool.and_eq_true_iff)
    (and_congr (accepts_congr hkeys) (and_congr (accepts_congr hshares)
      (and_congr (accepts_congr hclocks) Iff.rfl)))).trans ?_
  constructor
  · rintro ⟨hresource, hkeys, hshares, hclocks, rfl⟩
    exact ⟨⟨hresource, hkeys, hshares, hclocks⟩, rfl⟩
  · rintro ⟨⟨hresource, hkeys, hshares, hclocks⟩, rfl⟩
    exact ⟨hresource, hkeys, hshares, hclocks, rfl⟩

end Osvauld.Persistance
