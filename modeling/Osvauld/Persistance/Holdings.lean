import Osvauld.Persistance.FolderRepository
import Osvauld.Persistance.ResourceRepository

namespace Osvauld.Persistance

open Osvauld.Core Data

/-! What the repositories do to resources and to their keys. -/

structure Adds (resource : Resource → Prop) (key : ResourceKey → Prop)
    (ctx ctx' : RepositoryContext) : Prop where
  users : ctx'.users = ctx.users
  resources : ∃ added, ctx'.resources = ctx.resources ++ added ∧
    ∀ row ∈ added, resource row ∧ ∀ other ∈ ctx.resources, other.id ≠ row.id
  resourceKeys : ∀ row ∈ ctx'.resourceKeys, row ∈ ctx.resourceKeys ∨ key row

abbrev AddsNone : RepositoryContext → RepositoryContext → Prop :=
  Adds (fun _ => False) (fun _ => False)

namespace Adds

variable {resource : Resource → Prop} {key : ResourceKey → Prop}

theorem of_eq {ctx ctx' : RepositoryContext} (husers : ctx'.users = ctx.users)
    (hresources : ctx'.resources = ctx.resources)
    (hkeys : ctx'.resourceKeys = ctx.resourceKeys) : Adds resource key ctx ctx' :=
  ⟨husers, ⟨[], by simp [hresources]⟩, fun row hrow => .inl (hkeys ▸ hrow)⟩

theorem refl (ctx : RepositoryContext) : Adds resource key ctx ctx :=
  of_eq rfl rfl rfl

theorem trans {first second third : RepositoryContext}
    (hfirst : Adds resource key first second) (hsecond : Adds resource key second third) :
    Adds resource key first third := by
  obtain ⟨husers, ⟨added, heq, hadded⟩, hkeys⟩ := hfirst
  obtain ⟨husers', ⟨added', heq', hadded'⟩, hkeys'⟩ := hsecond
  refine ⟨husers'.trans husers, ⟨added ++ added', by rw [heq', heq, List.append_assoc],
    List.forall_mem_append.mpr ⟨hadded, fun row hrow => ?_⟩⟩, fun row hrow => ?_⟩
  · obtain ⟨hkind, hfree⟩ := hadded' row hrow
    exact ⟨hkind, fun other hother => hfree other (by simp [heq, hother])⟩
  · exact (hkeys' row hrow).elim (hkeys row) .inr

theorem mono {resource' : Resource → Prop} {key' : ResourceKey → Prop}
    {ctx ctx' : RepositoryContext} (hadds : Adds resource key ctx ctx')
    (hresource : ∀ row, resource row → resource' row)
    (hkey : ∀ row, key row → key' row) : Adds resource' key' ctx ctx' := by
  obtain ⟨husers, ⟨added, heq, hadded⟩, hkeys⟩ := hadds
  exact ⟨husers, ⟨added, heq, fun row hrow => (hadded row hrow).imp_left (hresource row)⟩,
    fun row hrow => (hkeys row hrow).imp_right (hkey row)⟩

theorem of_none {ctx ctx' : RepositoryContext} (hnone : AddsNone ctx ctx') :
    Adds resource key ctx ctx' :=
  hnone.mono (fun _ => False.elim) fun _ => False.elim

end Adds

variable {ctx : RepositoryContext}

theorem AddsNone.resources_eq {ctx' : RepositoryContext} (hnone : AddsNone ctx ctx') :
    ctx'.resources = ctx.resources := by
  obtain ⟨added, heq, hadded⟩ := hnone.resources
  obtain rfl : added = [] := List.eq_nil_iff_forall_not_mem.mpr fun row hrow =>
    (hadded row hrow).1
  simpa using heq

theorem AddsNone.mem_resourceKeys {ctx' : RepositoryContext} (hnone : AddsNone ctx ctx')
    {row : ResourceKey} (hrow : row ∈ ctx'.resourceKeys) : row ∈ ctx.resourceKeys :=
  (hnone.resourceKeys row hrow).elim id False.elim

theorem AddsNone.draw {since : RepositoryContext} (hnone : AddsNone since ctx) (drawnIds : Nat) :
    AddsNone since { ctx with drawnIds } :=
  ⟨hnone.users, hnone.resources, hnone.resourceKeys⟩

namespace Adds

variable {resource : Resource → Prop} {key : ResourceKey → Prop}
variable {onConflict : OnConflict} {ctx ctx' : RepositoryContext}

theorem insertAll_other {Row : Type} {table : Table Row} {rows : List Row}
    (husers : ∀ rows ctx, (table.setRows rows ctx).users = ctx.users)
    (hresources : ∀ rows ctx, (table.setRows rows ctx).resources = ctx.resources)
    (hkeys : ∀ rows ctx, (table.setRows rows ctx).resourceKeys = ctx.resourceKeys)
    (hinsert : table.insertAll onConflict rows ctx = .ok ctx') :
    Adds resource key ctx ctx' :=
  Table.insertAll_induction (Adds resource key ctx)
    (fun _ _ _ _ hstate => hstate.trans
      (of_eq (husers _ _) (hresources _ _) (hkeys _ _))) (refl ctx) hinsert

theorem insertAll_resources {rows : List Resource} (hrows : ∀ row ∈ rows, resource row)
    (hinsert : Table.resources.insertAll onConflict rows ctx = .ok ctx') :
    Adds resource key ctx ctx' := by
  refine Table.insertAll_induction (Adds resource key ctx)
    (fun row hrow state hfree hstate => hstate.trans ?_) (refl ctx) hinsert
  refine ⟨rfl, ⟨[row], rfl, ?_⟩, fun _ => .inl⟩
  simpa using ⟨hrows row hrow, hfree⟩

theorem insertAll_resourceKeys {rows : List ResourceKey} (hrows : ∀ row ∈ rows, key row)
    (hinsert : Table.resourceKeys.insertAll onConflict rows ctx = .ok ctx') :
    Adds resource key ctx ctx' := by
  refine Table.insertAll_induction (Adds resource key ctx)
    (fun row hrow state _ hstate => hstate.trans ?_) (refl ctx) hinsert
  refine ⟨rfl, ⟨[], by simp [Table.resourceKeys]⟩, fun other hother => ?_⟩
  rcases List.mem_append.mp hother with hold | hnew
  · exact .inl hold
  · exact .inr (List.mem_singleton.mp hnew ▸ hrows row hrow)

theorem insertAll_shareRecords {rows : List ShareRecord}
    (hinsert : Table.shareRecords.insertAll onConflict rows ctx = .ok ctx') :
    Adds resource key ctx ctx' :=
  insertAll_other (fun _ _ => rfl) (fun _ _ => rfl) (fun _ _ => rfl) hinsert

theorem insertAll_folderShareRecords {rows : List FolderShareRecord}
    (hinsert : Table.folderShareRecords.insertAll onConflict rows ctx = .ok ctx') :
    Adds resource key ctx ctx' :=
  insertAll_other (fun _ _ => rfl) (fun _ _ => rfl) (fun _ _ => rfl) hinsert

theorem insertAll_vectorClocks {rows : List ResourceVectorClockModel}
    (hinsert : Table.vectorClocks.insertAll onConflict rows ctx = .ok ctx') :
    Adds resource key ctx ctx' :=
  insertAll_other (fun _ _ => rfl) (fun _ _ => rfl) (fun _ _ => rfl) hinsert

theorem saveVectorClock {clock : ResourceVectorClock}
    (hsave : VectorClockRepo.saveVectorClock clock ctx = .ok ctx') :
    Adds resource key ctx ctx' := by
  unfold VectorClockRepo.saveVectorClock at hsave
  split at hsave
  · cases hsave
    exact refl ctx
  · rw [reportAs_eq_ok, ← Table.insertAll_singleton] at hsave
    exact insertAll_vectorClocks hsave

theorem incrementVectorClock {freshId : String} {now : Int} {resourceId deviceId : String}
    (hincrement : VectorClockRepo.incrementVectorClock freshId now resourceId deviceId
      ctx = .ok ctx') : Adds resource key ctx ctx' := by
  unfold VectorClockRepo.incrementVectorClock at hincrement
  split at hincrement
  · cases hincrement
    exact of_eq rfl rfl rfl
  · rw [reportAs_eq_ok, ← Table.insertAll_singleton] at hincrement
    exact insertAll_vectorClocks hincrement

variable {clocks : List ResourceVectorClock} {keys : List ResourceKey}
  {shareRecords : List ShareRecord}

theorem upsertClocks (hupsert : ResourceRepo.upsertClocks clocks ctx = .ok ctx') :
    Adds resource key ctx ctx' := by
  refine foldlM_invariant (Adds resource key ctx)
    (fun clock _ state next hstate hnext => hstate.trans ?_) (refl ctx) hupsert
  unfold ResourceRepo.upsertClock at hnext
  split at hnext
  · cases hnext
    exact of_eq rfl rfl rfl
  · rw [← Table.insertAll_singleton] at hnext
    exact insertAll_vectorClocks hnext

theorem saveResourceWithDependencies {row : Resource} {resourceKey : ResourceKey}
    {shareRecord : ShareRecord} (hrow : resource row) (hkey : key resourceKey)
    (hsave : ResourceRepo.saveResourceWithDependencies row resourceKey shareRecord clocks
      ctx = .ok ctx') : Adds resource key ctx ctx' := by
  simp only [ResourceRepo.saveResourceWithDependencies, reportAs_eq_ok, bind_eq_ok,
    ← Table.insertAll_singleton] at hsave
  obtain ⟨_, hresource, _, hresourceKey, _, hshare, hclocks⟩ := hsave
  exact (insertAll_resources (by simpa using hrow) hresource).trans
    ((insertAll_resourceKeys (by simpa using hkey) hresourceKey).trans
      ((insertAll_shareRecords hshare).trans (insertAll_vectorClocks hclocks)))

theorem shareResourceTransaction {resourceKey : ResourceKey} {shareRecord : ShareRecord}
    (hkey : key resourceKey)
    (hshare : ResourceRepo.shareResourceTransaction resourceKey shareRecord clocks ctx = .ok ctx') :
    Adds resource key ctx ctx' := by
  simp only [ResourceRepo.shareResourceTransaction, reportAs_eq_ok, bind_eq_ok,
    ← Table.insertAll_singleton] at hshare
  obtain ⟨_, hresourceKey, _, hrecord, hclocks⟩ := hshare
  exact (insertAll_resourceKeys (by simpa using hkey) hresourceKey).trans
    ((insertAll_shareRecords hrecord).trans (insertAll_vectorClocks hclocks))

theorem saveBulkSharingData (hkeys : ∀ row ∈ keys, key row)
    (hsave : ResourceRepo.saveBulkSharingData keys shareRecords clocks ctx = .ok ctx') :
    Adds resource key ctx ctx' := by
  simp only [ResourceRepo.saveBulkSharingData, reportAs_eq_ok, bind_eq_ok] at hsave
  obtain ⟨_, hresourceKeys, _, hrecords, hclocks⟩ := hsave
  exact (insertAll_resourceKeys hkeys hresourceKeys).trans
    ((insertAll_shareRecords hrecords).trans (upsertClocks hclocks))

theorem saveResourceAndFolderSharingData {folderShareRecords : List FolderShareRecord}
    (hkeys : ∀ row ∈ keys, key row)
    (hsave : ResourceRepo.saveResourceAndFolderSharingData keys shareRecords clocks
      folderShareRecords ctx = .ok ctx') : Adds resource key ctx ctx' := by
  simp only [ResourceRepo.saveResourceAndFolderSharingData, reportAs_eq_ok, bind_eq_ok]
    at hsave
  obtain ⟨_, hresourceKeys, _, hrecords, _, hclocks, hfolders⟩ := hsave
  exact (insertAll_resourceKeys hkeys hresourceKeys).trans
    ((insertAll_shareRecords hrecords).trans
      ((upsertClocks hclocks).trans (insertAll_folderShareRecords hfolders)))

theorem shareFolderTransaction {folderShareRecord : FolderShareRecord}
    (hkeys : ∀ row ∈ keys, key row)
    (hshare : FolderShareRepo.shareFolderTransaction folderShareRecord keys shareRecords
      clocks ctx = .ok ctx') : Adds resource key ctx ctx' := by
  simp only [FolderShareRepo.shareFolderTransaction, reportAs_eq_ok, bind_eq_ok,
    ← Table.insertAll_singleton] at hshare
  obtain ⟨_, hfolder, _, hresourceKeys, _, hrecords, hclocks⟩ := hshare
  exact (insertAll_folderShareRecords hfolder).trans
    ((insertAll_resourceKeys hkeys hresourceKeys).trans
      ((insertAll_shareRecords hrecords).trans (insertAll_vectorClocks hclocks)))

theorem saveResourceSyncData {payload : ResourceSyncData}
    (hresource : resource payload.resource) (hkeys : ∀ row ∈ payload.resourceKeys, key row)
    (hsave : ResourceRepo.saveResourceSyncData payload ctx = .ok ctx') :
    Adds resource key ctx ctx' := by
  simp only [ResourceRepo.saveResourceSyncData, reportAs_eq_ok, bind_eq_ok,
    ← Table.insertAll_singleton] at hsave
  obtain ⟨_, hrow, _, hresourceKeys, _, hrecords, hclocks⟩ := hsave
  exact (insertAll_resources (by simpa using hresource) hrow).trans
    ((insertAll_resourceKeys hkeys hresourceKeys).trans
      ((insertAll_shareRecords hrecords).trans (insertAll_vectorClocks hclocks)))

end Adds

end Osvauld.Persistance
