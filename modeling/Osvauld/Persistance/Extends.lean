import Mathlib.Order.Defs.Unbundled
import Osvauld.Persistance.UserRepository
import Osvauld.Persistance.FolderRepository
import Osvauld.Persistance.ResourceRepository

namespace Osvauld.Persistance

open Osvauld.Core Data

/-! What the repositories do to share records and devices: rows are only added,
and the added share records are of the given kind. -/

structure Extends (share : ShareRecord → Prop) (ctx ctx' : RepositoryContext) :
    Prop where
  shareRecords : ∃ added, ctx'.shareRecords = ctx.shareRecords ++ added ∧
    ∀ record ∈ added, share record
  folderShareRecords : ∃ added,
    ctx'.folderShareRecords = ctx.folderShareRecords ++ added
  devices : ∃ added, ctx'.devices = ctx.devices ++ added
  deviceIds : (ctx.devices.map fun device => device.id).Nodup →
    (ctx'.devices.map fun device => device.id).Nodup

abbrev Grows : RepositoryContext → RepositoryContext → Prop :=
  Extends fun _ => True

namespace Extends

variable {share : ShareRecord → Prop}

variable {ctx ctx' : RepositoryContext}

theorem of_eq (hshares : ctx'.shareRecords = ctx.shareRecords)
    (hfolders : ctx'.folderShareRecords = ctx.folderShareRecords)
    (hdevices : ctx'.devices = ctx.devices) : Extends share ctx ctx' :=
  ⟨⟨[], by simp [hshares]⟩, ⟨[], by simp [hfolders]⟩, ⟨[], by simp [hdevices]⟩,
    by rw [hdevices]; exact id⟩

theorem refl (ctx : RepositoryContext) : Extends share ctx ctx :=
  of_eq rfl rfl rfl

theorem trans {first second third : RepositoryContext}
    (hfirst : Extends share first second)
    (hsecond : Extends share second third) :
    Extends share first third := by
  obtain ⟨⟨added, heq, hall⟩, ⟨fadded, hfeq⟩, ⟨dadded, hdeq⟩, hids⟩ := hfirst
  obtain ⟨⟨added', heq', hall'⟩, ⟨fadded', hfeq'⟩, ⟨dadded', hdeq'⟩, hids'⟩ :=
    hsecond
  exact ⟨⟨added ++ added', by rw [heq', heq, List.append_assoc],
      List.forall_mem_append.mpr ⟨hall, hall'⟩⟩,
    ⟨fadded ++ fadded', by rw [hfeq', hfeq, List.append_assoc]⟩,
    ⟨dadded ++ dadded', by rw [hdeq', hdeq, List.append_assoc]⟩,
    fun hnodup => hids' (hids hnodup)⟩

theorem mono {share' : ShareRecord → Prop} {ctx ctx' : RepositoryContext}
    (hextends : Extends share ctx ctx')
    (hshare : ∀ record, share record → share' record) :
    Extends share' ctx ctx' := by
  obtain ⟨⟨added, heq, hall⟩, hfolders, hdevices, hids⟩ := hextends
  exact ⟨⟨added, heq, fun record hrecord => hshare record (hall record hrecord)⟩,
    hfolders, hdevices, hids⟩

theorem grows (hextends : Extends share ctx ctx') : Grows ctx ctx' :=
  hextends.mono fun _ _ => trivial

instance : IsPreorder RepositoryContext (Extends share) where
  refl := refl
  trans _ _ _ := trans

section Members

variable {ctx ctx' : RepositoryContext}
variable (hextends : Extends share ctx ctx')

include hextends

theorem shareRecords_subset : ctx.shareRecords ⊆ ctx'.shareRecords := by
  obtain ⟨added, heq, _⟩ := hextends.shareRecords
  rw [heq]
  exact List.subset_append_left _ _

theorem folderShareRecords_subset :
    ctx.folderShareRecords ⊆ ctx'.folderShareRecords := by
  obtain ⟨added, heq⟩ := hextends.folderShareRecords
  rw [heq]
  exact List.subset_append_left _ _

theorem devices_subset : ctx.devices ⊆ ctx'.devices := by
  obtain ⟨added, heq⟩ := hextends.devices
  rw [heq]
  exact List.subset_append_left _ _

theorem mem_shareRecords {record : ShareRecord}
    (hrecord : record ∈ ctx'.shareRecords) :
    record ∈ ctx.shareRecords ∨ share record := by
  obtain ⟨added, heq, hall⟩ := hextends.shareRecords
  rw [heq] at hrecord
  exact (List.mem_append.mp hrecord).imp_right (hall record)

end Members

section Insert

variable {onConflict : OnConflict} {ctx ctx' : RepositoryContext}

theorem insertAll_other {Row : Type} {table : Table Row} {rows : List Row}
    (hshares : ∀ rows ctx, (table.setRows rows ctx).shareRecords = ctx.shareRecords)
    (hfolders : ∀ rows ctx,
      (table.setRows rows ctx).folderShareRecords = ctx.folderShareRecords)
    (hdevices : ∀ rows ctx, (table.setRows rows ctx).devices = ctx.devices)
    (hinsert : table.insertAll onConflict rows ctx = .ok ctx') :
    Extends share ctx ctx' :=
  Table.insertAll_induction (Extends share ctx)
    (fun _ _ _ _ hstate => hstate.trans
      (of_eq (hshares _ _) (hfolders _ _) (hdevices _ _))) (refl ctx) hinsert

theorem insertAll_shareRecords {rows : List ShareRecord}
    (hrows : ∀ row ∈ rows, share row)
    (hinsert : Table.shareRecords.insertAll onConflict rows ctx = .ok ctx') :
    Extends share ctx ctx' := by
  refine Table.insertAll_induction (Extends share ctx)
    (fun row hrow state _ hstate => hstate.trans ?_) (refl ctx) hinsert
  exact ⟨⟨[row], rfl, by simpa using hrows row hrow⟩,
    ⟨[], by simp [Table.shareRecords]⟩, ⟨[], by simp [Table.shareRecords]⟩, id⟩

theorem insertAll_folderShareRecords {rows : List FolderShareRecord}
    (hinsert : Table.folderShareRecords.insertAll onConflict rows ctx = .ok ctx') :
    Extends share ctx ctx' := by
  refine Table.insertAll_induction (Extends share ctx)
    (fun row _ state _ hstate => hstate.trans ?_) (refl ctx) hinsert
  exact ⟨⟨[], by simp [Table.folderShareRecords]⟩, ⟨[row], rfl⟩,
    ⟨[], by simp [Table.folderShareRecords]⟩, id⟩

theorem insertAll_devices {rows : List Device}
    (hinsert : Table.devices.insertAll onConflict rows ctx = .ok ctx') :
    Extends share ctx ctx' := by
  refine Table.insertAll_induction (Extends share ctx)
    (fun row _ state hfree hstate => hstate.trans ?_) (refl ctx) hinsert
  refine ⟨⟨[], by simp [Table.devices]⟩, ⟨[], by simp [Table.devices]⟩,
    ⟨[row], rfl⟩, fun hnodup => ?_⟩
  have hnew : row.id ∉ state.devices.map fun device => device.id := by
    simpa [Table.devices] using hfree
  simpa [Table.devices, List.nodup_append] using ⟨hnodup, by simpa using hnew⟩

theorem insertAll_resources {rows : List Resource}
    (hinsert : Table.resources.insertAll onConflict rows ctx = .ok ctx') :
    Extends share ctx ctx' :=
  insertAll_other (fun _ _ => rfl) (fun _ _ => rfl) (fun _ _ => rfl) hinsert

theorem insertAll_resourceKeys {rows : List ResourceKey}
    (hinsert : Table.resourceKeys.insertAll onConflict rows ctx = .ok ctx') :
    Extends share ctx ctx' :=
  insertAll_other (fun _ _ => rfl) (fun _ _ => rfl) (fun _ _ => rfl) hinsert

theorem insertAll_vectorClocks {rows : List ResourceVectorClockModel}
    (hinsert : Table.vectorClocks.insertAll onConflict rows ctx = .ok ctx') :
    Extends share ctx ctx' :=
  insertAll_other (fun _ _ => rfl) (fun _ _ => rfl) (fun _ _ => rfl) hinsert

theorem insertAll_users {rows : List User}
    (hinsert : Table.users.insertAll onConflict rows ctx = .ok ctx') :
    Extends share ctx ctx' :=
  insertAll_other (fun _ _ => rfl) (fun _ _ => rfl) (fun _ _ => rfl) hinsert

theorem insertAll_folders {rows : List Folder}
    (hinsert : Table.folders.insertAll onConflict rows ctx = .ok ctx') :
    Extends share ctx ctx' :=
  insertAll_other (fun _ _ => rfl) (fun _ _ => rfl) (fun _ _ => rfl) hinsert

end Insert

theorem addUsersWithDevicesBulk {users : List UserWithDevices}
    (hadd : UserRepo.addUsersWithDevicesBulk users ctx = .ok ctx') : Extends share ctx ctx' := by
  refine foldlM_invariant (Extends share ctx)
    (fun user _ state next hstate hnext => hstate.trans ?_) (refl ctx)
    (reportAs_eq_ok.mp hadd)
  rw [bind_eq_ok] at hnext
  obtain ⟨middle, huser, hdevices⟩ := hnext
  refine trans ?_ (insertAll_devices hdevices)
  unfold UserRepo.upsertUser at huser
  split at huser
  · cases huser
    exact of_eq rfl rfl rfl
  · rw [← Table.insertAll_singleton] at huser
    exact insertAll_users huser

end Extends

structure Supplements (share : ShareRecord → Prop) (ctx ctx' : RepositoryContext) :
    Prop extends Extends share ctx ctx' where
  users : ctx'.users = ctx.users

namespace Supplements

variable {share : ShareRecord → Prop}

theorem of_eq {ctx ctx' : RepositoryContext}
    (hshares : ctx'.shareRecords = ctx.shareRecords)
    (hfolders : ctx'.folderShareRecords = ctx.folderShareRecords)
    (hdevices : ctx'.devices = ctx.devices) (husers : ctx'.users = ctx.users) :
    Supplements share ctx ctx' :=
  ⟨.of_eq hshares hfolders hdevices, husers⟩

theorem refl (ctx : RepositoryContext) : Supplements share ctx ctx :=
  ⟨.refl ctx, rfl⟩

theorem trans {first second third : RepositoryContext}
    (hfirst : Supplements share first second)
    (hsecond : Supplements share second third) : Supplements share first third :=
  ⟨hfirst.toExtends.trans hsecond.toExtends, hsecond.users.trans hfirst.users⟩

section Insert

variable {onConflict : OnConflict} {ctx ctx' : RepositoryContext}

theorem insertAll {Row : Type} {table : Table Row} {rows : List Row}
    (husers : ∀ rows ctx, (table.setRows rows ctx).users = ctx.users)
    (hextends : Extends share ctx ctx')
    (hinsert : table.insertAll onConflict rows ctx = .ok ctx') :
    Supplements share ctx ctx' :=
  ⟨hextends, Table.insertAll_induction (fun state => state.users = ctx.users)
    (fun _ _ _ _ hstate => (husers _ _).trans hstate) rfl hinsert⟩

theorem insertAll_shareRecords {rows : List ShareRecord}
    (hrows : ∀ row ∈ rows, share row)
    (hinsert : Table.shareRecords.insertAll onConflict rows ctx = .ok ctx') :
    Supplements share ctx ctx' :=
  insertAll (fun _ _ => rfl) (.insertAll_shareRecords hrows hinsert) hinsert

theorem insertAll_folderShareRecords {rows : List FolderShareRecord}
    (hinsert : Table.folderShareRecords.insertAll onConflict rows ctx = .ok ctx') :
    Supplements share ctx ctx' :=
  insertAll (fun _ _ => rfl) (.insertAll_folderShareRecords hinsert) hinsert

theorem insertAll_devices {rows : List Device}
    (hinsert : Table.devices.insertAll onConflict rows ctx = .ok ctx') :
    Supplements share ctx ctx' :=
  insertAll (fun _ _ => rfl) (.insertAll_devices hinsert) hinsert

theorem insertAll_resources {rows : List Resource}
    (hinsert : Table.resources.insertAll onConflict rows ctx = .ok ctx') :
    Supplements share ctx ctx' :=
  insertAll (fun _ _ => rfl) (.insertAll_resources hinsert) hinsert

theorem insertAll_resourceKeys {rows : List ResourceKey}
    (hinsert : Table.resourceKeys.insertAll onConflict rows ctx = .ok ctx') :
    Supplements share ctx ctx' :=
  insertAll (fun _ _ => rfl) (.insertAll_resourceKeys hinsert) hinsert

theorem insertAll_vectorClocks {rows : List ResourceVectorClockModel}
    (hinsert : Table.vectorClocks.insertAll onConflict rows ctx = .ok ctx') :
    Supplements share ctx ctx' :=
  insertAll (fun _ _ => rfl) (.insertAll_vectorClocks hinsert) hinsert

theorem insertAll_folders {rows : List Folder}
    (hinsert : Table.folders.insertAll onConflict rows ctx = .ok ctx') :
    Supplements share ctx ctx' :=
  insertAll (fun _ _ => rfl) (.insertAll_folders hinsert) hinsert

end Insert

section Operations

variable {ctx ctx' : RepositoryContext}

variable {records : List ShareRecord} {keys : List ResourceKey} {clocks : List ResourceVectorClock}

theorem saveShareRecords (hrecords : ∀ record ∈ records, share record)
    (hsave : ShareRepo.saveMany records ctx = .ok ctx') : Supplements share ctx ctx' :=
  insertAll_shareRecords hrecords (reportAs_eq_ok.mp hsave)

theorem addResourceKeys (hadd : ResourceKeyRepo.addResourceKeys keys ctx = .ok ctx') :
    Supplements share ctx ctx' :=
  insertAll_resourceKeys (reportAs_eq_ok.mp hadd)

theorem updateResource {now : Int} {data : AesText} {resourceId : String}
    (hupdate : ResourceRepo.updateResource now data resourceId ctx = .ok ctx') :
    Supplements share ctx ctx' := by
  cases hupdate
  exact of_eq rfl rfl rfl rfl

theorem updateVectorClocks {updates additions : List ResourceVectorClock}
    (hupdate : VectorClockRepo.updateVectorClocks updates additions ctx = .ok ctx') :
    Supplements share ctx ctx' := by
  refine trans ?_ (insertAll_vectorClocks (reportAs_eq_ok.mp hupdate))
  exact of_eq rfl rfl rfl rfl

theorem saveVectorClock {clock : ResourceVectorClock}
    (hsave : VectorClockRepo.saveVectorClock clock ctx = .ok ctx') :
    Supplements share ctx ctx' := by
  unfold VectorClockRepo.saveVectorClock at hsave
  split at hsave
  · cases hsave
    exact refl ctx
  · rw [reportAs_eq_ok, ← Table.insertAll_singleton] at hsave
    exact insertAll_vectorClocks hsave

theorem incrementVectorClock {freshId : String} {now : Int}
    {resourceId deviceId : String}
    (hincrement : VectorClockRepo.incrementVectorClock freshId now resourceId
      deviceId ctx = .ok ctx') : Supplements share ctx ctx' := by
  unfold VectorClockRepo.incrementVectorClock at hincrement
  split at hincrement
  · cases hincrement
    exact of_eq rfl rfl rfl rfl
  · rw [reportAs_eq_ok, ← Table.insertAll_singleton] at hincrement
    exact insertAll_vectorClocks hincrement

theorem upsertClocks (hupsert : ResourceRepo.upsertClocks clocks ctx = .ok ctx') :
    Supplements share ctx ctx' := by
  refine foldlM_invariant (Supplements share ctx)
    (fun clock _ state next hstate hnext => hstate.trans ?_) (refl ctx) hupsert
  unfold ResourceRepo.upsertClock at hnext
  split at hnext
  · cases hnext
    exact of_eq rfl rfl rfl rfl
  · rw [← Table.insertAll_singleton] at hnext
    exact insertAll_vectorClocks hnext

theorem saveResourceSyncData {data : ResourceSyncData}
    (hrecords : ∀ record ∈ data.shareRecords, share record)
    (hsave : ResourceRepo.saveResourceSyncData data ctx = .ok ctx') :
    Supplements share ctx ctx' := by
  simp only [ResourceRepo.saveResourceSyncData, reportAs_eq_ok, bind_eq_ok]
    at hsave
  obtain ⟨first, hresource, second, hkeys, third, hshares, hclocks⟩ := hsave
  rw [← Table.insertAll_singleton] at hresource
  exact (((insertAll_resources hresource).trans (insertAll_resourceKeys hkeys)).trans
    (insertAll_shareRecords hrecords hshares)).trans (insertAll_vectorClocks hclocks)

theorem saveResourceWithDependencies {resource : Resource} {key : ResourceKey}
    {record : ShareRecord} (hrecord : share record)
    (hsave : ResourceRepo.saveResourceWithDependencies resource key record clocks ctx = .ok ctx') :
    Supplements share ctx ctx' := by
  simp only [ResourceRepo.saveResourceWithDependencies, reportAs_eq_ok, bind_eq_ok,
    ← Table.insertAll_singleton] at hsave
  obtain ⟨first, hresource, second, hkey, third, hshare, hclocks⟩ := hsave
  exact (((insertAll_resources hresource).trans (insertAll_resourceKeys hkey)).trans
    (insertAll_shareRecords (by simpa using hrecord) hshare)).trans
      (insertAll_vectorClocks hclocks)

theorem shareResourceTransaction {key : ResourceKey} {record : ShareRecord} (hrecord : share record)
    (hsave : ResourceRepo.shareResourceTransaction key record clocks ctx = .ok ctx') :
    Supplements share ctx ctx' := by
  simp only [ResourceRepo.shareResourceTransaction, reportAs_eq_ok, bind_eq_ok,
    ← Table.insertAll_singleton] at hsave
  obtain ⟨first, hkey, second, hshare, hclocks⟩ := hsave
  exact ((insertAll_resourceKeys hkey).trans
    (insertAll_shareRecords (by simpa using hrecord) hshare)).trans
      (insertAll_vectorClocks hclocks)

theorem saveBulkSharingData (hrecords : ∀ record ∈ records, share record)
    (hsave : ResourceRepo.saveBulkSharingData keys records clocks ctx = .ok ctx') :
    Supplements share ctx ctx' := by
  simp only [ResourceRepo.saveBulkSharingData, reportAs_eq_ok, bind_eq_ok] at hsave
  obtain ⟨first, hkeys, second, hshares, hclocks⟩ := hsave
  exact ((insertAll_resourceKeys hkeys).trans
    (insertAll_shareRecords hrecords hshares)).trans (upsertClocks hclocks)

theorem saveResourceAndFolderSharingData {folderRecords : List FolderShareRecord}
    (hrecords : ∀ record ∈ records, share record)
    (hsave : ResourceRepo.saveResourceAndFolderSharingData keys records clocks
      folderRecords ctx = .ok ctx') : Supplements share ctx ctx' := by
  simp only [ResourceRepo.saveResourceAndFolderSharingData, reportAs_eq_ok,
    bind_eq_ok] at hsave
  obtain ⟨first, hkeys, second, hshares, third, hclocks, hfolder⟩ := hsave
  exact (((insertAll_resourceKeys hkeys).trans
    (insertAll_shareRecords hrecords hshares)).trans (upsertClocks hclocks)).trans
      (insertAll_folderShareRecords hfolder)

theorem shareFolderTransaction {folderRecord : FolderShareRecord}
    (hrecords : ∀ record ∈ records, share record)
    (hsave : FolderShareRepo.shareFolderTransaction folderRecord keys records clocks ctx = .ok ctx') :
    Supplements share ctx ctx' := by
  simp only [FolderShareRepo.shareFolderTransaction, reportAs_eq_ok, bind_eq_ok]
    at hsave
  obtain ⟨first, hrecord, second, hkeys, third, hshares, hclocks⟩ := hsave
  rw [← Table.insertAll_singleton] at hrecord
  exact (((insertAll_folderShareRecords hrecord).trans
    (insertAll_resourceKeys hkeys)).trans
      (insertAll_shareRecords hrecords hshares)).trans
        (insertAll_vectorClocks hclocks)

theorem saveDevices {devices : List Device}
    (hsave : DeviceRepo.saveMany devices ctx = .ok ctx') :
    Supplements share ctx ctx' :=
  insertAll_devices (reportAs_eq_ok.mp hsave)

theorem addFoldersBulk {folders : List Folder}
    (hadd : FolderRepo.addFoldersBulk folders ctx = .ok ctx') :
    Supplements share ctx ctx' :=
  insertAll_folders (reportAs_eq_ok.mp hadd)

theorem saveFolderWithShareRecords {folder : Folder}
    {records : List FolderShareRecord}
    (hsave : FolderRepo.saveFolderWithShareRecords folder records ctx = .ok ctx') :
    Supplements share ctx ctx' := by
  simp only [FolderRepo.saveFolderWithShareRecords, reportAs_eq_ok, bind_eq_ok]
    at hsave
  obtain ⟨middle, hfolder, hshares⟩ := hsave
  refine trans ?_ (insertAll_folderShareRecords hshares)
  unfold FolderRepo.upsertFolder at hfolder
  split at hfolder
  · cases hfolder
    exact of_eq rfl rfl rfl rfl
  · rw [← Table.insertAll_singleton] at hfolder
    exact insertAll_folders hfolder

end Operations

end Supplements

/-- The preorder leaves room for adding such share records. What is added may
depend on the store it is added to. -/
def Admits (share : RepositoryContext → ShareRecord → Prop)
    (reach : RepositoryContext → RepositoryContext → Prop) : Prop :=
  ∀ ctx ctx', Extends (share ctx) ctx ctx' → reach ctx ctx'

def AdmitsSupplements (share : RepositoryContext → ShareRecord → Prop)
    (reach : RepositoryContext → RepositoryContext → Prop) : Prop :=
  ∀ ctx ctx', Supplements (share ctx) ctx ctx' → reach ctx ctx'

theorem Admits.supplements {share : RepositoryContext → ShareRecord → Prop}
    {reach : RepositoryContext → RepositoryContext → Prop}
    (hreach : Admits share reach) : AdmitsSupplements share reach :=
  fun ctx ctx' hsupplements => hreach ctx ctx' hsupplements.toExtends

theorem Grows.admits : Admits (fun _ _ => True) Grows :=
  fun _ _ hextends => hextends

end Osvauld.Persistance
