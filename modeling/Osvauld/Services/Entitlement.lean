import Osvauld.Services.Growth

namespace Osvauld.Services

open Osvauld.Core Data Persistance

/-! What a user is told: the resources and folders that share records name them
for, and the users these records name. -/

def SharedResource (ctx : RepositoryContext) (userId resourceId : String) :
    Prop :=
  ∃ record ∈ ctx.shareRecords,
    record.resourceId = resourceId ∧ record.recipientUserId = userId

def SharedFolder (ctx : RepositoryContext) (userId folderId : String) : Prop :=
  ∃ record ∈ ctx.folderShareRecords,
    record.folderId = folderId ∧ record.recipientUserId = userId

def Acquainted (ctx : RepositoryContext) (userId otherId : String) : Prop :=
  (∃ record ∈ ctx.shareRecords, SharedResource ctx userId record.resourceId ∧
      (otherId = record.recipientUserId ∨ otherId = record.sharedByUserId)) ∨
    ∃ record ∈ ctx.folderShareRecords, SharedFolder ctx userId record.folderId ∧
      (otherId = record.recipientUserId ∨ otherId = record.sharedByUserId)

section Growth

variable {ctx ctx' : RepositoryContext} {userId : String}
variable (hgrows : Grows ctx ctx')

include hgrows

theorem SharedResource.mono {resourceId : String}
    (hshared : SharedResource ctx userId resourceId) :
    SharedResource ctx' userId resourceId := by
  obtain ⟨record, hrecord, hrest⟩ := hshared
  exact ⟨record, hgrows.shareRecords_subset hrecord, hrest⟩

theorem SharedFolder.mono {folderId : String}
    (hshared : SharedFolder ctx userId folderId) :
    SharedFolder ctx' userId folderId := by
  obtain ⟨record, hrecord, hrest⟩ := hshared
  exact ⟨record, hgrows.folderShareRecords_subset hrecord, hrest⟩

theorem Acquainted.mono {otherId : String}
    (hacquainted : Acquainted ctx userId otherId) :
    Acquainted ctx' userId otherId := by
  rcases hacquainted with ⟨record, hrecord, hshared, hnamed⟩ |
    ⟨record, hrecord, hshared, hnamed⟩
  · exact .inl ⟨record, hgrows.shareRecords_subset hrecord, hshared.mono hgrows,
      hnamed⟩
  · exact .inr ⟨record, hgrows.folderShareRecords_subset hrecord,
      hshared.mono hgrows, hnamed⟩

end Growth

structure EntitledManifest (ctx : RepositoryContext) (userId : String)
    (manifest : UserManifestComparisonResult) : Prop where
  users : ∀ otherId ∈ manifest.remoteMissing.unknownUsers,
    Acquainted ctx userId otherId
  devices : ∀ deviceId ∈
      deviceIdsOf manifest.remoteMissing.unknownDevicesFromCommonUsers,
    ∃ device ∈ ctx.devices,
      device.id = deviceId ∧ Acquainted ctx userId device.userId
  resources : ∀ resourceId ∈ manifest.remoteMissing.unknownResources,
    SharedResource ctx userId resourceId
  folders : ∀ folderId ∈ manifest.remoteMissing.unknownFolders,
    SharedFolder ctx userId folderId
  syncs : ∀ resourceId ∈ manifest.resourcesRequiringSync,
    SharedResource ctx userId resourceId
  recipients : ∀ diff ∈ manifest.foldersRequiringRecipientSync,
    SharedFolder ctx userId diff.folderId

theorem EntitledManifest.mono {ctx ctx' : RepositoryContext} {userId : String}
    {manifest : UserManifestComparisonResult}
    (hentitled : EntitledManifest ctx userId manifest) (hgrows : Grows ctx ctx') :
    EntitledManifest ctx' userId manifest := by
  refine ⟨fun otherId hother => (hentitled.users otherId hother).mono hgrows, ?_,
    fun resourceId hresource => (hentitled.resources resourceId hresource).mono hgrows,
    fun folderId hfolder => (hentitled.folders folderId hfolder).mono hgrows,
    fun resourceId hresource => (hentitled.syncs resourceId hresource).mono hgrows,
    fun diff hdiff => (hentitled.recipients diff hdiff).mono hgrows⟩
  intro deviceId hdevice
  obtain ⟨device, hmem, hid, hacquainted⟩ := hentitled.devices deviceId hdevice
  exact ⟨device, hgrows.devices_subset hmem, hid, hacquainted.mono hgrows⟩

def userManifestOf (ctx : RepositoryContext) (peerUserId currentUserId : String) :
    UserManifestRequestPayload :=
  let resourceIds := (ctx.shareRecords.filter fun record =>
    record.recipientUserId = peerUserId).map fun record => record.resourceId
  let shareRecords := ctx.shareRecords.filter fun record =>
    record.resourceId ∈ resourceIds
  let folders := ((ctx.folderShareRecords.filter fun record =>
      record.recipientUserId = peerUserId).map fun record => record.folderId).dedup.map
    fun folderId => { folderId, recipientUserIds := FolderRepo.recipientsOf ctx folderId }
  let userIds := (shareRecords.map fun record => record.recipientUserId) ++
    [currentUserId, peerUserId] ++
      folders.flatMap fun folder : FolderManifestData => folder.recipientUserIds
  { users := UserRepo.withDeviceIds ctx (ctx.users.filter fun user => user.id ∈ userIds)
    resources := (shareRecords.map fun record => record.resourceId).dedup.map
      (ResourceRepo.manifestEntry ctx)
    folders }

theorem getUserManifest_eq {since : RepositoryContext}
    (peerUserId currentUserId : String) :
    Program.Respects Eq
      (fun manifest ctx => manifest = userManifestOf ctx peerUserId currentUserId)
      since (getUserManifest peerUserId currentUserId) := by
  refine .bind (query_respects fun _ _ hread => hread) fun shareRecords _ _ hread => ?_
  cases hread
  refine .bind (query_respects fun _ _ hread => hread) fun folders _ hsame hread => ?_
  cases hsame; cases hread
  refine .bind (query_respects fun _ _ hread => hread) fun users _ hsame hread => ?_
  cases hsame; cases hread
  refine .bind (query_respects fun _ _ hread => hread)
    fun resources _ hsame hread => ?_
  cases hsame; cases hread
  exact .pure rfl

theorem processUserManifestRequest_eq {since : RepositoryContext}
    (remotePayload : UserManifestRequestPayload)
    (peerUserId currentUserId : String) :
    Program.Respects Eq
      (fun result ctx => result = compareUserManifests
        (userManifestOf ctx peerUserId currentUserId) remotePayload) since
      (processUserManifestRequest remotePayload peerUserId currentUserId) :=
  .bind (getUserManifest_eq peerUserId currentUserId)
    fun _ _ _ hmanifest => .pure (by rw [hmanifest])

section Local

variable {ctx : RepositoryContext} {peerUserId currentUserId : String}

theorem shared_of_manifest_resource {resource : ResourceManifestData}
    (hresource : resource ∈
      (userManifestOf ctx peerUserId currentUserId).resources) :
    SharedResource ctx peerUserId resource.resourceId := by
  simp only [userManifestOf, List.mem_map, List.mem_dedup, List.mem_filter,
    decide_eq_true_eq] at hresource
  obtain ⟨resourceId, ⟨record, ⟨_, named, ⟨hnamed, hrecipient⟩, hsame⟩, rfl⟩, rfl⟩ :=
    hresource
  exact ⟨named, hnamed, hsame, hrecipient⟩

theorem shared_of_manifest_folder {folder : FolderManifestData}
    (hfolder : folder ∈ (userManifestOf ctx peerUserId currentUserId).folders) :
    SharedFolder ctx peerUserId folder.folderId ∧
      folder.recipientUserIds = FolderRepo.recipientsOf ctx folder.folderId := by
  simp only [userManifestOf, List.mem_map, List.mem_dedup, List.mem_filter,
    decide_eq_true_eq] at hfolder
  obtain ⟨folderId, ⟨record, ⟨hrecord, hrecipient⟩, rfl⟩, rfl⟩ := hfolder
  exact ⟨⟨record, hrecord, rfl, hrecipient⟩, rfl⟩

theorem acquainted_of_manifest_user {user : UserWithDeviceIds}
    (huser : user ∈ (userManifestOf ctx peerUserId currentUserId).users) :
    (Acquainted ctx peerUserId user.userId ∨
        user.userId ∈ [currentUserId, peerUserId]) ∧
      user.deviceIds ≠ [] ∧ ∀ deviceId ∈ user.deviceIds,
        ∃ device ∈ ctx.devices, device.id = deviceId ∧ device.userId = user.userId := by
  have hfolders := @shared_of_manifest_folder ctx peerUserId currentUserId
  simp only [userManifestOf, UserRepo.withDeviceIds, List.mem_filterMap,
    List.mem_filter, decide_eq_true_eq, List.mem_append] at huser
  obtain ⟨stored, ⟨_, hnamed⟩, hentry⟩ := huser
  split at hentry
  · cases hentry
  · next hdevices =>
      cases hentry
      refine ⟨?_, by simpa using hdevices, fun deviceId hdevice => ?_⟩
      · rcases hnamed with (hshares | hends) | hfolder
        · obtain ⟨record, hrecord, hsame⟩ := List.mem_map.mp hshares
          simp only [List.mem_filter, List.mem_map, decide_eq_true_eq] at hrecord
          obtain ⟨hmem, named, ⟨hstored, hrecipient⟩, hresource⟩ := hrecord
          exact .inl (.inl ⟨record, hmem, ⟨named, hstored, hresource, hrecipient⟩,
            .inl hsame.symm⟩)
        · exact .inr hends
        · obtain ⟨folder, hfolder, hrecipient⟩ := List.mem_flatMap.mp hfolder
          obtain ⟨hshared, hrecipients⟩ := hfolders hfolder
          rw [hrecipients] at hrecipient
          simp only [FolderRepo.recipientsOf, List.mem_dedup, List.mem_map,
            List.mem_filter, decide_eq_true_eq] at hrecipient
          obtain ⟨record, ⟨hrecord, hsame⟩, hid⟩ := hrecipient
          exact .inl (.inr ⟨record, hrecord, hsame ▸ hshared, .inl hid.symm⟩)
      · obtain ⟨device, hmem, rfl⟩ := List.mem_map.mp hdevice
        simp only [UserRepo.devicesOf, List.mem_filter, decide_eq_true_eq] at hmem
        exact ⟨device, hmem.1, rfl, hmem.2⟩

/-- The request names every stored device of the two ends' users, unless the
user is known from a share record anyway. -/
def ListsEnds (ctx : RepositoryContext) (peerUserId currentUserId : String)
    (request : UserManifestRequestPayload) : Prop :=
  ∀ userId ∈ [currentUserId, peerUserId], Acquainted ctx peerUserId userId ∨
    ∀ device ∈ ctx.devices, device.userId = userId →
      ∃ entry, lastWith? (fun user => user.userId) request.users userId = some entry ∧
        device.id ∈ entry.deviceIds

variable {request : UserManifestRequestPayload}

section

variable (hlists : ListsEnds ctx peerUserId currentUserId request)

include hlists

theorem unknown_user_acquainted {userId : String}
    (hunknown : userId ∈ (compareUserManifests
      (userManifestOf ctx peerUserId currentUserId) request).remoteMissing.unknownUsers) :
    Acquainted ctx peerUserId userId := by
  simp only [compareUserManifests, processUserGaps, mem_setDifference,
    List.mem_map, not_exists, not_and] at hunknown
  obtain ⟨⟨user, huser, rfl⟩, hmissing⟩ := hunknown
  obtain ⟨hnamed, hnonempty, hdevices⟩ := acquainted_of_manifest_user huser
  rcases hnamed with hacquainted | hend
  · exact hacquainted
  · rcases hlists user.userId hend with hacquainted | hlisted
    · exact hacquainted
    · obtain ⟨deviceId, hdevice⟩ := List.exists_mem_of_ne_nil _ hnonempty
      obtain ⟨device, hmem, _, howner⟩ := hdevices deviceId hdevice
      obtain ⟨entry, hentry, _⟩ := hlisted device hmem howner
      obtain ⟨hin, hkey⟩ := lastWith?_mem hentry
      exact absurd hkey (hmissing entry hin)

theorem unknown_device_acquainted {deviceId : String}
    (hunknown : deviceId ∈ deviceIdsOf (compareUserManifests
      (userManifestOf ctx peerUserId currentUserId)
        request).remoteMissing.unknownDevicesFromCommonUsers) :
    ∃ device ∈ ctx.devices,
      device.id = deviceId ∧ Acquainted ctx peerUserId device.userId := by
  simp only [compareUserManifests, processUserGaps, compareDevicesForCommonUsers,
    deviceIdsOf, List.mem_flatMap, List.mem_filterMap] at hunknown
  obtain ⟨told, ⟨userId, _, htold⟩, hdevice⟩ := hunknown
  simp only [devicesOnlyIn, Option.bind_eq_bind, Option.bind_eq_some_iff] at htold
  obtain ⟨entry, hentry, other, hother, htold⟩ := htold
  split at htold
  · cases htold
  · cases htold
    obtain ⟨hlocal, hnotRemote⟩ := mem_setDifference.mp hdevice
    obtain ⟨hmem, rfl⟩ := lastWith?_mem hentry
    obtain ⟨hnamed, _, hdevices⟩ := acquainted_of_manifest_user hmem
    obtain ⟨device, hstored, hid, howner⟩ := hdevices deviceId hlocal
    refine ⟨device, hstored, hid, ?_⟩
    rw [howner]
    rcases hnamed with hacquainted | hend
    · exact hacquainted
    · rcases hlists _ hend with hacquainted | hlisted
      · exact hacquainted
      · obtain ⟨listed, hlast, hin⟩ := hlisted device hstored howner
        rw [hother, Option.some.injEq] at hlast
        exact absurd (hid ▸ hlast ▸ hin) hnotRemote

theorem compareUserManifests_entitled :
    EntitledManifest ctx peerUserId (compareUserManifests
      (userManifestOf ctx peerUserId currentUserId) request) := by
  have hresource (resourceId : String) (hmem : resourceId ∈
      (userManifestOf ctx peerUserId currentUserId).resources.map
        fun resource => resource.resourceId) :
      SharedResource ctx peerUserId resourceId := by
    obtain ⟨resource, hresource, rfl⟩ := List.mem_map.mp hmem
    exact shared_of_manifest_resource hresource
  have hfolder (folderId : String) (hmem : folderId ∈
      (userManifestOf ctx peerUserId currentUserId).folders.map
        fun folder => folder.folderId) : SharedFolder ctx peerUserId folderId := by
    obtain ⟨folder, hfolder, rfl⟩ := List.mem_map.mp hmem
    exact (shared_of_manifest_folder hfolder).1
  refine ⟨fun _ => unknown_user_acquainted hlists,
    fun _ => unknown_device_acquainted hlists, ?_, ?_, ?_, ?_⟩
  · exact fun resourceId hmem => hresource resourceId (mem_setDifference.mp hmem).1
  · exact fun folderId hmem => hfolder folderId (mem_setDifference.mp hmem).1
  · intro resourceId hmem
    have hcommon := List.mem_of_mem_filter hmem
    exact hresource resourceId (mem_setIntersection.mp hcommon).1
  · intro diff hmem
    obtain ⟨folderId, hcommon, hdiff⟩ := List.mem_filterMap.mp hmem
    simp only [folderRecipientDiff, Option.bind_eq_bind, Option.bind_eq_some_iff]
      at hdiff
    obtain ⟨localFolder, _, remoteFolder, _, hdiff⟩ := hdiff
    split at hdiff
    · cases hdiff
    · cases hdiff
      exact hfolder folderId (mem_setIntersection.mp hcommon).1

end

end Local

end Osvauld.Services
