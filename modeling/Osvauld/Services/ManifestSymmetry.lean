import Osvauld.Services.ManifestComparison

namespace Osvauld.Services

open Osvauld.Core

/-! What the comparisons of two manifests say, and that both ends say the same. -/

def SameIds (left right : List String) : Prop :=
  ∀ id, id ∈ left ↔ id ∈ right

def SameEntries {Entry : Type} (same : Entry → Entry → Prop)
    (left right : List Entry) : Prop :=
  (∀ entry ∈ left, ∃ other ∈ right, same entry other) ∧
    ∀ other ∈ right, ∃ entry ∈ left, same entry other

theorem SameIds.refl (ids : List String) : SameIds ids ids := fun _ => Iff.rfl

theorem SameEntries.of_mem {Entry : Type} {same : Entry → Entry → Prop}
    {left right : List Entry} (hsame : ∀ entry, same entry entry)
    (hmem : ∀ entry, entry ∈ left ↔ entry ∈ right) : SameEntries same left right :=
  ⟨fun entry hentry => ⟨entry, (hmem entry).mp hentry, hsame entry⟩,
    fun entry hentry => ⟨entry, (hmem entry).mpr hentry, hsame entry⟩⟩

section Tells

variable {Entry : Type} (key : Entry → String) (items : Entry → List String)

def Tells (entries : List Entry) (id item : String) : Prop :=
  ∃ entry ∈ entries, key entry = id ∧ item ∈ items entry

variable {key items}

variable {entries : List Entry}

theorem Tells.mem_map {id item : String} (htells : Tells key items entries id item) :
    id ∈ entries.map key := by
  obtain ⟨entry, hentry, hkey, _⟩ := htells
  exact List.mem_map.mpr ⟨entry, hentry, hkey⟩

theorem lastWith?_eq_some_iff (hnodup : (entries.map key).Nodup) {id : String} {entry : Entry} :
    lastWith? key entries id = some entry ↔ entry ∈ entries ∧ key entry = id := by
  refine ⟨lastWith?_mem, ?_⟩
  rintro ⟨hmem, hkey⟩
  cases hlast : lastWith? key entries id with
  | none =>
      have hall := List.find?_eq_none.mp hlast
      exact absurd (by simpa using hkey) (hall entry (List.mem_reverse.mpr hmem))
  | some other =>
      obtain ⟨hother, hotherKey⟩ := lastWith?_mem hlast
      rw [List.inj_on_of_nodup_map hnodup hother hmem (hotherKey.trans hkey.symm)]

theorem tells_iff_of_mem (hnodup : (entries.map key).Nodup) {entry : Entry}
    (hentry : entry ∈ entries) {item : String} :
    Tells key items entries (key entry) item ↔ item ∈ items entry := by
  constructor
  · rintro ⟨other, hother, hkey, hitem⟩
    rwa [List.inj_on_of_nodup_map hnodup hother hentry hkey] at hitem
  · exact fun hitem => ⟨entry, hentry, rfl, hitem⟩

end Tells

abbrev TellsDevice (users : List UserWithDeviceIds) (userId deviceId : String) : Prop :=
  Tells UserWithDeviceIds.userId UserWithDeviceIds.deviceIds users userId deviceId

section

variable {entries others : List UserWithDeviceIds} {userId : String}
  (hentries : (entries.map UserWithDeviceIds.userId).Nodup)
  (hothers : (others.map UserWithDeviceIds.userId).Nodup)

include hentries hothers

theorem devicesOnlyIn_eq_some_iff {only : UserWithDeviceIds} :
    devicesOnlyIn entries others userId = some only ↔
      ∃ entry ∈ entries, ∃ other ∈ others, entry.userId = userId ∧
        other.userId = userId ∧
        setDifference entry.deviceIds other.deviceIds ≠ [] ∧
        only = ⟨userId, setDifference entry.deviceIds other.deviceIds⟩ := by
  unfold devicesOnlyIn
  simp only [Option.bind_eq_bind, Option.bind_eq_some_iff,
    lastWith?_eq_some_iff hentries, lastWith?_eq_some_iff hothers,
    Option.ite_none_left_eq_some, List.isEmpty_iff, Option.some.injEq]
  constructor
  · rintro ⟨entry, ⟨hentry, hkey⟩, other, ⟨hother, hotherKey⟩, hnonempty, honly⟩
    exact ⟨entry, hentry, other, hother, hkey, hotherKey, hnonempty, honly.symm⟩
  · rintro ⟨entry, hentry, other, hother, hkey, hotherKey, hnonempty, honly⟩
    exact ⟨entry, ⟨hentry, hkey⟩, other, ⟨hother, hotherKey⟩, hnonempty, honly.symm⟩

theorem tells_devicesOnlyIn_iff {commonUserIds : List String}
    (hcommon : ∀ id, id ∈ commonUserIds ↔ id ∈ entries.map UserWithDeviceIds.userId ∧
      id ∈ others.map UserWithDeviceIds.userId) {deviceId : String} :
    TellsDevice (commonUserIds.filterMap (devicesOnlyIn entries others)) userId
        deviceId ↔
      userId ∈ others.map UserWithDeviceIds.userId ∧
        TellsDevice entries userId deviceId ∧ ¬TellsDevice others userId deviceId := by
  constructor
  · rintro ⟨only, honly, rfl, hdevice⟩
    obtain ⟨id, _, hsome⟩ := List.mem_filterMap.mp honly
    obtain ⟨entry, hentry, other, hother, rfl, hkey, _, rfl⟩ :=
      (devicesOnlyIn_eq_some_iff hentries hothers).mp hsome
    obtain ⟨hmem, hnot⟩ := mem_setDifference.mp hdevice
    refine ⟨hkey ▸ List.mem_map_of_mem hother, ⟨entry, hentry, rfl, hmem⟩, ?_⟩
    have htells : TellsDevice others other.userId deviceId ↔
        deviceId ∈ other.deviceIds := tells_iff_of_mem hothers hother
    rw [hkey] at htells
    exact mt htells.mp hnot
  · rintro ⟨hknown, htells, hnot⟩
    have hmine := htells.mem_map
    obtain ⟨entry, hentry, rfl, hdevice⟩ := htells
    obtain ⟨other, hother, hkey⟩ := List.mem_map.mp hknown
    have hothersTell : TellsDevice others other.userId deviceId ↔
        deviceId ∈ other.deviceIds := tells_iff_of_mem hothers hother
    rw [hkey] at hothersTell
    have hdifference := mem_setDifference.mpr ⟨hdevice, mt hothersTell.mpr hnot⟩
    refine ⟨⟨entry.userId, setDifference entry.deviceIds other.deviceIds⟩, ?_, rfl,
      hdifference⟩
    refine List.mem_filterMap.mpr ⟨entry.userId, (hcommon _).mpr ⟨hmine, hknown⟩, ?_⟩
    exact (devicesOnlyIn_eq_some_iff hentries hothers).mpr
      ⟨entry, hentry, other, hother, rfl, hkey, List.ne_nil_of_mem hdifference, rfl⟩

end

abbrev TellsRecipient (folders : List FolderManifestData)
    (folderId recipientId : String) : Prop :=
  Tells FolderManifestData.folderId FolderManifestData.recipientUserIds folders
    folderId recipientId

variable {localFolders remoteFolders : List FolderManifestData} {folderId resourceId : String}
  {localResources remoteResources : List ResourceManifestData}
  {mine theirs : DeviceManifestRequestPayload}

section

variable (hlocal : (localFolders.map FolderManifestData.folderId).Nodup)
  (hremote : (remoteFolders.map FolderManifestData.folderId).Nodup)

include hlocal hremote

theorem folderRecipientDiff_eq_some_iff {diff : FolderRecipientDiff} :
    folderRecipientDiff localFolders remoteFolders folderId = some diff ↔
      ∃ localFolder ∈ localFolders, ∃ remoteFolder ∈ remoteFolders,
        localFolder.folderId = folderId ∧ remoteFolder.folderId = folderId ∧
        diff = ⟨folderId,
          setDifference localFolder.recipientUserIds remoteFolder.recipientUserIds,
          setDifference remoteFolder.recipientUserIds localFolder.recipientUserIds⟩ ∧
        (diff.recipientsOnlyLocalKnows ≠ [] ∨ diff.recipientsOnlyRemoteKnows ≠ []) := by
  unfold folderRecipientDiff
  simp only [Option.bind_eq_bind, Option.bind_eq_some_iff,
    lastWith?_eq_some_iff hlocal, lastWith?_eq_some_iff hremote,
    Option.ite_none_left_eq_some, Bool.and_eq_true, List.isEmpty_iff,
    Option.some.injEq, not_and_or]
  constructor
  · rintro ⟨localFolder, ⟨hmem, hkey⟩, remoteFolder, ⟨hother, hotherKey⟩, hdiffers, rfl⟩
    exact ⟨localFolder, hmem, remoteFolder, hother, hkey, hotherKey, rfl, hdiffers⟩
  · rintro ⟨localFolder, hmem, remoteFolder, hother, hkey, hotherKey, rfl, hdiffers⟩
    exact ⟨localFolder, ⟨hmem, hkey⟩, remoteFolder, ⟨hother, hotherKey⟩, hdiffers, rfl⟩

theorem folderRecipientDiff_swap {diff : FolderRecipientDiff}
    (hdiff : folderRecipientDiff localFolders remoteFolders folderId = some diff) :
    folderRecipientDiff remoteFolders localFolders folderId = some diff.inverse := by
  obtain ⟨localFolder, hmem, remoteFolder, hother, hkey, hotherKey, rfl, hdiffers⟩ :=
    (folderRecipientDiff_eq_some_iff hlocal hremote).mp hdiff
  exact (folderRecipientDiff_eq_some_iff hremote hlocal).mpr
    ⟨remoteFolder, hother, localFolder, hmem, hotherKey, hkey, rfl, hdiffers.symm⟩

theorem tells_onlyLocalKnows_iff {commonFolderIds : List String}
    (hcommon : ∀ id, id ∈ commonFolderIds ↔
      id ∈ localFolders.map FolderManifestData.folderId ∧
        id ∈ remoteFolders.map FolderManifestData.folderId) {recipientId : String} :
    Tells FolderRecipientDiff.folderId FolderRecipientDiff.recipientsOnlyLocalKnows
        (commonFolderIds.filterMap (folderRecipientDiff localFolders remoteFolders))
        folderId recipientId ↔
      folderId ∈ remoteFolders.map FolderManifestData.folderId ∧
        TellsRecipient localFolders folderId recipientId ∧
          ¬TellsRecipient remoteFolders folderId recipientId := by
  constructor
  · rintro ⟨diff, hdiff, rfl, hrecipient⟩
    obtain ⟨id, _, hsome⟩ := List.mem_filterMap.mp hdiff
    obtain ⟨localFolder, hmem, remoteFolder, hother, rfl, hkey, rfl, _⟩ :=
      (folderRecipientDiff_eq_some_iff hlocal hremote).mp hsome
    obtain ⟨hknown, hnot⟩ := mem_setDifference.mp hrecipient
    refine ⟨hkey ▸ List.mem_map_of_mem hother, ⟨localFolder, hmem, rfl, hknown⟩, ?_⟩
    have htells : TellsRecipient remoteFolders remoteFolder.folderId recipientId ↔
        recipientId ∈ remoteFolder.recipientUserIds := tells_iff_of_mem hremote hother
    rw [hkey] at htells
    exact mt htells.mp hnot
  · rintro ⟨hknown, htells, hnot⟩
    have hmine := htells.mem_map
    obtain ⟨localFolder, hmem, rfl, hrecipient⟩ := htells
    obtain ⟨remoteFolder, hother, hkey⟩ := List.mem_map.mp hknown
    have hremoteTell : TellsRecipient remoteFolders remoteFolder.folderId recipientId ↔
        recipientId ∈ remoteFolder.recipientUserIds := tells_iff_of_mem hremote hother
    rw [hkey] at hremoteTell
    have hdifference :=
      mem_setDifference.mpr ⟨hrecipient, mt hremoteTell.mpr hnot⟩
    refine ⟨⟨localFolder.folderId,
        setDifference localFolder.recipientUserIds remoteFolder.recipientUserIds,
        setDifference remoteFolder.recipientUserIds localFolder.recipientUserIds⟩,
      List.mem_filterMap.mpr ⟨localFolder.folderId, (hcommon _).mpr ⟨hmine, hknown⟩, ?_⟩,
      rfl, hdifference⟩
    exact (folderRecipientDiff_eq_some_iff hlocal hremote).mpr
      ⟨localFolder, hmem, remoteFolder, hother, rfl, hkey, rfl,
        .inl (List.ne_nil_of_mem hdifference)⟩

theorem tells_onlyRemoteKnows_iff {commonFolderIds : List String} {recipientId : String} :
    Tells FolderRecipientDiff.folderId FolderRecipientDiff.recipientsOnlyRemoteKnows
        (commonFolderIds.filterMap (folderRecipientDiff localFolders remoteFolders))
        folderId recipientId ↔
      Tells FolderRecipientDiff.folderId FolderRecipientDiff.recipientsOnlyLocalKnows
        (commonFolderIds.filterMap (folderRecipientDiff remoteFolders localFolders))
        folderId recipientId := by
  constructor
  · rintro ⟨diff, hdiff, hkey, hrecipient⟩
    obtain ⟨id, hid, hsome⟩ := List.mem_filterMap.mp hdiff
    exact ⟨diff.inverse, List.mem_filterMap.mpr
      ⟨id, hid, folderRecipientDiff_swap hlocal hremote hsome⟩, hkey, hrecipient⟩
  · rintro ⟨diff, hdiff, hkey, hrecipient⟩
    obtain ⟨id, hid, hsome⟩ := List.mem_filterMap.mp hdiff
    exact ⟨diff.inverse, List.mem_filterMap.mpr
      ⟨id, hid, folderRecipientDiff_swap hremote hlocal hsome⟩, hkey, hrecipient⟩

end

/-- The two ends have different share records or different clocks of a resource
that both have. -/
def NeedsSync (localResources remoteResources : List ResourceManifestData)
    (resourceId : String) : Prop :=
  ∃ localResource ∈ localResources, ∃ remoteResource ∈ remoteResources,
    localResource.resourceId = resourceId ∧ remoteResource.resourceId = resourceId ∧
    (¬SameIds localResource.shareRecordIds remoteResource.shareRecordIds ∨
      ∃ device, ResourceVectorClock.clockOf? localResource.vectorClocks device ≠
        ResourceVectorClock.clockOf? remoteResource.vectorClocks device)

theorem NeedsSync.symm (hneeds : NeedsSync localResources remoteResources resourceId) :
    NeedsSync remoteResources localResources resourceId := by
  obtain ⟨localResource, hlocal, remoteResource, hremote, hkey, hotherKey, hdiffers⟩ :=
    hneeds
  refine ⟨remoteResource, hremote, localResource, hlocal, hotherKey, hkey, ?_⟩
  refine hdiffers.imp (fun hshares hsame => ?_) fun ⟨device, hne⟩ => ⟨device, hne.symm⟩
  exact hshares fun id => (hsame id).symm

theorem compareShareRecords_iff {localShareRecords remoteShareRecords : List String} :
    compareShareRecords localShareRecords remoteShareRecords = true ↔
      ¬SameIds localShareRecords remoteShareRecords := by
  have hsame : SameIds localShareRecords remoteShareRecords ↔
      (∀ id ∈ localShareRecords, id ∈ remoteShareRecords) ∧
        ∀ id ∈ remoteShareRecords, id ∈ localShareRecords :=
    ⟨fun hsame => ⟨fun id => (hsame id).mp, fun id => (hsame id).mpr⟩,
      fun ⟨hforward, hbackward⟩ id => ⟨hforward id, hbackward id⟩⟩
  rw [hsame, not_and_or]
  simp [compareShareRecords]

section

variable (hlocal : (localResources.map ResourceManifestData.resourceId).Nodup)
  (hremote : (remoteResources.map ResourceManifestData.resourceId).Nodup)
  (hclocks : ∀ resource ∈ localResources,
      ResourceVectorClock.DistinctDevices resource.vectorClocks)

include hlocal hremote hclocks

theorem resourceNeedsUpdate_iff {localResource remoteResource : ResourceManifestData}
    (hlocalMem : localResource ∈ localResources) (hremoteMem : remoteResource ∈ remoteResources)
    (hkey : localResource.resourceId = resourceId)
    (hotherKey : remoteResource.resourceId = resourceId) :
    resourceNeedsUpdate localResources remoteResources resourceId = true ↔
      ¬SameIds localResource.shareRecordIds remoteResource.shareRecordIds ∨
        ∃ device, ResourceVectorClock.clockOf? localResource.vectorClocks device ≠
          ResourceVectorClock.clockOf? remoteResource.vectorClocks device := by
  unfold resourceNeedsUpdate
  rw [(lastWith?_eq_some_iff hlocal).mpr ⟨hlocalMem, hkey⟩,
    (lastWith?_eq_some_iff hremote).mpr ⟨hremoteMem, hotherKey⟩]
  dsimp only
  rw [Bool.or_eq_true, compareShareRecords_iff,
    vectorClocksNeedUpdate_iff (hclocks localResource hlocalMem)]

theorem mem_resourcesRequiringSync_iff {commonResourceIds : List String}
    (hcommon : ∀ id, id ∈ commonResourceIds ↔
      id ∈ localResources.map ResourceManifestData.resourceId ∧
        id ∈ remoteResources.map ResourceManifestData.resourceId) :
    resourceId ∈ compareResourcesForCommonResources localResources remoteResources
        commonResourceIds ↔
      NeedsSync localResources remoteResources resourceId := by
  unfold compareResourcesForCommonResources
  rw [List.mem_filter, hcommon]
  constructor
  · rintro ⟨⟨hmine, htheirs⟩, hneeds⟩
    obtain ⟨localResource, hlocalMem, rfl⟩ := List.mem_map.mp hmine
    obtain ⟨remoteResource, hremoteMem, hkey⟩ := List.mem_map.mp htheirs
    refine ⟨localResource, hlocalMem, remoteResource, hremoteMem, rfl, hkey, ?_⟩
    rwa [resourceNeedsUpdate_iff hlocal hremote hclocks hlocalMem hremoteMem rfl hkey]
      at hneeds
  · rintro ⟨localResource, hlocalMem, remoteResource, hremoteMem, rfl, hkey, hdiffers⟩
    refine ⟨⟨List.mem_map_of_mem hlocalMem, hkey ▸ List.mem_map_of_mem hremoteMem⟩, ?_⟩
    rwa [resourceNeedsUpdate_iff hlocal hremote hclocks hlocalMem hremoteMem rfl hkey]

end

def OnlyIn (theirs mine missing : List String) : Prop :=
  ∀ id, id ∈ missing ↔ id ∈ theirs ∧ id ∉ mine

def DevicesOnlyIn (theirs mine missing : List UserWithDeviceIds) : Prop :=
  ∀ userId deviceId, TellsDevice missing userId deviceId ↔
    userId ∈ mine.map UserWithDeviceIds.userId ∧ TellsDevice theirs userId deviceId ∧
      ¬TellsDevice mine userId deviceId

/-- Both sides know the same devices when each adds the ones it is told of and
the unknown users with theirs. -/
def DevicesReconciled (mine theirs : List UserWithDeviceIds)
    (unknownHere unknownThere : List String)
    (missingHere missingThere : List UserWithDeviceIds) : Prop :=
  ∀ userId deviceId,
    (TellsDevice mine userId deviceId ∨ TellsDevice missingHere userId deviceId ∨
      userId ∈ unknownHere ∧ TellsDevice theirs userId deviceId) ↔
    (TellsDevice theirs userId deviceId ∨ TellsDevice missingThere userId deviceId ∨
      userId ∈ unknownThere ∧ TellsDevice mine userId deviceId)

theorem onlyIn_setDifference (theirs mine : List String) :
    OnlyIn theirs mine (setDifference theirs mine) := fun _ => mem_setDifference

theorem OnlyIn.reconciles {mine theirs missingHere missingThere : List String}
    (hhere : OnlyIn theirs mine missingHere) (hthere : OnlyIn mine theirs missingThere) :
    SameIds (mine ++ missingHere) (theirs ++ missingThere) := by
  intro id
  rw [List.mem_append, List.mem_append, hhere, hthere]
  tauto

theorem DevicesOnlyIn.reconciles {mine theirs : List UserWithDeviceIds}
    {unknownHere unknownThere : List String}
    {missingHere missingThere : List UserWithDeviceIds}
    (hunknownHere : OnlyIn (theirs.map UserWithDeviceIds.userId)
      (mine.map UserWithDeviceIds.userId) unknownHere)
    (hunknownThere : OnlyIn (mine.map UserWithDeviceIds.userId)
      (theirs.map UserWithDeviceIds.userId) unknownThere)
    (hhere : DevicesOnlyIn theirs mine missingHere)
    (hthere : DevicesOnlyIn mine theirs missingThere) :
    DevicesReconciled mine theirs unknownHere unknownThere missingHere missingThere := by
  intro userId deviceId
  have hmine : TellsDevice mine userId deviceId →
      userId ∈ mine.map UserWithDeviceIds.userId := Tells.mem_map
  have htheirs : TellsDevice theirs userId deviceId →
      userId ∈ theirs.map UserWithDeviceIds.userId := Tells.mem_map
  rw [hhere, hthere, hunknownHere, hunknownThere]
  tauto

def SameDevices (left right : UserWithDeviceIds) : Prop :=
  left.userId = right.userId ∧ SameIds left.deviceIds right.deviceIds

structure UniqueUserManifest (payload : UserManifestRequestPayload) : Prop where
  users : (payload.users.map UserWithDeviceIds.userId).Nodup
  resources : (payload.resources.map ResourceManifestData.resourceId).Nodup
  folders : (payload.folders.map FolderManifestData.folderId).Nodup
  clocks : ∀ resource ∈ payload.resources,
    ResourceVectorClock.DistinctDevices resource.vectorClocks

structure ExactUserDifferences (theirs mine : UserManifestRequestPayload)
    (missing : UserManifestDifferences) : Prop where
  users : OnlyIn (theirs.users.map UserWithDeviceIds.userId)
    (mine.users.map UserWithDeviceIds.userId) missing.unknownUsers
  devices : DevicesOnlyIn theirs.users mine.users missing.unknownDevicesFromCommonUsers
  resources : OnlyIn (theirs.resources.map ResourceManifestData.resourceId)
    (mine.resources.map ResourceManifestData.resourceId) missing.unknownResources
  folders : OnlyIn (theirs.folders.map FolderManifestData.folderId)
    (mine.folders.map FolderManifestData.folderId) missing.unknownFolders

structure ExactUserComparison (mine theirs : UserManifestRequestPayload)
    (result : UserManifestComparisonResult) : Prop where
  localMissing : ExactUserDifferences theirs mine result.localMissing
  remoteMissing : ExactUserDifferences mine theirs result.remoteMissing
  resourcesRequiringSync : ∀ id, id ∈ result.resourcesRequiringSync ↔
    NeedsSync mine.resources theirs.resources id
  onlyLocalKnows : ∀ folderId recipientId,
    Tells FolderRecipientDiff.folderId FolderRecipientDiff.recipientsOnlyLocalKnows
        result.foldersRequiringRecipientSync folderId recipientId ↔
      folderId ∈ theirs.folders.map FolderManifestData.folderId ∧
        TellsRecipient mine.folders folderId recipientId ∧
          ¬TellsRecipient theirs.folders folderId recipientId
  onlyRemoteKnows : ∀ folderId recipientId,
    Tells FolderRecipientDiff.folderId FolderRecipientDiff.recipientsOnlyRemoteKnows
        result.foldersRequiringRecipientSync folderId recipientId ↔
      folderId ∈ mine.folders.map FolderManifestData.folderId ∧
        TellsRecipient theirs.folders folderId recipientId ∧
          ¬TellsRecipient mine.folders folderId recipientId

def SameRecipientDiff (left right : FolderRecipientDiff) : Prop :=
  left.folderId = right.folderId ∧
    SameIds left.recipientsOnlyLocalKnows right.recipientsOnlyLocalKnows ∧
    SameIds left.recipientsOnlyRemoteKnows right.recipientsOnlyRemoteKnows

structure SameUserDifferences (left right : UserManifestDifferences) : Prop where
  users : SameIds left.unknownUsers right.unknownUsers
  devices : SameEntries SameDevices left.unknownDevicesFromCommonUsers
    right.unknownDevicesFromCommonUsers
  resources : SameIds left.unknownResources right.unknownResources
  folders : SameIds left.unknownFolders right.unknownFolders

structure SameUserComparison (left right : UserManifestComparisonResult) : Prop where
  localMissing : SameUserDifferences left.localMissing right.localMissing
  remoteMissing : SameUserDifferences left.remoteMissing right.remoteMissing
  resourcesRequiringSync :
    SameIds left.resourcesRequiringSync right.resourcesRequiringSync
  foldersRequiringRecipientSync : SameEntries SameRecipientDiff
    left.foldersRequiringRecipientSync right.foldersRequiringRecipientSync

structure UsersReconciled (mine theirs : UserManifestRequestPayload)
    (result : UserManifestComparisonResult) : Prop where
  users : SameIds
    (mine.users.map UserWithDeviceIds.userId ++ result.localMissing.unknownUsers)
    (theirs.users.map UserWithDeviceIds.userId ++ result.remoteMissing.unknownUsers)
  devices : DevicesReconciled mine.users theirs.users
    result.localMissing.unknownUsers result.remoteMissing.unknownUsers
    result.localMissing.unknownDevicesFromCommonUsers
    result.remoteMissing.unknownDevicesFromCommonUsers
  resources : SameIds
    (mine.resources.map ResourceManifestData.resourceId ++
      result.localMissing.unknownResources)
    (theirs.resources.map ResourceManifestData.resourceId ++
      result.remoteMissing.unknownResources)
  folders : SameIds
    (mine.folders.map FolderManifestData.folderId ++
      result.localMissing.unknownFolders)
    (theirs.folders.map FolderManifestData.folderId ++
      result.remoteMissing.unknownFolders)
  recipients : ∀ folderId recipientId,
    (TellsRecipient mine.folders folderId recipientId ∨
      Tells FolderRecipientDiff.folderId FolderRecipientDiff.recipientsOnlyRemoteKnows
        result.foldersRequiringRecipientSync folderId recipientId ∨
      folderId ∈ result.localMissing.unknownFolders ∧
        TellsRecipient theirs.folders folderId recipientId) ↔
    (TellsRecipient theirs.folders folderId recipientId ∨
      Tells FolderRecipientDiff.folderId FolderRecipientDiff.recipientsOnlyLocalKnows
        result.foldersRequiringRecipientSync folderId recipientId ∨
      folderId ∈ result.remoteMissing.unknownFolders ∧
        TellsRecipient mine.folders folderId recipientId)

section UserManifests

variable {mine theirs : UserManifestRequestPayload}
variable (hmine : UniqueUserManifest mine) (htheirs : UniqueUserManifest theirs)

include hmine htheirs

theorem compareUserManifests_exact :
    ExactUserComparison mine theirs (compareUserManifests mine theirs) := by
  refine ⟨⟨onlyIn_setDifference _ _, fun _ _ => ?_, onlyIn_setDifference _ _,
    onlyIn_setDifference _ _⟩, ⟨onlyIn_setDifference _ _, fun _ _ => ?_,
    onlyIn_setDifference _ _, onlyIn_setDifference _ _⟩, fun _ => ?_, fun _ _ => ?_,
    fun _ _ => ?_⟩
  · exact tells_devicesOnlyIn_iff htheirs.users hmine.users fun _ =>
      mem_setIntersection.trans and_comm
  · exact tells_devicesOnlyIn_iff hmine.users htheirs.users fun _ =>
      mem_setIntersection
  · exact mem_resourcesRequiringSync_iff hmine.resources htheirs.resources hmine.clocks
      fun _ => mem_setIntersection
  · exact tells_onlyLocalKnows_iff hmine.folders htheirs.folders fun _ =>
      mem_setIntersection
  · exact (tells_onlyRemoteKnows_iff hmine.folders htheirs.folders).trans
      (tells_onlyLocalKnows_iff htheirs.folders hmine.folders fun _ =>
        mem_setIntersection.trans and_comm)

end UserManifests

theorem ExactUserComparison.reconciles {mine theirs : UserManifestRequestPayload}
    {result : UserManifestComparisonResult}
    (hexact : ExactUserComparison mine theirs result) :
    UsersReconciled mine theirs result where
  users := hexact.localMissing.users.reconciles hexact.remoteMissing.users
  devices := DevicesOnlyIn.reconciles hexact.localMissing.users
    hexact.remoteMissing.users hexact.localMissing.devices
    hexact.remoteMissing.devices
  resources := hexact.localMissing.resources.reconciles hexact.remoteMissing.resources
  folders := hexact.localMissing.folders.reconciles hexact.remoteMissing.folders
  recipients folderId recipientId := by
    have hmine : TellsRecipient mine.folders folderId recipientId →
        folderId ∈ mine.folders.map FolderManifestData.folderId := Tells.mem_map
    have htheirs : TellsRecipient theirs.folders folderId recipientId →
        folderId ∈ theirs.folders.map FolderManifestData.folderId := Tells.mem_map
    rw [hexact.onlyLocalKnows, hexact.onlyRemoteKnows, hexact.localMissing.folders,
      hexact.remoteMissing.folders]
    tauto

theorem filterMap_mem_congr {Entry : Type} {left right : List String}
    (hsame : SameIds left right) (select : String → Option Entry) (entry : Entry) :
    entry ∈ left.filterMap select ↔ entry ∈ right.filterMap select := by
  simp only [List.mem_filterMap, hsame _]

theorem setIntersection_comm (left right : List String) :
    SameIds (setIntersection left right) (setIntersection right left) :=
  fun _ => by rw [mem_setIntersection, mem_setIntersection, and_comm]

theorem mem_recipientDiffs_inverse (hlocal : (localFolders.map FolderManifestData.folderId).Nodup)
    (hremote : (remoteFolders.map FolderManifestData.folderId).Nodup) {left right : List String}
    (hsame : SameIds left right) (diff : FolderRecipientDiff) :
    diff ∈ left.filterMap (folderRecipientDiff localFolders remoteFolders) ↔
      diff ∈ (right.filterMap (folderRecipientDiff remoteFolders localFolders)).map
        FolderRecipientDiff.inverse := by
  rw [List.mem_map]
  constructor
  · intro hdiff
    obtain ⟨id, hid, hsome⟩ := List.mem_filterMap.mp hdiff
    exact ⟨diff.inverse, List.mem_filterMap.mpr ⟨id, (hsame id).mp hid,
      folderRecipientDiff_swap hlocal hremote hsome⟩, rfl⟩
  · rintro ⟨other, hother, rfl⟩
    obtain ⟨id, hid, hsome⟩ := List.mem_filterMap.mp hother
    exact List.mem_filterMap.mpr ⟨id, (hsame id).mpr hid,
      folderRecipientDiff_swap hremote hlocal hsome⟩

theorem compareUserManifests_inverse {mine theirs : UserManifestRequestPayload}
    (hmine : UniqueUserManifest mine) (htheirs : UniqueUserManifest theirs) :
    SameUserComparison (compareUserManifests theirs mine)
      (compareUserManifests mine theirs).inverse := by
  have hdevices : ∀ entry : UserWithDeviceIds, SameDevices entry entry :=
    fun _ => ⟨rfl, .refl _⟩
  refine ⟨⟨.refl _, ?_, .refl _, .refl _⟩, ⟨.refl _, ?_, .refl _, .refl _⟩, fun id => ?_,
    ?_⟩
  · exact .of_mem hdevices (filterMap_mem_congr (setIntersection_comm _ _) _)
  · exact .of_mem hdevices (filterMap_mem_congr (setIntersection_comm _ _) _)
  · have hthere := (compareUserManifests_exact htheirs hmine).resourcesRequiringSync id
    have hhere := (compareUserManifests_exact hmine htheirs).resourcesRequiringSync id
    exact hthere.trans (Iff.trans ⟨NeedsSync.symm, NeedsSync.symm⟩ hhere.symm)
  · exact .of_mem (fun _ => ⟨rfl, .refl _, .refl _⟩)
      (mem_recipientDiffs_inverse htheirs.folders hmine.folders (setIntersection_comm _ _))

structure UniqueDeviceManifest (payload : DeviceManifestRequestPayload) : Prop where
  users : (payload.otherUsers.map UserWithDeviceIds.userId).Nodup
  resources : (payload.resources.map ResourceManifestData.resourceId).Nodup
  clocks : ∀ resource ∈ payload.resources,
    ResourceVectorClock.DistinctDevices resource.vectorClocks

structure ExactDeviceDifferences (theirs mine : DeviceManifestRequestPayload)
    (missing : DeviceManifestDifferences) : Prop where
  users : OnlyIn (theirs.otherUsers.map UserWithDeviceIds.userId)
    (mine.otherUsers.map UserWithDeviceIds.userId) missing.unknownUsers
  devices : DevicesOnlyIn theirs.otherUsers mine.otherUsers
    missing.unknownDevicesFromCommonUsers
  ownDevices : OnlyIn theirs.knownDeviceIds mine.knownDeviceIds
    missing.unknownDevicesFromCurrentUser
  resources : OnlyIn (theirs.resources.map ResourceManifestData.resourceId)
    (mine.resources.map ResourceManifestData.resourceId) missing.unknownResources
  folders : OnlyIn theirs.folderIds mine.folderIds missing.unknownFolders

structure ExactDeviceComparison (mine theirs : DeviceManifestRequestPayload)
    (result : DeviceManifestComparisonResult) : Prop where
  localMissing : ExactDeviceDifferences theirs mine result.localMissing
  remoteMissing : ExactDeviceDifferences mine theirs result.remoteMissing
  resourcesRequiringSync : ∀ id, id ∈ result.resourcesRequiringSync ↔
    NeedsSync mine.resources theirs.resources id

structure SameDeviceDifferences (left right : DeviceManifestDifferences) : Prop where
  users : SameIds left.unknownUsers right.unknownUsers
  devices : SameEntries SameDevices left.unknownDevicesFromCommonUsers
    right.unknownDevicesFromCommonUsers
  ownDevices : SameIds left.unknownDevicesFromCurrentUser
    right.unknownDevicesFromCurrentUser
  resources : SameIds left.unknownResources right.unknownResources
  folders : SameIds left.unknownFolders right.unknownFolders

structure SameDeviceComparison (left right : DeviceManifestComparisonResult) : Prop where
  localMissing : SameDeviceDifferences left.localMissing right.localMissing
  remoteMissing : SameDeviceDifferences left.remoteMissing right.remoteMissing
  resourcesRequiringSync :
    SameIds left.resourcesRequiringSync right.resourcesRequiringSync

structure DevicesOfUserReconciled (mine theirs : DeviceManifestRequestPayload)
    (result : DeviceManifestComparisonResult) : Prop where
  users : SameIds
    (mine.otherUsers.map UserWithDeviceIds.userId ++ result.localMissing.unknownUsers)
    (theirs.otherUsers.map UserWithDeviceIds.userId ++ result.remoteMissing.unknownUsers)
  devices : DevicesReconciled mine.otherUsers theirs.otherUsers
    result.localMissing.unknownUsers result.remoteMissing.unknownUsers
    result.localMissing.unknownDevicesFromCommonUsers
    result.remoteMissing.unknownDevicesFromCommonUsers
  ownDevices : SameIds
    (mine.knownDeviceIds ++ result.localMissing.unknownDevicesFromCurrentUser)
    (theirs.knownDeviceIds ++ result.remoteMissing.unknownDevicesFromCurrentUser)
  resources : SameIds
    (mine.resources.map ResourceManifestData.resourceId ++
      result.localMissing.unknownResources)
    (theirs.resources.map ResourceManifestData.resourceId ++
      result.remoteMissing.unknownResources)
  folders : SameIds (mine.folderIds ++ result.localMissing.unknownFolders)
    (theirs.folderIds ++ result.remoteMissing.unknownFolders)

theorem compareDeviceManifests_exact (hmine : UniqueDeviceManifest mine)
    (htheirs : UniqueDeviceManifest theirs) :
    ExactDeviceComparison mine theirs (compareDeviceManifests mine theirs) := by
  refine ⟨⟨onlyIn_setDifference _ _, fun _ _ => ?_, onlyIn_setDifference _ _,
    onlyIn_setDifference _ _, onlyIn_setDifference _ _⟩, ⟨onlyIn_setDifference _ _,
    fun _ _ => ?_, onlyIn_setDifference _ _, onlyIn_setDifference _ _,
    onlyIn_setDifference _ _⟩, fun _ => ?_⟩
  · exact tells_devicesOnlyIn_iff htheirs.users hmine.users fun _ =>
      mem_setIntersection.trans and_comm
  · exact tells_devicesOnlyIn_iff hmine.users htheirs.users fun _ =>
      mem_setIntersection
  · exact mem_resourcesRequiringSync_iff hmine.resources htheirs.resources hmine.clocks
      fun _ => mem_setIntersection

theorem ExactDeviceComparison.reconciles {result : DeviceManifestComparisonResult}
    (hexact : ExactDeviceComparison mine theirs result) :
    DevicesOfUserReconciled mine theirs result where
  users := hexact.localMissing.users.reconciles hexact.remoteMissing.users
  devices := DevicesOnlyIn.reconciles hexact.localMissing.users
    hexact.remoteMissing.users hexact.localMissing.devices
    hexact.remoteMissing.devices
  ownDevices := hexact.localMissing.ownDevices.reconciles hexact.remoteMissing.ownDevices
  resources := hexact.localMissing.resources.reconciles hexact.remoteMissing.resources
  folders := hexact.localMissing.folders.reconciles hexact.remoteMissing.folders

theorem compareDeviceManifests_inverse (hmine : UniqueDeviceManifest mine)
    (htheirs : UniqueDeviceManifest theirs) :
    SameDeviceComparison (compareDeviceManifests theirs mine)
      (compareDeviceManifests mine theirs).inverse := by
  have hdevices : ∀ entry : UserWithDeviceIds, SameDevices entry entry :=
    fun _ => ⟨rfl, .refl _⟩
  refine ⟨⟨.refl _, ?_, .refl _, .refl _, .refl _⟩,
    ⟨.refl _, ?_, .refl _, .refl _, .refl _⟩, fun id => ?_⟩
  · exact .of_mem hdevices (filterMap_mem_congr (setIntersection_comm _ _) _)
  · exact .of_mem hdevices (filterMap_mem_congr (setIntersection_comm _ _) _)
  · have hthere := (compareDeviceManifests_exact htheirs hmine).resourcesRequiringSync id
    have hhere := (compareDeviceManifests_exact hmine htheirs).resourcesRequiringSync id
    exact hthere.trans (Iff.trans ⟨NeedsSync.symm, NeedsSync.symm⟩ hhere.symm)

/-- Both kinds of comparison are exact, the other end's comparison is the
inverse of this one's, and adding what is missing makes both ends equal. -/
theorem manifest_comparison_exact_antisymmetric :
    (∀ mine theirs : UserManifestRequestPayload, UniqueUserManifest mine →
      UniqueUserManifest theirs →
        ExactUserComparison mine theirs (compareUserManifests mine theirs) ∧
        SameUserComparison (compareUserManifests theirs mine)
          (compareUserManifests mine theirs).inverse ∧
        UsersReconciled mine theirs (compareUserManifests mine theirs)) ∧
    ∀ mine theirs : DeviceManifestRequestPayload, UniqueDeviceManifest mine →
      UniqueDeviceManifest theirs →
        ExactDeviceComparison mine theirs (compareDeviceManifests mine theirs) ∧
        SameDeviceComparison (compareDeviceManifests theirs mine)
          (compareDeviceManifests mine theirs).inverse ∧
        DevicesOfUserReconciled mine theirs (compareDeviceManifests mine theirs) := by
  constructor
  · intro mine theirs hmine htheirs
    have hexact := compareUserManifests_exact hmine htheirs
    exact ⟨hexact, compareUserManifests_inverse hmine htheirs, hexact.reconciles⟩
  · intro mine theirs hmine htheirs
    have hexact := compareDeviceManifests_exact hmine htheirs
    exact ⟨hexact, compareDeviceManifests_inverse hmine htheirs, hexact.reconciles⟩

def ownerManifest : UserManifestRequestPayload :=
  { users := [⟨"P", ["dev-P"]⟩, ⟨"R", ["dev-R", "phone-R"]⟩]
    resources := [⟨"a", ["share"], [.new "c" 0 "a" "dev-R" 2]⟩]
    folders := [⟨"folder", ["P"]⟩] }

def peerManifest : UserManifestRequestPayload :=
  { users := [⟨"Q", ["dev-Q"]⟩, ⟨"R", ["dev-R"]⟩, ⟨"P", ["dev-P"]⟩]
    resources := [⟨"b", [], []⟩, ⟨"a", ["share"], [.new "c" 0 "a" "dev-R" 1]⟩]
    folders := [⟨"folder", ["Q", "P"]⟩] }

theorem ownerManifest_unique : UniqueUserManifest ownerManifest where
  users := by decide
  resources := by decide
  folders := by decide
  clocks resource hresource := by
    obtain rfl := List.mem_singleton.mp hresource
    exact ⟨by decide⟩

theorem peerManifest_unique : UniqueUserManifest peerManifest where
  users := by decide
  resources := by decide
  folders := by decide
  clocks resource hresource := by
    rcases List.mem_pair.mp hresource with rfl | rfl
    · exact ⟨by decide⟩
    · exact ⟨by decide⟩

theorem manifest_comparison_exact_antisymmetric_owner_peer :
    ExactUserComparison ownerManifest peerManifest
        (compareUserManifests ownerManifest peerManifest) ∧
      SameUserComparison (compareUserManifests peerManifest ownerManifest)
        (compareUserManifests ownerManifest peerManifest).inverse ∧
      UsersReconciled ownerManifest peerManifest
        (compareUserManifests ownerManifest peerManifest) :=
  manifest_comparison_exact_antisymmetric.1 ownerManifest peerManifest
    ownerManifest_unique peerManifest_unique

end Osvauld.Services
