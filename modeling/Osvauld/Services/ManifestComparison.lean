import Mathlib.Data.List.Dedup
import Osvauld.Core.Sync

namespace Osvauld.Services

open Osvauld.Core Data Core.ResourceVectorClock

/-! The comparisons of `sync_service`. Sets of ids are lists without
repetition; the source leaves the order of their elements open. -/

structure SetComparison where
  onlyLocal : List String
  onlyRemote : List String
  common : List String

def setDifference (left right : List String) : List String :=
  (left.filter fun id => id ∉ right).dedup

def setIntersection (left right : List String) : List String :=
  (left.filter fun id => id ∈ right).dedup

@[simp] theorem mem_setDifference {left right : List String} {id : String} :
    id ∈ setDifference left right ↔ id ∈ left ∧ id ∉ right := by
  simp [setDifference]

@[simp] theorem mem_setIntersection {left right : List String} {id : String} :
    id ∈ setIntersection left right ↔ id ∈ left ∧ id ∈ right := by
  simp [setIntersection]

def compareSets (localSet remoteSet : List String) : SetComparison :=
  { onlyLocal := setDifference localSet remoteSet
    onlyRemote := setDifference remoteSet localSet
    common := setIntersection localSet remoteSet }

def lastWith? {Entry : Type} (key : Entry → String) (entries : List Entry)
    (id : String) : Option Entry :=
  entries.reverse.find? fun entry => key entry = id

theorem lastWith?_mem {Entry : Type} {key : Entry → String}
    {entries : List Entry} {id : String} {entry : Entry}
    (hlast : lastWith? key entries id = some entry) :
    entry ∈ entries ∧ key entry = id := by
  refine ⟨?_, by simpa using List.find?_some hlast⟩
  exact List.mem_reverse.mp (List.mem_of_find?_eq_some hlast)

def devicesOnlyIn (entries others : List UserWithDeviceIds) (userId : String) :
    Option UserWithDeviceIds := do
  let entry ← lastWith? (fun user => user.userId) entries userId
  let other ← lastWith? (fun user => user.userId) others userId
  let deviceIds := setDifference entry.deviceIds other.deviceIds
  if deviceIds.isEmpty then none else some { userId, deviceIds }

def compareDevicesForCommonUsers
    (localPayload remotePayload : List UserWithDeviceIds)
    (commonUserIds : List String) :
    List UserWithDeviceIds × List UserWithDeviceIds :=
  (commonUserIds.filterMap (devicesOnlyIn localPayload remotePayload),
    commonUserIds.filterMap (devicesOnlyIn remotePayload localPayload))

def compareShareRecords (localShareRecords remoteShareRecords : List String) :
    Bool :=
  !(localShareRecords.all fun id => id ∈ remoteShareRecords) ||
    !(remoteShareRecords.all fun id => id ∈ localShareRecords)

def missingClock (clocks others : List ResourceVectorClock) : Bool :=
  clocks.any fun clock =>
    !others.any fun other => other.deviceId = clock.deviceId

def clockMismatch (localVectorClocks remoteVectorClocks :
    List ResourceVectorClock) : Bool :=
  localVectorClocks.any fun localClock =>
    match remoteVectorClocks.find? fun remote =>
        remote.deviceId = localClock.deviceId with
    | some remoteClock => localClock.clockValue != remoteClock.clockValue
    | none => false

def vectorClocksNeedUpdate (localVectorClocks remoteVectorClocks :
    List ResourceVectorClock) : Bool :=
  if missingClock localVectorClocks remoteVectorClocks then true
  else if missingClock remoteVectorClocks localVectorClocks then true
  else clockMismatch localVectorClocks remoteVectorClocks

def resourceNeedsUpdate (localResources remoteResources :
    List ResourceManifestData) (resourceId : String) : Bool :=
  match lastWith? (fun resource => resource.resourceId) localResources
        resourceId,
      lastWith? (fun resource => resource.resourceId) remoteResources
        resourceId with
  | some localResource, some remoteResource =>
      compareShareRecords localResource.shareRecordIds
          remoteResource.shareRecordIds ||
        vectorClocksNeedUpdate localResource.vectorClocks
          remoteResource.vectorClocks
  | _, _ => false

def compareResourcesForCommonResources (localResources remoteResources :
    List ResourceManifestData) (commonResourceIds : List String) :
    List String :=
  commonResourceIds.filter (resourceNeedsUpdate localResources remoteResources)

def processUserGaps (localPayload remotePayload : UserManifestRequestPayload) :
    UserComparisonResult :=
  let localUserIds := localPayload.users.map fun user => user.userId
  let remoteUserIds := remotePayload.users.map fun user => user.userId
  let commonUsers := setIntersection localUserIds remoteUserIds
  let devices := compareDevicesForCommonUsers localPayload.users
    remotePayload.users commonUsers
  { usersOnlyLocalHas := setDifference localUserIds remoteUserIds
    usersOnlyRemoteHas := setDifference remoteUserIds localUserIds
    commonUsers
    devicesFromCommonUsersOnlyLocalHas := devices.1
    devicesFromCommonUsersOnlyRemoteHas := devices.2 }

def processResourceGaps
    (localPayload remotePayload : UserManifestRequestPayload) :
    ResourceComparisonResult :=
  let localResourceIds :=
    localPayload.resources.map fun resource => resource.resourceId
  let remoteResourceIds :=
    remotePayload.resources.map fun resource => resource.resourceId
  let commonResources := setIntersection localResourceIds remoteResourceIds
  { resourcesOnlyLocalHas := setDifference localResourceIds remoteResourceIds
    resourcesOnlyRemoteHas := setDifference remoteResourceIds localResourceIds
    commonResources
    resourcesRequiringSync := compareResourcesForCommonResources
      localPayload.resources remotePayload.resources commonResources }

def folderRecipientDiff (localFolders remoteFolders : List FolderManifestData)
    (folderId : String) : Option FolderRecipientDiff := do
  let localFolder ← lastWith? (fun folder => folder.folderId) localFolders
    folderId
  let remoteFolder ← lastWith? (fun folder => folder.folderId) remoteFolders
    folderId
  let recipientsOnlyLocalKnows :=
    setDifference localFolder.recipientUserIds remoteFolder.recipientUserIds
  let recipientsOnlyRemoteKnows :=
    setDifference remoteFolder.recipientUserIds localFolder.recipientUserIds
  if recipientsOnlyLocalKnows.isEmpty && recipientsOnlyRemoteKnows.isEmpty then
    none
  else
    some { folderId, recipientsOnlyLocalKnows, recipientsOnlyRemoteKnows }

def processFolderGaps (localFolders remoteFolders : List FolderManifestData) :
    FolderComparisonResult :=
  let localFolderIds := localFolders.map fun folder => folder.folderId
  let remoteFolderIds := remoteFolders.map fun folder => folder.folderId
  { foldersOnlyLocalHas := setDifference localFolderIds remoteFolderIds
    foldersOnlyRemoteHas := setDifference remoteFolderIds localFolderIds
    foldersWithRecipientDifferences :=
      (setIntersection localFolderIds remoteFolderIds).filterMap
        (folderRecipientDiff localFolders remoteFolders) }

def compareUserManifests
    (localPayload remotePayload : UserManifestRequestPayload) :
    UserManifestComparisonResult :=
  let userGaps := processUserGaps localPayload remotePayload
  let resourceGaps := processResourceGaps localPayload remotePayload
  let folderGaps := processFolderGaps localPayload.folders remotePayload.folders
  { localMissing :=
      { unknownUsers := userGaps.usersOnlyRemoteHas
        unknownDevicesFromCommonUsers :=
          userGaps.devicesFromCommonUsersOnlyRemoteHas
        unknownResources := resourceGaps.resourcesOnlyRemoteHas
        unknownFolders := folderGaps.foldersOnlyRemoteHas }
    remoteMissing :=
      { unknownUsers := userGaps.usersOnlyLocalHas
        unknownDevicesFromCommonUsers :=
          userGaps.devicesFromCommonUsersOnlyLocalHas
        unknownResources := resourceGaps.resourcesOnlyLocalHas
        unknownFolders := folderGaps.foldersOnlyLocalHas }
    resourcesRequiringSync := resourceGaps.resourcesRequiringSync
    foldersRequiringRecipientSync :=
      folderGaps.foldersWithRecipientDifferences }

def compareDeviceManifests
    (localPayload remotePayload : DeviceManifestRequestPayload) :
    DeviceManifestComparisonResult :=
  let users := compareSets (localPayload.otherUsers.map fun user => user.userId)
    (remotePayload.otherUsers.map fun user => user.userId)
  let devices := compareSets localPayload.knownDeviceIds
    remotePayload.knownDeviceIds
  let resources := compareSets
    (localPayload.resources.map fun resource => resource.resourceId)
    (remotePayload.resources.map fun resource => resource.resourceId)
  let folders := compareSets localPayload.folderIds remotePayload.folderIds
  let commonDevices := compareDevicesForCommonUsers localPayload.otherUsers
    remotePayload.otherUsers users.common
  { localMissing :=
      { unknownUsers := users.onlyRemote
        unknownDevicesFromCommonUsers := commonDevices.2
        unknownDevicesFromCurrentUser := devices.onlyRemote
        unknownResources := resources.onlyRemote
        unknownFolders := folders.onlyRemote }
    remoteMissing :=
      { unknownUsers := users.onlyLocal
        unknownDevicesFromCommonUsers := commonDevices.1
        unknownDevicesFromCurrentUser := devices.onlyLocal
        unknownResources := resources.onlyLocal
        unknownFolders := folders.onlyLocal }
    resourcesRequiringSync := compareResourcesForCommonResources
      localPayload.resources remotePayload.resources resources.common }

theorem missingClock_eq_true_iff {clocks others : List ResourceVectorClock} :
    missingClock clocks others = true ↔
      ∃ clock ∈ clocks, clockOf? others clock.deviceId = none := by
  simp [missingClock, clockOf?, KeyedMaximum.valueAt?]

section

variable {localVectorClocks remoteVectorClocks : List ResourceVectorClock}

theorem clockMismatch_eq_true_iff :
    clockMismatch localVectorClocks remoteVectorClocks = true ↔
      ∃ clock ∈ localVectorClocks, ∃ value,
        clockOf? remoteVectorClocks clock.deviceId = some value ∧
          clock.clockValue ≠ value := by
  rw [clockMismatch, List.any_eq_true]
  refine exists_congr fun clock => and_congr_right fun _ => ?_
  cases hfind : remoteVectorClocks.find? fun remote =>
      decide (remote.deviceId = clock.deviceId) with
  | none => simp [clockOf?, KeyedMaximum.valueAt?, hfind]
  | some remote => simp [clockOf?, KeyedMaximum.valueAt?, hfind]

theorem vectorClocksNeedUpdate_iff (hlocal : DistinctDevices localVectorClocks) :
    vectorClocksNeedUpdate localVectorClocks remoteVectorClocks = true ↔
      ∃ device, clockOf? localVectorClocks device ≠
        clockOf? remoteVectorClocks device := by
  have hsplit : vectorClocksNeedUpdate localVectorClocks remoteVectorClocks =
      true ↔
        missingClock localVectorClocks remoteVectorClocks = true ∨
          missingClock remoteVectorClocks localVectorClocks = true ∨
            clockMismatch localVectorClocks remoteVectorClocks = true := by
    simp [vectorClocksNeedUpdate, or_iff_not_imp_left]
  rw [hsplit, missingClock_eq_true_iff, missingClock_eq_true_iff,
    clockMismatch_eq_true_iff]
  constructor
  · rintro (⟨clock, hclock, hnone⟩ | ⟨clock, hclock, hnone⟩ |
      ⟨clock, hclock, value, hvalue, hne⟩)
    · refine ⟨clock.deviceId, ?_⟩
      rw [hnone]
      exact fun h => KeyedMaximum.valueAt?_eq_none_iff _ _ |>.mp h clock hclock rfl
    · refine ⟨clock.deviceId, ?_⟩
      rw [hnone]
      exact fun h =>
        KeyedMaximum.valueAt?_eq_none_iff _ _ |>.mp h.symm clock hclock rfl
    · refine ⟨clock.deviceId, ?_⟩
      rw [clockOf?, KeyedMaximum.valueAt?_of_mem _ _ hlocal.nodup hclock, hvalue]
      exact fun h => hne (Option.some.inj h)
  · rintro ⟨device, hne⟩
    cases hheld : clockOf? localVectorClocks device with
    | none =>
        cases hother : clockOf? remoteVectorClocks device with
        | none => exact absurd (hheld.trans hother.symm) hne
        | some value =>
            obtain ⟨clock, hclock, rfl, _⟩ :=
              KeyedMaximum.mem_of_valueAt? _ _ hother
            exact .inr (.inl ⟨clock, hclock, hheld⟩)
    | some held =>
        obtain ⟨clock, hclock, rfl, rfl⟩ := KeyedMaximum.mem_of_valueAt? _ _ hheld
        cases hother : clockOf? remoteVectorClocks clock.deviceId with
        | none => exact .inl ⟨clock, hclock, hother⟩
        | some value =>
            refine .inr (.inr ⟨clock, hclock, value, hother, ?_⟩)
            rw [hheld, hother] at hne
            exact fun h => hne (congrArg some h)

end

theorem merge_unchanged_iff {localEntries remoteEntries}
    (hlocal : DistinctDevices localEntries)
    (hremote : DistinctDevices remoteEntries) :
    ((merge localEntries remoteEntries).localNeedsUpdate = false ∧
      (merge localEntries remoteEntries).remoteNeedsUpdate = false) ↔
        ∀ device, clockOf? localEntries device =
          clockOf? remoteEntries device := by
  rw [← Bool.not_eq_true, ← Bool.not_eq_true, merge_localNeedsUpdate_iff,
    merge_remoteNeedsUpdate_iff, not_not, not_not,
    (merge_raises_local localEntries hremote).nil_iff,
    (merge_raises_remote hlocal hremote).nil_iff]
  constructor
  · rintro ⟨hforward, hbackward⟩ device
    exact hforward.antisymm hbackward device
  · intro heq
    exact ⟨KeyedMaximum.dominates_of_eq heq,
      KeyedMaximum.dominates_of_eq fun device => (heq device).symm⟩

theorem applyChanges_distinctDevices {entries other updates additions}
    (hentries : DistinctDevices entries)
    (hraises : KeyedMaximum.Raises deviceId clockValue entries other updates
      additions) :
    DistinctDevices (applyChanges entries updates additions) :=
  ⟨hraises.nodup setClock_overwrites hentries.nodup⟩

theorem merge_eq_empty {localEntries remoteEntries}
    (hflags : (merge localEntries remoteEntries).localNeedsUpdate = false ∧
      (merge localEntries remoteEntries).remoteNeedsUpdate = false) :
    merge localEntries remoteEntries = {} := by
  have hlocal := mt (merge_localNeedsUpdate_iff localEntries remoteEntries).mpr
    (by rw [hflags.1]; exact Bool.false_ne_true)
  have hremote := mt (merge_remoteNeedsUpdate_iff localEntries remoteEntries).mpr
    (by rw [hflags.2]; exact Bool.false_ne_true)
  obtain ⟨hupdateLocal, haddLocal⟩ := not_not.mp hlocal
  obtain ⟨hupdateRemote, haddRemote⟩ := not_not.mp hremote
  obtain ⟨hlocalFlag, hremoteFlag⟩ := hflags
  generalize merge localEntries remoteEntries = result at *
  cases result
  simp_all

end Osvauld.Services
